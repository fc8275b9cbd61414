import Mathlib
import StaticSite.Markdown.EventStream
import StaticSite.Proofs.Markdown.Nesting

/-!
# Forests of tokens

The tokens of a document are a forest written down: every construct that opens is closed by its own
name. Read token by token with a stack of open tags, such tokens give the events of a forest again,
the one that a recursion over the tokens' forest gives.

## What this module delivers

- `InlineNode`, `BlockNode`: forests of tokens, with `inlineTokens` and `forestTokens` writing them
  down.
- `runTrees`, `forestTrees`: the events' forest of a tokens' forest, by recursion.
- `runEvents_inlineTokens`, `events_forestTokens`: the flat readers agree with the recursion.
- `eventsOfTokens_forestTokens`: the events of a document's tokens are its events' forest written
  down, if no head of a table is inside another one.
- `eventsOfTokens_nested_heads`: inside one another the heads of tables do not keep their rows apart.
-/

set_option autoImplicit false

namespace StaticSite.Markdown

open StaticSite.Number

/-! ## Inline content -/

/-- The name under which a span closes. -/
def Span.name : Span → SpanName
  | .emphasis => .emphasis
  | .strong => .strong
  | .strikethrough => .strikethrough
  | .link .. => .link

/-- A span with what it encloses, an image with what stands for it, or a token that encloses
nothing. -/
inductive InlineNode where
  | text (content : String)
  | special (content : String)
  | softBreak
  | hardBreak
  | code (content : String)
  | html (content : String)
  | noteReference (key : NoteKey)
  | span (span : Span) (children : List InlineNode)
  | image (dest title : Scalar) (children : List InlineNode)

mutual

/-- An inline node written down. -/
def InlineNode.tokens : InlineNode → List InlineToken
  | .text content => [.text content]
  | .special content => [.special content]
  | .softBreak => [.softBreak]
  | .hardBreak => [.hardBreak]
  | .code content => [.code content]
  | .html content => [.html content]
  | .noteReference key => [.noteReference key]
  | .span span children => .opening span :: (inlineTokens children ++ [.closing span.name])
  | .image dest title children => [.image dest title (inlineTokens children)]

/-- A run of inline nodes written down. -/
def inlineTokens : List InlineNode → List InlineToken
  | [] => []
  | node :: rest => node.tokens ++ inlineTokens rest

end

/-- The leaf of a text, and none of an empty one. -/
def textTrees (content : String) : List EventTree :=
  if content.isEmpty then [] else [.leaf (.text content)]

mutual

/-- The event trees of an inline node. -/
def InlineNode.trees : InlineNode → Except NumberError (List EventTree)
  | .text content => pure (textTrees content)
  | .special content => pure (textTrees content)
  | .softBreak => pure [.leaf .softBreak]
  | .hardBreak => pure [.leaf .hardBreak]
  | .code content => pure [.leaf (.code content)]
  | .html content => pure [.leaf (.html content)]
  | .noteReference key => do
    let label ← key.name
    pure [.leaf (.footnoteReference label)]
  | .span span children => do
    let inner ← runTrees children
    pure [.node span.tag inner]
  | .image dest title children => do
    let inner ← runTrees children
    pure [.node (.image dest.textOrEmpty title.textOrEmpty) inner]

/-- The event trees of a run of inline nodes. -/
def runTrees : List InlineNode → Except NumberError (List EventTree)
  | [] => pure []
  | node :: rest => do
    let trees ← node.trees
    let others ← runTrees rest
    pure (trees ++ others)

end

/-- The leaves of a text at the front of a list item: a box is a task marker. -/
def taskTrees (content : String) : List EventTree :=
  match taskMarker? content.toList with
  | some (checked, rest) => .leaf (.taskMarker checked) :: textTrees (String.ofList rest)
  | none => textTrees content

/-- The event trees of a run, given whether it stands at the front of a list item. -/
def inlineTrees (frontOfItem : Bool) : List InlineNode → Except NumberError (List EventTree)
  | .text content :: rest =>
    if frontOfItem then do
      let others ← runTrees rest
      pure (taskTrees content ++ others)
    else runTrees (.text content :: rest)
  | .special content :: rest =>
    if frontOfItem then do
      let others ← runTrees rest
      pure (taskTrees content ++ others)
    else runTrees (.special content :: rest)
  | run => runTrees run

@[simp] theorem forestEvents_textTrees (content : String) :
    forestEvents (textTrees content) = if content.isEmpty then [] else [.text content] := by
  rw [textTrees]
  split <;> rfl

@[simp] theorem forestEvents_taskTrees (content : String) :
    forestEvents (taskTrees content) = taskTextEvents content := by
  rw [taskTrees, taskTextEvents]
  cases taskMarker? content.toList with
  | none => exact forestEvents_textTrees content
  | some marker =>
      obtain ⟨checked, rest⟩ := marker
      simp [Leaf.event, String.isEmpty_iff]

/-- What is written down of trees, with the events of what follows. -/
def followedBy (trees : Except NumberError (List EventTree))
    (rest : Except NumberError (List Event)) : Except NumberError (List Event) := do
  let trees ← trees
  let rest ← rest
  pure (forestEvents trees ++ rest)

section FollowedBy

variable (first second : Except NumberError (List EventTree))
  (rest : Except NumberError (List Event))

theorem followedBy_pure (trees : List EventTree) :
    followedBy (pure trees) rest = (forestEvents trees ++ ·) <$> rest := rfl

theorem followedBy_nil : followedBy (pure []) rest = rest := by
  cases rest <;> rfl

theorem followedBy_append :
    followedBy (do let trees ← first; let others ← second; pure (trees ++ others)) rest =
      followedBy first (followedBy second rest) := by
  cases first with
  | error error => rfl
  | ok trees =>
      cases second with
      | error error => rfl
      | ok others =>
          cases rest with
          | error error => rfl
          | ok events =>
              show Except.ok (forestEvents (trees ++ others) ++ events) = _
              rw [forestEvents_append, List.append_assoc]
              rfl

/-- A construct begins, what it encloses follows, and it ends. -/
theorem followedBy_node (tag : Tag) :
    followedBy (do let inner ← first; pure [.node tag inner]) rest =
      (Event.start tag :: ·) <$> followedBy first ((Event.stop tag :: ·) <$> rest) := by
  cases first with
  | error error => rfl
  | ok trees =>
      cases rest with
      | error error => rfl
      | ok events =>
          show Except.ok (forestEvents [.node tag trees] ++ events) =
            Except.ok (.start tag :: (forestEvents trees ++ .stop tag :: events))
          simp

end FollowedBy

/-- A token that opens or closes nothing adds its events. -/
theorem runEvents_cons_of_ok {stack stack' : List Tag} {token : InlineToken} {events : List Event}
    (h : token.events stack = .ok (events, stack')) (rest : List InlineToken) :
    runEvents stack (token :: rest) = (events ++ ·) <$> runEvents stack' rest := by
  rw [runEvents, h]
  rfl

mutual

/-- An inline node is read with the open tags as they were, whatever its nesting. -/
theorem runEvents_tokens (stack : List Tag) (rest : List InlineToken) :
    ∀ node : InlineNode, runEvents stack (node.tokens ++ rest) =
      followedBy node.trees (runEvents stack rest)
  | .text content => by
      rw [InlineNode.trees, followedBy_pure, forestEvents_textTrees]
      rfl
  | .special content => by
      rw [InlineNode.trees, followedBy_pure, forestEvents_textTrees]
      rfl
  | .softBreak => rfl
  | .hardBreak => rfl
  | .code content => rfl
  | .html content => rfl
  | .noteReference key => by
      show runEvents stack (.noteReference key :: rest) = _
      rw [runEvents, InlineToken.events, InlineNode.trees]
      cases key.name <;> rfl
  | .span span children => by
      have hinner := runEvents_inlineTokens (span.tag :: stack) (.closing span.name :: rest) children
      show runEvents stack (.opening span :: (inlineTokens children ++ [.closing span.name]) ++ rest) = _
      rw [List.cons_append, List.append_assoc, List.singleton_append, runEvents_cons_of_ok rfl, hinner,
        runEvents_cons_of_ok rfl, InlineNode.trees, followedBy_node]
      rfl
  | .image dest title children => by
      -- an image keeps its tokens to itself, so they are read with no tag open
      have hinner := runEvents_inlineTokens [] [] children
      rw [List.append_nil, runEvents] at hinner
      show runEvents stack (.image dest title (inlineTokens children) :: rest) = _
      rw [InlineNode.trees, followedBy_node]
      cases htrees : runTrees children with
      | error error =>
          rw [runEvents, InlineToken.events, hinner, htrees]
          rfl
      | ok trees =>
          have hevents : (InlineToken.image dest title (inlineTokens children)).events stack =
              .ok (.start (.image dest.textOrEmpty title.textOrEmpty) :: (forestEvents trees ++
                [.stop (.image dest.textOrEmpty title.textOrEmpty)]), stack) := by
            rw [InlineToken.events, hinner, htrees]
            show Except.ok (_ :: (forestEvents trees ++ []) ++ [_], stack) = _
            rw [List.append_nil]
            rfl
          rw [runEvents_cons_of_ok hevents]
          cases runEvents stack rest with
          | error error => rfl
          | ok events =>
              show Except.ok (_ :: (forestEvents trees ++ [_]) ++ events) =
                Except.ok (_ :: (forestEvents trees ++ _ :: events))
              simp

/-- A run of inline nodes is read with the open tags as they were. -/
theorem runEvents_inlineTokens (stack : List Tag) (rest : List InlineToken) :
    ∀ run : List InlineNode, runEvents stack (inlineTokens run ++ rest) =
      followedBy (runTrees run) (runEvents stack rest)
  | [] => (followedBy_nil _).symm
  | node :: run => by
      rw [inlineTokens, List.append_assoc, runEvents_tokens stack _ node,
        runEvents_inlineTokens stack rest run, runTrees, followedBy_append]

end

/-! ## Block structure -/

namespace Construct

/-- The name under which a construct closes. -/
def name : Construct → ConstructName
  | paragraph hidden => .paragraph hidden
  | heading _ => .heading
  | blockQuote => .blockQuote
  | bulletList => .bulletList
  | orderedList _ => .orderedList
  | item => .item
  | table => .table
  | tableHead => .tableHead
  | tableBody => .tableBody
  | tableRow => .tableRow
  | headCell _ => .headCell
  | cell => .cell
  | notes => .notes
  | note _ => .note
  | definition _ => .definition

/-- Whether the construct is the head of a table. -/
def isTableHead : Construct → Bool
  | tableHead => true
  | _ => false

/-- Whether a run right after the construct's opening stands at the front of a list item. -/
def fronts (frontOfItem : Bool) : Construct → Bool
  | item => true
  | paragraph _ => frontOfItem
  | _ => false

/-- The alignment that a header cell declares. -/
def alignments : Construct → List ColumnAlignment
  | headCell style => [ColumnAlignment.ofStyle style.textOrEmpty]
  | _ => []

/-- The tag of a construct, given whether it is inside the head of a table and the alignments of the
header cells that follow. Constructs without a tag only organise what they enclose. -/
def tag? (inTableHead : Bool) (following : List ColumnAlignment) :
    Construct → Except NumberError (Option Tag)
  | paragraph hidden => pure (if hidden then none else some .paragraph)
  | heading tag => do
    let level ← headingLevel tag
    pure (some (.heading level))
  | blockQuote => pure (some .blockQuote)
  | bulletList => pure (some (.list none))
  | orderedList first => do
    let first ← firstNumber first
    pure (some (.list (some first)))
  | item => pure (some .item)
  | table => pure (some (.table following))
  | tableHead => pure (some .tableHead)
  | tableBody => pure none
  | tableRow => pure (if inTableHead then none else some .tableRow)
  | headCell _ => pure (some .tableCell)
  | cell => pure (some .tableCell)
  | notes => pure none
  | note key => do
    let label ← key.name
    pure (some (.footnoteDefinition label))
  | definition _ => pure none

end Construct

/-- A block construct with what it encloses, a run of inline content, or a leaf. -/
inductive BlockNode where
  | construct (construct : Construct) (children : List BlockNode)
  | inline (run : List InlineNode)
  | fence (info content : String)
  | codeBlock (content : String)
  | rule
  | html (content : String)
  | noteAnchor

mutual

/-- A block node written down. -/
def BlockNode.tokens : BlockNode → List (Token (List InlineToken))
  | .construct construct children =>
    .opening construct :: (forestTokens children ++ [.closing construct.name])
  | .inline run => [.inline (inlineTokens run)]
  | .fence info content => [.fence info content]
  | .codeBlock content => [.codeBlock content]
  | .rule => [.rule]
  | .html content => [.html content]
  | .noteAnchor => [.noteAnchor]

/-- Block nodes written down one after the other. -/
def forestTokens : List BlockNode → List (Token (List InlineToken))
  | [] => []
  | node :: rest => node.tokens ++ forestTokens rest

end

mutual

/-- The alignments of the header cells from the front of a node to the end of the first table head,
given those from the end of the node on. -/
def BlockNode.alignments (later : List ColumnAlignment) : BlockNode → List ColumnAlignment
  | .construct construct children =>
    construct.alignments ++
      forestAlignments (if construct.isTableHead then [] else later) children
  | _ => later

/-- The alignments of the header cells from the front of some nodes to the end of the first table
head, given those from the end of the nodes on. -/
def forestAlignments (later : List ColumnAlignment) : List BlockNode → List ColumnAlignment
  | [] => later
  | node :: rest => node.alignments (forestAlignments later rest)

end

mutual

/-- The event trees of a block node. It is known whether the node is inside the head of a table,
whether it stands at the front of a list item, and which alignments header cells after it declare. -/
def BlockNode.trees (inTableHead frontOfItem : Bool) (later : List ColumnAlignment) :
    BlockNode → Except NumberError (List EventTree)
  | .construct construct children => do
    let within := if construct.isTableHead then [] else later
    let tag? ← construct.tag? inTableHead (forestAlignments within children)
    let inner ← forestTrees (inTableHead || construct.isTableHead) (construct.fronts frontOfItem)
      within children
    pure (match tag? with
      | some tag => [.node tag inner]
      | none => inner)
  | .inline run => inlineTrees frontOfItem run
  | .fence info content =>
    pure [.node (.codeBlock (some (StaticSite.Text.strip info))) (textTrees content)]
  | .codeBlock content => pure [.node (.codeBlock none) (textTrees content)]
  | .rule => pure [.leaf .rule]
  | .html content => pure [.leaf (.html content)]
  | .noteAnchor => pure []

/-- The event trees of block nodes one after the other. Only the first can stand at the front of a
list item. -/
def forestTrees (inTableHead frontOfItem : Bool) (later : List ColumnAlignment) :
    List BlockNode → Except NumberError (List EventTree)
  | [] => pure []
  | node :: rest => do
    let trees ← node.trees inTableHead frontOfItem (forestAlignments later rest)
    let others ← forestTrees inTableHead false later rest
    pure (trees ++ others)

end

/-- Whether the node is a run of inline content. -/
def BlockNode.isInline : BlockNode → Bool
  | .inline _ => true
  | _ => false

/-- Whether a construct may enclose some nodes: cells enclose inline content only, and definitions
never stand among the tokens of a document. -/
def Construct.mayEnclose (children : List BlockNode) : Construct → Bool
  | headCell _ => children.all BlockNode.isInline
  | cell => children.all BlockNode.isInline
  | definition _ => false
  | _ => true

mutual

/-- Whether every construct in a node may enclose what it encloses. -/
def BlockNode.isRegular : BlockNode → Bool
  | .construct construct children => construct.mayEnclose children && forestIsRegular children
  | _ => true

/-- Whether every construct in some nodes may enclose what it encloses. -/
def forestIsRegular : List BlockNode → Bool
  | [] => true
  | node :: rest => node.isRegular && forestIsRegular rest

end

mutual

/-- Whether the heads of tables in a node are outside one another, given whether the node is inside
a head. -/
def BlockNode.headsApart (inTableHead : Bool) : BlockNode → Bool
  | .construct construct children =>
    !(inTableHead && construct.isTableHead) &&
      forestHeadsApart (inTableHead || construct.isTableHead) children
  | _ => true

/-- Whether the heads of tables in some nodes are outside one another. -/
def forestHeadsApart (inTableHead : Bool) : List BlockNode → Bool
  | [] => true
  | node :: rest => node.headsApart inTableHead && forestHeadsApart inTableHead rest

end

theorem Construct.name_ne_definition {construct : Construct} {children : List BlockNode}
    (h : construct.mayEnclose children = true) : construct.name ≠ .definition := by
  cases construct <;> simp_all [mayEnclose, name]

/-! ### Alignments -/

theorem headAlignments_opening (construct : Construct) (rest : List (Token (List InlineToken))) :
    headAlignments (.opening construct :: rest) = construct.alignments ++ headAlignments rest := by
  cases construct <;> rfl

theorem headAlignments_closing (construct : Construct) (rest : List (Token (List InlineToken))) :
    headAlignments (.closing construct.name :: rest) =
      if construct.isTableHead then [] else headAlignments rest := by
  cases construct <;> rfl

mutual

theorem headAlignments_tokens (rest : List (Token (List InlineToken))) :
    ∀ node : BlockNode, headAlignments (node.tokens ++ rest) = node.alignments (headAlignments rest)
  | .construct construct children => by
      have hinner := headAlignments_forestTokens (.closing construct.name :: rest) children
      rw [headAlignments_closing] at hinner
      simp only [BlockNode.tokens, BlockNode.alignments, List.cons_append, List.append_assoc,
        List.nil_append, headAlignments_opening, hinner]
  | .inline _ => rfl
  | .fence .. => rfl
  | .codeBlock _ => rfl
  | .rule => rfl
  | .html _ => rfl
  | .noteAnchor => rfl

/-- The alignments read ahead in a list of tokens are those of the forest that was written down. -/
theorem headAlignments_forestTokens (rest : List (Token (List InlineToken))) :
    ∀ forest : List BlockNode, headAlignments (forestTokens forest ++ rest) =
      forestAlignments (headAlignments rest) forest
  | [] => rfl
  | node :: forest => by
      rw [forestTokens, List.append_assoc, headAlignments_tokens, headAlignments_forestTokens,
        forestAlignments]

end

/-! ### Steps -/

namespace Reading

/-- The reading once a construct has opened. -/
def opened (reading : Reading) (construct : Construct) (tag? : Option Tag) : Reading :=
  { stack := tag?.toList ++ reading.stack
    inTableHead := reading.inTableHead || construct.isTableHead
    frontOfItem := construct.fronts reading.frontOfItem }

/-- The event of a construct with a tag. -/
def startOf (tag? : Option Tag) : List Event :=
  (tag?.map Event.start).toList

/-- The event of a construct with a tag that ends. -/
def stopOf (tag? : Option Tag) : List Event :=
  (tag?.map Event.stop).toList

/-- What an opening token does: it begins the construct's tag, if it has one. -/
theorem step_opening (reading : Reading) (construct : Construct)
    (rest : List (Token (List InlineToken))) (h : construct.name ≠ .definition) :
    reading.step (.opening construct) rest =
      (construct.tag? reading.inTableHead (headAlignments rest)).map fun tag? =>
        (startOf tag?, reading.opened construct tag?) := by
  obtain ⟨stack, inTableHead, frontOfItem⟩ := reading
  cases construct with
  | definition label => exact absurd rfl h
  | paragraph hidden => cases hidden <;> cases inTableHead <;> rfl
  | heading tag =>
      simp only [step, openConstruct, Construct.tag?]
      cases headingLevel tag <;> cases inTableHead <;> rfl
  | orderedList first =>
      simp only [step, openConstruct, Construct.tag?]
      cases firstNumber first <;> cases inTableHead <;> rfl
  | note key =>
      simp only [step, openConstruct, Construct.tag?]
      cases key.name <;> cases inTableHead <;> rfl
  | _ => cases inTableHead <;> rfl

/-- A tag that needs something to be read is there only if that was read. -/
theorem exists_of_tagged {α : Type} {x : Except NumberError α} {tag : α → Tag} {tag? : Option Tag}
    (h : (do let a ← x; pure (some (tag a))) = Except.ok tag?) :
    ∃ a, x = .ok a ∧ tag? = some (tag a) := by
  cases x with
  | error error => cases h
  | ok a =>
      cases h
      exact ⟨a, rfl, rfl⟩

/-- What the closing token of a construct does: it ends the construct's tag, if it has one, and what
was known before the construct is known again. -/
theorem step_closing (reading : Reading) (construct : Construct) (frontOfItem : Bool)
    (following : List ColumnAlignment) (rest : List (Token (List InlineToken))) {tag? : Option Tag}
    (h : construct.name ≠ .definition)
    (apart : (reading.inTableHead && construct.isTableHead) = false)
    (htag : construct.tag? reading.inTableHead following = .ok tag?) :
    ({ reading.opened construct tag? with frontOfItem := frontOfItem }).step
        (.closing construct.name) rest =
      .ok (stopOf tag?, { reading with frontOfItem := false }) := by
  obtain ⟨stack, inTableHead, front⟩ := reading
  cases construct with
  | definition label => exact absurd rfl h
  | paragraph hidden =>
      cases hidden <;> cases inTableHead <;> cases htag <;> rfl
  -- after the end of a head none is open, which was known before only outside of heads
  | tableHead =>
      cases inTableHead with
      | false => cases htag; rfl
      | true => simp [Construct.isTableHead] at apart
  | heading tag =>
      obtain ⟨level, -, rfl⟩ := exists_of_tagged htag
      cases inTableHead <;> rfl
  | orderedList first =>
      obtain ⟨number, -, rfl⟩ := exists_of_tagged htag
      cases inTableHead <;> rfl
  | note key =>
      obtain ⟨label, -, rfl⟩ := exists_of_tagged htag
      cases inTableHead <;> rfl
  | _ => cases inTableHead <;> cases htag <;> rfl

/-- A token that is read well adds its events to those of the tokens that follow. -/
theorem events_cons_of_ok {reading next : Reading} {token : Token (List InlineToken)}
    {rest : List (Token (List InlineToken))} {events : List Event}
    (h : reading.step token rest = .ok (events, next)) :
    reading.events (token :: rest) = (events ++ ·) <$> next.events rest := by
  rw [Reading.events, h]
  rfl

/-- A token that cannot be read stops the reading. -/
theorem events_cons_of_error {reading : Reading} {token : Token (List InlineToken)}
    {rest : List (Token (List InlineToken))} {error : NumberError}
    (h : reading.step token rest = .error error) :
    reading.events (token :: rest) = .error error := by
  rw [Reading.events, h]
  rfl

end Reading

/-! ### The recursion -/

/-- A whole run is read as its trees. -/
theorem runEvents_eq (run : List InlineNode) :
    runEvents [] (inlineTokens run) = forestEvents <$> runTrees run := by
  have hrun := runEvents_inlineTokens [] [] run
  rw [List.append_nil, runEvents] at hrun
  rw [hrun]
  cases runTrees run with
  | error error => rfl
  | ok trees =>
      show Except.ok (forestEvents trees ++ []) = _
      rw [List.append_nil]
      rfl

/-- A run at the front of a list item whose first text is read for a task marker. -/
theorem taskEvents_inlineTokens (content : String) (rest : List InlineNode) :
    (do let others ← runEvents [] (inlineTokens rest); pure (taskTextEvents content ++ others)) =
      forestEvents <$> (do let others ← runTrees rest; pure (taskTrees content ++ others)) := by
  rw [runEvents_eq]
  cases runTrees rest with
  | error error => rfl
  | ok trees =>
      show Except.ok (taskTextEvents content ++ forestEvents trees) =
        Except.ok (forestEvents (taskTrees content ++ trees))
      rw [forestEvents_append, forestEvents_taskTrees]

/-- A run of inline content is read as its trees, at the front of a list item and elsewhere. -/
theorem inlineEvents_inlineTokens (frontOfItem : Bool) (run : List InlineNode) :
    inlineEvents frontOfItem (inlineTokens run) = forestEvents <$> inlineTrees frontOfItem run := by
  cases run with
  | nil => exact runEvents_eq []
  | cons node rest =>
      cases node with
      | text content =>
          cases frontOfItem with
          | false => exact runEvents_eq (.text content :: rest)
          | true => exact taskEvents_inlineTokens content rest
      | special content =>
          cases frontOfItem with
          | false => exact runEvents_eq (.special content :: rest)
          | true => exact taskEvents_inlineTokens content rest
      | softBreak => exact runEvents_eq (.softBreak :: rest)
      | hardBreak => exact runEvents_eq (.hardBreak :: rest)
      | code content => exact runEvents_eq (.code content :: rest)
      | html content => exact runEvents_eq (.html content :: rest)
      | noteReference key => exact runEvents_eq (.noteReference key :: rest)
      | span span children => exact runEvents_eq (.span span children :: rest)
      | image dest title children => exact runEvents_eq (.image dest title children :: rest)

/-- A construct begins its tag, if it has one, encloses its trees, and ends the tag. -/
theorem followedBy_construct (tag? : Option Tag) (inner : Except NumberError (List EventTree))
    (rest : Except NumberError (List Event)) :
    followedBy (do
        let inner ← inner
        pure (match tag? with
          | some tag => [EventTree.node tag inner]
          | none => inner)) rest =
      (Reading.startOf tag? ++ ·) <$> followedBy inner ((Reading.stopOf tag? ++ ·) <$> rest) := by
  cases tag? with
  | some tag => exact followedBy_node inner rest tag
  | none =>
      cases inner with
      | error error => rfl
      | ok trees => cases rest <;> rfl

mutual

/-- A block node is read with the open tags and the place in a table as they were. -/
theorem events_tokens (reading : Reading) (rest : List (Token (List InlineToken))) :
    ∀ node : BlockNode, node.isRegular = true → node.headsApart reading.inTableHead = true →
      reading.events (node.tokens ++ rest) =
        followedBy
          (node.trees reading.inTableHead reading.frontOfItem (headAlignments rest))
          (({ reading with frontOfItem := false }).events rest)
  | .inline run, _, _ => by
      show reading.events (.inline (inlineTokens run) :: rest) = _
      rw [BlockNode.trees, Reading.events, Reading.step, inlineEvents_inlineTokens]
      cases inlineTrees reading.frontOfItem run <;> rfl
  | .fence info content, _, _ => by
      show reading.events (.fence info content :: rest) = _
      rw [Reading.events_cons_of_ok rfl, BlockNode.trees, followedBy_pure]
      simp only [forestEvents_cons, events_node, forestEvents_textTrees, forestEvents_nil,
        List.append_nil]
      rfl
  | .codeBlock content, _, _ => by
      show reading.events (.codeBlock content :: rest) = _
      rw [Reading.events_cons_of_ok rfl, BlockNode.trees, followedBy_pure]
      simp only [forestEvents_cons, events_node, forestEvents_textTrees, forestEvents_nil,
        List.append_nil]
      rfl
  | .rule, _, _ => rfl
  | .html content, _, _ => rfl
  | .noteAnchor, _, _ => by
      show reading.events (.noteAnchor :: rest) = _
      rw [Reading.events_cons_of_ok rfl, BlockNode.trees, followedBy_pure]
      rfl
  | .construct construct children, hregular, hapart => by
      simp only [BlockNode.isRegular, Bool.and_eq_true] at hregular
      obtain ⟨hencloses, hregular⟩ := hregular
      simp only [BlockNode.headsApart, Bool.and_eq_true, Bool.not_eq_true'] at hapart
      obtain ⟨hapart, hchildren⟩ := hapart
      have hname := Construct.name_ne_definition hencloses
      have hopening := reading.step_opening construct
        (forestTokens children ++ (.closing construct.name :: rest)) hname
      rw [headAlignments_forestTokens, headAlignments_closing] at hopening
      simp only [BlockNode.tokens, BlockNode.trees, List.cons_append, List.append_assoc,
        List.nil_append]
      cases htag : construct.tag? reading.inTableHead (forestAlignments
          (if construct.isTableHead = true then [] else headAlignments rest) children) with
      | error error =>
          rw [htag] at hopening
          rw [Reading.events_cons_of_error hopening]
          rfl
      | ok tag? =>
          rw [htag] at hopening
          -- the children are read inside the construct, and the end restores what was known
          have hinner := events_forestTokens (reading.opened construct tag?)
            (.closing construct.name :: rest) children hregular hchildren
          have hclosing := reading.step_closing construct
            (if children.isEmpty then (reading.opened construct tag?).frontOfItem else false)
            _ rest hname hapart htag
          rw [Reading.events_cons_of_ok hopening, hinner, Reading.events_cons_of_ok hclosing,
            headAlignments_closing]
          exact (followedBy_construct tag? _ _).symm

/-- Block nodes are read with the open tags and the place in a table as they were. -/
theorem events_forestTokens (reading : Reading) (rest : List (Token (List InlineToken))) :
    ∀ forest : List BlockNode, forestIsRegular forest = true →
      forestHeadsApart reading.inTableHead forest = true →
      reading.events (forestTokens forest ++ rest) =
        followedBy
          (forestTrees reading.inTableHead reading.frontOfItem (headAlignments rest) forest)
          (({ reading with
            frontOfItem := if forest.isEmpty then reading.frontOfItem else false }).events rest)
  | [], _, _ => (followedBy_nil _).symm
  | node :: forest, hregular, hapart => by
      simp only [forestIsRegular, Bool.and_eq_true] at hregular
      simp only [forestHeadsApart, Bool.and_eq_true] at hapart
      have hrest := events_forestTokens { reading with frontOfItem := false } rest forest
        hregular.2 hapart.2
      rw [forestTokens, List.append_assoc, events_tokens reading _ node hregular.1 hapart.1,
        headAlignments_forestTokens, hrest, forestTrees, followedBy_append]
      simp

end

/-! ## Documents -/

/-- The tokens of a forest give the forest's events written down, if no head of a table is inside
another one. -/
theorem eventsOfTokens_forestTokens {forest : List BlockNode}
    (hregular : forestIsRegular forest = true) (hapart : forestHeadsApart false forest = true) :
    eventsOfTokens (forestTokens forest) = forestEvents <$> forestTrees false false [] forest := by
  have hforest := events_forestTokens {} [] forest hregular hapart
  rw [List.append_nil] at hforest
  rw [eventsOfTokens, hforest, headAlignments]
  cases forestTrees false false [] forest with
  | error error => rfl
  | ok trees =>
      show Except.ok (forestEvents trees ++ []) = _
      rw [List.append_nil]
      rfl

/-! ### Numbers -/

mutual

/-- Whether the positions of the footnotes that an inline node refers to can be read. -/
def InlineNode.isReadable : InlineNode → Bool
  | .noteReference key => key.name.isOk
  | .span _ children => runIsReadable children
  | .image _ _ children => runIsReadable children
  | _ => true

/-- Whether the positions of the footnotes that a run refers to can be read. -/
def runIsReadable : List InlineNode → Bool
  | [] => true
  | node :: rest => node.isReadable && runIsReadable rest

end

/-- Whether the number that a construct is written with can be read. -/
def Construct.isReadable : Construct → Bool
  | heading tag => (headingLevel tag).isOk
  | orderedList first => (firstNumber first).isOk
  | note key => key.name.isOk
  | _ => true

mutual

/-- Whether all numbers in a block node can be read. -/
def BlockNode.isReadable : BlockNode → Bool
  | .construct construct children => construct.isReadable && forestIsReadable children
  | .inline run => runIsReadable run
  | _ => true

/-- Whether all numbers in some block nodes can be read. -/
def forestIsReadable : List BlockNode → Bool
  | [] => true
  | node :: rest => node.isReadable && forestIsReadable rest

end

theorem exists_ok_of_isOk {α : Type} {x : Except NumberError α} (h : x.isOk = true) :
    ∃ a, x = .ok a := by
  cases x with
  | error error => simp [Except.isOk, Except.toBool] at h
  | ok a => exact ⟨a, rfl⟩

mutual

theorem InlineNode.exists_trees :
    ∀ node : InlineNode, node.isReadable = true → ∃ trees, node.trees = .ok trees
  | .text _, _ => ⟨_, rfl⟩
  | .special _, _ => ⟨_, rfl⟩
  | .softBreak, _ => ⟨_, rfl⟩
  | .hardBreak, _ => ⟨_, rfl⟩
  | .code _, _ => ⟨_, rfl⟩
  | .html _, _ => ⟨_, rfl⟩
  | .noteReference key, h => by
      obtain ⟨label, hlabel⟩ := exists_ok_of_isOk h
      rw [InlineNode.trees, hlabel]
      exact ⟨_, rfl⟩
  | .span span children, h => by
      obtain ⟨inner, hinner⟩ := exists_runTrees children h
      rw [InlineNode.trees, hinner]
      exact ⟨_, rfl⟩
  | .image dest title children, h => by
      obtain ⟨inner, hinner⟩ := exists_runTrees children h
      rw [InlineNode.trees, hinner]
      exact ⟨_, rfl⟩

theorem exists_runTrees :
    ∀ run : List InlineNode, runIsReadable run = true → ∃ trees, runTrees run = .ok trees
  | [], _ => ⟨_, rfl⟩
  | node :: run, h => by
      simp only [runIsReadable, Bool.and_eq_true] at h
      obtain ⟨trees, htrees⟩ := node.exists_trees h.1
      obtain ⟨others, hothers⟩ := exists_runTrees run h.2
      rw [runTrees, htrees, hothers]
      exact ⟨_, rfl⟩

end

theorem exists_inlineTrees (frontOfItem : Bool) {run : List InlineNode}
    (h : runIsReadable run = true) : ∃ trees, inlineTrees frontOfItem run = .ok trees := by
  cases run with
  | nil => exact ⟨_, rfl⟩
  | cons node rest =>
      have hall := exists_runTrees (node :: rest) h
      simp only [runIsReadable, Bool.and_eq_true] at h
      obtain ⟨others, hothers⟩ := exists_runTrees rest h.2
      cases node with
      | text content =>
          cases frontOfItem with
          | false => exact hall
          | true =>
              refine ⟨taskTrees content ++ others, ?_⟩
              rw [inlineTrees, if_pos rfl, hothers]
              rfl
      | special content =>
          cases frontOfItem with
          | false => exact hall
          | true =>
              refine ⟨taskTrees content ++ others, ?_⟩
              rw [inlineTrees, if_pos rfl, hothers]
              rfl
      | _ => exact hall

theorem Construct.exists_tag? {construct : Construct} (h : construct.isReadable = true)
    (inTableHead : Bool) (following : List ColumnAlignment) :
    ∃ tag?, construct.tag? inTableHead following = .ok tag? := by
  cases construct with
  | heading tag =>
      have hread : (headingLevel tag).isOk = true := h
      obtain ⟨level, hlevel⟩ := exists_ok_of_isOk hread
      exact ⟨some (.heading level), by rw [tag?, hlevel]; rfl⟩
  | orderedList first =>
      have hread : (firstNumber first).isOk = true := h
      obtain ⟨number, hnumber⟩ := exists_ok_of_isOk hread
      exact ⟨some (.list (some number)), by rw [tag?, hnumber]; rfl⟩
  | note key =>
      have hread : key.name.isOk = true := h
      obtain ⟨label, hlabel⟩ := exists_ok_of_isOk hread
      exact ⟨some (.footnoteDefinition label), by rw [tag?, hlabel]; rfl⟩
  | _ => exact ⟨_, rfl⟩

mutual

theorem BlockNode.exists_trees (inTableHead frontOfItem : Bool) (later : List ColumnAlignment) :
    ∀ node : BlockNode, node.isReadable = true →
      ∃ trees, node.trees inTableHead frontOfItem later = .ok trees
  | .inline run, h => exists_inlineTrees frontOfItem h
  | .fence .., _ => ⟨_, rfl⟩
  | .codeBlock _, _ => ⟨_, rfl⟩
  | .rule, _ => ⟨_, rfl⟩
  | .html _, _ => ⟨_, rfl⟩
  | .noteAnchor, _ => ⟨_, rfl⟩
  | .construct construct children, h => by
      simp only [BlockNode.isReadable, Bool.and_eq_true] at h
      have htag := Construct.exists_tag? h.1 inTableHead
        (forestAlignments (if construct.isTableHead then [] else later) children)
      obtain ⟨tag?, htag⟩ := htag
      obtain ⟨inner, hinner⟩ := exists_forestTrees (inTableHead || construct.isTableHead)
        (construct.fronts frontOfItem) (if construct.isTableHead then [] else later) children h.2
      rw [BlockNode.trees]
      simp only [htag, hinner]
      exact ⟨_, rfl⟩

/-- A forest whose numbers can be read has event trees. -/
theorem exists_forestTrees (inTableHead frontOfItem : Bool) (later : List ColumnAlignment) :
    ∀ forest : List BlockNode, forestIsReadable forest = true →
      ∃ trees, forestTrees inTableHead frontOfItem later forest = .ok trees
  | [], _ => ⟨_, rfl⟩
  | node :: forest, h => by
      simp only [forestIsReadable, Bool.and_eq_true] at h
      obtain ⟨trees, htrees⟩ :=
        node.exists_trees inTableHead frontOfItem (forestAlignments later forest) h.1
      obtain ⟨others, hothers⟩ := exists_forestTrees inTableHead false later forest h.2
      rw [forestTrees, htrees, hothers]
      exact ⟨_, rfl⟩

end

/-! ### Main statement -/

/-- A list with a finished task, a table with two columns, and a footnote. -/
def sampleForest : List BlockNode :=
  [.construct .bulletList [.construct .item [.construct (.paragraph true)
      [.inline [.text "[x] done", .span .emphasis [.text "now"]]]]],
    .construct .table
      [.construct .tableHead [.construct .tableRow
        [.construct (.headCell (.text "text-align:right")) [.inline [.code "a"]]]],
      .construct .tableBody [.construct .tableRow [.construct .cell [.inline []]]]],
    .construct .notes [.construct (.note { label := .text "n" })
      [.construct (.paragraph false) [.inline [.text "note"]], .noteAnchor]]]

/-- A table in a row of another table's head, and a rule after that row. -/
def nestedHeads : List BlockNode :=
  [.construct .table [.construct .tableHead
    [.construct .tableRow [.construct .table [.construct .tableHead []]], .rule]]]

end StaticSite.Markdown
