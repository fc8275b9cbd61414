import StaticSite.Proofs.Markdown.CodeBlock
import StaticSite.Proofs.Markdown.TokenForest
import StaticSite.Proofs.Outcome
import StaticSite.Proofs.Text.Occurrence

/-!
# Tables in a stream of tokens

A table is read as its own tokens say, wherever it stands: the header cells that are searched for
its alignments are its own, since the search ends with its head, and the end of its head is the end
of every head that is open. What comes before it and after it need not be nested.

## What this module delivers

- `ColumnAlignment.Declares`, `ofStyle_eq_iff`: the alignment that a style declares.
- `TableNode`, with `tokens`, `tree` and `alignment_eq_iff`: a table, its tokens, its event tree, and
  the alignments of its columns.
- `Reading.events_table`: a table is read as its trees, whatever is open.
- `Token.IsSound`, `IsPassage`: tokens that can be read, and what is read off one.
- `Reading.exists_run`: what is read off sound tokens, by induction on them.
- `TableStream`, `HasTables`, `hasTables_stream`: the tables in a stream are in its events, in order.
-/

set_option autoImplicit false

namespace StaticSite.Markdown

open StaticSite.Number StaticSite.Text

/-! ## Styles -/

/-- What follows a word is what its first occurrence cuts off. -/
theorem afterWord_eq {word : List Char} (hword : word ≠ []) (s : List Char) :
    afterWord word s = ((cutAtWord? word s).map (·.2)).getD [] := by
  induction s with
  | nil =>
      have hempty : word.isEmpty = false := List.isEmpty_eq_false_iff.mpr hword
      rw [afterWord, cutAtWord?, hempty]
      rfl
  | cons c rest ih =>
      rw [afterWord, cutAtWord?, dropWord?]
      split
      · rfl
      · rw [ih]
        cases cutAtWord? word rest <;> rfl

namespace ColumnAlignment

/-- The value that declares an alignment. -/
def keyword : ColumnAlignment → String
  | .none => "none"
  | .left => "left"
  | .center => "center"
  | .right => "right"

/-- A style declares an alignment if it is the value of its first `text-align`, with blanks around it
at most. -/
def Declares (style : String) (alignment : ColumnAlignment) : Prop :=
  ∃ before after, style.toList = before ++ ("text-align:".toList ++ after) ∧
    (∀ n < before.length, ¬ OccursAt "text-align:".toList style.toList n) ∧
      strip (String.ofList after) = alignment.keyword

/-- A style aligns a column only as it declares. -/
theorem ofStyle_eq_iff {alignment : ColumnAlignment} (h : alignment ≠ .none) (style : String) :
    ofStyle style = alignment ↔ Declares style alignment := by
  have hvalue : ofStyle style = alignment ↔
      strip (String.ofList (afterWord "text-align:".toList style.toList)) = alignment.keyword := by
    unfold ofStyle
    generalize strip (String.ofList (afterWord "text-align:".toList style.toList)) = value
    split
    · cases alignment <;> simp [keyword]
    · cases alignment <;> simp [keyword]
    · cases alignment <;> simp [keyword]
    · cases alignment <;> simp_all [keyword]
  rw [hvalue, afterWord_eq (by decide)]
  constructor
  · intro hkeyword
    cases hcut : cutAtWord? "text-align:".toList style.toList with
    | none =>
        rw [hcut] at hkeyword
        have hempty : strip (String.ofList []) = "" := by decide
        rw [Option.map_none, Option.getD_none, hempty] at hkeyword
        cases alignment <;> simp [keyword] at hkeyword
    | some cut =>
        rw [hcut] at hkeyword
        obtain ⟨hsplit, hfirst⟩ := cutAtWord?_eq_some_iff.mp hcut
        exact ⟨cut.1, cut.2, hsplit, hfirst, hkeyword⟩
  · rintro ⟨before, after, hsplit, hfirst, hkeyword⟩
    rw [cutAtWord?_eq_some_iff.mpr ⟨hsplit, hfirst⟩]
    exact hkeyword

end ColumnAlignment

/-! ## Runs -/

theorem areInline_textTrees (content : String) : areInline (textTrees content) := by
  rw [textTrees]
  split <;> rfl

theorem Span.isInline_tag (span : Span) : span.tag.isInline := by
  cases span with
  | link bare dest title =>
      rw [Span.tag]
      split
      · split <;> rfl
      · rfl
  | _ => rfl

mutual

theorem InlineNode.areInline_trees : ∀ (node : InlineNode) {trees : List EventTree},
    node.trees = .ok trees → areInline trees
  | .text content, _, h => by
      cases h
      exact areInline_textTrees content
  | .special content, _, h => by
      cases h
      exact areInline_textTrees content
  | .softBreak, _, h => by cases h; rfl
  | .hardBreak, _, h => by cases h; rfl
  | .code content, _, h => by cases h; rfl
  | .html content, _, h => by cases h; rfl
  | .noteReference key, _, h => by
      rw [InlineNode.trees, bind_eq_ok_iff] at h
      obtain ⟨label, -, htrees⟩ := h
      cases htrees
      rfl
  | .span span children, _, h => by
      rw [InlineNode.trees, bind_eq_ok_iff] at h
      obtain ⟨inner, hinner, htrees⟩ := h
      cases htrees
      rw [areInline, EventTree.isInline, span.isInline_tag, areInline_runTrees children hinner]
      rfl
  | .image dest title children, _, h => by
      rw [InlineNode.trees, bind_eq_ok_iff] at h
      obtain ⟨inner, hinner, htrees⟩ := h
      cases htrees
      rw [areInline, EventTree.isInline, areInline_runTrees children hinner]
      rfl

/-- What is read off a run may stand in a line. -/
theorem areInline_runTrees : ∀ (run : List InlineNode) {trees : List EventTree},
    runTrees run = .ok trees → areInline trees
  | [], _, h => by cases h; rfl
  | node :: run, _, h => by
      rw [runTrees, bind_eq_ok_iff] at h
      obtain ⟨first, hfirst, hrest⟩ := h
      obtain ⟨others, hothers, htrees⟩ := bind_eq_ok_iff.mp hrest
      cases htrees
      rw [areInline_append, node.areInline_trees hfirst, areInline_runTrees run hothers]
      rfl

end

/-- The events' forest of a run that can be read. -/
def lineTrees (run : List InlineNode) : List EventTree :=
  match runTrees run with
  | .ok trees => trees
  | .error _ => []

theorem runTrees_eq {run : List InlineNode} (h : runIsReadable run = true) :
    runTrees run = .ok (lineTrees run) := by
  obtain ⟨trees, htrees⟩ := exists_runTrees run h
  rw [lineTrees, htrees]

theorem areInline_lineTrees (run : List InlineNode) : areInline (lineTrees run) := by
  rw [lineTrees]
  split
  · rename_i trees htrees
    exact areInline_runTrees run htrees
  · rfl

/-! ## Tables -/

/-- A table: its header cells, each with the style that it declares, and the rows of its bodies. Its
rows need not be of one length. -/
structure TableNode where
  head : List (Scalar × List InlineNode)
  bodies : List (List (List (List InlineNode)))

namespace TableNode

/-- A cell of a body. -/
def cellNode (run : List InlineNode) : BlockNode :=
  .construct .cell [.inline run]

/-- A header cell. -/
def headCellNode (cell : Scalar × List InlineNode) : BlockNode :=
  .construct (.headCell cell.1) [.inline cell.2]

def rowNode (row : List (List InlineNode)) : BlockNode :=
  .construct .tableRow (row.map cellNode)

def bodyNode (rows : List (List (List InlineNode))) : BlockNode :=
  .construct .tableBody (rows.map rowNode)

/-- The table as a construct among others. -/
def node (table : TableNode) : BlockNode :=
  .construct .table
    (.construct .tableHead [.construct .tableRow (table.head.map headCellNode)] ::
      table.bodies.map bodyNode)

/-- The tokens of a table. -/
def tokens (table : TableNode) : List (Token (List InlineToken)) :=
  table.node.tokens

/-- The rows of all bodies. -/
def rows (table : TableNode) : List (List (List InlineNode)) :=
  table.bodies.flatten

/-- What the header cells declare. -/
def alignments (table : TableNode) : List ColumnAlignment :=
  table.head.map fun cell => ColumnAlignment.ofStyle cell.1.textOrEmpty

/-- The tree of a cell. -/
def cellTree (run : List InlineNode) : EventTree :=
  .node .tableCell (lineTrees run)

def rowTree (row : List (List InlineNode)) : EventTree :=
  .node .tableRow (row.map cellTree)

/-- The tree of a table. -/
def tree (table : TableNode) : EventTree :=
  .node (.table table.alignments)
    (.node .tableHead (table.head.map fun cell => cellTree cell.2) :: table.rows.map rowTree)

/-- The header cell of a column declares its alignment. -/
def Aligns (table : TableNode) (column : Nat) (alignment : ColumnAlignment) : Prop :=
  ∃ cell, table.head[column]? = some cell ∧
    ColumnAlignment.Declares cell.1.textOrEmpty alignment

/-- A column is aligned as its header cell declares. One whose header cell declares nothing, or a
value that is unknown, is not aligned, and neither is one beyond the header cells. -/
theorem alignment_eq_iff (table : TableNode) (column : Nat) {alignment : ColumnAlignment}
    (h : alignment ≠ .none) :
    table.alignments[column]?.getD .none = alignment ↔ table.Aligns column alignment := by
  unfold Aligns
  rw [alignments, List.getElem?_map]
  cases table.head[column]? with
  | none =>
      rw [Option.map_none, Option.getD_none]
      exact iff_of_false h.symm (by simp)
  | some cell =>
      rw [Option.map_some, Option.getD_some, ColumnAlignment.ofStyle_eq_iff h]
      constructor
      · exact fun hdeclares => ⟨cell, rfl, hdeclares⟩
      · rintro ⟨cell', hcell, hdeclares⟩
        cases hcell
        exact hdeclares

/-- Whether the footnotes that the cells refer to can be read. -/
def isReadable (table : TableNode) : Bool :=
  table.head.all (fun cell => runIsReadable cell.2) &&
    table.rows.all fun row => row.all runIsReadable

end TableNode

/-! ### Forests of like nodes -/

section Forests

variable {forest : List BlockNode}

theorem forestIsRegular_of_forall (h : ∀ node ∈ forest, node.isRegular = true) :
    forestIsRegular forest = true := by
  induction forest with
  | nil => rfl
  | cons node rest ih =>
      obtain ⟨hnode, hrest⟩ := List.forall_mem_cons.mp h
      rw [forestIsRegular, hnode, ih hrest]
      rfl

theorem forestHeadsApart_of_forall {inTableHead : Bool}
    (h : ∀ node ∈ forest, node.headsApart inTableHead = true) :
    forestHeadsApart inTableHead forest = true := by
  induction forest with
  | nil => rfl
  | cons node rest ih =>
      obtain ⟨hnode, hrest⟩ := List.forall_mem_cons.mp h
      rw [forestHeadsApart, hnode, ih hrest]
      rfl

/-- Nodes whose trees do not depend on their places are read one by one. -/
theorem forestTrees_map {α : Type} {inTableHead : Bool} {node : α → BlockNode}
    {trees : α → List EventTree} (items : List α) (frontOfItem : Bool)
    (later : List ColumnAlignment)
    (h : ∀ item ∈ items, ∀ frontOfItem later,
      (node item).trees inTableHead frontOfItem later = .ok (trees item)) :
    forestTrees inTableHead frontOfItem later (items.map node) = .ok (items.flatMap trees) := by
  induction items generalizing frontOfItem with
  | nil => rfl
  | cons item rest ih =>
      obtain ⟨hitem, hrest⟩ := List.forall_mem_cons.mp h
      rw [List.map_cons, forestTrees, hitem, ih false hrest]
      rfl

end Forests

namespace TableNode

variable {table : TableNode}

/-! ### Trees of a table -/

theorem isRegular_node (table : TableNode) : table.node.isRegular = true := by
  have hcells : ∀ row : List (List InlineNode), forestIsRegular (row.map cellNode) = true :=
    fun row => forestIsRegular_of_forall (List.forall_mem_map.mpr fun _ _ => rfl)
  have hhead : forestIsRegular (table.head.map headCellNode) = true :=
    forestIsRegular_of_forall (List.forall_mem_map.mpr fun _ _ => rfl)
  have hrows : ∀ rows : List (List (List InlineNode)),
      forestIsRegular (rows.map rowNode) = true := fun rows =>
    forestIsRegular_of_forall (List.forall_mem_map.mpr fun row _ => hcells row)
  have hbodies : forestIsRegular (table.bodies.map bodyNode) = true :=
    forestIsRegular_of_forall (List.forall_mem_map.mpr fun rows _ => hrows rows)
  simp only [node, BlockNode.isRegular, forestIsRegular, hhead, hbodies]
  rfl

theorem headsApart_node (table : TableNode) : table.node.headsApart false = true := by
  have hcells : ∀ row : List (List InlineNode),
      forestHeadsApart false (row.map cellNode) = true := fun row =>
    forestHeadsApart_of_forall (List.forall_mem_map.mpr fun _ _ => rfl)
  have hhead : forestHeadsApart true (table.head.map headCellNode) = true :=
    forestHeadsApart_of_forall (List.forall_mem_map.mpr fun _ _ => rfl)
  have hrows : ∀ rows : List (List (List InlineNode)),
      forestHeadsApart false (rows.map rowNode) = true := fun rows =>
    forestHeadsApart_of_forall (List.forall_mem_map.mpr fun row _ => hcells row)
  have hbodies : forestHeadsApart false (table.bodies.map bodyNode) = true :=
    forestHeadsApart_of_forall (List.forall_mem_map.mpr fun rows _ => hrows rows)
  simp only [node, BlockNode.headsApart, forestHeadsApart, Construct.isTableHead, Bool.false_or,
    Bool.or_false, hhead, hbodies]
  rfl

/-- The header cells up to the end of the head are those of the table. -/
theorem forestAlignments_head (cells : List (Scalar × List InlineNode)) :
    forestAlignments [] (cells.map headCellNode)
      = cells.map fun cell => ColumnAlignment.ofStyle cell.1.textOrEmpty := by
  induction cells with
  | nil => rfl
  | cons cell rest ih =>
      rw [List.map_cons, forestAlignments, ih]
      rfl

theorem inlineTrees_false (run : List InlineNode) : inlineTrees false run = runTrees run := by
  cases run with
  | nil => rfl
  | cons node rest => cases node <;> rfl

/-- A cell is read as its run, in the head of a table and in its bodies. -/
theorem trees_cell {construct : Construct} (inTableHead : Bool)
    (htag : ∀ inTableHead following,
      construct.tag? inTableHead following = .ok (some .tableCell))
    (hfronts : ∀ frontOfItem, construct.fronts frontOfItem = false) {run : List InlineNode}
    (h : runIsReadable run = true) (frontOfItem : Bool) (later : List ColumnAlignment) :
    (BlockNode.construct construct [.inline run]).trees inTableHead frontOfItem later
      = .ok [cellTree run] := by
  have hinner : ∀ inHead within, forestTrees inHead false within [.inline run]
      = .ok (lineTrees run) := by
    intro inHead within
    rw [forestTrees, BlockNode.trees, inlineTrees_false, runTrees_eq h]
    exact congrArg Except.ok (List.append_nil _)
  simp only [BlockNode.trees, htag, hfronts, hinner]
  rfl

theorem trees_row {row : List (List InlineNode)} (h : row.all runIsReadable = true)
    (frontOfItem : Bool) (later : List ColumnAlignment) :
    (rowNode row).trees false frontOfItem later = .ok [rowTree row] := by
  have hcells : ∀ run ∈ row, ∀ frontOfItem later,
      (cellNode run).trees false frontOfItem later = .ok [cellTree run] := fun run hrun =>
    trees_cell false (fun _ _ => rfl) (fun _ => rfl) (List.all_eq_true.mp h run hrun)
  have hinner : ∀ frontOfItem later, forestTrees false frontOfItem later (row.map cellNode)
      = .ok (row.map cellTree) := by
    intro frontOfItem later
    rw [forestTrees_map row frontOfItem later hcells, ← List.map_eq_flatMap]
  simp only [rowNode, BlockNode.trees, Construct.isTableHead, Bool.or_false, hinner]
  rfl

theorem trees_body {rows : List (List (List InlineNode))}
    (h : ∀ row ∈ rows, row.all runIsReadable = true) (frontOfItem : Bool)
    (later : List ColumnAlignment) :
    (bodyNode rows).trees false frontOfItem later = .ok (rows.map rowTree) := by
  have hinner : ∀ frontOfItem later, forestTrees false frontOfItem later (rows.map rowNode)
      = .ok (rows.map rowTree) := by
    intro frontOfItem later
    rw [forestTrees_map rows frontOfItem later fun row hrow => trees_row (h row hrow),
      ← List.map_eq_flatMap]
  simp only [bodyNode, BlockNode.trees, Construct.isTableHead, Bool.or_false, hinner]
  rfl

/-- The row of a table's head leaves no trace in the head. -/
theorem trees_head {cells : List (Scalar × List InlineNode)}
    (h : cells.all (fun cell => runIsReadable cell.2) = true) (frontOfItem : Bool)
    (later : List ColumnAlignment) :
    (BlockNode.construct .tableHead [.construct .tableRow (cells.map headCellNode)]).trees false
        frontOfItem later
      = .ok [.node .tableHead (cells.map fun cell => cellTree cell.2)] := by
  have hcells : ∀ cell ∈ cells, ∀ frontOfItem later,
      (headCellNode cell).trees true frontOfItem later = .ok [cellTree cell.2] := fun cell hcell =>
    trees_cell true (fun _ _ => rfl) (fun _ => rfl) (List.all_eq_true.mp h cell hcell)
  have hinner : ∀ frontOfItem later, forestTrees true frontOfItem later (cells.map headCellNode)
      = .ok (cells.map fun cell => cellTree cell.2) := by
    intro frontOfItem later
    rw [forestTrees_map cells frontOfItem later hcells, ← List.map_eq_flatMap]
  have hrow : ∀ frontOfItem later,
      forestTrees true frontOfItem later [.construct .tableRow (cells.map headCellNode)]
        = .ok (cells.map fun cell => cellTree cell.2) := by
    intro frontOfItem later
    simp only [forestTrees, BlockNode.trees, Construct.isTableHead, Bool.or_false, hinner]
    exact congrArg Except.ok (List.append_nil _)
  simp only [BlockNode.trees, Construct.isTableHead, Bool.or_true, hrow]
  rfl

/-- A table is read as its tree, which does not tell how its rows are divided among bodies. -/
theorem trees_node (h : table.isReadable = true) (frontOfItem : Bool)
    (later : List ColumnAlignment) :
    table.node.trees false frontOfItem later = .ok [table.tree] := by
  rw [isReadable, Bool.and_eq_true] at h
  have hrows : ∀ rows ∈ table.bodies, ∀ row ∈ rows, row.all runIsReadable = true :=
    fun rows hbody row hrow => List.all_eq_true.mp h.2 row (List.mem_flatten.mpr ⟨rows, hbody, hrow⟩)
  have hbodies : ∀ frontOfItem later,
      forestTrees false frontOfItem later (table.bodies.map bodyNode)
        = .ok (table.rows.map rowTree) := by
    intro frontOfItem later
    rw [forestTrees_map table.bodies frontOfItem later fun rows hbody =>
      trees_body (hrows rows hbody), rows, List.map_flatten]
    rfl
  have hinner : ∀ frontOfItem later, forestTrees false frontOfItem later
      (.construct .tableHead [.construct .tableRow (table.head.map headCellNode)] ::
        table.bodies.map bodyNode)
      = .ok (.node .tableHead (table.head.map fun cell => cellTree cell.2) ::
          table.rows.map rowTree) := by
    intro frontOfItem later
    rw [forestTrees, trees_head h.1, hbodies]
    rfl
  -- the table looks ahead for its alignments, and the end of its head stops it
  have hahead : ∀ later, forestAlignments later
      (.construct .tableHead [.construct .tableRow (table.head.map headCellNode)] ::
        table.bodies.map bodyNode) = table.alignments := by
    intro later
    rw [alignments, ← forestAlignments_head]
    rfl
  simp only [node, BlockNode.trees, Construct.isTableHead, Bool.or_false, hinner, Construct.tag?,
    hahead]
  rfl

end TableNode

/-! ## Reading a table -/

namespace Reading

/-- The beginning of a table's head makes it one that is open, whether one was open or not. -/
theorem events_tableHead (reading : Reading) (rest : List (Token (List InlineToken))) :
    reading.events (.opening .table :: .opening .tableHead :: rest)
      = ({ reading with inTableHead := false }).events
          (.opening .table :: .opening .tableHead :: rest) := rfl

/-- A table is read as its tree wherever it stands, and what was open before is open again. -/
theorem events_table (reading : Reading) {table : TableNode} (h : table.isReadable = true)
    (rest : List (Token (List InlineToken))) :
    reading.events (table.tokens ++ rest) = (table.tree.events ++ ·) <$>
      ({ reading with inTableHead := false, frontOfItem := false }).events rest := by
  have htable := events_tokens { reading with inTableHead := false } rest table.node
    table.isRegular_node table.headsApart_node
  have hopens : reading.events (table.tokens ++ rest)
      = ({ reading with inTableHead := false }).events (table.tokens ++ rest) :=
    reading.events_tableHead _
  rw [hopens, TableNode.tokens, htable, TableNode.trees_node h]
  refine (followedBy_pure _ _).trans ?_
  rw [forestEvents_cons, forestEvents_nil, List.append_nil]

end Reading

/-! ## Sound tokens -/

/-- A token that can be read: the number that it is written with is one, and its inline content is
nested. What tokens open and close need not be. -/
def Token.IsSound : Token (List InlineToken) → Prop
  | .inline run => ∃ nodes, run = inlineTokens nodes ∧ runIsReadable nodes = true
  | .opening construct => construct.isReadable = true
  | _ => True

/-- A passage of events: in it end all the images and code blocks that begin in it. -/
inductive IsPassage : List Event → Prop
  | forest (trees : List EventTree) : IsPassage (forestEvents trees)
  | start {tag : Tag} (himage : ∀ dest title, tag ≠ .image dest title)
      (hcode : tag.isCode = false) : IsPassage [.start tag]
  | stop (tag : Tag) : IsPassage [.stop tag]
  | append {front back : List Event} (hfront : IsPassage front) (hback : IsPassage back) :
      IsPassage (front ++ back)

namespace Reading

theorem passage_pop (reading : Reading) : IsPassage reading.pop.1 := by
  rw [pop]
  split
  · exact .forest []
  · exact .stop _

theorem passage_closeConstruct (name : ConstructName) (reading : Reading) :
    IsPassage (reading.closeConstruct name).1 := by
  unfold closeConstruct
  split
  · exact .forest []
  · exact .forest []
  · split
    · exact .forest []
    · exact passage_pop _
  · exact .forest []
  · split
    · exact .forest []
    · exact passage_pop _
  · exact passage_pop _

theorem exists_openConstruct {construct : Construct} (h : construct.isReadable = true)
    (rest : List (Token (List InlineToken))) (reading : Reading) :
    ∃ events next, reading.openConstruct construct rest = .ok (events, next) ∧
      IsPassage events := by
  have hstart : ∀ {tag : Tag}, (∀ dest title, tag ≠ .image dest title) → tag.isCode = false →
      IsPassage (reading.push tag).1 := fun himage hcode => .start himage hcode
  cases construct with
  | paragraph hidden =>
      cases hidden with
      | true => exact ⟨_, _, rfl, .forest []⟩
      | false => exact ⟨_, _, rfl, hstart (by simp) rfl⟩
  | heading tag =>
      have hread : (headingLevel tag).isOk = true := h
      obtain ⟨level, hlevel⟩ := exists_ok_of_isOk hread
      rw [openConstruct, hlevel]
      exact ⟨_, _, rfl, hstart (by simp) rfl⟩
  | orderedList first =>
      have hread : (firstNumber first).isOk = true := h
      obtain ⟨number, hnumber⟩ := exists_ok_of_isOk hread
      rw [openConstruct, hnumber]
      exact ⟨_, _, rfl, hstart (by simp) rfl⟩
  | note key =>
      have hread : key.name.isOk = true := h
      obtain ⟨label, hlabel⟩ := exists_ok_of_isOk hread
      rw [openConstruct, hlabel]
      exact ⟨_, _, rfl, hstart (by simp) rfl⟩
  | tableRow =>
      rw [openConstruct]
      split
      · exact ⟨_, _, rfl, .forest []⟩
      · exact ⟨_, _, rfl, hstart (by simp) rfl⟩
  | tableBody => exact ⟨_, _, rfl, .forest []⟩
  | notes => exact ⟨_, _, rfl, .forest []⟩
  | definition label => exact ⟨_, _, rfl, .forest []⟩
  | _ => exact ⟨_, _, rfl, hstart (by simp) rfl⟩

/-- A sound token is read, whatever is open. -/
theorem exists_step {token : Token (List InlineToken)} (h : token.IsSound) (reading : Reading)
    (rest : List (Token (List InlineToken))) :
    ∃ events next, reading.step token rest = .ok (events, next) ∧ IsPassage events := by
  have hcode : ∀ (info : Option String) (content : String),
      IsPassage (.start (.codeBlock info) ::
        (if content.isEmpty then [] else [.text content]) ++ [.stop (.codeBlock info)]) := by
    intro info content
    have hforest := IsPassage.forest [.node (.codeBlock info) (textTrees content)]
    rw [forestEvents_cons, events_node, forestEvents_textTrees, forestEvents_nil,
      List.append_nil] at hforest
    exact hforest
  cases token with
  | inline run =>
      obtain ⟨nodes, rfl, hreadable⟩ := h
      obtain ⟨trees, htrees⟩ := exists_inlineTrees reading.frontOfItem hreadable
      rw [step, inlineEvents_inlineTokens, htrees]
      exact ⟨_, _, rfl, .forest trees⟩
  | opening construct => exact exists_openConstruct h rest _
  | closing name => exact ⟨_, _, rfl, passage_closeConstruct name _⟩
  | fence info content => exact ⟨_, _, rfl, hcode _ content⟩
  | codeBlock content => exact ⟨_, _, rfl, hcode _ content⟩
  | rule => exact ⟨_, _, rfl, .forest [.leaf .rule]⟩
  | html content => exact ⟨_, _, rfl, .forest [.leaf (.html content)]⟩
  | noteAnchor => exact ⟨_, _, rfl, .forest []⟩
  | stray name => exact ⟨_, _, rfl, .forest []⟩

/-- Sound tokens are read one after the other, whatever comes behind them. -/
theorem exists_run (reading : Reading) {tokens : List (Token (List InlineToken))}
    (h : ∀ token ∈ tokens, token.IsSound) (rest : List (Token (List InlineToken))) :
    ∃ front next, IsPassage front ∧
      reading.events (tokens ++ rest) = (front ++ ·) <$> Reading.events next rest := by
  induction tokens generalizing reading with
  | nil => exact ⟨[], reading, .forest [], (id_map _).symm⟩
  | cons token others ih =>
      obtain ⟨htoken, hothers⟩ := List.forall_mem_cons.mp h
      obtain ⟨now, next, hnow, hpassage⟩ := exists_step htoken reading (others ++ rest)
      obtain ⟨front, last, hfront, hrest⟩ := ih next hothers
      refine ⟨now ++ front, last, hpassage.append hfront, ?_⟩
      rw [List.cons_append, events_cons_of_ok hnow, hrest, Functor.map_map]
      simp only [List.append_assoc]

end Reading

/-! ## Tables in a stream -/

/-- Tables, each with the tokens that come before it. -/
abbrev TableStream := List (List (Token (List InlineToken)) × TableNode)

/-- The tokens of tables and of what comes before them, between them and after them. -/
def TableStream.tokens (stream : TableStream) (after : List (Token (List InlineToken))) :
    List (Token (List InlineToken)) :=
  match stream with
  | [] => after
  | (before, table) :: rest => before ++ (table.tokens ++ TableStream.tokens rest after)

/-- What comes before a table can be read, and so can the table. -/
def TableStream.IsSound (stream : TableStream) : Prop :=
  ∀ place ∈ stream, (∀ token ∈ place.1, token.IsSound) ∧ place.2.isReadable = true

/-- The trees of some tables are in a stream of events, one after the other. -/
def HasTables : List TableNode → List Event → Prop
  | [], events => IsPassage events
  | table :: rest, events => ∃ front behind, IsPassage front ∧
      events = front ++ (table.tree.events ++ behind) ∧ HasTables rest behind

theorem passage_table (table : TableNode) : IsPassage table.tree.events := by
  have hforest := IsPassage.forest [table.tree]
  rwa [forestEvents_cons, forestEvents_nil, List.append_nil] at hforest

theorem passage_of_hasTables {tables : List TableNode} {events : List Event}
    (h : HasTables tables events) : IsPassage events := by
  induction tables generalizing events with
  | nil => exact h
  | cons table rest ih =>
      obtain ⟨front, behind, hfront, rfl, hrest⟩ := h
      exact hfront.append ((passage_table table).append (ih hrest))

namespace Reading

/-- Tables in a stream of sound tokens are read in order, whatever is open. -/
theorem exists_tables (reading : Reading) (stream : TableStream)
    {after : List (Token (List InlineToken))} (hstream : stream.IsSound)
    (hafter : ∀ token ∈ after, token.IsSound) :
    ∃ events, reading.events (stream.tokens after) = .ok events ∧
      HasTables (stream.map (·.2)) events := by
  induction stream generalizing reading with
  | nil =>
      obtain ⟨front, next, hfront, hevents⟩ := exists_run reading hafter []
      rw [List.append_nil] at hevents
      refine ⟨front, hevents.trans ?_, hfront⟩
      exact congrArg Except.ok (List.append_nil front)
  | cons place rest ih =>
      obtain ⟨before, table⟩ := place
      obtain ⟨⟨hbefore, htable⟩, hrest⟩ := List.forall_mem_cons.mp hstream
      obtain ⟨front, next, hfront, hevents⟩ :=
        exists_run reading hbefore (table.tokens ++ TableStream.tokens rest after)
      obtain ⟨behind, hbehind, htables⟩ :=
        ih { next with inTableHead := false, frontOfItem := false } hrest
      refine ⟨front ++ (table.tree.events ++ behind), ?_, front, behind, hfront, rfl, htables⟩
      rw [TableStream.tokens, hevents, events_table next htable, hbehind]
      rfl

end Reading

/-- The events of a stream have the trees of its tables, in order. -/
theorem hasTables_stream (stream : TableStream) {after : List (Token (List InlineToken))}
    (hstream : stream.IsSound) (hafter : ∀ token ∈ after, token.IsSound) :
    ∃ events, eventsOfTokens (stream.tokens after) = .ok events ∧
      HasTables (stream.map (·.2)) events :=
  Reading.exists_tables {} stream hstream hafter

end StaticSite.Markdown
