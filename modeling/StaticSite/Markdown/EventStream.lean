import StaticSite.Markdown.Event
import StaticSite.Markdown.Token
import StaticSite.Text.Blank

/-!
# From tokens to events

The events of a list of tokens. Openings begin a tag and closings end the tag opened last, whatever
they are called, so the events of nested tokens are nested. A few tokens only organise others and
leave no event: hidden paragraphs, the body of a table, the row of a table's head, the block that
gathers the footnotes, and the anchors of footnotes.

Text that begins with `[ ]` or `[x]` at the front of a list item is a task marker.
-/

set_option autoImplicit false

namespace StaticSite.Markdown

open StaticSite.Number StaticSite.Text

/-! ## Attributes -/

/-- The label under which a footnote is known: the author's, or the footnote's number. -/
def NoteKey.name (key : NoteKey) : Except NumberError String :=
  if key.label.isSet then .ok key.label.display
  else do
    let position ← (key.id.getD (.whole 0)).toWhole
    return toString (position + 1)

/-- The address scheme of mail. -/
def mailScheme : String := "mailto:"

/-- The tag of an inline construct. A bare address of mail loses its scheme. -/
def Span.tag : Span → Tag
  | .emphasis => .emphasis
  | .strong => .strong
  | .strikethrough => .strikethrough
  | .link bare dest title =>
    let address := dest.textOrEmpty
    if bare then
      if mailScheme.toList.isPrefixOf address.toList then
        .link .email (String.ofList (address.toList.drop mailScheme.length)) title.textOrEmpty
      else .link .autolink address title.textOrEmpty
    else .link .inline address title.textOrEmpty

/-- What follows the first occurrence of a word in a text, or nothing. -/
def afterWord (word : List Char) : List Char → List Char
  | [] => []
  | c :: rest =>
    if word.isPrefixOf (c :: rest) then (c :: rest).drop word.length else afterWord word rest

/-- The alignment that a cell's style declares. -/
def ColumnAlignment.ofStyle (style : String) : ColumnAlignment :=
  match strip (String.ofList (afterWord "text-align:".toList style.toList)) with
  | "left" => .left
  | "center" => .center
  | "right" => .right
  | _ => .none

/-- The alignments of the header cells up to the end of the first table head, which a stray name
marks as well. -/
def headAlignments {α : Type} : List (Token α) → List ColumnAlignment
  | [] => []
  | .closing .tableHead :: _ => []
  | .stray .tableHead :: _ => []
  | .opening (.headCell style) :: rest =>
    ColumnAlignment.ofStyle style.textOrEmpty :: headAlignments rest
  | _ :: rest => headAlignments rest

/-- The level of a heading, written after the first letter of its tag. -/
def headingLevel (tag : String) : Except NumberError Int :=
  (Scalar.text (String.ofList (tag.toList.drop 1))).toWhole

/-- The number of a list's first item, which is 1 unless the list says otherwise. -/
def firstNumber : Option Scalar → Except NumberError Int
  | none => .ok 1
  | some .null => .ok 1
  | some first => first.toWhole

/-! ## Inline content -/

mutual

/-- The events of one inline token, and the tags open after it. -/
def InlineToken.events (stack : List Tag) :
    InlineToken → Except NumberError (List Event × List Tag)
  | .text content => .ok (if content.isEmpty then [] else [.text content], stack)
  | .special content => .ok (if content.isEmpty then [] else [.text content], stack)
  | .softBreak => .ok ([.softBreak], stack)
  | .hardBreak => .ok ([.hardBreak], stack)
  | .code content => .ok ([.code content], stack)
  | .html content => .ok ([.html content], stack)
  | .noteReference key => do return ([.footnoteReference (← key.name)], stack)
  | .opening span => .ok ([.start span.tag], span.tag :: stack)
  | .closing _ =>
    match stack with
    | [] => .ok ([], [])
    | tag :: stack => .ok ([.stop tag], stack)
  | .image dest title children => do
    let tag := Tag.image dest.textOrEmpty title.textOrEmpty
    return (.start tag :: (← runEvents [] children) ++ [.stop tag], stack)
  | .unknown => .ok ([], stack)

/-- The events of a run of inline tokens, given the tags open before it. -/
def runEvents (stack : List Tag) : List InlineToken → Except NumberError (List Event)
  | [] => .ok []
  | token :: rest => do
    let (events, stack) ← token.events stack
    return events ++ (← runEvents stack rest)

end

/-- Splits a task marker off the front of a text: a box and then blanks or the end. -/
def taskMarker? : List Char → Option (Bool × List Char)
  | '[' :: mark :: ']' :: rest =>
    if (mark = ' ' || mark = 'x' || mark = 'X') && rest.head?.all isBlank then
      some (mark != ' ', rest.dropWhile isBlank)
    else none
  | _ => none

/-- The events of text at the front of a list item. -/
def taskTextEvents (content : String) : List Event :=
  match taskMarker? content.toList with
  | some (checked, rest) =>
    .taskMarker checked :: (if rest.isEmpty then [] else [.text (String.ofList rest)])
  | none => if content.isEmpty then [] else [.text content]

/-- The events of a run of inline content, given whether it stands at the front of a list item. -/
def inlineEvents (frontOfItem : Bool) : List InlineToken → Except NumberError (List Event)
  | .text content :: rest =>
    if frontOfItem then do return taskTextEvents content ++ (← runEvents [] rest)
    else runEvents [] (.text content :: rest)
  | .special content :: rest =>
    if frontOfItem then do return taskTextEvents content ++ (← runEvents [] rest)
    else runEvents [] (.special content :: rest)
  | run => runEvents [] run

/-! ## Block structure -/

/-- What is known before a token: the tags open, whether a table's head is open, and whether the
next run stands at the front of a list item. -/
structure Reading where
  stack : List Tag := []
  inTableHead : Bool := false
  frontOfItem : Bool := false

namespace Reading

/-- Begins a tag. -/
def push (tag : Tag) (reading : Reading) : List Event × Reading :=
  ([.start tag], { reading with stack := tag :: reading.stack })

/-- Ends the tag opened last, if there is one. -/
def pop (reading : Reading) : List Event × Reading :=
  match reading.stack with
  | [] => ([], reading)
  | tag :: stack => ([.stop tag], { reading with stack := stack })

/-- The events of a construct that opens, given the tokens after it. -/
def openConstruct (construct : Construct) (rest : List (Token (List InlineToken)))
    (reading : Reading) : Except NumberError (List Event × Reading) :=
  match construct with
  | .paragraph true => .ok ([], reading)
  | .paragraph false => .ok (reading.push .paragraph)
  | .heading tag => do return reading.push (.heading (← headingLevel tag))
  | .blockQuote => .ok (reading.push .blockQuote)
  | .bulletList => .ok (reading.push (.list none))
  | .orderedList first => do return reading.push (.list (some (← firstNumber first)))
  | .item => .ok (reading.push .item)
  | .table => .ok (reading.push (.table (headAlignments rest)))
  | .tableHead => .ok ({ reading with inTableHead := true }.push .tableHead)
  | .tableBody => .ok ([], reading)
  | .tableRow => .ok (if reading.inTableHead then ([], reading) else reading.push .tableRow)
  | .headCell _ => .ok (reading.push .tableCell)
  | .cell => .ok (reading.push .tableCell)
  | .notes => .ok ([], reading)
  | .note key => do return reading.push (.footnoteDefinition (← key.name))
  | .definition _ => .ok ([], reading)

/-- The events of a construct that closes. -/
def closeConstruct (name : ConstructName) (reading : Reading) : List Event × Reading :=
  match name with
  | .paragraph true => ([], reading)
  | .tableBody => ([], reading)
  | .tableRow => if reading.inTableHead then ([], reading) else reading.pop
  | .notes => ([], reading)
  | .tableHead =>
    if reading.stack.isEmpty then ([], reading) else { reading with inTableHead := false }.pop
  | _ => reading.pop

/-- Whether the run after a token stands at the front of a list item: right after the item's
opening, or after openings of paragraphs that follow it. -/
def fronts (frontOfItem : Bool) : Token (List InlineToken) → Bool
  | .opening .item => true
  | .opening (.paragraph _) => frontOfItem
  | _ => false

/-- The events of one token, given the tokens after it. -/
def step (reading : Reading) (token : Token (List InlineToken))
    (rest : List (Token (List InlineToken))) : Except NumberError (List Event × Reading) :=
  let next := { reading with frontOfItem := fronts reading.frontOfItem token }
  match token with
  | .inline run => do return (← inlineEvents reading.frontOfItem run, next)
  | .opening construct => next.openConstruct construct rest
  | .closing name => .ok (next.closeConstruct name)
  | .fence info content =>
    let tag := Tag.codeBlock (some (strip info))
    .ok (.start tag :: (if content.isEmpty then [] else [.text content]) ++ [.stop tag], next)
  | .codeBlock content =>
    let tag := Tag.codeBlock none
    .ok (.start tag :: (if content.isEmpty then [] else [.text content]) ++ [.stop tag], next)
  | .rule => .ok ([.rule], next)
  | .html content => .ok ([.html content], next)
  | .noteAnchor => .ok ([], next)
  | .stray _ => .ok ([], next)

/-- The events of the tokens that follow. -/
def events (reading : Reading) : List (Token (List InlineToken)) → Except NumberError (List Event)
  | [] => .ok []
  | token :: rest => do
    let (now, next) ← reading.step token rest
    return now ++ (← next.events rest)

end Reading

/-- The events of a document's tokens. -/
def eventsOfTokens (tokens : List (Token (List InlineToken))) :
    Except NumberError (List Event) :=
  ({} : Reading).events tokens

end StaticSite.Markdown
