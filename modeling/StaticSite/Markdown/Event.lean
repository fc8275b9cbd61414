/-!
# Events of a document

A Markdown document is handed to its readers as a flat list of events: constructs begin and end,
and between them stand texts, code, raw HTML, breaks, rules, references to footnotes and the
markers of task lists. A construct's attributes travel on its tag, so a tag of one construct cannot
carry the attributes of another.
-/

set_option autoImplicit false

namespace StaticSite.Markdown

/-- The alignment that a table declares for a column. -/
inductive ColumnAlignment where
  | none
  | left
  | center
  | right
deriving DecidableEq, Repr

/-- How a link was written: with its text, as a bare address, or as a bare e-mail address. -/
inductive LinkForm where
  | inline
  | autolink
  | email
deriving DecidableEq, Repr

/-- A construct that encloses others. -/
inductive Tag where
  | paragraph
  | heading (level : Int)
  | blockQuote
  /-- `info` is absent for a block that is indented instead of fenced. -/
  | codeBlock (info : Option String)
  /-- `first` is the number of the first item, absent for a bullet list. -/
  | list (first : Option Int)
  | item
  | footnoteDefinition (label : String)
  | table (alignments : List ColumnAlignment)
  | tableHead
  | tableRow
  | tableCell
  | emphasis
  | strong
  | strikethrough
  | link (form : LinkForm) (dest title : String)
  | image (dest title : String)
deriving DecidableEq, Repr

/-- One step of a document, read from front to back. -/
inductive Event where
  | start (tag : Tag)
  | stop (tag : Tag)
  | text (content : String)
  | code (content : String)
  | html (content : String)
  | softBreak
  | hardBreak
  | rule
  | footnoteReference (label : String)
  | taskMarker (checked : Bool)
deriving DecidableEq, Repr

/-! ## Outline

The headings of a document with their depths, in document order. A heading's entry is the
concatenation of the texts and the code in it; whatever else it holds leaves no trace. -/

/-- The heading being read: its depth and its text so far. -/
structure OpenHeading where
  depth : Int
  title : String

/-- The headings of the events, each with its depth, given the heading that is open. A heading that
begins inside another replaces it, and one that never ends has no entry. -/
def outlineFrom : Option OpenHeading → List Event → List (String × Int)
  | _, [] => []
  | _, .start (.heading level) :: rest => outlineFrom (some ⟨level, ""⟩) rest
  | some heading, .stop (.heading _) :: rest =>
    (heading.title, heading.depth) :: outlineFrom none rest
  | some heading, .text s :: rest => outlineFrom (some ⟨heading.depth, heading.title ++ s⟩) rest
  | some heading, .code s :: rest => outlineFrom (some ⟨heading.depth, heading.title ++ s⟩) rest
  | heading?, _ :: rest => outlineFrom heading? rest

/-- The headings of a document, each with its depth. -/
def outline (events : List Event) : List (String × Int) :=
  outlineFrom none events

end StaticSite.Markdown
