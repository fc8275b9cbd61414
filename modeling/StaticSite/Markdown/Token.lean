import StaticSite.Number.Scalar

/-!
# Tokens of a document

What a Markdown reader finds, in document order: block constructs that open and close, leaves, and
runs of inline content. A run is a list of inline tokens once it has been read, and plain text
before that, so `Token` leaves the form of runs open.
-/

set_option autoImplicit false

namespace StaticSite.Markdown

open StaticSite.Number

/-- What identifies a footnote: the label its author chose, or else its position. -/
structure NoteKey where
  label : Scalar := .null
  id : Option Scalar := none
deriving DecidableEq, Repr

/-- An inline construct that encloses others. -/
inductive Span where
  | emphasis
  | strong
  | strikethrough
  /-- `bare` tells that the address itself is the link's text. -/
  | link (bare : Bool) (dest title : Scalar)
deriving DecidableEq, Repr

/-- The name of an inline construct where it closes. -/
inductive SpanName where
  | emphasis
  | strong
  | strikethrough
  | link
  | unknown
deriving DecidableEq, Repr

/-- A token of inline content. `special` is text that was written with an escape or by name. -/
inductive InlineToken where
  | text (content : String)
  | special (content : String)
  | softBreak
  | hardBreak
  | code (content : String)
  | html (content : String)
  | noteReference (key : NoteKey)
  | opening (span : Span)
  | closing (name : SpanName)
  | image (dest title : Scalar) (children : List InlineToken)
  | unknown
deriving Repr, Inhabited

/-- A block construct that encloses others. A hidden paragraph is the content of a tight list's
item, which is a paragraph in name only. -/
inductive Construct where
  | paragraph (hidden : Bool)
  | heading (tag : String)
  | blockQuote
  | bulletList
  | orderedList (first : Option Scalar)
  | item
  | table
  | tableHead
  | tableBody
  | tableRow
  | headCell (style : Scalar)
  | cell
  | notes
  | note (key : NoteKey)
  /-- A footnote's definition, where it stands in the text. -/
  | definition (label : String)
deriving DecidableEq, Repr

/-- The name of a block construct where it closes. -/
inductive ConstructName where
  | paragraph (hidden : Bool)
  | heading
  | blockQuote
  | bulletList
  | orderedList
  | item
  | table
  | tableHead
  | tableBody
  | tableRow
  | headCell
  | cell
  | notes
  | note
  | definition
  | unknown
deriving DecidableEq, Repr

/-- A token of block structure, with runs of inline content of type `α`. A stray name stands where a
construct would close but ends nothing that is open. -/
inductive Token (α : Type) where
  | inline (run : α)
  | opening (construct : Construct)
  | closing (name : ConstructName)
  | fence (info content : String)
  | codeBlock (content : String)
  | rule
  | html (content : String)
  | noteAnchor
  | stray (name : ConstructName)
deriving Repr

instance {α : Type} : Inhabited (Token α) := ⟨.stray .unknown⟩

end StaticSite.Markdown
