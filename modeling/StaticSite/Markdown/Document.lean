import StaticSite.Markdown.Block
import StaticSite.Markdown.EventStream
import StaticSite.Text.Split

/-!
# Documents

Reading a whole document: its block structure, then its inline content, then its footnotes. The
definitions of footnotes are taken out of the text, and the footnotes that are referred to follow
the document in the order of their first reference.
-/

set_option autoImplicit false

namespace StaticSite.Markdown

open StaticSite.Number

/-! ## Text and inline content -/

/-- The text that is read: line ends are unified, and the null character is replaced. -/
def normalizeText (s : List Char) : List Char :=
  (StaticSite.Text.unifyLineEnds s).map fun c => if c = '\x00' then '\uFFFD' else c

/-- Reads the runs of inline content, front to back. -/
def readRuns (definitions : Definitions) : List (Token String) → Notes →
    List (Token (List InlineToken)) × Notes
  | [], notes => ([], notes)
  | token :: rest, notes =>
    match token with
    | .inline content =>
      let (run, notes) := readInline definitions content notes
      let (rest, notes) := readRuns definitions rest notes
      (.inline run :: rest, notes)
    | .opening construct =>
      let (rest, notes) := readRuns definitions rest notes
      (.opening construct :: rest, notes)
    | .closing name =>
      let (rest, notes) := readRuns definitions rest notes
      (.closing name :: rest, notes)
    | .fence info content =>
      let (rest, notes) := readRuns definitions rest notes
      (.fence info content :: rest, notes)
    | .codeBlock content =>
      let (rest, notes) := readRuns definitions rest notes
      (.codeBlock content :: rest, notes)
    | .rule =>
      let (rest, notes) := readRuns definitions rest notes
      (.rule :: rest, notes)
    | .html content =>
      let (rest, notes) := readRuns definitions rest notes
      (.html content :: rest, notes)
    | .noteAnchor =>
      let (rest, notes) := readRuns definitions rest notes
      (.noteAnchor :: rest, notes)
    | .stray name =>
      let (rest, notes) := readRuns definitions rest notes
      (.stray name :: rest, notes)

/-! ## Footnotes -/

/-- A document taken apart as far as it has been looked at: its body, what is defined under each
label, latest first, and the definition begun last. -/
structure Separated where
  body : List (Token (List InlineToken)) := []
  definitions : List (String × List (Token (List InlineToken))) := []
  /-- The label of the definition begun last. -/
  label : String := ""
  /-- What the definition begun last holds. -/
  content : List (Token (List InlineToken)) := []
  /-- Whether that definition is still open. -/
  isOpen : Bool := false

/-- Looks at the next token of a document. The end of any definition is the end of the one begun
last, and what follows is outside all definitions. -/
def Separated.add (s : Separated) : Token (List InlineToken) → Separated
  | .opening (.definition label) => { s with label := label, content := [], isOpen := true }
  | .closing .definition =>
    { s with definitions := (s.label, s.content) :: s.definitions, isOpen := false }
  | token =>
    if s.isOpen then { s with content := s.content ++ [token] }
    else { s with body := s.body ++ [token] }

/-- Takes the definitions of footnotes out of a document. -/
def separate (tokens : List (Token (List InlineToken))) : Separated :=
  tokens.foldl Separated.add {}

/-- Puts the anchor of a footnote at its end, inside the last paragraph if the footnote ends with
one. -/
def withAnchor (tokens : List (Token (List InlineToken))) : List (Token (List InlineToken)) :=
  match tokens.getLast? with
  | some (.closing (.paragraph hidden)) =>
    tokens.dropLast ++ [.noteAnchor, .closing (.paragraph hidden)]
  | _ => tokens ++ [.noteAnchor]

/-- The tokens of one footnote, given its position. -/
def noteTokens (definitions : List (String × List (Token (List InlineToken)))) (position : Nat)
    (entry : NoteEntry) : List (Token (List InlineToken)) :=
  let id := some (Scalar.whole (Int.ofNat position))
  match entry with
  | .inline content =>
    [.opening (.note { id := id })] ++
      withAnchor [.opening (.paragraph false), .inline content, .closing (.paragraph false)] ++
      [.closing .note]
  | .labelled label =>
    [.opening (.note { label := .text label, id := id })] ++
      withAnchor ((definitions.lookup label).getD []) ++ [.closing .note]

/-- A document with its footnotes at the end. -/
def gatherNotes (tokens : List (Token (List InlineToken))) (notes : Notes) :
    List (Token (List InlineToken)) :=
  let s := separate tokens
  if notes.entries.isEmpty then s.body
  else
    let gathered := (List.range notes.entries.length).flatMap fun i =>
      match notes.entries[i]? with
      | some entry => noteTokens s.definitions i entry
      | none => []
    s.body ++ [.opening .notes] ++ gathered ++ [.closing .notes]

/-! ## Reading a document -/

/-- Joins the texts of a run, those written with escapes included. -/
def joinRun : Token (List InlineToken) → Token (List InlineToken)
  | .inline run => .inline (joinAllTexts run)
  | token => token

/-- The tokens of a document. -/
def readTokens (text : String) : List (Token (List InlineToken)) :=
  let src : Source := (normalizeText text.toList).toArray
  let blocks := readStructure src
  let (tokens, notes) := readRuns blocks.definitions blocks.tokens {}
  (gatherNotes tokens notes).map joinRun

/-- The events of a document. The tokens that are read carry numbers where numbers are due, so the
events always exist. -/
def readEvents (text : String) : List Event :=
  ((eventsOfTokens (readTokens text)).toOption).getD []

end StaticSite.Markdown
