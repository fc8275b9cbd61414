import StaticSite.Html.Anchor
import StaticSite.Html.Escape
import StaticSite.Html.StandaloneImage

/-!
# The page writer

A page is written in one pass over the events of a document. `Writer` is what the pass remembers,
`Writer.step` is what one event does to it, and `Writer.ofEvents` is the whole pass.

Three things make the writer more than a table of tags. A heading's identifier is that of its first
text, so markup that comes before the text is held back until the text is known. An image's alt text
is the text of everything inside the image, so the events up to the image's end are flattened
instead of written. A block starts on a line of its own, so the writer tracks whether what it wrote
last ended a line.
-/

set_option autoImplicit false

namespace StaticSite.Html

open StaticSite.Markdown

/-- Renders code in a language, or declines because the language is unknown to it. -/
abbrev Highlighter := String → String → Option String

/-- An image whose alt text is being written: its title, whether it is a figure of its own, and the
number of constructs open inside it. -/
structure OpenImage where
  title : String
  standalone : Bool
  depth : Nat
deriving Repr

/-- A code block whose text is collected for the highlighter. -/
structure OpenCode where
  language : String
  content : String
deriving Repr

/-- The state of a page under way. -/
structure Writer where
  /-- The pieces written, in order. -/
  written : Array String := #[]
  /-- Markup of a heading whose identifier is not known yet. -/
  held : Option (List String) := none
  /-- Whether what was written last ended a line. -/
  atLineStart : Bool := true
  /-- Whether the page has had a heading. -/
  titled : Bool := false
  /-- Whether a heading is open whose identifier is not known yet. -/
  awaitingHeadingText : Bool := false
  anchors : Anchors := {}
  footnotes : FootnoteNumbers := {}
  inDefinition : Bool := false
  inTableHead : Bool := true
  alignments : List ColumnAlignment := []
  /-- The column of the next table cell. -/
  column : Nat := 0
  code : Option OpenCode := none
  image : Option OpenImage := none

/-- Whether a text ends with a line end. -/
def endsLine (text : String) : Bool :=
  text.toList.getLast? == some '\n'

namespace Writer

/-! ## Writing pieces -/

/-- Hands a piece on: to the held markup if there is any, to the page otherwise. -/
def emit (text : String) (w : Writer) : Writer :=
  match w.held with
  | some pieces => { w with held := some (pieces ++ [text]) }
  | none => { w with written := w.written.push text }

/-- Writes markup and notes whether it ends a line; an empty text changes nothing there. -/
def write (text : String) (w : Writer) : Writer :=
  let w := w.emit text
  if text.isEmpty then w else { w with atLineStart := endsLine text }

/-- Writes a document's text, and notes whether it ends a line. -/
def writeText (text : String) (w : Writer) : Writer :=
  { w.emit (escape text) with atLineStart := endsLine text }

/-- Writes markup that begins a block: on the current line if nothing is on it yet. -/
def writeBlock (text : String) (w : Writer) : Writer :=
  w.write ((if w.atLineStart then "" else "\n") ++ text)

/-! ## Headings -/

/-- Settles the identifier of the open heading by its text, and releases the held markup. -/
def settleHeading (text : String) (w : Writer) : Writer :=
  let pieces := w.held.getD []
  let (identifier, anchors) := w.anchors.allocate text
  let w := { w with awaitingHeadingText := false, held := none, anchors := anchors }
  let w := (w.emit (identifier ++ "\">")).emit
    ("<a class=\"anchor\" href=\"#" ++ identifier ++ "\">¶</a>")
  pieces.foldl (fun w piece => w.emit piece) w

/-- Begins a heading, up to the quote that opens its identifier. -/
def startHeading (level : Int) (w : Writer) : Writer :=
  let w := if w.atLineStart then { w with atLineStart := false } else w.emit "\n"
  let w := w.emit ("<h" ++ toString level)
  let w := if w.titled then w else { w with titled := true }.emit " class=\"title\""
  { w with awaitingHeadingText := true }.emit " id=\""

/-- What an event other than text does to a heading that waits for its text: code is as good as
text, and anything else is held back. -/
def prepareHeading (event : Event) (w : Writer) : Writer :=
  if w.awaitingHeadingText then
    match event with
    | .text _ => w
    | .code content => w.settleHeading content
    | _ => if w.held.isNone then { w with held := some [] } else w
  else w

/-! ## Footnotes -/

/-- The number shown for a footnote. -/
def footnoteNumber (label : String) (w : Writer) : Nat × Writer :=
  let (n, footnotes) := w.footnotes.number label
  (n, { w with footnotes := footnotes })

/-- Writes a reference to a footnote: its number, linked to the definition. -/
def footnoteReference (label : String) (w : Writer) : Writer :=
  let (n, w) := w.footnoteNumber label
  let w := w.emit ("<sup class=\"footnote-reference\" id=\"r." ++ escape label ++
    "\"><a href=\"#f." ++ escape label)
  ((w.write "\">").emit (toString n)).write "</a></sup>"

/-- Begins a footnote's definition, which carries the footnote's number. -/
def startDefinition (label : String) (w : Writer) : Writer :=
  let w := { w with inDefinition := true }.writeBlock "<p class=\"footnote\" id=\"f."
  let w := (w.emit (escape label)).write "\"><sup>"
  let (n, w) := w.footnoteNumber label
  (w.emit (toString n)).write "</sup> "

/-! ## Tables -/

/-- The alignment attribute of the next cell, with the bracket that ends the tag. -/
def cellAttribute (w : Writer) : String :=
  match w.alignments[w.column]? with
  | some .left => " align=\"left\">"
  | some .center => " align=\"center\">"
  | some .right => " align=\"right\">"
  | _ => ">"

/-! ## Code blocks -/

/-- The language of a code block: its info string up to the first space. -/
def codeLanguage (info : Option String) : String :=
  String.ofList ((info.getD "").toList.takeWhile (· != ' '))

/-- Begins a code block. Where there is a highlighter, the text of a block that names a language is
collected for it. -/
def startCode (highlighter : Option Highlighter) (info : Option String) (w : Writer) : Writer :=
  let w := if w.atLineStart then w else { w with atLineStart := true }.emit "\n"
  let language := codeLanguage info
  if language.isEmpty then w.write "<pre><code>"
  else
    let w := ((w.write "<pre><code class=\"language-").emit (escape language)).write "\">"
    if highlighter.isSome then { w with code := some ⟨language, ""⟩ } else w

/-- Writes the code collected for the highlighter, escaped where the highlighter declines. -/
def flushCode (highlighter : Option Highlighter) (w : Writer) : Writer :=
  match w.code, highlighter with
  | some block, some highlight =>
    let w := { w with code := none }.emit
      ((highlight block.content block.language).getD (escape block.content))
    { w with atLineStart := endsLine block.content }
  | _, _ => w

/-! ## Images -/

/-- Begins an image, up to the quote that opens its alt text. -/
def startImage (dest title : String) (standalone : Bool) (w : Writer) : Writer :=
  let w := if standalone then w.write "<div class=\"image-container\">\n" else w
  let w := ((w.write "<img src=\"").emit (escapeHref dest)).write "\" alt=\""
  { w with image := some ⟨title, standalone, 0⟩ }

/-- Ends an image: its title, and the caption of one that stands alone. -/
def finishImage (image : OpenImage) (w : Writer) : Writer :=
  let w := { w with image := none }
  let w := if image.title.isEmpty then w
    else (w.write "\" title=\"").emit (escape image.title)
  let w := w.write "\" />"
  if image.standalone then
    ((((w.write "\n<div class=\"image-caption\">").emit (escape image.title)).write
      "</div>\n").write "</div>\n").write "<p>\n"
  else w

/-- What an event inside an image adds to the alt text. The first construct to end that did not
begin inside the image ends it. -/
def altStep (image : OpenImage) (event : Event) (w : Writer) : Writer :=
  match event with
  | .start _ => { w with image := some { image with depth := image.depth + 1 } }
  | .stop _ =>
    if image.depth = 0 then w.finishImage image
    else { w with image := some { image with depth := image.depth - 1 } }
  | .html content => w.writeText content
  | .code content => w.writeText content
  | .text content => w.writeText content
  | .softBreak => w.write " "
  | .hardBreak => w.write " "
  | .rule => w.write " "
  | .footnoteReference label =>
    let (n, w) := w.footnoteNumber label
    w.write ("[" ++ toString n ++ "]")
  | .taskMarker checked => w.write (if checked then "[x]" else "[ ]")

/-! ## Events -/

/-- Begins a construct. -/
def startTag (highlighter : Option Highlighter) (standalone : Bool) (tag : Tag) (w : Writer) :
    Writer :=
  match tag with
  | .paragraph => if w.inDefinition then w else w.writeBlock "<p>"
  | .heading level => w.startHeading level
  | .blockQuote => w.writeBlock "<blockquote>\n"
  | .codeBlock info => w.startCode highlighter info
  | .list none => w.writeBlock "<ul>\n"
  | .list (some first) =>
    if first = 1 then w.writeBlock "<ol>\n"
    else ((w.writeBlock "<ol start=\"").emit (toString first)).write "\">\n"
  | .item => w.writeBlock "<li>"
  | .footnoteDefinition label => w.startDefinition label
  | .table alignments => { w with alignments := alignments }.write "<table>"
  | .tableHead => { w with inTableHead := true, column := 0 }.write "<thead><tr>"
  | .tableRow => { w with column := 0 }.write "<tr>"
  | .tableCell => (w.write (if w.inTableHead then "<th" else "<td")).write w.cellAttribute
  | .emphasis => w.write "<em>"
  | .strong => w.write "<strong>"
  | .strikethrough => w.write "<del>"
  | .link form dest title =>
    let w := (w.write (if form = .email then "<a href=\"mailto:" else "<a href=\"")).emit
      (escapeHref dest)
    let w := if title.isEmpty then w else (w.write "\" title=\"").emit (escape title)
    w.write "\">"
  | .image dest title => w.startImage dest title standalone

/-- Ends a construct. -/
def stopTag (highlighter : Option Highlighter) (tag : Tag) (w : Writer) : Writer :=
  match tag with
  | .paragraph => if w.inDefinition then w else w.write "</p>\n"
  | .heading level =>
    let w := if w.awaitingHeadingText then w.settleHeading "" else w
    w.write ("</h" ++ toString level ++ ">\n")
  | .blockQuote => w.write "</blockquote>\n"
  | .codeBlock _ => (w.flushCode highlighter).write "</code></pre>\n"
  | .list none => w.write "</ul>\n"
  | .list (some _) => w.write "</ol>\n"
  | .item => w.write "</li>\n"
  | .footnoteDefinition label =>
    { w with inDefinition := false }.emit (" <a href=\"#r." ++ escape label ++ "\">↩</a></p>\n")
  | .table _ => w.write "</tbody></table>\n"
  | .tableHead => { w.write "</tr></thead><tbody>\n" with inTableHead := false }
  | .tableRow => w.write "</tr>\n"
  | .tableCell =>
    let w := w.write (if w.inTableHead then "</th>" else "</td>")
    { w with column := w.column + 1 }
  | .emphasis => w.write "</em>"
  | .strong => w.write "</strong>"
  | .strikethrough => w.write "</del>"
  | .link .. => w.write "</a>"
  | .image .. => w

/-- Text outside an image: it settles a heading's identifier, and inside a code block that is
collected it joins the block. -/
def text (content : String) (w : Writer) : Writer :=
  let w := if w.awaitingHeadingText then w.settleHeading content else w
  match w.code with
  | some block => { w with code := some { block with content := block.content ++ content } }
  | none => w.writeText content

/-- What one event does, given whether it begins a standalone image. -/
def step (highlighter : Option Highlighter) (w : Writer) : Event × Bool → Writer
  | (event, standalone) =>
    match w.image with
    | some image => w.altStep image event
    | none =>
      let w := w.prepareHeading event
      match event with
      | .start tag => w.startTag highlighter standalone tag
      | .stop tag => w.stopTag highlighter tag
      | .text content => w.text content
      | .code content => ((w.write "<code>").emit (escape content)).write "</code>"
      | .html content => w.write content
      | .softBreak => { w with atLineStart := true }.emit "\n"
      | .hardBreak => w.write "<br />\n"
      | .rule => w.writeBlock "<hr />\n"
      | .footnoteReference label => w.footnoteReference label
      | .taskMarker true => w.write "<input disabled=\"\" type=\"checkbox\" checked=\"\"/>\n"
      | .taskMarker false => w.write "<input disabled=\"\" type=\"checkbox\"/>\n"

/-- An image that never ends is ended with the document. -/
def finish (w : Writer) : Writer :=
  match w.image with
  | some image => w.finishImage image
  | none => w

/-- Writes a document from its events. -/
def ofEvents (highlighter : Option Highlighter) (events : List Event) : Writer :=
  ((markStandalone events).foldl (step highlighter) {}).finish

/-- The page as one text. -/
def page (w : Writer) : String :=
  String.join w.written.toList

/-- The page, if it fits into a number of characters. A page is written piece by piece, and the
first piece that goes past the limit is refused; that happens exactly when the whole does not fit.
-/
def pageWithin? (limit : Nat) (w : Writer) : Option String :=
  let page := w.page
  if page.length ≤ limit then some page else none

end Writer

/-- The page of a document's events. -/
def render (highlighter : Option Highlighter) (events : List Event) : String :=
  (Writer.ofEvents highlighter events).page

end StaticSite.Html
