import StaticSite.Markdown.Inline
import StaticSite.Markdown.Line

/-!
# How blocks begin

For each kind of block, whether it begins on a line, as the blocks around the line see it, and what
the beginning says about the block. `interrupts` puts these together: a line on which one of these
blocks begins does not continue the paragraph before it.
-/

set_option autoImplicit false

namespace StaticSite.Markdown

open StaticSite.Text

/-- What the blocks around a line determine. -/
structure Surroundings where
  lines : Array Line
  /-- The column at which the blocks inside begin. -/
  indent : Nat := 0
  /-- The column at which the list around begins, if there is one. -/
  listIndent : Option Nat := none
  /-- The line after the last one that may be looked at. -/
  limit : Nat

namespace Surroundings

/-- A line; there are only empty lines after the last one. -/
def line (s : Surroundings) (n : Nat) : Line :=
  (s.lines[n]?).getD { start := 0, stop := 0, shift := 0, indent := 0 }

/-- Whether a line has no text. -/
def isEmpty (s : Surroundings) (n : Nat) : Bool :=
  (s.line n).isEmpty

/-- Whether a line is indented so far that it is code. -/
def isCode (s : Surroundings) (n : Nat) : Bool :=
  4 ≤ (s.line n).indent - s.indent

/-- Whether a line is indented less than the blocks inside. -/
def isOutdented (s : Surroundings) (n : Nat) : Bool :=
  (s.line n).indent < s.indent

/-- The text of a line. -/
def text (s : Surroundings) (src : Source) (n : Nat) : List Char :=
  src.chars (s.line n).textStart (s.line n).stop

/-- The content of the lines from `first` up to before `last`, without the indentation. -/
def content (s : Surroundings) (src : Source) (first last indent : Nat) (keepLast : Bool) :
    List Char :=
  (List.range (last - first)).flatMap fun k =>
    let n := first + k
    src.indentedChars (s.line n) indent (n + 1 < last || keepLast)

end Surroundings

/-! ## Code and rules -/

/-- The beginning of a fenced block. -/
structure FenceStart where
  marker : Char
  length : Nat
  info : List Char

/-- The fence on a line. -/
def fenceStart? (src : Source) (s : Surroundings) (n : Nat) : Option FenceStart :=
  if s.isCode n then none
  else
    let text := s.text src n
    match text.head? with
    | none => none
    | some marker =>
      if marker == '~' || marker == '\x60' then
        let length := (text.takeWhile (· == marker)).length
        let info := text.drop length
        if length < 3 || (marker == '\x60' && info.contains marker) then none
        else some ⟨marker, length, info⟩
      else none

/-- Whether a line is a rule: three or more of one mark, and blanks. -/
def isRule (src : Source) (s : Surroundings) (n : Nat) : Bool :=
  !s.isCode n &&
  match s.text src n with
  | [] => false
  | marker :: rest =>
    (marker == '*' || marker == '-' || marker == '_') &&
      rest.all (fun c => c == marker || isSpace c) && 2 ≤ rest.count marker

/-! ## Quotes -/

/-- Whether a quote begins on a line. -/
def isQuote (src : Source) (s : Surroundings) (n : Nat) : Bool :=
  !s.isCode n && src.isAt (s.line n).textStart '>'

/-- A line inside a quote, as the blocks in the quote see it. One blank after the mark belongs to
the mark. -/
def quotedLine (src : Source) (line : Line) : Line :=
  let mark := line.textStart
  let column := line.indent.toNat + 1
  let second := src[mark + 1]?
  let spaced := second == some ' ' || second == some '\t'
  let wideTab := second == some '\t' && (line.column + column) % 4 != 3
  let start := if spaced && !wideTab then mark + 2 else mark + 1
  let initial := if spaced && !wideTab then column + 1 else column
  let base := line.column + (if wideTab then 1 else 0)
  let (textStart, reached) := src.skipColumns base line.stop start initial
  { start := start
    stop := line.stop
    shift := textStart - start
    indent := Int.ofNat reached - Int.ofNat initial
    column := column + (if spaced then 1 else 0) }

/-! ## Lists -/

/-- The mark of a list item: what it is numbered, if it is, and the place after it. -/
structure ItemMark where
  number : Option Nat
  char : Char
  next : Nat

/-- The mark at the beginning of a line's text. -/
def itemMark? (src : Source) (line : Line) : Option ItemMark :=
  let start := line.textStart
  let digits := (src.chars start line.stop).takeWhile Char.isDigit
  let place := start + digits.length
  if place < line.stop then
    match src[place]? with
    | some c =>
      let marks := if digits.isEmpty then c == '*' || c == '-' || c == '+'
        else digits.length ≤ 9 && (c == '.' || c == ')')
      let next := place + 1
      if marks && (line.stop ≤ next || (src[next]?).any isSpace) then
        some ⟨if digits.isEmpty then none else some (numberIn 10 digits), c, next⟩
      else none
    | none => none
  else none

/-- The list item that begins on a line. One that interrupts a paragraph must not be empty, and its
number must be 1 if it has one. -/
def itemStart? (src : Source) (s : Surroundings) (interrupting : Bool) (n : Nat) :
    Option ItemMark :=
  let line := s.line n
  let tooDeep := s.listIndent.any fun listIndent =>
    4 ≤ line.indent - Int.ofNat listIndent && line.indent < s.indent
  if s.isCode n || tooDeep then none
  else
    match itemMark? src line with
    | some mark =>
      let strict := interrupting && Int.ofNat s.indent ≤ line.indent
      if strict && (mark.number.any (· != 1) ||
          line.stop ≤ src.skipWhile isSpace src.size mark.next) then none
      else some mark
    | none => none

/-! ## Footnote definitions -/

/-- The label of the footnote that a line begins to define, and the place after the colon. -/
def noteStart? (src : Source) (s : Surroundings) (n : Nat) : Option (String × Nat) :=
  let line := s.line n
  let start := line.textStart
  if s.isCode n || line.stop < start + 4 || !src.isAt start '[' || !src.isAt (start + 1) '^' then
    none
  else
    let finish := src.skipWhile (fun c => c != ' ' && c != ']') line.stop (start + 2)
    if src.isAt finish ' ' && finish < line.stop || finish = start + 2 then none
    else if finish + 1 < line.stop && src.isAt (finish + 1) ':' then
      some (src.slice (start + 2) finish, finish + 2)
    else none

/-! ## Headings and HTML -/

/-- The heading on a line: its level and its content, without the marks that may close it. -/
def headingStart? (src : Source) (s : Surroundings) (n : Nat) : Option (Nat × String) :=
  if s.isCode n then none
  else
    let line := s.line n
    let start := line.textStart
    let next := src.skipWhile (· == '#') line.stop start
    let level := next - start
    if level = 0 || 6 < level || (next < line.stop && !(src[next]?).any isSpace) then none
    else
      let stop := src.skipBackWhile isSpace next line.stop
      let beforeMarks := src.skipBackWhile (· == '#') next stop
      let stop := if next < beforeMarks && (src[beforeMarks - 1]?).any isSpace then beforeMarks
        else stop
      some (level, String.ofList (stripBy isWhiteSpace (src.chars next stop)))

/-- How the block of HTML ends that begins on a line, and whether it may interrupt a paragraph. -/
def htmlStart? (src : Source) (s : Surroundings) (n : Nat) : Option (RawHtml.BlockEnd × Bool) :=
  if s.isCode n then none else RawHtml.blockStart? (s.text src n)

/-! ## Tables -/

/-- The cells of a row. A bar that is escaped belongs to its cell, and loses the backslash. -/
def rowCells (cell : List Char) (escaped : Bool) : List Char → List (List Char)
  | [] => [cell]
  | '|' :: rest =>
    if escaped then rowCells (cell.dropLast ++ ['|']) false rest
    else cell :: rowCells [] false rest
  | c :: rest => rowCells (cell ++ [c]) (c == '\\') rest

/-- The cells of a row without the empty ones outside its outer bars. -/
def cellsOfRow (row : List Char) : List (List Char) :=
  let cells := rowCells [] false row
  let cells := if cells.head? == some [] then cells.drop 1 else cells
  if cells.getLast? == some [] then cells.dropLast else cells

/-- The style that a column's part of the delimiter row declares. -/
def columnStyle? (part : List Char) : Option String :=
  let left := part.head? == some ':'
  let body := if left then part.drop 1 else part
  let right := body.getLast? == some ':'
  let body := if right then body.dropLast else body
  if body.isEmpty || !body.all (· == '-') then none
  else some (if left && right then "text-align:center" else if right then "text-align:right"
    else if left then "text-align:left" else "")

/-- The styles that the parts of a delimiter row declare; only the first and the last may be empty.
-/
def columnStyles? (isFirst : Bool) : List (List Char) → Option (List String)
  | [] => some []
  | part :: parts =>
    let part := stripBy isWhiteSpace part
    if part.isEmpty then
      if isFirst || parts.isEmpty then columnStyles? false parts else none
    else
      match columnStyle? part, columnStyles? false parts with
      | some style, some styles => some (style :: styles)
      | _, _ => none

/-- Whether a character may stand in a delimiter row. -/
def isDelimiterRowChar (c : Char) : Bool :=
  c == '|' || c == '-' || c == ':' || isSpace c

/-- Whether a text looks like a delimiter row, and not like an item of a list. -/
def isDelimiterRow : List Char → Bool
  | first :: second :: rest =>
    !isSpace first && (first :: second :: rest).all isDelimiterRowChar &&
      !(first == '-' && isSpace second)
  | _ => false

/-- The table that begins on a line: the header cells and the styles of the columns. -/
def tableStart? (src : Source) (s : Surroundings) (n stop : Nat) :
    Option (List (List Char) × List String) :=
  let delimiterRow := s.text src (n + 1)
  if stop < n + 2 || s.isOutdented (n + 1) || s.isCode (n + 1) || !isDelimiterRow delimiterRow then
    none
  else
    match columnStyles? true (splitAt '|' delimiterRow) with
    | some styles =>
      let header := stripBy isWhiteSpace (s.text src n)
      let cells := cellsOfRow header
      if header.contains '|' && !s.isCode n && !cells.isEmpty && cells.length == styles.length then
        some (cells, styles)
      else none
    | none => none

/-! ## Interruptions -/

/-- Whether a line ends a quote's or a table's loose continuation. -/
def endsContinuation (src : Source) (s : Surroundings) (n : Nat) : Bool :=
  (fenceStart? src s n).isSome || isQuote src s n || isRule src s n ||
    (itemStart? src s false n).isSome || (htmlStart? src s n).any (·.2) ||
    (headingStart? src s n).isSome

/-- Whether a line ends a list. -/
def endsList (src : Source) (s : Surroundings) (n : Nat) : Bool :=
  (fenceStart? src s n).isSome || isQuote src s n || isRule src s n

/-- Whether a block begins on a line and ends the paragraph, or else the reference definition,
before it. The table looks at the lines up to `stop`. -/
def interrupts (src : Source) (s : Surroundings) (paragraph : Bool) (n stop : Nat) : Bool :=
  (tableStart? src s n stop).isSome || (fenceStart? src s n).isSome || isQuote src s n ||
    isRule src s n || (itemStart? src s paragraph n).isSome || (noteStart? src s n).isSome ||
    (htmlStart? src s n).any (·.2) || (headingStart? src s n).isSome

/-- Whether a line continues the paragraph before it whatever begins on it: it is indented like
code, or a quote has already found that it continues. -/
def alwaysContinues (s : Surroundings) (n : Nat) : Bool :=
  3 < (s.line n).indent - s.indent || (s.line n).indent < 0

end StaticSite.Markdown
