import StaticSite.Text.CodeRange

/-!
# Source text and its lines

A text under reading is an array of characters, and a place in it is an offset. A reader names a
segment by its two offsets and never copies the text until it keeps a piece of it.
-/

set_option autoImplicit false

namespace StaticSite.Markdown

/-- A text under reading. -/
abbrev Source := Array Char

/-- Whether a character is a space or a tab, the blanks that Markdown measures. -/
def isSpace (c : Char) : Bool :=
  c == ' ' || c == '\t'

/-- Whether a character is a space, a tab or a line end. -/
def isSpaceOrLineEnd (c : Char) : Bool :=
  isSpace c || c == '\n'

/-- Whether a character is white space in the sense of Unicode as Markdown understands it: a tab, a
line end of ASCII, or a space separator. Other control characters are none. -/
def isWhiteSpace (c : Char) : Bool :=
  StaticSite.Text.inRanges [(0x09, 0x0d), (0x20, 0x20), (0xa0, 0xa0), (0x1680, 0x1680),
    (0x2000, 0x200a), (0x202f, 0x202f), (0x205f, 0x205f), (0x3000, 0x3000)] c.toNat

namespace Source

/-- The text of a string. -/
def ofString (s : String) : Source :=
  s.toList.toArray

/-- The characters between two offsets. -/
def chars (src : Source) (start stop : Nat) : List Char :=
  (src.extract start stop).toList

/-- The text between two offsets. -/
def slice (src : Source) (start stop : Nat) : String :=
  String.ofList (src.chars start stop)

/-- Whether a place holds a given character. -/
def isAt (src : Source) (i : Nat) (c : Char) : Bool :=
  src[i]? == some c

/-- The first place from `i` on, and no later than `stop`, whose character is not in a class. -/
def skipWhile (src : Source) (p : Char → Bool) (stop i : Nat) : Nat :=
  if _h : i < stop then
    match src[i]? with
    | some c => if p c then skipWhile src p stop (i + 1) else i
    | none => i
  else i
termination_by stop - i

/-- Going back from `i`, and no further than `start`, over characters of a class. -/
def skipBackWhile (src : Source) (p : Char → Bool) (start : Nat) : Nat → Nat
  | 0 => 0
  | i + 1 =>
    if start < i + 1 then
      match src[i]? with
      | some c => if p c then skipBackWhile src p start i else i + 1
      | none => i + 1
    else i + 1

/-- The first place from `i` on that holds a given character. -/
def find? (src : Source) (c : Char) (i : Nat) : Option Nat :=
  let j := src.skipWhile (· != c) src.size i
  if j < src.size then some j else none

end Source

/-! ## Lines

A block sees each line of the source from some place on, indented by some number of columns. A quote
or a list item moves both for the blocks inside it, so a line is a value that containers adapt,
while the source stays as it is. Tabs reach to the next multiple of four columns, counted from the
column at which the visible part of the line begins. -/

/-- A line as a block sees it. -/
structure Line where
  /-- Where the visible part begins. -/
  start : Nat
  /-- Where the line ends, before its line end. -/
  stop : Nat
  /-- The number of characters before the text. -/
  shift : Nat
  /-- The number of columns before the text; negative on a line that only continues a paragraph. -/
  indent : Int
  /-- The column at which the visible part begins. -/
  column : Nat := 0
deriving Repr, Inhabited

namespace Line

/-- Where the text of a line begins. -/
def textStart (line : Line) : Nat :=
  line.start + line.shift

/-- Whether a line has no text. -/
def isEmpty (line : Line) : Bool :=
  line.stop ≤ line.textStart

end Line

/-- The column after a blank that stands at a column, where the visible part of the line begins at
column `base`. -/
def columnAfter (base column : Nat) (c : Char) : Nat :=
  if c = '\t' then column + (4 - (column + base) % 4) else column + 1

namespace Source

/-- Passes the blanks from a place on: the place and the column after them. -/
def skipColumns (src : Source) (base stop i column : Nat) : Nat × Nat :=
  if _h : i < stop then
    match src[i]? with
    | some c =>
      if isSpace c then skipColumns src base stop (i + 1) (columnAfter base column c)
      else (i, column)
    | none => (i, column)
  else (i, column)
termination_by stop - i

/-- The line that begins at a place. Blanks at the very end of a text are no line. -/
def lineAt? (src : Source) (start : Nat) : Option Line :=
  let (textStart, indent) := src.skipColumns 0 src.size start 0
  if textStart < src.size then
    some { start := start
           stop := src.skipWhile (· != '\n') src.size textStart
           shift := textStart - start
           indent := indent }
  else none

/-- The lines of a text from a place on. -/
def linesFrom (src : Source) : (fuel : Nat) → Nat → List Line
  | 0, _ => []
  | fuel + 1, start =>
    match src.lineAt? start with
    | some line => line :: linesFrom src fuel (line.stop + 1)
    | none => []

/-- The lines of a text. -/
def lines (src : Source) : Array Line :=
  (src.linesFrom src.size 0).toArray

/-- Where a line begins once `indent` columns are cut off it, and the column reached there.
Characters before the text that are no blanks count for one column each. -/
def cutIndent (src : Source) (line : Line) (last indent : Nat) (i column : Nat) : Nat × Nat :=
  if _h : i < last then
    if column < indent then
      match src[i]? with
      | some c =>
        if isSpace c then
          cutIndent src line last indent (i + 1) (columnAfter line.column column c)
        else if i - line.start < line.shift then cutIndent src line last indent (i + 1) (column + 1)
        else (i, column)
      | none => (i, column)
    else (i, column)
  else (i, column)
termination_by last - i

/-- The characters of a line without `indent` columns; a tab that reaches further leaves spaces. -/
def indentedChars (src : Source) (line : Line) (indent : Nat) (withLineEnd : Bool) : List Char :=
  let last := if withLineEnd then line.stop + 1 else line.stop
  let (i, column) := src.cutIndent line last indent line.start 0
  List.replicate (column - indent) ' ' ++ src.chars i last

end Source

end StaticSite.Markdown
