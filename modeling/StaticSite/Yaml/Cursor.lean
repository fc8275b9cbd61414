/-!
# Cursors

A configuration file is read from the front, and where on a line something stands means something. A
cursor is the text that is left together with the place where it begins. Texts have no carriage
returns; besides line feeds there are three rarer breaks. They end what a line feed ends, but places
are counted as if the line went on.
-/

set_option autoImplicit false

namespace StaticSite.Yaml

/-- Why a text is no document, or why there is no value for it. -/
inductive YamlError where
  | malformed
  /-- A number or a date is none, or it is too long to be read or to be reported. -/
  | badValue
  /-- A number has no characters. -/
  | emptyNumber
  /-- A word that should be true or false is neither. -/
  | notListed
  /-- A key holds something that no key can hold. -/
  | badKey
  /-- A document asks for a version of the rules that is not known. -/
  | unknownVersion
  /-- An ordered mapping has a key twice. -/
  | repeatedKey
  /-- A moment is after the end of the calendar. -/
  | noMoment
  /-- A number is too great to count with. -/
  | tooGreat
  /-- A document is nested too deeply, or without end. -/
  | tooDeep
deriving DecidableEq, Repr

/-- The text that is left and its place. -/
structure Cursor where
  rest : List Char
  index : Nat := 0
  line : Nat := 0
  column : Nat := 0
deriving DecidableEq, Repr

/-- Whether a character ends a line. -/
def isBreak (c : Char) : Bool :=
  c = '\n' || c = '\u0085' || c = '\u2028' || c = '\u2029'

/-- Whether there is nothing more on the line here. -/
def isBreakOrEnd : Option Char → Bool
  | none => true
  | some c => isBreak c

/-- Whether a mark that has to stand alone does so before this character. -/
def isSeparator : Option Char → Bool
  | some ' ' => true
  | some '\t' => true
  | c => isBreakOrEnd c

/-- Whether there is a space, a break, or nothing. -/
def isSpaceOrEnd (c : Option Char) : Bool :=
  c = some ' ' || isBreakOrEnd c

/-- Whether a text may hold a character at all. -/
def isAllowed (c : Char) : Bool :=
  c = '\t' || c = '\n' || c = '\r' || (' ' ≤ c && c ≤ '~') || c = '\u0085' ||
    (0xa0 ≤ c.toNat && c.toNat != 0xfffe && c.toNat != 0xffff)

namespace Cursor

/-- The cursor after the next character. Only a line feed begins a line; a byte order mark takes no
column. -/
def next (cursor : Cursor) : Cursor :=
  match cursor.rest with
  | [] => cursor
  | c :: rest =>
    if c = '\n' then
      { rest := rest, index := cursor.index + 1, line := cursor.line + 1, column := 0 }
    else
      { rest := rest, index := cursor.index + 1, line := cursor.line
        column := if c = '\ufeff' then cursor.column else cursor.column + 1 }

/-- The cursor after a number of characters. -/
def advance (cursor : Cursor) : Nat → Cursor
  | 0 => cursor
  | n + 1 => cursor.next.advance n

end Cursor

/-- A way to read from a cursor. -/
abbrev Lexer (α : Type) := StateT Cursor (Except YamlError) α

namespace Lexer

/-- The text does not go on as it should. -/
def malformed {α : Type} : Lexer α :=
  throw .malformed

/-- Something that has to be so. -/
def require (holds : Bool) : Lexer Unit :=
  if holds then pure () else malformed

/-- The character some places ahead. -/
def peek (ahead : Nat := 0) : Lexer (Option Char) := do
  pure (← get).rest[ahead]?

/-- The column of the next character. -/
def column : Lexer Nat := do
  pure (← get).column

/-- Reads a number of characters. -/
def take (n : Nat) : Lexer (List Char) := do
  let cursor ← get
  set (cursor.advance n)
  pure (cursor.rest.take n)

/-- Skips a number of characters. -/
def skip (n : Nat := 1) : Lexer Unit :=
  discard (take n)

/-- Reads the characters of a class. -/
def takeWhile (p : Char → Bool) : Lexer (List Char) := do
  let cursor ← get
  take (cursor.rest.takeWhile p).length

/-- Skips the characters of a class. -/
def skipWhile (p : Char → Bool) : Lexer Unit :=
  discard (takeWhile p)

/-- Skips spaces. -/
def skipSpaces : Lexer Unit :=
  skipWhile (· = ' ')

/-- A character that has to be next. -/
def expect (c : Char) : Lexer Unit := do
  require ((← peek) = some c)
  skip

/-- A line break, if there is one, as it counts in a text: the common ones are line feeds. -/
def lineBreak : Lexer (List Char) := do
  match ← peek with
  | some c =>
    if isBreak c then do
      skip
      pure (if c = '\n' || c = '\u0085' then ['\n'] else [c])
    else pure []
  | none => pure []

/-- Spaces up to a column. -/
def skipSpacesTo (column : Nat) : Lexer Unit := do
  let cursor ← get
  skip (cursor.rest.takeWhile (· = ' ') |>.take (column - cursor.column)).length

/-- Whether a line that separates documents begins here. -/
def atDocumentMark : Lexer Bool := do
  let rest := (← get).rest
  pure ((rest.take 3 = ['-', '-', '-'] || rest.take 3 = ['.', '.', '.']) && isSeparator rest[3]?)

/-- The rest of the line up to its break, from a number sign on, if there is one here. -/
def skipComment : Lexer Unit := do
  if (← peek) = some '#' then skipWhile (!isBreak ·)

/-- A bound for the number of steps that read something each. -/
def bound : Lexer Nat := do
  pure ((← get).rest.length + 1)

end Lexer

end StaticSite.Yaml
