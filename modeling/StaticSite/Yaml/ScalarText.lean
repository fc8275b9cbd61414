import StaticSite.Text.Printable

/-!
# Tokens of configuration files

What the text of a document is cut into. The tokens of block collections have no characters of their
own: they stand where the indentation begins and ends a collection. An escape in quotes may name any
code point, also one that is set aside for half of a character. A text with such a code point is no
string. It is kept as it is, since a message can still show it and a mapping can still have it as a
key.
-/

set_option autoImplicit false

namespace StaticSite.Yaml

open StaticSite.Text

/-! ## Texts of scalars -/

/-- A code point: that of a character, or one that is set aside. -/
inductive CodePoint where
  | char (c : Char)
  | setAside (n : Nat)
deriving DecidableEq, Repr

namespace CodePoint

/-- The code point with a number. -/
def ofNat (n : Nat) : CodePoint :=
  if n.isValidChar then char (Char.ofNat n) else setAside n

/-- The character of a code point, if it has one. -/
def char? : CodePoint → Option Char
  | char c => some c
  | setAside _ => none

/-- The character of a code point, or the one that stands for what is none. -/
def toChar (p : CodePoint) : Char :=
  p.char?.getD '\ufffd'

/-- A code point between quotes. -/
def quoted (quote : Char) : CodePoint → List Char
  | char c => quotedChar quote c
  | setAside n => '\\' :: 'u' :: hexNumber 4 n

end CodePoint

/-- The text of a scalar. -/
inductive ScalarText where
  | string (s : String)
  /-- A text with code points that are set aside. -/
  | broken (points : List CodePoint)
deriving DecidableEq, Repr, Inhabited

namespace ScalarText

/-- The text that code points make. -/
def ofPoints (points : List CodePoint) : ScalarText :=
  match points.mapM CodePoint.char? with
  | some s => string (String.ofList s)
  | none => broken points

/-- A text as a string. What is no character is replaced. -/
def toString : ScalarText → String
  | string s => s
  | broken points => String.ofList (points.map CodePoint.toChar)

/-- A text in quotes. -/
def quoted : ScalarText → String
  | string s => StaticSite.Text.quoted s
  | broken points =>
    let mark := quoteMark (points.map CodePoint.toChar)
    String.ofList (mark :: points.flatMap (CodePoint.quoted mark) ++ [mark])

end ScalarText

/-! ## Tokens -/

/-- A tag as it is written: a handle, and what follows it. -/
structure TagName where
  handle : Option String
  suffix : String
deriving DecidableEq, Repr

/-- What is said about a document before it. -/
inductive Directive where
  | version (major minor : Nat)
  | handle (handle leading : String)
  | other
deriving DecidableEq, Repr

/-- The kinds of collections that brackets enclose. -/
inductive FlowKind where
  | sequence
  | mapping
deriving DecidableEq, Repr

/-- A token. -/
inductive Token where
  | directive (d : Directive)
  | documentStart
  | documentEnd
  | streamEnd
  | blockSequenceStart
  | blockMappingStart
  | blockEnd
  | flowStart (kind : FlowKind)
  | flowEnd (kind : FlowKind)
  | flowEntry
  | blockEntry
  | key
  | value
  | alias (name : String)
  | anchor (name : String)
  | tag (name : TagName)
  /-- A scalar; a plain one is without quotes or other marks. -/
  | scalar (text : ScalarText) (isPlain : Bool)
deriving DecidableEq, Repr

end StaticSite.Yaml
