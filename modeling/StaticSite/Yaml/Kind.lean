import StaticSite.Text.Split
import StaticSite.Yaml.Scalar
import StaticSite.Yaml.Timestamp

/-!
# Kinds of values

The tag of a node says what kind of value the node stands for. It is written as a name, in which
characters may be given by number, or it follows from how the node is written: a scalar without
quotes and without a tag is a truth value, a number, a date, or nothing at all if it is spelled like
one, and a text otherwise.
-/

set_option autoImplicit false

namespace StaticSite.Yaml

open StaticSite.Text

/-! ## Tags -/

/-- What a node stands for. -/
inductive Tag where
  | null
  | boolean
  | whole
  | real
  | timestamp
  | binary
  | text
  | sequence
  | mapping
  | set
  /-- A mapping that is written as a sequence of entries. -/
  | ordered
  /-- Entries whose keys need not be different. -/
  | pairs
  /-- The key under which a mapping takes over the entries of others. -/
  | merge
  /-- The key of the value that a mapping stands for. -/
  | equals
  /-- Something that is not known. -/
  | other
deriving DecidableEq, Repr, Inhabited

namespace Tag

/-- What the names of all tags begin with. -/
def nameSpace : String := "tag:yaml.org,2002:"

/-- The tags and the last parts of their names. -/
def words : List (String × Tag) :=
  [("null", null), ("bool", boolean), ("int", whole), ("float", real), ("timestamp", timestamp),
   ("binary", binary), ("str", text), ("seq", sequence), ("map", mapping), ("set", set),
   ("omap", ordered), ("pairs", pairs), ("merge", merge), ("value", equals)]

/-- The tag with a name. -/
def ofName (name : String) : Tag :=
  match dropWord? nameSpace.toList name.toList with
  | some word => (words.lookup (String.ofList word)).getD other
  | none => other

/-- A name with the characters that are given by number put in. -/
def unescaped : List Char → List Char
  | '%' :: a :: b :: rest =>
    match hexNumber? [a, b] with
    | some n => Char.ofNat n :: unescaped rest
    | none => '%' :: unescaped (a :: b :: rest)
  | c :: rest => c :: unescaped rest
  | [] => []

end Tag

/-! ## Kinds of scalars -/

/-- Whether characters are digits of a class and underscores, one at least. -/
def areSpaced (isDigit : Char → Bool) (s : List Char) : Bool :=
  !s.isEmpty && s.all fun c => isDigit c || c = '_'

/-- A number without the sign in front. -/
def withoutSign : List Char → List Char
  | '-' :: rest => rest
  | '+' :: rest => rest
  | s => s

/-- Whether characters are the exponent of a number. -/
def isExponent (needsSign : Bool) : List Char → Bool
  | e :: '+' :: digits => (e = 'e' || e = 'E') && areDigits digits
  | e :: '-' :: digits => (e = 'e' || e = 'E') && areDigits digits
  | e :: digits => (e = 'e' || e = 'E') && !needsSign && areDigits digits
  | [] => false

/-- Whether a character may be between the first digit of a number and its point. -/
def isSpacedDigit (c : Char) : Bool :=
  c.isDigit || c = '_'

/-- Whether characters are one or two digits of a number below sixty. -/
def isSixtieth : List Char → Bool
  | [ones] => ones.isDigit
  | [tens, ones] => '0' ≤ tens && tens ≤ '5' && ones.isDigit
  | _ => false

/-- Whether a number is written in base sixty, with colons between its parts. -/
def isSexagesimal (s : List Char) : Bool :=
  match splitAt ':' s with
  | first :: part :: parts =>
    (first.head?).any Char.isDigit && first.all isSpacedDigit && (part :: parts).all isSixtieth
  | _ => false

/-- Whether a text is spelled like a number that need not be whole. By the old rules a number that
begins with its point has no sign, and a number may be written in base sixty. -/
def isReal (isOld : Bool) (s : List Char) : Bool :=
  let unsigned := withoutSign s
  [".nan", ".NaN", ".NAN"].contains (String.ofList s) ||
    [".inf", ".Inf", ".INF"].contains (String.ofList unsigned) ||
    (isOld && (cutAt? '.' unsigned).any fun (before, after) =>
      isSexagesimal before && after.all isSpacedDigit) ||
    match unsigned with
    | '.' :: rest =>
      let after := rest.dropWhile isSpacedDigit
      !(rest.takeWhile isSpacedDigit).isEmpty && (after.isEmpty || isExponent true after) &&
        (!isOld || s.head? = some '.')
    | c :: rest =>
      c.isDigit && match rest.dropWhile isSpacedDigit with
        | '.' :: rest =>
          let after := rest.dropWhile isSpacedDigit
          after.isEmpty || isExponent false after
        | after => isExponent false after
    | [] => false

/-- Whether a character is an octal digit. -/
def isOctal (c : Char) : Bool :=
  '0' ≤ c && c ≤ '7'

/-- Whether a character is a hexadecimal digit. -/
def isHexadecimal (c : Char) : Bool :=
  c.isDigit || ('a' ≤ c && c ≤ 'f') || ('A' ≤ c && c ≤ 'F')

/-- Whether a text is spelled like a whole number. By the old rules an octal number begins with a
zero alone, another number does not begin with one, and a number may be written in base sixty. -/
def isWhole (isOld : Bool) (s : List Char) : Bool :=
  let startsRight := (s.head?).any fun c => c.isDigit || c = '-' || c = '+'
  startsRight && match withoutSign s with
    | '0' :: 'b' :: digits => areSpaced (fun c => c = '0' || c = '1') digits
    | '0' :: 'x' :: digits => areSpaced isHexadecimal digits
    | '0' :: 'o' :: digits => !isOld && areSpaced isOctal digits
    | digits =>
      if isOld then areSpaced isOctal digits ||
        (digits.head? != some '0' && digits.head? != some '_' &&
          (areSpaced Char.isDigit digits || isSexagesimal digits))
      else areSpaced Char.isDigit digits

/-- The spellings of truth values. -/
def booleanWords (isOld : Bool) : List String :=
  ["true", "True", "TRUE", "false", "False", "FALSE"] ++
    if isOld then
      ["y", "Y", "yes", "Yes", "YES", "n", "N", "no", "No", "NO", "on", "On", "ON", "off", "Off",
       "OFF"]
    else []

/-- The spellings of nothing. -/
def nullWords : List String :=
  ["", "~", "null", "Null", "NULL"]

/-- A text without a line feed at its end, after which nothing is spelled. -/
def withoutLastBreak (s : List Char) : List Char :=
  if s.getLast? = some '\n' && 1 < s.length then s.dropLast else s

/-- What a scalar without quotes or tag stands for. -/
def kindOf (isOld : Bool) (text : String) : Tag :=
  let s := withoutLastBreak text.toList
  let word := String.ofList s
  if nullWords.contains word then .null
  else if (booleanWords isOld).contains word then .boolean
  else if word = "<<" then .merge
  else if word = "=" then .equals
  else if ["!", "&", "*"].contains word then .other
  else if isReal isOld s then .real
  else if isWhole isOld s then .whole
  else if isTimestamp s then .timestamp
  else .text

end StaticSite.Yaml
