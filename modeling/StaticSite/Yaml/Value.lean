import StaticSite.Calendar.Moment
import StaticSite.Number.Binary64
import StaticSite.Text.Integer
import StaticSite.Yaml.ScalarText

/-!
# Values

What a setting can be: a value by itself, or a collection of values. In a message a value is written
in full; a collection inside itself is left out there. The same holds for a value that is given from
elsewhere than a configuration file.
-/

set_option autoImplicit false

namespace StaticSite.Yaml

open StaticSite.Calendar StaticSite.Number StaticSite.Text

/-- A value that holds no others. -/
inductive Atom where
  | null
  | boolean (value : Bool)
  | whole (value : Int)
  /-- A number. Numbers that are none are the same only if they come from one source. -/
  | real (value : Binary64) (source : Nat := 0)
  | text (value : String)
  /-- A text that is no string. -/
  | broken (points : List CodePoint)
  | bytes (value : List UInt8)
  | date (value : Date)
  /-- A moment, with the name of its zone if it has one. -/
  | moment (value : Moment) (zone : String)
deriving DecidableEq, Repr, Inhabited

/-- The kinds of collections. -/
inductive Shape where
  | list
  | mapping
  /-- A mapping that was given in order. -/
  | ordered
  | set
deriving DecidableEq, Repr

/-- A value. -/
inductive Value where
  | atom (a : Atom)
  | list (items : List Value)
  /-- A list that never changes. -/
  | tuple (items : List Value)
  | mapping (entries : List (Value × Value))
  | ordered (entries : List (Value × Value))
  | set (members : List Value)
  /-- A collection around the place that this stands in. -/
  | outer (shape : Shape)
deriving Inhabited

namespace Value

/-- Nothing. -/
@[match_pattern] abbrev null : Value := .atom .null

/-- A truth value. -/
@[match_pattern] abbrev boolean (b : Bool) : Value := .atom (.boolean b)

/-- A text. -/
@[match_pattern] abbrev text (s : String) : Value := .atom (.text s)

end Value

namespace Atom

/-- The atom of the text of a scalar. -/
def ofText : ScalarText → Atom
  | .string s => text s
  | .broken points => broken points

/-- Whether a value says anything: null, false, zero, and what is empty do not. -/
def isSet : Atom → Bool
  | null => false
  | boolean value => value
  | whole value => value != 0
  | real value _ => !value.isZero
  | text value => !value.isEmpty
  | bytes value => !value.isEmpty
  | _ => true

/-- The word for the kind of a value. -/
def kindWord : Atom → String
  | null => "NoneType"
  | boolean _ => "bool"
  | whole _ => "int"
  | real _ _ => "float"
  | text _ => "str"
  | broken _ => "str"
  | bytes _ => "bytes"
  | date _ => "date"
  | moment _ _ => "datetime"

/-! ## In messages -/

/-- Words in parentheses, after another one. -/
def call (word : String) (arguments : List String) : String :=
  word ++ "(" ++ String.intercalate ", " arguments ++ ")"

/-- The numbers of a moment, without the last ones that are zero. -/
def momentNumbers (m : Moment) : List Nat :=
  let whole := [m.date.year, m.date.month, m.date.day, m.hour, m.minute]
  if m.microsecond != 0 then whole ++ [m.second, m.microsecond]
  else if m.second != 0 then whole ++ [m.second]
  else whole

/-- How far a zone is to the east, as days and seconds of a day to the east. -/
def offsetLiteral (o : Offset) : String :=
  call "datetime.timedelta" <|
    if o.seconds = 0 then ["0"]
    else if o.east then ["seconds=" ++ toString o.seconds]
    else ["days=-1", "seconds=" ++ toString (86400 - o.seconds)]

/-- A moment inside a collection in a message. -/
def momentLiteral (m : Moment) (zone : String) : String :=
  call "datetime.datetime" <| (momentNumbers m).map toString ++
    match m.offset with
    | some o => ["tzinfo=" ++ call "datetime.timezone" [offsetLiteral o, quoted zone]]
    | none => []

/-- A byte between quotes. -/
def quotedByte (quote : Char) (b : UInt8) : List Char :=
  let c := Char.ofNat b.toNat
  if b < 0x80 then quotedChar quote c else '\\' :: 'x' :: hexNumber 2 b.toNat

/-- Bytes in quotes. -/
def quotedBytes (bytes : List UInt8) : String :=
  let mark := quoteMark (bytes.map fun b => Char.ofNat b.toNat)
  String.ofList ('b' :: mark :: bytes.flatMap (quotedByte mark) ++ [mark])

/-- A value inside a collection in a message. -/
def literal : Atom → String
  | null => "None"
  | boolean true => "True"
  | boolean false => "False"
  | whole value => toString value
  | real value _ => value.text
  | text value => quoted value
  | broken points => (ScalarText.broken points).quoted
  | bytes value => quotedBytes value
  | date value =>
    call "datetime.date" [toString value.year, toString value.month, toString value.day]
  | moment value zone => momentLiteral value zone

/-- A value in a message. -/
def display : Atom → String
  | text value => value
  | broken points => (ScalarText.broken points).toString
  | date value => value.text
  | moment value _ =>
    value.date.text ++ " " ++ value.clockText ++ ((value.offset.map Offset.text).getD "")
  | value => value.literal

/-- Whether a value can be written: a whole number can if it does not have too many digits. -/
def isWritable : Atom → Bool
  | whole value => value.natAbs < Nat.pow 10 digitLimit
  | _ => true

/-! ## As keys -/

/-- Whether a number is a whole one. -/
def isWholeNumber (n : Int) : Binary64 → Bool
  | .finite negative mantissa exponent =>
    (mantissa = 0 && n = 0) ||
      (decide (n < 0) = negative && match exponent with
        | .ofNat e => n.natAbs = mantissa * Nat.pow 2 e
        | .negSucc e => n.natAbs * Nat.pow 2 (e + 1) = mantissa)
  | _ => false

/-- The whole number that a value counts as. -/
def wholeNumber? : Atom → Option Int
  | boolean value => some (if value then 1 else 0)
  | whole value => some value
  | _ => none

/-- Whether two values are the same key. Numbers that are equal are, also if they are of different
kinds; so are moments at one time in different zones. -/
def same : Atom → Atom → Bool
  | real .nan s, real .nan t => s = t
  | real r _, real q _ => (r.isZero && q.isZero) || r = q
  | real r _, other => (wholeNumber? other).any fun n => isWholeNumber n r
  | other, real r _ => (wholeNumber? other).any fun n => isWholeNumber n r
  | moment m _, moment n _ => m.isSame n
  | one, other =>
    match wholeNumber? one, wholeNumber? other with
    | some n, some k => n = k
    | none, none => one = other
    | _, _ => false

end Atom

namespace Value

/-- The word for the kind of a value. -/
def kindWord : Value → String
  | atom a => a.kindWord
  | list _ => "list"
  | tuple _ => "tuple"
  | mapping _ => "dict"
  | ordered _ => "ordereddict"
  | set _ => "set"
  | outer .list => "list"
  | outer .mapping => "dict"
  | outer .ordered => "ordereddict"
  | outer .set => "set"

mutual

/-- A value inside a collection in a message. -/
def literal : Value → String
  | atom a => a.literal
  | list items => "[" ++ literals items ++ "]"
  | tuple [item] => "(" ++ literal item ++ ",)"
  | tuple items => "(" ++ literals items ++ ")"
  | mapping entries => "\x7b" ++ entryLiterals entries ++ "\x7d"
  | ordered [] => "ordereddict()"
  | ordered entries => "ordereddict([" ++ pairLiterals entries ++ "])"
  | set [] => "set()"
  | set members => "\x7b" ++ literals members ++ "\x7d"
  | outer .list => "[...]"
  | outer .mapping => "\x7b...\x7d"
  | outer .ordered => "..."
  | outer .set => "set(...)"

/-- Values with commas between them. -/
def literals : List Value → String
  | [] => ""
  | [value] => literal value
  | value :: rest => literal value ++ ", " ++ literals rest

/-- Entries with commas between them. -/
def entryLiterals : List (Value × Value) → String
  | [] => ""
  | [(key, value)] => literal key ++ ": " ++ literal value
  | (key, value) :: rest => literal key ++ ": " ++ literal value ++ ", " ++ entryLiterals rest

/-- Entries as pairs, with commas between them. -/
def pairLiterals : List (Value × Value) → String
  | [] => ""
  | [(key, value)] => "(" ++ literal key ++ ", " ++ literal value ++ ")"
  | (key, value) :: rest =>
    "(" ++ literal key ++ ", " ++ literal value ++ "), " ++ pairLiterals rest

end

/-- A value in a message. -/
def display : Value → String
  | atom a => a.display
  | value => value.literal

mutual

/-- Whether a value can be written in a message. -/
def isWritable : Value → Bool
  | atom a => a.isWritable
  | list items => areWritable items
  | tuple items => areWritable items
  | mapping entries => areEntriesWritable entries
  | ordered entries => areEntriesWritable entries
  | set members => areWritable members
  | outer _ => true

/-- Whether values can be written. -/
def areWritable : List Value → Bool
  | [] => true
  | value :: rest => isWritable value && areWritable rest

/-- Whether entries can be written. -/
def areEntriesWritable : List (Value × Value) → Bool
  | [] => true
  | (key, value) :: rest => isWritable key && isWritable value && areEntriesWritable rest

end

end Value

end StaticSite.Yaml
