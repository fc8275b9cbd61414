import StaticSite.Number.Binary64
import StaticSite.Number.Written
import StaticSite.Text.Integer
import StaticSite.Yaml.Cursor

/-!
# What scalars mean

The truth value, the number or the bytes that a text writes. The underscores in a number do not
count. By the old rules the parts of a number in base sixty have colons between them.
-/

set_option autoImplicit false

namespace StaticSite.Yaml

open StaticSite.Number StaticSite.Text

/-- The truth value that a word means, in any case. -/
def readBoolean? (text : String) : Option Bool :=
  let word := text.toLower
  if ["yes", "y", "true", "on"].contains word then some true
  else if ["no", "n", "false", "off"].contains word then some false
  else none

/-! ## Whole numbers -/

/-- A number without its underscores and without the sign in front, and whether that is a minus. -/
def cutNumber (text : String) : Except YamlError (Bool × List Char) :=
  match text.toList.filter (· != '_') with
  | [] => .error .emptyNumber
  | number => .ok (Written.cutSign number)

/-- The whole number that characters write in a base. -/
def readInBase (base : Nat) (digits : List Char) : Except YamlError Int :=
  match readIntegerIn? base (String.ofList digits) with
  | some n => .ok n
  | none => .error .badValue

/-- The number that whole numbers write in base sixty, the most significant one first. -/
def ofSixtieths (parts : List Int) : Int :=
  parts.foldl (fun n part => 60 * n + part) 0

/-- The whole number that characters write without the sign in front. -/
def readUnsignedWhole (isOld : Bool) : List Char → Except YamlError Int
  | '0' :: 'b' :: digits => readInBase 2 digits
  | '0' :: 'x' :: digits => readInBase 16 digits
  | '0' :: 'o' :: digits => readInBase 8 digits
  | [] => .error (if isOld then .emptyNumber else .badValue)
  | digits =>
    if isOld && digits.head? = some '0' && 1 < digits.length then readInBase 8 digits
    else if isOld && digits.contains ':' then
      ((splitAt ':' digits).mapM (readInBase 10)).map ofSixtieths
    else readInBase 10 digits

/-- The whole number that a text writes. -/
def readWhole (isOld : Bool) (text : String) : Except YamlError Int := do
  let (negative, digits) ← cutNumber text
  let n ← readUnsignedWhole isOld digits
  pure (if negative then -n else n)

/-! ## Other numbers -/

/-- The number that characters write, with a point and an exponent if they like. -/
def readUnsignedReal (s : List Char) : Except YamlError Binary64 :=
  match Written.readReal? (String.ofList s) with
  | some r => .ok r
  | none => .error .badValue

/-- The sum of numbers that count once, sixty times, and so on, the least significant one first. -/
def sumOfSixtieths (base : Nat) (sum : Binary64) : List Binary64 → Except YamlError Binary64
  | [] => .ok sum
  | part :: rest =>
    match Binary64.ofRatio false base 1 with
    | .infinity _ => .error .tooGreat
    | weight => sumOfSixtieths (60 * base) (sum.add (part.mul weight)) rest

/-- Whether a text spells a number that is none, as it is spelled without a tag. -/
def isNamedNan (text : String) : Bool :=
  match cutNumber (String.ofList (text.toList.map Char.toLower)) with
  | .ok (_, s) => s = ".nan".toList
  | .error _ => false

/-- The number that a text writes. -/
def readReal (isOld : Bool) (text : String) : Except YamlError Binary64 := do
  let (negative, s) ← cutNumber (String.ofList (text.toList.map Char.toLower))
  let r ←
    if s = ".inf".toList then .ok (.infinity false)
    else if s = ".nan".toList then .ok .nan
    else if isOld && s.contains ':' then
      (splitAt ':' s).mapM readUnsignedReal >>= fun parts =>
        sumOfSixtieths 1 (.finite false 0 0) parts.reverse
    else readUnsignedReal s
  pure (if negative then r.neg else r)

/-! ## Bytes -/

/-- The value of a digit in base sixty-four. -/
def sixtyFourth? (c : Char) : Option Nat :=
  if 'A' ≤ c && c ≤ 'Z' then some (c.toNat - 'A'.toNat)
  else if 'a' ≤ c && c ≤ 'z' then some (c.toNat - 'a'.toNat + 26)
  else if c.isDigit then some (c.toNat - '0'.toNat + 52)
  else if c = '+' then some 62
  else if c = '/' then some 63
  else none

/-- The bytes that characters write in base sixty-four, four digits for three bytes. `left` has the
digits since the last four, and `pads` counts the signs in a row that stand for missing digits. What
is neither of both does not count, nor what comes after the last digits have been made up to four.
-/
def bytesOfDigits (left : List Nat) (pads : Nat) : List Char → Option (List UInt8)
  | [] => if left.isEmpty then some [] else none
  | '=' :: rest =>
    if 2 ≤ left.length then
      if 4 ≤ left.length + pads + 1 then some [] else bytesOfDigits left (pads + 1) rest
    else bytesOfDigits left pads rest
  | c :: rest =>
    match sixtyFourth? c, left with
    | none, _ => bytesOfDigits left pads rest
    | some d, [] => bytesOfDigits [d] 0 rest
    | some d, [a] => (bytesOfDigits [a, d] 0 rest).map (.ofNat (4 * a + d / 16) :: ·)
    | some d, [a, b] => (bytesOfDigits [a, b, d] 0 rest).map (.ofNat (16 * b + d / 4) :: ·)
    | some d, _ :: _ :: c :: _ => (bytesOfDigits [] 0 rest).map (.ofNat (64 * c + d) :: ·)

/-- The bytes that a text writes. -/
def readBytes (text : String) : Except YamlError (List UInt8) :=
  match text.toList.all (·.toNat < 0x80), bytesOfDigits [] 0 text.toList with
  | true, some bytes => .ok bytes
  | _, _ => .error .malformed

end StaticSite.Yaml
