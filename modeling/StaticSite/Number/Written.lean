import StaticSite.Number.Binary64
import StaticSite.Text.Integer
import StaticSite.Text.Split

/-!
# Written numbers

Real and complex numbers as people write them: with a sign, a point and an exponent where they like,
or as `inf`, `infinity` and `nan` in letters of either case. Blanks around a number are ignored,
single underscores may separate digits, and the decimal digits of every script are accepted.
-/

set_option autoImplicit false

namespace StaticSite.Number.Written

open StaticSite.Text

/-- The number that ASCII digits write. -/
def decimal (digits : List Char) : Nat :=
  digits.foldl (fun n c => 10 * n + (c.toNat - '0'.toNat)) 0

/-- Cuts a sign off the front of a number, and tells whether it is a minus. -/
def cutSign : List Char → Bool × List Char
  | '-' :: rest => (true, rest)
  | '+' :: rest => (false, rest)
  | s => (false, s)

/-- Reads an exponent at the front of a text, if there is one. -/
def readExponent (s : List Char) : Int × List Char :=
  match s with
  | [] => (0, s)
  | e :: rest =>
    let (negative, rest) := cutSign rest
    let digits := rest.takeWhile Char.isDigit
    if e.toLower != 'e' || digits.isEmpty then (0, s)
    else
      let value := Int.ofNat (decimal digits)
      (if negative then -value else value, rest.drop digits.length)

/-- Reads digits with a point and an exponent at the front of a text. -/
def readDecimal? (negative : Bool) (s : List Char) : Option (Binary64 × List Char) :=
  let before := s.takeWhile Char.isDigit
  let rest := s.drop before.length
  let after := match rest with
    | '.' :: rest => rest.takeWhile Char.isDigit
    | _ => []
  if before.isEmpty && after.isEmpty then none
  else
    let rest := match rest with
      | '.' :: rest => rest.drop after.length
      | rest => rest
    let (exponent, rest) := readExponent rest
    some (Binary64.ofDecimal negative (decimal (before ++ after))
      (exponent - Int.ofNat after.length), rest)

/-- The numbers that have names. -/
def named (negative : Bool) : List (String × Binary64) :=
  [("infinity", .infinity negative), ("inf", .infinity negative), ("nan", .nan)]

/-- Reads a real number at the front of a text. -/
def readPart? (s : List Char) : Option (Binary64 × List Char) :=
  let (negative, unsigned) := cutSign s
  let word := unsigned.map Char.toLower
  match (named negative).find? fun (name, _) => name.toList.isPrefixOf word with
  | some (name, value) => some (value, unsigned.drop name.length)
  | none => readDecimal? negative unsigned

/-- A number without its underscores, each of which stands between two digits; `last` is the
character before. -/
def withoutUnderscores? (last : Char) : List Char → Option (List Char)
  | [] => some []
  | '_' :: c :: rest =>
    if last.isDigit && c.isDigit then (withoutUnderscores? c rest).map (c :: ·) else none
  | c :: rest => if c = '_' then none else (withoutUnderscores? c rest).map (c :: ·)

/-- The real number that a text writes, if it writes one. -/
def readReal? (s : String) : Option Binary64 := do
  let digits ← withoutUnderscores? ' ' (plainNumber s.toList)
  match ← readPart? digits with
  | (value, []) => some value
  | _ => none

/-- Whether a text is the imaginary part of a number: a sign, and perhaps how many units. -/
def isImaginary (s : List Char) : Bool :=
  let unit (s : List Char) := s.map Char.toLower = ['j']
  let units := match readPart? s with
    | some (_, rest) => unit rest
    | none => false
  match s with
  | '+' :: rest => unit rest || units
  | '-' :: rest => unit rest || units
  | _ => false

/-- Whether a text writes a number with a sign in front, real or complex, or an integer with the
mark of its base. -/
def isSignedNumber (s : String) : Bool :=
  let number := plainNumber s.toList
  let isComplex := match withoutUnderscores? ' ' number with
    | some digits =>
      isImaginary digits || match readPart? digits with
        | some (_, rest) => rest.isEmpty || isImaginary rest
        | none => false
    | none => false
  isComplex || [2, 8, 16].any fun base =>
    let unsigned := (cutSign number).2
    withoutBaseMark base unsigned != unsigned && (readIntegerIn? base s).isSome

end StaticSite.Number.Written
