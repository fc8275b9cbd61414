import StaticSite.Text.Blank

/-!
# Written integers

Integers as authors write them: blanks around the number are ignored, a sign may stand in front,
single underscores may separate digits, and the decimal digits of every script are accepted. A
decimal integer has no more than `digitLimit` digits, leading zeros included. The digits of another
base may begin with a zero and the letter of the base.
-/

set_option autoImplicit false

namespace StaticSite.Text

/-- The code points of the digit zero in each script; the nine others follow it. -/
def zeroDigits : List Nat :=
  [
   0x30, 0x660, 0x6f0, 0x7c0, 0x966, 0x9e6, 0xa66, 0xae6, 0xb66, 0xbe6, 0xc66, 0xce6, 0xd66,
   0xde6, 0xe50, 0xed0, 0xf20, 0x1040, 0x1090, 0x17e0, 0x1810, 0x1946, 0x19d0, 0x1a80, 0x1a90,
   0x1b50, 0x1bb0, 0x1c40, 0x1c50, 0xa620, 0xa8d0, 0xa900, 0xa9d0, 0xa9f0, 0xaa50, 0xabf0, 0xff10,
   0x104a0, 0x10d30, 0x11066, 0x110f0, 0x11136, 0x111d0, 0x112f0, 0x11450, 0x114d0, 0x11650,
   0x116c0, 0x11730, 0x118e0, 0x11950, 0x11c50, 0x11d50, 0x11da0, 0x16a60, 0x16ac0, 0x16b50,
   0x1d7ce, 0x1d7d8, 0x1d7e2, 0x1d7ec, 0x1d7f6, 0x1e140, 0x1e2f0, 0x1e950, 0x1fbf0
  ]

/-- The value of a decimal digit of any script. -/
def digitValue? (c : Char) : Option Nat :=
  (zeroDigits.find? fun z => z ≤ c.toNat && c.toNat ≤ z + 9).map (c.toNat - ·)

/-- A character as it counts in a number: a digit of any script as the ASCII digit of its value, and
a blank outside ASCII as a space. -/
def plainNumberChar (c : Char) : Char :=
  if c.toNat < 0x80 then c
  else
    match digitValue? c with
    | some d => Char.ofNat ('0'.toNat + d)
    | none => if isBlank c then ' ' else c

/-- Whether a character is white space of ASCII. The four separators are none. -/
def isAsciiSpace (c : Char) : Bool :=
  c = ' ' || ('\t' ≤ c && c ≤ '\r')

/-- A number in plain characters, without the white space around it. -/
def plainNumber (s : List Char) : List Char :=
  stripBy isAsciiSpace (s.map plainNumberChar)

/-- The value of an ASCII digit or letter as a digit. -/
def digitOf? (c : Char) : Option Nat :=
  if c.isDigit then some (c.toNat - '0'.toNat)
  else if c.isAlpha then some (c.toLower.toNat - 'a'.toNat + 10)
  else none

/-- Reads digits of a base, most significant first, onto a value; a single underscore may stand
between two digits. -/
def readDigits (base value : Nat) : List Char → Option Nat
  | [] => some value
  | '_' :: c :: rest =>
    match digitOf? c with
    | some d => if d < base then readDigits base (base * value + d) rest else none
    | none => none
  | c :: rest =>
    match digitOf? c with
    | some d => if d < base then readDigits base (base * value + d) rest else none
    | none => none

/-- The greatest number of decimal digits that an integer may be written with. -/
def digitLimit : Nat := 4300

/-- Whether a text has no more digits than an integer of a base may have; underscores do not count,
and the bases that are powers of two have no limit. -/
def fitsDigitLimit (base : Nat) (s : List Char) : Bool :=
  base != 10 || s.length - s.count '_' ≤ digitLimit

/-- The letter that may follow a zero in front of the digits of a base. -/
def baseLetter? : Nat → Option Char
  | 2 => some 'b'
  | 8 => some 'o'
  | 16 => some 'x'
  | _ => none

/-- The digits of a base without the mark of the base, after which one underscore may stand. -/
def withoutBaseMark (base : Nat) : List Char → List Char
  | '0' :: c :: rest =>
    if baseLetter? base = some c.toLower then
      match rest with
      | '_' :: digits => digits
      | digits => digits
    else '0' :: c :: rest
  | s => s

/-- Reads an unsigned number of a base, which begins with a digit. -/
def readUnsigned (base : Nat) (s : List Char) : Option Nat :=
  let digits := withoutBaseMark base s
  if digits.isEmpty || digits.head? = some '_' || !fitsDigitLimit base digits then none
  else readDigits base 0 digits

/-- The integer that a text writes in a base, if it writes one. -/
def readIntegerIn? (base : Nat) (s : String) : Option Int :=
  match plainNumber s.toList with
  | '-' :: digits => (readUnsigned base digits).map fun n => -Int.ofNat n
  | '+' :: digits => (readUnsigned base digits).map Int.ofNat
  | digits => (readUnsigned base digits).map Int.ofNat

/-- The integer that a text writes in the decimal system, if it writes one. -/
def readInteger? (s : String) : Option Int :=
  readIntegerIn? 10 s

end StaticSite.Text
