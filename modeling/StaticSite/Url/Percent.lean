/-!
# Percent notation

The bytes of characters that may not stand in an address, and their reading back. `encode` leaves
what is already in percent notation alone; `decode` is for showing an address to people, so it
leaves the characters that structure an address, and the percent sign, in notation.
-/

set_option autoImplicit false

namespace StaticSite.Url

/-- A hexadecimal digit in upper case. -/
def hexDigit (n : Nat) : Char :=
  if n < 10 then Char.ofNat (0x30 + n) else Char.ofNat (0x41 + (n - 10))

/-- The value of a hexadecimal digit of either case. -/
def hexValue? (c : Char) : Option Nat :=
  if '0' ≤ c ∧ c ≤ '9' then some (c.toNat - 0x30)
  else if 'a' ≤ c ∧ c ≤ 'f' then some (c.toNat - 0x61 + 10)
  else if 'A' ≤ c ∧ c ≤ 'F' then some (c.toNat - 0x41 + 10)
  else none

/-- A byte in percent notation. -/
def percentByte (byte : UInt8) : List Char :=
  ['%', hexDigit (byte.toNat / 16), hexDigit (byte.toNat % 16)]

/-- The bytes of a character in percent notation. -/
def percentChar (c : Char) : List Char :=
  (String.utf8EncodeChar c).flatMap percentByte

namespace Percent

/-- The characters that an address keeps, besides letters and digits. -/
def kept : List Char :=
  ";/?:@&=+$,-_.!~*'()#".toList

/-- Puts an address into the URL alphabet. -/
def encode : List Char → List Char
  | '%' :: a :: b :: rest =>
    if (hexValue? a).isSome && (hexValue? b).isSome then '%' :: a :: b :: encode rest
    else percentChar '%' ++ encode (a :: b :: rest)
  | c :: rest =>
    (if c.isAlphanum || kept.contains c then [c] else percentChar c) ++ encode rest
  | [] => []

/-- The characters that stay in percent notation when an address is shown. -/
def structural : List Char :=
  ";/?:@&=+$,#%".toList

/-- A character in place of bytes that write none. -/
def replacement : Char := '\uFFFD'

/-- The character that an ASCII byte writes, in notation if it is structural. -/
def decodeAscii (byte : Nat) : List Char :=
  let c := Char.ofNat byte
  if structural.contains c then percentChar c else [c]

/-- The character of a sequence of UTF-8 bytes, or as many replacement characters as there are
bytes. -/
def decodeSequence (bytes : List Nat) : List Char :=
  match String.fromUTF8? (ByteArray.mk (bytes.map UInt8.ofNat).toArray) with
  | some s => s.toList
  | none => bytes.map fun _ => replacement

/-- Whether a byte continues a sequence. -/
def continues (byte : Nat) : Bool :=
  byte / 64 == 2

/-- The characters that a run of bytes writes. A leading byte takes the bytes it announces if they
are there and continue it; otherwise it writes a replacement character. -/
def decodeBytes : List Nat → List Char
  | [] => []
  | b1 :: rest =>
    if b1 < 0x80 then decodeAscii b1 ++ decodeBytes rest
    else if b1 / 32 = 6 then
      match rest with
      | b2 :: rest' =>
        if continues b2 then decodeSequence [b1, b2] ++ decodeBytes rest'
        else replacement :: decodeBytes (b2 :: rest')
      | [] => [replacement]
    else if b1 / 16 = 14 then
      match rest with
      | b2 :: b3 :: rest' =>
        if continues b2 && continues b3 then decodeSequence [b1, b2, b3] ++ decodeBytes rest'
        else replacement :: decodeBytes (b2 :: b3 :: rest')
      | rest' => replacement :: decodeBytes rest'
    else if b1 / 8 = 30 then
      match rest with
      | b2 :: b3 :: b4 :: rest' =>
        if continues b2 && continues b3 && continues b4 then
          decodeSequence [b1, b2, b3, b4] ++ decodeBytes rest'
        else replacement :: decodeBytes (b2 :: b3 :: b4 :: rest')
      | rest' => replacement :: decodeBytes rest'
    else replacement :: decodeBytes rest

/-- Shows an address: `run` holds the bytes of the percent notation just before. -/
def decodeFrom (run : List Nat) : List Char → List Char
  | '%' :: a :: b :: rest =>
    match hexValue? a, hexValue? b with
    | some high, some low => decodeFrom (run ++ [16 * high + low]) rest
    | _, _ => decodeBytes run ++ '%' :: decodeFrom [] (a :: b :: rest)
  | c :: rest => decodeBytes run ++ c :: decodeFrom [] rest
  | [] => decodeBytes run

/-- Shows an address. -/
def decode (address : List Char) : List Char :=
  decodeFrom [] address

end Percent

end StaticSite.Url
