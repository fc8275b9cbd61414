import StaticSite.Text.Printable
import StaticSite.Text.Split

/-!
# UTF-8

Text files hold UTF-8. `encode` writes a text as bytes, and `decode` reads bytes as text or says
which bytes are not UTF-8 and why. Surrogates, overlong forms and numbers past the last code point
are not UTF-8, and the first byte that shows this ends the report.
-/

set_option autoImplicit false

namespace StaticSite.File

/-- Why bytes are not UTF-8. -/
inductive EncodingFault where
  | startByte
  | continuationByte
  | endOfData
deriving DecidableEq, Repr

/-- Bytes that are not UTF-8: where they start, how many they are, and the first of them. -/
structure EncodingError where
  fault : EncodingFault
  position : Nat
  length : Nat
  first : UInt8
deriving DecidableEq, Repr

/-- What is wrong, in words. -/
def EncodingFault.message : EncodingFault → String
  | startByte => "invalid start byte"
  | continuationByte => "invalid continuation byte"
  | endOfData => "unexpected end of data"

/-- The report of bytes that are not UTF-8. -/
def EncodingError.message (e : EncodingError) : String :=
  let place :=
    if e.length = 1 then
      "byte 0x" ++ String.ofList (StaticSite.Text.hexNumber 2 e.first.toNat) ++ " in position " ++
        toString e.position
    else
      "bytes in position " ++ toString e.position ++ "-" ++ toString (e.position + e.length - 1)
  "'utf-8' codec can't decode " ++ place ++ ": " ++ e.fault.message

/-- The bytes of a text. -/
def encode (s : String) : List UInt8 :=
  s.toUTF8.data.toList

/-- Whether a byte continues a character. -/
def isContinuation (b : UInt8) : Bool :=
  0x80 ≤ b && b ≤ 0xbf

/-- The number of bytes of the character that a byte begins, if it begins one. -/
def sequenceLength? (b : UInt8) : Option Nat :=
  if b < 0x80 then some 1
  else if 0xc2 ≤ b && b ≤ 0xdf then some 2
  else if 0xe0 ≤ b && b ≤ 0xef then some 3
  else if 0xf0 ≤ b && b ≤ 0xf4 then some 4
  else none

/-- Whether a byte may follow the first byte of a character. After some first bytes not every
continuation byte may: the others would make overlong forms, surrogates or numbers that are too
large. -/
def maySecond (first second : UInt8) : Bool :=
  isContinuation second &&
    (if first = 0xe0 then 0xa0 ≤ second
    else if first = 0xed then second < 0xa0
    else if first = 0xf0 then 0x90 ≤ second
    else if first = 0xf4 then second < 0x90
    else true)

/-- The number of bytes, of those that follow the first byte of a character, that belong to it. -/
def followers (first : UInt8) (wanted : Nat) (rest : List UInt8) : Nat :=
  match rest with
  | second :: more =>
    if wanted = 0 || !maySecond first second then 0
    else 1 + ((more.take (wanted - 1)).takeWhile isContinuation).length
  | [] => 0

/-- The character that a first byte and its followers spell. -/
def assemble (first : UInt8) (rest : List UInt8) : Char :=
  let high := match rest.length with
    | 0 => first.toNat
    | 1 => first.toNat % 0x20
    | 2 => first.toNat % 0x10
    | _ => first.toNat % 0x08
  Char.ofNat (rest.foldl (fun n b => n * 0x40 + b.toNat % 0x40) high)

/-- Reads bytes from a position on as characters; `fuel` is at least their number. -/
def decodeFrom : (fuel position : Nat) → List UInt8 → Except EncodingError (List Char)
  | 0, _, _ => .ok []
  | _ + 1, _, [] => .ok []
  | fuel + 1, position, first :: rest =>
    match sequenceLength? first with
    | none => .error ⟨.startByte, position, 1, first⟩
    | some n =>
      let found := followers first (n - 1) rest
      if found + 1 = n then
        (decodeFrom fuel (position + n) (rest.drop found)).map
          (assemble first (rest.take found) :: ·)
      else if rest.length = found then .error ⟨.endOfData, position, found + 1, first⟩
      else .error ⟨.continuationByte, position, found + 1, first⟩

/-- The text that bytes spell. -/
def decode (bytes : List UInt8) : Except EncodingError String :=
  (decodeFrom bytes.length 0 bytes).map String.ofList

/-- The text of a text file. -/
def decodeText (bytes : List UInt8) : Except EncodingError String :=
  (decode bytes).map fun s => String.ofList (StaticSite.Text.unifyLineEnds s.toList)

end StaticSite.File
