import StaticSite.Proofs.Text.LowerCase
import StaticSite.Proofs.Url.Resolution

/-!
# Percent notation byte by byte

Percent notation is a notation for bytes. A reader that works on the UTF-8 bytes of an address gets
the same as one that works on its characters: the bytes of a character beyond ASCII are neither
percent signs nor digits, so they are no part of an escape.

## What this module delivers

- `percentDecode`: the reader of bytes.
- `utf8EncodeChar_ascii`, `le_of_mem_utf8EncodeChar`: the bytes of a character.
- `percentDecode_encode`: it agrees with the reader of characters.
- `percentDecode_of_notMem`: it leaves texts without percent signs as they are.
- `read_percentChar`: what is put into percent notation is read back, whatever follows.
-/

set_option autoImplicit false

namespace StaticSite.Url

open StaticSite.Text StaticSite.File

/-! ## The reader of bytes -/

/-- The byte that two hexadecimal digits write. -/
def digitsByte? (a b : Char) : Option UInt8 :=
  (hexValue? a).bind fun high => (hexValue? b).map fun low => UInt8.ofNat (16 * high + low)

/-- The character of a byte by itself. -/
def byteChar (byte : UInt8) : Char :=
  Char.ofNat byte.toNat

/-- Reads bytes in which a percent sign and two digits stand for a byte. -/
def percentDecode : List UInt8 → List UInt8
  | first :: a :: b :: rest =>
    match (if first = 0x25 then digitsByte? (byteChar a) (byteChar b) else none) with
    | some byte => byte :: percentDecode rest
    | none => first :: percentDecode (a :: b :: rest)
  | s => s

theorem percentDecode_cons {first : UInt8} (h : first ≠ 0x25) (rest : List UInt8) :
    percentDecode (first :: rest) = first :: percentDecode rest := by
  match rest with
  | [] => rfl
  | [_] => rfl
  | a :: b :: rest => rw [percentDecode, if_neg h]

/-- Bytes without a percent sign are read as they are, whatever follows. -/
theorem percentDecode_append {front : List UInt8} (h : ∀ byte ∈ front, byte ≠ 0x25)
    (s : List UInt8) : percentDecode (front ++ s) = front ++ percentDecode s := by
  induction front with
  | nil => rfl
  | cons first rest ih =>
      obtain ⟨hfirst, hrest⟩ := List.forall_mem_cons.mp h
      rw [List.cons_append, percentDecode_cons hfirst, ih hrest, List.cons_append]

theorem percentDecode_escape {a b byte : UInt8}
    (h : digitsByte? (byteChar a) (byteChar b) = some byte) (rest : List UInt8) :
    percentDecode (0x25 :: a :: b :: rest) = byte :: percentDecode rest := by
  rw [percentDecode, if_pos rfl, h]

/-- A percent sign without two digits behind it stands for itself. -/
theorem percentDecode_sign {rest : List UInt8}
    (h : ∀ a b more, rest = a :: b :: more → digitsByte? (byteChar a) (byteChar b) = none) :
    percentDecode (0x25 :: rest) = 0x25 :: percentDecode rest := by
  match rest with
  | [] => rfl
  | [_] => rfl
  | a :: b :: more => rw [percentDecode, if_pos rfl, h a b more rfl]

/-! ## The bytes of a character -/

theorem utf8EncodeChar_ne_nil {c : Char} : String.utf8EncodeChar c ≠ [] := by
  intro h
  have hlength := congrArg List.length h
  rw [String.length_utf8EncodeChar] at hlength
  exact absurd hlength (Nat.ne_of_gt c.utf8Size_pos)

theorem utf8EncodeChar_ascii {c : Char} (h : c.toNat < 128) :
    String.utf8EncodeChar c = [UInt8.ofNat c.toNat] := by
  have hval : c.val.toNat ≤ 127 := Nat.le_of_lt_succ h
  unfold String.utf8EncodeChar
  simp only [hval, if_true]
  rfl

theorem byteChar_ascii {c : Char} (h : c.toNat < 128) : byteChar (UInt8.ofNat c.toNat) = c := by
  rw [byteChar, toNat_byte (by omega), Char.ofNat_toNat]

/-- No byte of a character beyond ASCII is an ASCII byte. -/
theorem le_of_mem_utf8EncodeChar {c : Char} (h : 128 ≤ c.toNat) :
    ∀ byte ∈ String.utf8EncodeChar c, 128 ≤ byte.toNat := by
  have hvalid : c.val.toNat < 0x110000 := by
    have hrange : c.val.toNat < 0xd800 ∨ (0xdfff < c.val.toNat ∧ c.val.toNat < 0x110000) := c.valid
    omega
  have hbeyond : 128 ≤ c.val.toNat := h
  have hbyte : ∀ n, 128 ≤ n ∧ n < 256 → 128 ≤ (UInt8.ofNat n).toNat := fun n hn => by
    rw [toNat_byte hn.2]
    exact hn.1
  unfold String.utf8EncodeChar
  dsimp only
  generalize c.val.toNat = v at hvalid hbeyond ⊢
  split_ifs with hone htwo hthree
  · omega
  · simp only [List.forall_mem_cons]
    exact ⟨hbyte _ (by omega), hbyte _ (by omega), List.forall_mem_nil _⟩
  · simp only [List.forall_mem_cons]
    exact ⟨hbyte _ (by omega), hbyte _ (by omega), hbyte _ (by omega), List.forall_mem_nil _⟩
  · simp only [List.forall_mem_cons]
    exact ⟨hbyte _ (by omega), hbyte _ (by omega), hbyte _ (by omega), hbyte _ (by omega),
      List.forall_mem_nil _⟩

theorem hexValue?_of_le {c : Char} (h : 128 ≤ c.toNat) : hexValue? c = none := by
  have hbeyond : ∀ d : Char, d.toNat < 128 → ¬ c ≤ d := fun d hd hle =>
    absurd (Nat.le_trans h (Char.le_def.mp hle)) (Nat.not_le.mpr hd)
  rw [hexValue?, if_neg (fun hc => hbeyond '9' (by decide) hc.2),
    if_neg (fun hc => hbeyond 'f' (by decide) hc.2),
    if_neg (fun hc => hbeyond 'F' (by decide) hc.2)]

/-- The first byte of a character is a digit with its value or, like the character, no digit. -/
theorem exists_utf8EncodeChar (c : Char) : ∃ first more, String.utf8EncodeChar c = first :: more ∧
    hexValue? (byteChar first) = hexValue? c ∧ (hexValue? c ≠ none → more = []) := by
  by_cases hascii : c.toNat < 128
  · refine ⟨_, [], utf8EncodeChar_ascii hascii, ?_, fun _ => rfl⟩
    rw [byteChar_ascii hascii]
  · have hbeyond : 128 ≤ c.toNat := Nat.not_lt.mp hascii
    have hbytes := le_of_mem_utf8EncodeChar hbeyond
    have hnone := hexValue?_of_le hbeyond
    cases hsome : String.utf8EncodeChar c with
    | nil => exact absurd hsome utf8EncodeChar_ne_nil
    | cons first more =>
        rw [hsome] at hbytes
        have hfirst : 128 ≤ first.toNat := hbytes first List.mem_cons_self
        have hchar : (byteChar first).toNat = first.toNat := by
          have hbyte := first.toNat_lt
          exact toNat_ofNat (.inl (by omega))
        refine ⟨first, more, rfl, ?_, fun hdigit => absurd hnone hdigit⟩
        rw [hnone, hexValue?_of_le (by rw [hchar]; exact hfirst)]

theorem utf8EncodeChar_ne_sign {c : Char} (h : c ≠ '%') :
    ∀ byte ∈ String.utf8EncodeChar c, byte ≠ 0x25 := by
  by_cases hascii : c.toNat < 128
  · rw [utf8EncodeChar_ascii hascii, List.forall_mem_singleton]
    intro hsign
    rw [← byteChar_ascii hascii, hsign] at h
    exact h rfl
  · intro byte hbyte
    have hle := le_of_mem_utf8EncodeChar (Nat.not_lt.mp hascii) byte hbyte
    rintro rfl
    exact absurd hle (by decide)

/-! ## Characters and bytes -/

theorem escapedByte?_sign (a b : Char) (more : List Char) :
    escapedByte? '%' (a :: b :: more) = digitsByte? a b := rfl

theorem digitsByte?_eq_none {a b : Char} (h : hexValue? a = none ∨ hexValue? b = none) :
    digitsByte? a b = none := by
  rw [digitsByte?]
  rcases h with h | h
  · rw [h, Option.bind_none]
  · rw [h]
    cases hexValue? a <;> rfl

theorem digitsByte?_eq_some {a b : Char} {byte : UInt8} (h : digitsByte? a b = some byte) :
    hexValue? a ≠ none ∧ hexValue? b ≠ none := by
  rw [← not_or]
  intro hnone
  exact absurd (h.symm.trans (digitsByte?_eq_none hnone)) nofun

/-- Where no two digits follow a percent sign, no two bytes behind it are digits. -/
theorem not_digits {rest : List Char} (h : escapedByte? '%' rest = none) {x y : UInt8}
    {more : List UInt8} (hbytes : rest.flatMap String.utf8EncodeChar = x :: y :: more) :
    digitsByte? (byteChar x) (byteChar y) = none := by
  cases rest with
  | nil => exact absurd hbytes (by simp)
  | cons a others =>
      obtain ⟨first, tail, ha, hvalue, hsingle⟩ := exists_utf8EncodeChar a
      rw [List.flatMap_cons, ha, List.cons_append] at hbytes
      obtain ⟨rfl, hbehind⟩ := List.cons.inj hbytes
      by_cases hdigit : hexValue? a = none
      · exact digitsByte?_eq_none (.inl (hvalue.trans hdigit))
      -- a digit is a byte of its own, so the second byte begins the next character
      rw [hsingle hdigit, List.nil_append] at hbehind
      cases others with
      | nil => exact absurd hbehind (by simp)
      | cons b others =>
          obtain ⟨second, tail', hb, hvalue', -⟩ := exists_utf8EncodeChar b
          rw [List.flatMap_cons, hb, List.cons_append] at hbehind
          obtain ⟨rfl, -⟩ := List.cons.inj hbehind
          rw [escapedByte?_sign] at h
          rw [digitsByte?, hvalue, hvalue']
          exact h

/-- An escape is read as its byte. -/
theorem read_escape {a b : Char} {byte : UInt8} (h : digitsByte? a b = some byte)
    (rest : List Char) :
    percentNotation.read ('%' :: a :: b :: rest) = byte :: percentNotation.read rest := by
  have hpiece : percentNotation.piece? '%' (a :: b :: rest) = some ([byte], 2) := by
    show (escapedByte? '%' (a :: b :: rest)).map _ = _
    rw [escapedByte?_sign, h]
    rfl
  rw [Decoding.read, Decoding.readFrom, hpiece]
  rfl

/-- A percent sign without two digits behind it stands for itself. -/
theorem read_sign {rest : List Char} (h : escapedByte? '%' rest = none) :
    percentNotation.read ('%' :: rest) = 0x25 :: percentNotation.read rest := by
  have hpiece : percentNotation.piece? '%' rest = none := by
    show (escapedByte? '%' rest).map _ = _
    rw [h]
    rfl
  rw [Decoding.read, Decoding.readFrom, hpiece]
  rfl

/-- Any other character stands for its bytes. -/
theorem read_cons {c : Char} (h : c ≠ '%') (rest : List Char) :
    percentNotation.read (c :: rest) = String.utf8EncodeChar c ++ percentNotation.read rest := by
  have hnone : ∀ d ∈ [c], ∀ rest, percentNotation.piece? d rest = none := by
    intro d hd
    rw [List.mem_singleton.mp hd]
    exact percentNotation_piece?_of_ne h
  have hsingle := Decoding.read_append hnone rest
  rwa [List.singleton_append, List.flatMap_singleton] at hsingle

/-- How an address begins, for its reader: it is empty, or there is an escape, a percent sign that
begins none, or another character. -/
theorem address_cases {motive : List Char → Prop} (nil : motive [])
    (escape : ∀ a b byte rest, digitsByte? a b = some byte → motive rest →
      motive ('%' :: a :: b :: rest))
    (sign : ∀ rest, escapedByte? '%' rest = none → motive rest → motive ('%' :: rest))
    (other : ∀ c rest, c ≠ '%' → motive rest → motive (c :: rest)) (s : List Char) :
    motive s := by
  -- an escape takes three characters at once, so the induction is on the length
  induction hlength : s.length using Nat.strong_induction_on generalizing s with
  | h n ih =>
      subst hlength
      cases s with
      | nil => exact nil
      | cons c rest =>
          have hrest : motive rest := ih rest.length (Nat.lt_succ_self _) rest rfl
          by_cases hsign : c = '%'
          · subst hsign
            cases hbyte : escapedByte? '%' rest with
            | none => exact sign rest hbyte hrest
            | some byte =>
                obtain ⟨-, a, b, more, rfl, -, -⟩ := escapedByte?_eq_some hbyte
                have hmore : motive more := ih more.length (by simp; omega) more rfl
                exact escape a b byte more hbyte hmore
          · exact other c rest hsign hrest

/-- A reader of the bytes of an address gets the same as one of its characters. -/
theorem percentDecode_flatMap (s : List Char) :
    percentDecode (s.flatMap String.utf8EncodeChar) = percentNotation.read s := by
  have hpercent : String.utf8EncodeChar '%' = [0x25] := by decide
  -- in each case both readers take one step
  induction s using address_cases with
  | nil => rfl
  | escape a b byte rest hdigits ih =>
      obtain ⟨hhigh, hlow⟩ := digitsByte?_eq_some hdigits
      obtain ⟨first, tail, ha, hvalue, hsingle⟩ := exists_utf8EncodeChar a
      obtain ⟨second, tail', hb, hvalue', hsingle'⟩ := exists_utf8EncodeChar b
      have hbytes : digitsByte? (byteChar first) (byteChar second) = some byte := by
        rw [digitsByte?, hvalue, hvalue']
        exact hdigits
      simp only [List.flatMap_cons, hpercent, ha, hb, hsingle hhigh, hsingle' hlow,
        List.singleton_append]
      rw [percentDecode_escape hbytes, ih, read_escape hdigits]
  | sign rest hnone ih =>
      rw [List.flatMap_cons, hpercent, List.singleton_append, read_sign hnone, ← ih]
      exact percentDecode_sign fun _ _ _ hbytes => not_digits hnone hbytes
  | other c rest hother ih =>
      rw [List.flatMap_cons, percentDecode_append (utf8EncodeChar_ne_sign hother), ih,
        read_cons hother]

/-- The bytes of a text and its characters are read alike. -/
theorem percentDecode_encode (text : String) :
    percentDecode (encode text) = percentNotation.read text.toList := by
  rw [← percentDecode_flatMap, ← String.ofList_toList (s := text), encode_ofList,
    String.toList_ofList]

/-- A text without percent signs is read as its bytes. -/
theorem percentDecode_of_notMem {text : String} (h : '%' ∉ text.toList) :
    percentDecode (encode text) = encode text := by
  have hbytes : ∀ byte ∈ encode text, byte ≠ 0x25 := by
    rw [← String.ofList_toList (s := text), encode_ofList]
    intro byte hbyte
    obtain ⟨c, hc, hbyte⟩ := List.mem_flatMap.mp hbyte
    refine utf8EncodeChar_ne_sign ?_ byte hbyte
    rintro rfl
    exact h hc
  have hnone : percentDecode [] = [] := rfl
  have hdecoded := percentDecode_append hbytes []
  rwa [hnone, List.append_nil] at hdecoded

/-! ## Put into notation and read back -/

theorem hexValue?_hexDigit : ∀ n < 16, hexValue? (hexDigit n) = some n := by decide

theorem read_percentByte (byte : UInt8) (s : List Char) :
    percentNotation.read (percentByte byte ++ s) = byte :: percentNotation.read s := by
  have hbyte := byte.toNat_lt
  refine read_escape ?_ s
  rw [digitsByte?, hexValue?_hexDigit _ (by omega), hexValue?_hexDigit _ (by omega)]
  simp only [Option.bind_some, Option.map_some, Nat.div_add_mod, UInt8.ofNat_toNat]

/-- A character in percent notation is read as its bytes, whatever follows. -/
theorem read_percentChar (c : Char) (s : List Char) :
    percentNotation.read (percentChar c ++ s)
      = String.utf8EncodeChar c ++ percentNotation.read s := by
  rw [percentChar]
  induction String.utf8EncodeChar c with
  | nil => rfl
  | cons byte more ih =>
      rw [List.flatMap_cons, List.append_assoc, read_percentByte, ih, List.cons_append]

end StaticSite.Url
