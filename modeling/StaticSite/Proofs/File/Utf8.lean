import StaticSite.File.Utf8
import Mathlib.Data.List.TakeWhile
import Mathlib.Tactic.SplitIfs

/-!
# UTF-8 read back

The bytes of a text are read as the text. The first byte of a character fixes how many follow it,
and the bytes that are written are in the ranges that the reader asks for, because a character has
no surrogate for its code point.

## What this module delivers

- `maySecond_iff`, `sequenceLength?_two` and its like: what the reader asks of bytes, by number.
- `decodeFrom_encodeChar`: the bytes of one character, whatever follows them.
- `decode_encode`: the bytes of a text.
-/

set_option autoImplicit false

namespace StaticSite.File

/-! ## Bytes by number -/

theorem toNat_byte {n : Nat} (h : n < 256) : (UInt8.ofNat n).toNat = n := by
  rw [UInt8.toNat_ofNat']
  omega

/-- A byte that continues a character has one of the numbers from 128 to 191. -/
theorem isContinuation_iff (b : UInt8) : isContinuation b ↔ 128 ≤ b.toNat ∧ b.toNat ≤ 191 := by
  simp [isContinuation, UInt8.le_iff_toNat_le]

theorem maySecond_iff (first second : UInt8) :
    maySecond first second ↔ isContinuation second ∧
      (first.toNat = 224 → 160 ≤ second.toNat) ∧ (first.toNat = 237 → second.toNat < 160) ∧
      (first.toNat = 240 → 144 ≤ second.toNat) ∧ (first.toNat = 244 → second.toNat < 144) := by
  simp only [maySecond, Bool.and_eq_true, ← UInt8.toNat_inj]
  refine and_congr_right fun _ => ?_
  simp only [UInt8.reduceToNat]
  split_ifs <;> simp [UInt8.le_iff_toNat_le, UInt8.lt_iff_toNat_lt] <;> omega

theorem sequenceLength?_one {b : UInt8} (h : b.toNat ≤ 127) : sequenceLength? b = some 1 := by
  unfold sequenceLength?
  simp only [UInt8.lt_iff_toNat_lt, UInt8.le_iff_toNat_le, UInt8.reduceToNat]
  rw [if_pos (by omega)]

theorem sequenceLength?_two {b : UInt8} (h : 194 ≤ b.toNat ∧ b.toNat ≤ 223) :
    sequenceLength? b = some 2 := by
  unfold sequenceLength?
  simp only [UInt8.lt_iff_toNat_lt, UInt8.le_iff_toNat_le, UInt8.reduceToNat]
  rw [if_neg (by omega), if_pos (by simpa using h)]

theorem sequenceLength?_three {b : UInt8} (h : 224 ≤ b.toNat ∧ b.toNat ≤ 239) :
    sequenceLength? b = some 3 := by
  unfold sequenceLength?
  simp only [UInt8.lt_iff_toNat_lt, UInt8.le_iff_toNat_le, UInt8.reduceToNat]
  rw [if_neg (by omega), if_neg (by simp; omega), if_pos (by simpa using h)]

theorem sequenceLength?_four {b : UInt8} (h : 240 ≤ b.toNat ∧ b.toNat ≤ 244) :
    sequenceLength? b = some 4 := by
  unfold sequenceLength?
  simp only [UInt8.lt_iff_toNat_lt, UInt8.le_iff_toNat_le, UInt8.reduceToNat]
  rw [if_neg (by omega), if_neg (by simp; omega), if_neg (by simp; omega),
    if_pos (by simpa using h)]

/-! ## Characters -/

/-- A byte that is a character of its own. -/
theorem decodeFrom_single {first : UInt8} (hfirst : first.toNat ≤ 127) (fuel position : Nat)
    (rest : List UInt8) :
    decodeFrom (fuel + 1) position (first :: rest)
      = (decodeFrom fuel (position + 1) rest).map (Char.ofNat first.toNat :: ·) := by
  have hfound : followers first 0 rest = 0 := by
    cases rest <;> rfl
  rw [decodeFrom, sequenceLength?_one hfirst]
  dsimp only
  rw [Nat.sub_self, hfound, if_pos rfl, List.drop_zero, List.take_zero]
  rfl

/-- A first byte with all the bytes that belong to it is one character. -/
theorem decodeFrom_sequence {first second : UInt8} {more : List UInt8}
    (hlength : sequenceLength? first = some (more.length + 2))
    (hsecond : maySecond first second) (hmore : ∀ b ∈ more, isContinuation b)
    (fuel position : Nat) (rest : List UInt8) :
    decodeFrom (fuel + 1) position (first :: second :: (more ++ rest))
      = (decodeFrom fuel (position + (more.length + 2)) rest).map
          (assemble first (second :: more) :: ·) := by
  have hfound : followers first (more.length + 1) (second :: (more ++ rest)) = more.length + 1 := by
    rw [followers, if_neg (by simp [hsecond]), Nat.add_sub_cancel, List.take_left,
      List.takeWhile_eq_self_iff.mpr hmore, Nat.add_comm]
  rw [decodeFrom, hlength]
  dsimp only
  rw [show more.length + 2 - 1 = more.length + 1 from rfl, hfound, if_pos rfl]
  simp

section

variable {v : Nat} {first second third fourth : UInt8}

theorem decodeFrom_two (hv : 127 < v ∧ v ≤ 2047) (hfirst : first.toNat = v / 64 % 32 + 192)
    (hsecond : second.toNat = v % 64 + 128) (fuel position : Nat) (rest : List UInt8) :
    decodeFrom (fuel + 1) position (first :: second :: rest)
      = (decodeFrom fuel (position + 2) rest).map (Char.ofNat v :: ·) := by
  have hmay : maySecond first second := by
    rw [maySecond_iff, isContinuation_iff]
    omega
  have hchar : assemble first [second] = Char.ofNat v := by
    simp only [assemble, List.length_cons, List.length_nil, List.foldl_cons, List.foldl_nil,
      hfirst, hsecond]
    congr 1
    omega
  rw [← hchar]
  have hlength : sequenceLength? first = some (([] : List UInt8).length + 2) :=
    sequenceLength?_two (by omega)
  exact decodeFrom_sequence hlength hmay (by simp) fuel position rest

/-- The codes of surrogates are the ones that the second byte after 237 may not spell. -/
theorem decodeFrom_three (hv : 2047 < v ∧ v ≤ 65535) (hsurrogate : v < 0xd800 ∨ 0xdfff < v)
    (hfirst : first.toNat = v / 4096 % 16 + 224) (hsecond : second.toNat = v / 64 % 64 + 128)
    (hthird : third.toNat = v % 64 + 128) (fuel position : Nat) (rest : List UInt8) :
    decodeFrom (fuel + 1) position (first :: second :: third :: rest)
      = (decodeFrom fuel (position + 3) rest).map (Char.ofNat v :: ·) := by
  have hmay : maySecond first second := by
    rw [maySecond_iff, isContinuation_iff]
    omega
  have hchar : assemble first [second, third] = Char.ofNat v := by
    simp only [assemble, List.length_cons, List.length_nil, List.foldl_cons, List.foldl_nil,
      hfirst, hsecond, hthird]
    congr 1
    omega
  rw [← hchar]
  have hlength : sequenceLength? first = some ([third].length + 2) :=
    sequenceLength?_three (by omega)
  have hmore : ∀ b ∈ [third], isContinuation b := by
    simp [isContinuation_iff]
    omega
  exact decodeFrom_sequence hlength hmay hmore fuel position rest

theorem decodeFrom_four (hv : 65535 < v ∧ v < 0x110000)
    (hfirst : first.toNat = v / 262144 % 8 + 240) (hsecond : second.toNat = v / 4096 % 64 + 128)
    (hthird : third.toNat = v / 64 % 64 + 128) (hfourth : fourth.toNat = v % 64 + 128)
    (fuel position : Nat) (rest : List UInt8) :
    decodeFrom (fuel + 1) position (first :: second :: third :: fourth :: rest)
      = (decodeFrom fuel (position + 4) rest).map (Char.ofNat v :: ·) := by
  have hmay : maySecond first second := by
    rw [maySecond_iff, isContinuation_iff]
    omega
  have hchar : assemble first [second, third, fourth] = Char.ofNat v := by
    simp only [assemble, List.length_cons, List.length_nil, List.foldl_cons, List.foldl_nil,
      hfirst, hsecond, hthird, hfourth]
    congr 1
    omega
  rw [← hchar]
  have hlength : sequenceLength? first = some ([third, fourth].length + 2) :=
    sequenceLength?_four (by omega)
  have hmore : ∀ b ∈ [third, fourth], isContinuation b := by
    simp [isContinuation_iff]
    omega
  exact decodeFrom_sequence hlength hmay hmore fuel position rest

end

/-- The bytes of a character are read as the character, whatever follows. -/
theorem decodeFrom_encodeChar (c : Char) (fuel position : Nat) (rest : List UInt8) :
    ∃ next, decodeFrom (fuel + 1) position (String.utf8EncodeChar c ++ rest)
      = (decodeFrom fuel next rest).map (c :: ·) := by
  have hvalid : c.val.toNat < 0xd800 ∨ (0xdfff < c.val.toNat ∧ c.val.toNat < 0x110000) := c.valid
  have hback : Char.ofNat c.val.toNat = c := Char.ofNat_toNat c
  unfold String.utf8EncodeChar
  dsimp only
  generalize c.val.toNat = v at hvalid hback ⊢
  subst hback
  -- the four cases are the lengths of an encoding; the numbers of the bytes are read off
  split_ifs with hone htwo hthree
  · have hfirst : (UInt8.ofNat v).toNat = v := toNat_byte (by omega)
    have hread := decodeFrom_single (hfirst.le.trans hone) fuel position rest
    rw [hfirst] at hread
    exact ⟨_, hread⟩
  · exact ⟨_, decodeFrom_two (by omega) (toNat_byte (by omega)) (toNat_byte (by omega))
      fuel position rest⟩
  · exact ⟨_, decodeFrom_three (by omega) (by omega) (toNat_byte (by omega))
      (toNat_byte (by omega)) (toNat_byte (by omega)) fuel position rest⟩
  · exact ⟨_, decodeFrom_four (by omega) (toNat_byte (by omega)) (toNat_byte (by omega))
      (toNat_byte (by omega)) (toNat_byte (by omega)) fuel position rest⟩

/-! ## Texts -/

theorem encode_ofList (s : List Char) :
    encode (String.ofList s) = s.flatMap String.utf8EncodeChar := by
  rw [encode, String.toUTF8, String.toByteArray_ofList, List.utf8Encode, List.data_toByteArray]

/-- Every character takes at least one byte, so the number of bytes is fuel enough. -/
theorem decodeFrom_encode (s : List Char) :
    ∀ fuel position, s.length ≤ fuel →
      decodeFrom fuel position (s.flatMap String.utf8EncodeChar) = .ok s := by
  induction s with
  | nil =>
      intro fuel position _
      cases fuel <;> rfl
  | cons c rest ih =>
      intro fuel position hfuel
      cases fuel with
      | zero => exact absurd hfuel (by simp)
      | succ fuel =>
          obtain ⟨next, hread⟩ :=
            decodeFrom_encodeChar c fuel position (rest.flatMap String.utf8EncodeChar)
          rw [List.flatMap_cons, hread, ih fuel next (by simpa using hfuel)]
          rfl

theorem length_le_encode (s : List Char) :
    s.length ≤ (s.flatMap String.utf8EncodeChar).length := by
  induction s with
  | nil => exact Nat.le_refl 0
  | cons c rest ih =>
      have hchar : 0 < (String.utf8EncodeChar c).length :=
        List.length_pos_iff.mpr String.utf8EncodeChar_ne_nil
      rw [List.flatMap_cons, List.length_append, List.length_cons]
      omega

/-- The bytes of a text are read as the text. -/
theorem decode_encode (s : String) : decode (encode s) = .ok s := by
  obtain ⟨chars, rfl⟩ : ∃ chars, s = String.ofList chars := ⟨s.toList, String.ofList_toList.symm⟩
  rw [encode_ofList, decode, decodeFrom_encode chars _ 0 (length_le_encode chars)]
  rfl

end StaticSite.File
