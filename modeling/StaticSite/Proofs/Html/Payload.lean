import StaticSite.Html.Writer
import StaticSite.Proofs.Html.Identifier
import StaticSite.Proofs.Html.Lexeme
import Mathlib.Tactic.IntervalCases

/-!
# Payloads of a page

What a document brings to its page goes there in one of four ways: escaped as text, escaped as an
address, as an identifier made of a heading's text, or as a number. Whatever the document brings,
the written form of none of them holds a `<`, a `>` or a quote.

## What this module delivers

- `quotable_escape`, `quotable_escapeHref`: the two escapes.
- `isPlain`: texts that are read as they are, between tags and in attribute values alike.
- `plain_allocate`: every identifier of a heading is plain, although it is written unescaped.
- `plain_nat`, `plain_int`: numbers are plain.
-/

set_option autoImplicit false

namespace StaticSite.Html

open StaticSite.Text

/-! ## Plain texts -/

/-- Whether a text holds none of the characters that mean something on a page. -/
def isPlain (text : List Char) : Bool :=
  text.all fun c => !(c == '<' || c == '>' || c == '&' || c == '"')

theorem isPlain_iff (text : List Char) :
    isPlain text ↔ ∀ c ∈ text, c ≠ '<' ∧ c ≠ '>' ∧ c ≠ '&' ∧ c ≠ '"' := by
  simp [isPlain, and_assoc]

theorem isPlain_append (left right : List Char) :
    isPlain (left ++ right) = (isPlain left && isPlain right) :=
  List.all_append

theorem isQuotable_iff (text : List Char) :
    isQuotable text ↔ ∀ c ∈ text, c ≠ '<' ∧ c ≠ '>' ∧ c ≠ '"' := by
  simp [isQuotable, and_assoc]

theorem isQuotable_append (left right : List Char) :
    isQuotable (left ++ right) = (isQuotable left && isQuotable right) :=
  List.all_append

theorem quotable_of_plain {text : List Char} (h : isPlain text) : isQuotable text := by
  rw [isPlain_iff] at h
  rw [isQuotable_iff]
  intro c hc
  obtain ⟨hopen, hclose, -, hquote⟩ := h c hc
  exact ⟨hopen, hclose, hquote⟩

/-- What is put together from quotable pieces is quotable. -/
theorem quotable_flatMap {f : Char → List Char} (hf : ∀ c, isQuotable (f c)) (text : List Char) :
    isQuotable (text.flatMap f) := by
  induction text with
  | nil => rfl
  | cons c rest ih => rw [List.flatMap_cons, isQuotable_append, hf, ih]; rfl

/-! ## Escapes -/

theorem quotable_escapeChar (c : Char) : isQuotable (escapeChar c) := by
  unfold escapeChar
  split_ifs with hand hopen hclose hquote
  · decide
  · decide
  · decide
  · decide
  · simp [isQuotable, hopen, hclose, hquote]

/-- Escaped text may stand in an attribute value. -/
theorem quotable_escape (text : String) : isQuotable (escape text).toList := by
  rw [escape, String.toList_ofList]
  exact quotable_flatMap quotable_escapeChar _

theorem plain_hexDigit {n : Nat} (hn : n < 16) : isPlain [Url.hexDigit n] := by
  interval_cases n <;> decide

theorem quotable_percentByte (byte : UInt8) : isQuotable (Url.percentByte byte) := by
  have hbyte : byte.toNat < 256 := byte.toNat_lt
  have hhigh := quotable_of_plain (plain_hexDigit (n := byte.toNat / 16) (by omega))
  have hlow := quotable_of_plain (plain_hexDigit (n := byte.toNat % 16) (by omega))
  have hparts : Url.percentByte byte
      = ['%'] ++ [Url.hexDigit (byte.toNat / 16)] ++ [Url.hexDigit (byte.toNat % 16)] := rfl
  rw [hparts, isQuotable_append, isQuotable_append, hhigh, hlow]
  decide

theorem quotable_percentChar (c : Char) : isQuotable (Url.percentChar c) := by
  unfold Url.percentChar
  induction String.utf8EncodeChar c with
  | nil => rfl
  | cons byte rest ih =>
      rw [List.flatMap_cons, isQuotable_append, quotable_percentByte, ih]
      rfl

theorem quotable_escapeHrefChar (c : Char) : isQuotable (escapeHrefChar c) := by
  unfold escapeHrefChar
  split_ifs with hand hquote hkept
  · decide
  · decide
  · rw [isQuotable_iff]
    intro d hd
    rw [List.mem_singleton] at hd
    subst hd
    -- none of the three is a letter, a digit or kept punctuation
    refine ⟨?_, ?_, ?_⟩ <;> rintro rfl <;> exact absurd hkept (by decide)
  · exact quotable_percentChar c

/-- An escaped address may stand in an attribute value. -/
theorem quotable_escapeHref (address : String) : isQuotable (escapeHref address).toList := by
  rw [escapeHref, String.toList_ofList]
  exact quotable_flatMap quotable_escapeHrefChar _

/-! ## Numbers -/

theorem plain_of_isDigit {text : List Char} (h : ∀ c ∈ text, c.isDigit) : isPlain text := by
  rw [isPlain_iff]
  intro c hc
  have hdigit := h c hc
  refine ⟨?_, ?_, ?_, ?_⟩ <;> rintro rfl <;> exact absurd hdigit (by decide)

theorem plain_nat (n : Nat) : isPlain (toString n).toList := by
  refine plain_of_isDigit fun c hc => ?_
  rw [Nat.toString_eq_repr, Nat.toList_repr] at hc
  exact Nat.isDigit_of_mem_toDigits (by decide) (by decide) hc

theorem plain_int (i : Int) : isPlain (toString i).toList := by
  cases i with
  | ofNat n => exact plain_nat n
  | negSucc n =>
      have hparts : toString (Int.negSucc n) = "-" ++ toString (n + 1) := rfl
      rw [hparts, String.toList_append, isPlain_append, plain_nat]
      decide

/-! ## Identifiers -/

/-- What is made of the characters of identifiers is plain. -/
theorem plain_of_isNameChar {text : List Char} (h : ∀ c ∈ text, isNameChar c) : isPlain text := by
  rw [isPlain_iff]
  intro c hc
  have hname := h c hc
  -- the alphabet of identifiers has none of the four
  refine ⟨?_, ?_, ?_, ?_⟩ <;> rintro rfl <;> exact absurd hname (by decide)

/-- Every identifier that a heading gets is plain, whatever the heading's text is. -/
theorem plain_allocate (anchors : Anchors) (text : String) :
    isPlain (anchors.allocate text).1.toList :=
  plain_of_isNameChar fun _ => isNameChar_of_mem_allocate

end StaticSite.Html
