import Mathlib.Data.List.Lex
import Mathlib.Algebra.Group.Nat.Defs
import Mathlib.Tactic.SplitIfs
import StaticSite.Calendar.Moment

/-!
# Dates in order and as text

A date is written with the year first and with zeros in front of short numbers, so that texts of one
length are compared where dates differ first. The order of the texts is therefore that of the dates.
A moment is written as its date, its time of day and its distance from universal time.

## What this module delivers

- `append_lt_append_iff`: texts that begin with parts of one length.
- `padded_lt_padded_iff`, `padded_inj`: numbers of one width.
- `Date.IsWritable`, `Date.text_lt_text_iff`: dates of years with four digits.
- `latest_spec`, `foldl_latest_spec`: the later of two dates, and the last of several.
- `isClockChar`, `all_momentText`: a moment is written with digits and a few other characters.
-/

set_option autoImplicit false

namespace StaticSite.Calendar

/-! ## Texts in order -/

section

variable {α : Type} [LT α]

/-- Parts of one length are compared first, and what follows them if they are the same. -/
theorem append_lt_append_iff {left right more others : List α}
    (h : left.length = right.length) :
    left ++ more < right ++ others ↔ left < right ∨ left = right ∧ more < others := by
  induction left generalizing right with
  | nil =>
      obtain rfl : right = [] := List.eq_nil_of_length_eq_zero h.symm
      simp
  | cons a rest ih =>
      cases right with
      | nil => exact absurd h (by simp)
      | cons b tail =>
          have hlength : rest.length = tail.length := Nat.succ.inj h
          rw [List.cons_append, List.cons_append, List.cons_lt_cons_iff, List.cons_lt_cons_iff,
            ih hlength, List.cons.injEq]
          constructor
          · rintro (hab | ⟨hab, hrest | ⟨hrest, hmore⟩⟩)
            · exact .inl (.inl hab)
            · exact .inl (.inr ⟨hab, hrest⟩)
            · exact .inr ⟨⟨hab, hrest⟩, hmore⟩
          · rintro ((hab | ⟨hab, hrest⟩) | ⟨⟨hab, hrest⟩, hmore⟩)
            · exact .inl hab
            · exact .inr ⟨hab, .inl hrest⟩
            · exact .inr ⟨hab, .inr ⟨hrest, hmore⟩⟩

end

/-! ## Numbers of one width -/

/-- The last digit of a number stands behind the number without it. -/
theorem padded_succ {width : Nat} (hwidth : 0 < width) (n : Nat) :
    (padded (width + 1) n).toList
      = (padded width (n / 10)).toList ++ [Nat.digitChar (n % 10)] := by
  rw [padded, padded, String.toList_ofList, String.toList_ofList]
  by_cases hn : n < 10
  · -- there is nothing but the last digit, and zeros stand in front of it
    have hdigits : Nat.toDigits 10 n = [Nat.digitChar n] := by
      rw [Nat.toDigits_eq_if (by decide), if_pos hn]
    have hfront : n / 10 = 0 := Nat.div_eq_of_lt hn
    have hlast : n % 10 = n := Nat.mod_eq_of_lt hn
    have hzeros : List.replicate width '0' = List.replicate (width - 1) '0' ++ ['0'] := by
      rw [← List.replicate_succ', Nat.sub_add_cancel hwidth]
    have hzero : Nat.toDigits 10 0 = ['0'] := rfl
    rw [hdigits, hfront, hlast, hzero, List.length_singleton, List.length_singleton,
      Nat.add_sub_cancel, ← hzeros]
  · have hdigits : Nat.toDigits 10 n = Nat.toDigits 10 (n / 10) ++ [Nat.digitChar (n % 10)] := by
      rw [Nat.toDigits_eq_if (by decide), if_neg hn]
    rw [hdigits, List.length_append, List.length_singleton, Nat.add_sub_add_right,
      List.append_assoc]

theorem length_padded {width : Nat} (hwidth : 0 < width) :
    ∀ {n : Nat}, n < 10 ^ width → (padded width n).toList.length = width := by
  induction width, hwidth using Nat.le_induction with
  | base =>
      intro n hn
      have hten : n < 10 := by omega
      have hdigits : Nat.toDigits 10 n = [Nat.digitChar n] := by
        rw [Nat.toDigits_eq_if (by decide), if_pos hten]
      rw [padded, String.toList_ofList, hdigits]
      rfl
  | succ width hwidth ih =>
      intro n hn
      rw [padded_succ hwidth, List.length_append, List.length_singleton, ih]
      rw [Nat.pow_succ] at hn
      exact Nat.div_lt_of_lt_mul (by rwa [Nat.mul_comm])

theorem digitChar_lt_iff :
    ∀ a < 10, ∀ b < 10, (Nat.digitChar a < Nat.digitChar b ↔ a < b) := by
  decide

theorem digitChar_inj : ∀ a < 10, ∀ b < 10, (Nat.digitChar a = Nat.digitChar b ↔ a = b) := by
  decide

/-- Different numbers are written differently. -/
theorem padded_inj {width : Nat} (hwidth : 0 < width) :
    ∀ {a b : Nat}, a < 10 ^ width → b < 10 ^ width →
      ((padded width a).toList = (padded width b).toList ↔ a = b) := by
  induction width, hwidth using Nat.le_induction with
  | base =>
      intro a b ha hb
      have hdigits : ∀ n < 10, (padded 1 n).toList = [Nat.digitChar n] := by decide
      rw [hdigits a ha, hdigits b hb, List.cons.injEq, and_iff_left rfl]
      exact digitChar_inj a ha b hb
  | succ width hwidth ih =>
      intro a b ha hb
      rw [Nat.pow_succ] at ha hb
      rw [padded_succ hwidth, padded_succ hwidth, List.append_singleton_inj,
        ih (by omega) (by omega),
        digitChar_inj _ (Nat.mod_lt a (by decide)) _ (Nat.mod_lt b (by decide))]
      omega

/-- Numbers of one width are written in their order. -/
theorem padded_lt_padded_iff {width : Nat} (hwidth : 0 < width) :
    ∀ {a b : Nat}, a < 10 ^ width → b < 10 ^ width →
      ((padded width a).toList < (padded width b).toList ↔ a < b) := by
  induction width, hwidth using Nat.le_induction with
  | base =>
      intro a b ha hb
      have hdigits : ∀ n < 10, (padded 1 n).toList = [Nat.digitChar n] := by decide
      rw [hdigits a ha, hdigits b hb, List.cons_lt_cons_iff]
      simpa using digitChar_lt_iff a ha b hb
  | succ width hwidth ih =>
      intro a b ha hb
      rw [Nat.pow_succ] at ha hb
      have hleft : a / 10 < 10 ^ width := by omega
      have hright : b / 10 < 10 ^ width := by omega
      have hlength := (length_padded hwidth hleft).trans (length_padded hwidth hright).symm
      rw [padded_succ hwidth, padded_succ hwidth, append_lt_append_iff hlength, ih hleft hright,
        padded_inj hwidth hleft hright, List.cons_lt_cons_iff,
        digitChar_lt_iff _ (Nat.mod_lt a (by decide)) _ (Nat.mod_lt b (by decide))]
      simp only [List.lt_irrefl, and_false, or_false]
      omega

/-! ## Dates -/

namespace Date

/-- The numbers of a date have no more digits than there is room for. -/
structure IsWritable (d : Date) : Prop where
  year : d.year < 10 ^ 4
  month : d.month < 10 ^ 2
  day : d.day < 10 ^ 2

/-- Dates that exist have years of four digits, and months and days of two. -/
theorem isWritable_of_isValid {d : Date} (h : d.isValid) : d.IsWritable := by
  have hdays : daysInMonth d.year d.month ≤ 31 := by
    unfold daysInMonth
    split_ifs <;> decide
  simp only [isValid, Bool.and_eq_true, decide_eq_true_eq] at h
  obtain ⟨⟨⟨⟨⟨-, hyear⟩, -⟩, hmonth⟩, -⟩, hday⟩ := h
  exact ⟨by omega, by omega, by omega⟩

theorem toList_text (d : Date) :
    d.text.toList = (padded 4 d.year).toList ++ ('-' :: ((padded 2 d.month).toList ++
      ('-' :: (padded 2 d.day).toList))) := by
  simp [text, String.toList_append]

/-- The text of a date is before that of another one exactly if the date is. -/
theorem text_lt_text_iff {d e : Date} (hd : d.IsWritable) (he : e.IsWritable) :
    d.text < e.text ↔ d.sortKey < e.sortKey := by
  have hyears := (length_padded (by decide) hd.year).trans (length_padded (by decide) he.year).symm
  have hmonths :=
    (length_padded (by decide) hd.month).trans (length_padded (by decide) he.month).symm
  have hmarks : ∀ s t : List Char, ('-' :: s < '-' :: t ↔ s < t) := by
    intro s t
    simp
  rw [String.lt_iff, toList_text, toList_text, append_lt_append_iff hyears, hmarks,
    append_lt_append_iff hmonths, hmarks, padded_lt_padded_iff (by decide) hd.year he.year,
    padded_inj (by decide) hd.year he.year, padded_lt_padded_iff (by decide) hd.month he.month,
    padded_inj (by decide) hd.month he.month, padded_lt_padded_iff (by decide) hd.day he.day]
  simp [sortKey, List.cons_lt_cons_iff]

end Date

/-! ## The last of some dates -/

/-- The later of two dates is one of them, and neither is later. -/
theorem latest_spec (d e : Date) :
    (d.latest e = d ∨ d.latest e = e) ∧ ¬ (d.latest e).sortKey < d.sortKey ∧
      ¬ (d.latest e).sortKey < e.sortKey := by
  rw [Date.latest]
  by_cases h : d.sortKey < e.sortKey
  · rw [if_pos h]
    exact ⟨.inr rfl, List.lt_asymm h, List.lt_irrefl _⟩
  · rw [if_neg h]
    exact ⟨.inl rfl, List.lt_irrefl _, h⟩

/-- A date that is not later than one which is not later than a third is not later than the third. -/
theorem not_later_trans {d e last : Date} (h : ¬ e.sortKey < d.sortKey)
    (h' : ¬ last.sortKey < e.sortKey) : ¬ last.sortKey < d.sortKey := by
  rw [List.not_lt] at h h' ⊢
  exact List.le_trans h h'

theorem foldl_latest_spec (dates : List Date) (date : Date) :
    dates.foldl Date.latest date ∈ date :: dates ∧
      ∀ d ∈ date :: dates, ¬ (dates.foldl Date.latest date).sortKey < d.sortKey := by
  -- The fold begins anew with the later of the first two dates.
  induction dates generalizing date with
  | nil => simp
  | cons next others ih =>
      obtain ⟨hone, hdate, hnext⟩ := latest_spec date next
      obtain ⟨hmem, hle⟩ := ih (date.latest next)
      have hstart := hle (date.latest next) (by simp)
      constructor
      · rcases List.mem_cons.1 hmem with heq | hmem
        · rw [List.foldl_cons, heq]
          rcases hone with hone | hone <;> simp [hone]
        · exact List.mem_cons_of_mem _ (List.mem_cons_of_mem _ hmem)
      · intro d hd
        rcases List.mem_cons.1 hd with rfl | hd
        · exact not_later_trans hdate hstart
        · rcases List.mem_cons.1 hd with rfl | hd
          · exact not_later_trans hnext hstart
          · exact hle d (List.mem_cons_of_mem _ hd)

/-! ## Moments as text -/

/-- Whether a character is one of those that moments are written with. -/
def isClockChar (c : Char) : Bool :=
  c.isDigit || c = '-' || c = '+' || c = ':' || c = '.' || c = 'T'

theorem all_padded (width n : Nat) : (padded width n).toList.all isClockChar := by
  rw [List.all_eq_true]
  intro c hc
  rw [padded, String.toList_ofList, List.mem_append] at hc
  rcases hc with hc | hc
  · rw [(List.mem_replicate.1 hc).2]
    decide
  · simp [isClockChar, Nat.isDigit_of_mem_toDigits (by decide) (by decide) hc]

theorem all_momentText (m : Moment) : m.text.toList.all isClockChar := by
  have hfraction : ∀ n, (if n = 0 then "" else "." ++ padded 6 n).toList.all isClockChar := by
    intro n
    split
    · decide
    · rw [String.toList_append, List.all_append, all_padded]
      decide
  have hoffset : ∀ o : Offset, o.text.toList.all isClockChar := by
    intro o
    have hseconds : (if o.seconds % 60 = 0 && o.microsecond = 0 then ""
        else ":" ++ padded 2 (o.seconds % 60)).toList.all isClockChar := by
      split
      · decide
      · rw [String.toList_append, List.all_append, all_padded]
        decide
    have hsign : (if o.east then "+" else "-").toList.all isClockChar := by
      cases o.east <;> decide
    simp only [Offset.text, String.toList_append, List.all_append, all_padded, hseconds, hsign,
      hfraction]
    decide
  have hzone : ((m.offset.map Offset.text).getD "").toList.all isClockChar := by
    cases m.offset with
    | none => decide
    | some o => exact hoffset o
  simp only [Moment.text, Date.text, Moment.clockText, String.toList_append, List.all_append,
    all_padded, hfraction, hzone]
  decide

end StaticSite.Calendar
