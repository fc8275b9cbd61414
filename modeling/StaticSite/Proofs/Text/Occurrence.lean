import StaticSite.Text.Split

/-!
# Occurrences of a word in a text

A cut at a word is a cut at its leftmost occurrence.

## What this module delivers

- `OccursAt word s n`: the word stands in the text at the place `n`.
- `cutAtWord?_eq_none_iff`: there is no cut exactly when the word occurs nowhere.
- `cutAtWord?_eq_some_iff`: a cut is a spelling of the text with the word in the middle and no
  occurrence of the word at an earlier place.
- `not_occursAt_of_head`: a word that begins with a character it has nowhere else is first found
  where it was put.
-/

set_option autoImplicit false

namespace StaticSite.Text

/-- A word stands in a text at a place. -/
def OccursAt (word s : List Char) (n : Nat) : Prop :=
  word <+: s.drop n

/-- A word stands where it was put. -/
theorem occursAt_append (before word after : List Char) :
    OccursAt word (before ++ (word ++ after)) before.length := by
  rw [OccursAt, List.drop_left]
  exact List.prefix_append word after

/-- What occurs in a text after a front part occurs in the rest. -/
theorem occursAt_append_iff {word s t : List Char} {n : Nat} :
    OccursAt word (s ++ t) (s.length + n) ↔ OccursAt word t n := by
  rw [OccursAt, OccursAt, List.drop_append, List.drop_eq_nil_of_le (by omega)]
  simp

theorem dropWord?_eq_none_iff {word s : List Char} : dropWord? word s = none ↔ ¬ word <+: s := by
  rw [dropWord?, ← List.isPrefixOf_iff_prefix]
  split <;> simp_all

/-- There is no cut exactly when the word occurs nowhere. -/
theorem cutAtWord?_eq_none_iff {word s : List Char} :
    cutAtWord? word s = none ↔ ∀ n, ¬ OccursAt word s n := by
  induction s with
  | nil =>
      have hn : ∀ n, OccursAt word [] n ↔ word = [] := by
        intro n
        rw [OccursAt, List.drop_nil, List.prefix_nil]
      simp only [cutAtWord?, hn, List.isEmpty_iff, ite_eq_right_iff, reduceCtorEq, imp_false,
        forall_const]
  | cons c rest ih =>
      rw [cutAtWord?]
      cases hd : dropWord? word (c :: rest) with
      | some after =>
          refine iff_of_false (by simp) fun h => h 0 ?_
          rw [dropWord?_eq_some hd]
          exact List.prefix_append word after
      | none =>
          rw [Option.map_eq_none_iff, ih]
          constructor
          · intro h n
            cases n with
            | zero => exact dropWord?_eq_none_iff.1 hd
            | succ n => exact h n
          · exact fun h n => h (n + 1)

/-- The place at which a text is cut is the leftmost one. -/
theorem not_occursAt_of_cutAtWord? {word s before after : List Char}
    (h : cutAtWord? word s = some (before, after)) :
    ∀ n < before.length, ¬ OccursAt word s n := by
  induction s generalizing before with
  | nil =>
      rw [cutAtWord?] at h
      split at h
      · simp only [Option.some.injEq, Prod.mk.injEq] at h
        simp [← h.1]
      · simp at h
  | cons c rest ih =>
      rw [cutAtWord?] at h
      cases hd : dropWord? word (c :: rest) with
      | some rest' =>
          simp only [hd, Option.some.injEq, Prod.mk.injEq] at h
          simp [← h.1]
      | none =>
          simp only [hd] at h
          obtain ⟨⟨inner, after'⟩, hi, he⟩ := Option.map_eq_some_iff.1 h
          simp only [Prod.mk.injEq] at he
          obtain ⟨rfl, rfl⟩ := he
          intro n hn
          cases n with
          | zero => exact dropWord?_eq_none_iff.1 hd
          | succ n => exact ih hi n (by simpa using hn)

/-- Two spellings of a text with a word in the middle and no earlier occurrence are the same. -/
theorem eq_of_leftmost {word before after before' after' : List Char}
    (he : before ++ (word ++ after) = before' ++ (word ++ after'))
    (h : ∀ n < before.length, ¬ OccursAt word (before ++ (word ++ after)) n)
    (h' : ∀ n < before'.length, ¬ OccursAt word (before' ++ (word ++ after')) n) :
    before = before' ∧ after = after' := by
  have hl : before.length = before'.length := by
    rcases Nat.lt_trichotomy before.length before'.length with hlt | heq | hgt
    · exact absurd (he ▸ occursAt_append before word after) (h' _ hlt)
    · exact heq
    · exact absurd (he ▸ occursAt_append before' word after') (h _ hgt)
  obtain ⟨hb, hr⟩ := List.append_inj he hl
  exact ⟨hb, List.append_cancel_left hr⟩

/-- A cut is a spelling of the text with the word in the middle and no earlier occurrence. -/
theorem cutAtWord?_eq_some_iff {word s before after : List Char} :
    cutAtWord? word s = some (before, after) ↔
      s = before ++ (word ++ after) ∧ ∀ n < before.length, ¬ OccursAt word s n := by
  constructor
  · intro h
    refine ⟨?_, not_occursAt_of_cutAtWord? h⟩
    rw [cutAtWord?_eq_some h, List.append_assoc]
  · rintro ⟨rfl, hfirst⟩
    cases hc : cutAtWord? word (before ++ (word ++ after)) with
    | none => exact absurd (occursAt_append before word after) (cutAtWord?_eq_none_iff.1 hc _)
    | some cut =>
        obtain ⟨before', after'⟩ := cut
        have he : before ++ (word ++ after) = before' ++ (word ++ after') := by
          rw [cutAtWord?_eq_some hc, List.append_assoc]
        have hfirst' := not_occursAt_of_cutAtWord? hc
        rw [he] at hfirst'
        obtain ⟨rfl, rfl⟩ := eq_of_leftmost he hfirst hfirst'
        rfl

/-- A word that begins with a character it has nowhere else cannot overlap itself: after a text that
does not hold it, it is first found where it was put. -/
theorem not_occursAt_of_head {c : Char} {tail before : List Char} (hc : c ∉ tail)
    (hbefore : ∀ n, ¬ OccursAt (c :: tail) before n) (after : List Char) :
    ∀ n < before.length, ¬ OccursAt (c :: tail) (before ++ (c :: tail ++ after)) n := by
  intro n hn hoccurs
  rw [OccursAt, List.drop_append_of_le_length (Nat.le_of_lt hn)] at hoccurs
  rcases List.prefix_or_prefix_of_prefix hoccurs (List.prefix_append _ _) with hinside | hover
  · exact hbefore n hinside
  · -- the word would reach from the front text to its own beginning
    obtain ⟨reach, hreach⟩ := hover
    have hfront : before.drop n ≠ [] := by simpa using hn
    obtain ⟨d, front, hd⟩ := List.exists_cons_of_ne_nil hfront
    rw [hd, List.cons_append, List.cons.injEq] at hreach
    obtain ⟨rfl, rfl⟩ := hreach
    cases reach with
    | nil =>
        refine hbefore n ?_
        rw [OccursAt, hd]
        exact ⟨[], by simp⟩
    | cons e reach =>
        rw [hd, List.cons_append, List.cons_append, List.append_assoc, List.cons_prefix_cons,
          List.prefix_append_right_inj, List.cons_append, List.cons_prefix_cons] at hoccurs
        obtain ⟨-, rfl, -⟩ := hoccurs
        exact hc (by simp)

end StaticSite.Text
