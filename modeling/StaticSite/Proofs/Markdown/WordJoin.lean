import StaticSite.Proofs.Markdown.WordLine
import StaticSite.Proofs.Text.Blank

/-!
# Words across line ends

A line of words may end and go on in its source. Where its line ends are shown they separate words;
where they are left out they join the word before with the word behind, unless a blank stands there
as well. Up to blanks the two readings of a line differ exactly if some line end joins two words.

## What this module delivers

- `JoinsWords`: line ends that stand directly between two words.
- `joins`, `joins_pos_iff`: how many places of a line have such line ends.
- `tidyFrom_shownChars`: each of these places is worth one space, and nothing else is.
- `tidy_charsOf_iff`: when the two readings agree.
-/

set_option autoImplicit false

namespace StaticSite.Markdown

open StaticSite.Text

/-- Line ends stand directly between two characters that are no blanks. -/
def JoinsWords (items : List Item) : Prop :=
  ∃ before c n d after,
    items = before ++ some c :: (List.replicate (n + 1) none ++ some d :: after) ∧
      isBlank c = false ∧ isBlank d = false

/-- The number of places at which line ends stand directly between two characters that are no
blanks. The flags tell whether the last character before a place is no blank, and whether a line end
follows it. -/
def joinsFrom : (inWord ended : Bool) → List Item → Nat
  | _, _, [] => 0
  | inWord, _, none :: rest => joinsFrom inWord true rest
  | inWord, ended, some c :: rest =>
    if isBlank c then joinsFrom false false rest
    else (if inWord && ended then 1 else 0) + joinsFrom true false rest

/-- The number of places at which line ends join words. -/
def joins (items : List Item) : Nat :=
  joinsFrom false false items

/-! ## Where words are joined -/

/-- Only line ends stand before a character that is no blank, and there is one of them if `ended`
does not tell of one already. -/
def EndsBefore (ended : Bool) (items : List Item) : Prop :=
  ∃ n d after, items = List.replicate n none ++ some d :: after ∧ isBlank d = false ∧
    (ended = true ∨ 0 < n)

theorem endsBefore_none (ended : Bool) (rest : List Item) :
    EndsBefore ended (none :: rest) ↔ EndsBefore true rest := by
  constructor
  · rintro ⟨n, d, after, hitems, hd, -⟩
    cases n with
    | zero => exact absurd hitems (by simp)
    | succ n =>
        rw [List.replicate_succ, List.cons_append, List.cons.injEq] at hitems
        exact ⟨n, d, after, hitems.2, hd, .inl rfl⟩
  · rintro ⟨n, d, after, rfl, hd, -⟩
    exact ⟨n + 1, d, after, rfl, hd, .inr (Nat.succ_pos n)⟩

theorem endsBefore_some (ended : Bool) (c : Char) (rest : List Item) :
    EndsBefore ended (some c :: rest) ↔ isBlank c = false ∧ ended = true := by
  constructor
  · rintro ⟨n, d, after, hitems, hd, hn⟩
    cases n with
    | zero =>
        rw [List.replicate_zero, List.nil_append, List.cons.injEq, Option.some.injEq] at hitems
        rw [hitems.1]
        exact ⟨hd, hn.resolve_right (Nat.lt_irrefl 0)⟩
    | succ n => exact absurd hitems (by simp [List.replicate_succ])
  · rintro ⟨hc, hended⟩
    exact ⟨0, c, rest, rfl, hc, .inl hended⟩

theorem joinsWords_none (rest : List Item) : JoinsWords (none :: rest) ↔ JoinsWords rest := by
  constructor
  · rintro ⟨before, c, n, d, after, hitems, hc, hd⟩
    cases before with
    | nil => exact absurd hitems (by simp)
    | cons first others =>
        rw [List.cons_append, List.cons.injEq] at hitems
        exact ⟨others, c, n, d, after, hitems.2, hc, hd⟩
  · rintro ⟨before, c, n, d, after, rfl, hc, hd⟩
    exact ⟨none :: before, c, n, d, after, rfl, hc, hd⟩

theorem joinsWords_some (c : Char) (rest : List Item) :
    JoinsWords (some c :: rest) ↔
      JoinsWords rest ∨ (isBlank c = false ∧ EndsBefore false rest) := by
  constructor
  · rintro ⟨before, c', n, d, after, hitems, hc, hd⟩
    cases before with
    | nil =>
        rw [List.nil_append, List.cons.injEq, Option.some.injEq] at hitems
        obtain ⟨rfl, rfl⟩ := hitems
        exact .inr ⟨hc, n + 1, d, after, rfl, hd, .inr (Nat.succ_pos n)⟩
    | cons first others =>
        rw [List.cons_append, List.cons.injEq] at hitems
        exact .inl ⟨others, c', n, d, after, hitems.2, hc, hd⟩
  · rintro (⟨before, c', n, d, after, rfl, hc, hd⟩ | ⟨hc, n, d, after, rfl, hd, hn⟩)
    · exact ⟨some c :: before, c', n, d, after, rfl, hc, hd⟩
    · obtain ⟨m, rfl⟩ := Nat.exists_eq_succ_of_ne_zero
        (Nat.pos_iff_ne_zero.mp (hn.resolve_left Bool.false_ne_true))
      exact ⟨[], c, m, d, after, rfl, hc, hd⟩

/-- From a place on words are joined if they are later, or if the line ends behind the place join the
word before it with the next one. -/
theorem joinsFrom_pos_iff (items : List Item) :
    ∀ inWord ended, 0 < joinsFrom inWord ended items ↔
      JoinsWords items ∨ (inWord = true ∧ EndsBefore ended items) := by
  -- The induction is on the line; the flags stand for the part of it that was passed.
  induction items with
  | nil =>
      intro inWord ended
      constructor
      · intro h
        exact absurd h (Nat.lt_irrefl 0)
      · rintro (⟨before, c, n, d, after, hitems, -⟩ | ⟨-, n, d, after, hitems, -⟩)
        · exact absurd hitems (by simp)
        · exact absurd hitems (by simp)
  | cons item rest ih =>
      intro inWord ended
      cases item with
      | none => rw [joinsFrom, ih, joinsWords_none, endsBefore_none]
      | some c =>
          rw [joinsFrom, joinsWords_some, endsBefore_some]
          by_cases hblank : isBlank c
          · rw [if_pos hblank, ih]
            simp [hblank]
          · have hword : isBlank c = false := by simpa using hblank
            rw [if_neg hblank, Nat.add_pos_iff_pos_or_pos, ih]
            cases inWord <;> cases ended <;> simp [hword]

/-- Words are joined somewhere exactly if there is a place at which they are. -/
theorem joins_pos_iff (items : List Item) : 0 < joins items ↔ JoinsWords items := by
  rw [joins, joinsFrom_pos_iff]
  simp

/-! ## The two readings of a line -/

/-- What comes before a place where line ends are shown: they are blanks. -/
def shownLead (lead : Lead) (ended : Bool) : Lead :=
  if ended then lead.behindBlank else lead

theorem behindBlank_shownLead (lead : Lead) (ended : Bool) :
    (shownLead lead ended).behindBlank = shownLead lead true ∧
      (shownLead lead ended).behindBlank = shownLead lead.behindBlank false := by
  cases lead <;> cases ended <;> exact ⟨rfl, rfl⟩

/-- Only behind a word does a line end make a gap where there was none. -/
theorem space_shownLead (lead : Lead) (ended : Bool) :
    lead.space.Sublist (shownLead lead ended).space ∧
      (shownLead lead ended).space.length
        = (if decide (lead = .word) && ended then 1 else 0) + lead.space.length := by
  cases lead <;> cases ended <;> exact ⟨by decide, rfl⟩

/-- Where line ends are shown, those that join words are written as a space each, and nothing else is
added. -/
theorem tidyFrom_shownChars (items : List Item) :
    ∀ lead ended,
      (tidyFrom lead (charsOf items)).Sublist
          (tidyFrom (shownLead lead ended) (shownChars items)) ∧
      (tidyFrom (shownLead lead ended) (shownChars items)).length
        = joinsFrom (decide (lead = .word)) ended items
          + (tidyFrom lead (charsOf items)).length := by
  -- Both passes go over the line together; `ended` tells how far the one that sees the line ends is
  -- ahead of the other.
  induction items with
  | nil =>
      intro lead ended
      cases lead <;> cases ended <;> exact ⟨List.Sublist.slnil, rfl⟩
  | cons item rest ih =>
      intro lead ended
      cases item with
      | none =>
          have hend : isBlank '\n' := by decide
          have hshown : shownChars (none :: rest) = '\n' :: shownChars rest := rfl
          have hchars : charsOf (none :: rest) = charsOf rest := rfl
          rw [hshown, hchars, tidyFrom_blank hend, (behindBlank_shownLead lead ended).1, joinsFrom]
          exact ih lead true
      | some c =>
          have hshown : shownChars (some c :: rest) = c :: shownChars rest := rfl
          have hchars : charsOf (some c :: rest) = c :: charsOf rest := rfl
          rw [hshown, hchars, joinsFrom]
          by_cases hblank : isBlank c
          · have hword : decide (lead.behindBlank = .word) = false := by
              cases lead <;> rfl
            have hrest := ih lead.behindBlank false
            rw [hword] at hrest
            rw [if_pos hblank, tidyFrom_blank hblank, tidyFrom_blank hblank,
              (behindBlank_shownLead lead ended).2]
            exact hrest
          · have hword : isBlank c = false := by simpa using hblank
            obtain ⟨hspace, hcount⟩ := space_shownLead lead ended
            obtain ⟨hsublist, hlength⟩ := ih .word false
            have hlead : shownLead .word false = .word := rfl
            have hin : decide (Lead.word = .word) = true := rfl
            rw [hlead] at hsublist hlength
            rw [hin] at hlength
            rw [if_neg hblank, tidyFrom_word hword, tidyFrom_word hword]
            refine ⟨hspace.append (hsublist.cons_cons c), ?_⟩
            simp only [List.length_append, List.length_cons, hcount, hlength]
            omega

/-- Up to blanks, the characters of a line read as the line is shown exactly if no line end joins two
words. -/
theorem tidy_charsOf_iff (items : List Item) :
    tidy (charsOf items) = tidy (shownChars items) ↔ ¬ JoinsWords items := by
  obtain ⟨hsublist, hlength⟩ := tidyFrom_shownChars items .start false
  have hlead : shownLead .start false = .start := rfl
  have hnone : decide (Lead.start = .word) = false := rfl
  rw [hlead] at hsublist hlength
  rw [hnone, ← joins] at hlength
  rw [tidy_eq_tidyFrom, tidy_eq_tidyFrom, ← joins_pos_iff]
  constructor
  · intro hsame hpositive
    rw [hsame] at hlength
    omega
  · -- without spaces to add, the shorter reading is all of the longer one
    intro hzero
    exact hsublist.eq_of_length (by omega)

end StaticSite.Markdown
