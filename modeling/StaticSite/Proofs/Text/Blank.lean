import StaticSite.Text.Blank
import Mathlib.Tactic.SplitIfs

/-!
# Texts without blanks at their ends

Cutting blanks off the ends of a text leaves none there to be cut off.

A text is tidied by writing a single space for every run of blanks and cutting off what blanks are
left at its ends. The same is done in one pass that holds a space back until it meets the next
word, and the pass is what proofs about single characters are made of.

## What this module delivers

- `stripEndBy_of_getLast?`, `getLast?_stripEndBy`: the end of a text.
- `stripBy_stripBy`, `strip_strip`: cutting twice is cutting once.
- `tidy`: a text with its blanks tidied.
- `Lead`, `tidyFrom`: the pass, and what came before the place that it is at.
- `tidy_eq_tidyFrom`: the pass tidies.
-/

set_option autoImplicit false

namespace StaticSite.Text

theorem stripEndBy_of_getLast? {p : Char → Bool} {s : List Char}
    (h : ∀ c ∈ s.getLast?, p c = false) : stripEndBy p s = s := by
  have hreverse : s.reverse.dropWhile p = s.reverse := by
    cases hs : s.reverse with
    | nil => rfl
    | cons c more =>
        have hc : p c = false := h c (by rw [← List.head?_reverse, hs]; rfl)
        rw [List.dropWhile_cons_of_neg (by simp [hc])]
  rw [stripEndBy, hreverse, List.reverse_reverse]

theorem getLast?_stripEndBy (p : Char → Bool) (s : List Char) :
    ∀ c ∈ (stripEndBy p s).getLast?, p c = false := by
  intro c hc
  rw [stripEndBy, List.getLast?_reverse] at hc
  have hfirst := List.head?_dropWhile_not p s.reverse
  rw [Option.mem_def.1 hc] at hfirst
  simpa using hfirst

theorem stripEndBy_prefix (p : Char → Bool) (s : List Char) : stripEndBy p s <+: s := by
  have hsuffix := List.dropWhile_suffix (l := s.reverse) p
  rw [← List.reverse_prefix, List.reverse_reverse] at hsuffix
  exact hsuffix

/-- A text without characters of a class at its ends is left as it is. -/
theorem stripBy_stripBy (p : Char → Bool) (s : List Char) :
    stripBy p (stripBy p s) = stripBy p s := by
  have hhead : ∀ c ∈ (stripBy p s).head?, p c = false := by
    intro c hc
    have hfirst := List.head?_dropWhile_not p s
    have hmem : c ∈ (s.dropWhile p).head? := by
      obtain ⟨rest, hrest⟩ := stripEndBy_prefix p (s.dropWhile p)
      rw [← hrest]
      rw [stripBy] at hc
      cases hstripped : stripEndBy p (s.dropWhile p) with
      | nil => simp [hstripped] at hc
      | cons d more => simpa [hstripped] using hc
    rw [Option.mem_def.1 hmem] at hfirst
    simpa using hfirst
  have hdrop : (stripBy p s).dropWhile p = stripBy p s := by
    cases hs : stripBy p s with
    | nil => rfl
    | cons c more =>
        have hc : p c = false := hhead c (by rw [hs]; rfl)
        rw [List.dropWhile_cons_of_neg (by simp [hc])]
  calc stripBy p (stripBy p s)
      = stripEndBy p (stripBy p s) := by rw [stripBy, hdrop]
    _ = stripBy p s := stripEndBy_of_getLast? (getLast?_stripEndBy p _)

theorem strip_strip (s : String) : strip (strip s) = strip s := by
  rw [strip, strip, String.toList_ofList, stripBy_stripBy]

/-- A text with a single space for every run of blanks, and none at either end. -/
def tidy (s : List Char) : List Char :=
  stripBy isBlank (collapseBy isBlank s)

/-- What came before a place of a text: no word yet, a character of a word, or a blank behind a
word. -/
inductive Lead where
  | start
  | word
  | gap
deriving DecidableEq, Repr

/-- Tidies a text from a place on. A space is written when the next word begins. -/
def tidyFrom : Lead → List Char → List Char
  | _, [] => []
  | .start, c :: rest => if isBlank c then tidyFrom .start rest else c :: tidyFrom .word rest
  | .word, c :: rest => if isBlank c then tidyFrom .gap rest else c :: tidyFrom .word rest
  | .gap, c :: rest => if isBlank c then tidyFrom .gap rest else ' ' :: c :: tidyFrom .word rest

/-- What comes before the next place, behind a blank. -/
def Lead.behindBlank : Lead → Lead
  | .start => .start
  | .word => .gap
  | .gap => .gap

/-- What a word is written behind. -/
def Lead.space : Lead → List Char
  | .gap => [' ']
  | _ => []

theorem tidyFrom_blank {c : Char} (h : isBlank c) (lead : Lead) (rest : List Char) :
    tidyFrom lead (c :: rest) = tidyFrom lead.behindBlank rest := by
  cases lead <;> rw [tidyFrom, if_pos h] <;> rfl

theorem tidyFrom_word {c : Char} (h : isBlank c = false) (lead : Lead) (rest : List Char) :
    tidyFrom lead (c :: rest) = lead.space ++ c :: tidyFrom .word rest := by
  cases lead <;> rw [tidyFrom, if_neg (by simp [h])] <;> rfl

/-! ## The pass and the two steps -/

/-- Before the first word blanks are passed over. -/
theorem tidyFrom_start (s : List Char) :
    tidyFrom .start s = tidyFrom .word (s.dropWhile isBlank) := by
  induction s with
  | nil => rfl
  | cons c rest ih =>
      rw [List.dropWhile_cons]
      split_ifs with hblank
      · rw [tidyFrom_blank hblank, Lead.behindBlank, ih]
      · rw [tidyFrom, tidyFrom, if_neg hblank, if_neg hblank]

/-- Behind a word blanks are passed over, and a space is written if another word follows. -/
theorem tidyFrom_gap (s : List Char) :
    tidyFrom .gap s = if tidyFrom .word (s.dropWhile isBlank) = [] then []
      else ' ' :: tidyFrom .word (s.dropWhile isBlank) := by
  induction s with
  | nil => rfl
  | cons c rest ih =>
      by_cases hblank : isBlank c
      · rw [List.dropWhile_cons_of_pos hblank, tidyFrom_blank hblank, Lead.behindBlank, ih]
      · have hword : tidyFrom .word (c :: rest) = c :: tidyFrom .word rest := by
          rw [tidyFrom, if_neg hblank]
        rw [List.dropWhile_cons_of_neg hblank, hword, if_neg (by simp), tidyFrom, if_neg hblank]

theorem stripEndBy_cons (p : Char → Bool) (c : Char) (rest : List Char) :
    stripEndBy p (c :: rest)
      = if stripEndBy p rest = [] ∧ p c then [] else c :: stripEndBy p rest := by
  unfold stripEndBy
  rw [List.reverse_cons, List.dropWhile_append]
  cases hstripped : rest.reverse.dropWhile p with
  | nil => cases hc : p c <;> simp [hc]
  | cons d more => simp

/-- From a word on, the pass writes what is left when the end of the collapsed text is cut. -/
theorem stripEndBy_collapseBy :
    ∀ s : List Char, stripEndBy isBlank (collapseBy isBlank s) = tidyFrom .word s
  | [] => by
      rw [collapseBy]
      rfl
  | c :: rest => by
      -- a run of blanks is taken as a whole, as the collapsing does
      rw [collapseBy]
      split_ifs with hblank
      · have hrest := stripEndBy_collapseBy (rest.dropWhile isBlank)
        have hspace : isBlank ' ' := by decide
        rw [stripEndBy_cons, hrest, tidyFrom_blank hblank, Lead.behindBlank, tidyFrom_gap]
        simp [hspace]
      · have hrest := stripEndBy_collapseBy rest
        rw [stripEndBy_cons, hrest, tidyFrom, if_neg hblank, if_neg fun h => hblank h.2]
termination_by s => s.length
decreasing_by
  · have hle := (List.dropWhile_sublist (l := rest) isBlank).length_le
    simp only [List.length_cons]
    omega
  · simp

/-- Cutting blanks off the front may come before the collapsing. -/
theorem dropWhile_collapseBy (s : List Char) :
    (collapseBy isBlank s).dropWhile isBlank = collapseBy isBlank (s.dropWhile isBlank) := by
  -- a text that begins with no blank keeps its first character
  have hkept : ∀ t : List Char, (∀ c ∈ t.head?, isBlank c = false) →
      (collapseBy isBlank t).dropWhile isBlank = collapseBy isBlank t := by
    intro t ht
    cases t with
    | nil =>
        rw [collapseBy]
        rfl
    | cons c rest =>
        have hc : isBlank c = false := ht c rfl
        rw [collapseBy, if_neg (by simp [hc]), List.dropWhile_cons_of_neg (by simp [hc])]
  have hfirst : ∀ t : List Char, ∀ c ∈ (t.dropWhile isBlank).head?, isBlank c = false := by
    intro t c hc
    have hnot := List.head?_dropWhile_not isBlank t
    rw [Option.mem_def.1 hc] at hnot
    simpa using hnot
  cases s with
  | nil =>
      rw [List.dropWhile_nil, collapseBy]
      rfl
  | cons c rest =>
      by_cases hblank : isBlank c
      · have hspace : isBlank ' ' := by decide
        rw [collapseBy, if_pos hblank, List.dropWhile_cons_of_pos hspace,
          List.dropWhile_cons_of_pos hblank]
        exact hkept _ (hfirst rest)
      · rw [List.dropWhile_cons_of_neg hblank]
        exact hkept _ fun d hd => by
          rw [← Option.some.inj hd]
          simpa using hblank

/-- The pass from the start tidies. -/
theorem tidy_eq_tidyFrom (s : List Char) : tidy s = tidyFrom .start s := by
  rw [tidy, stripBy, dropWhile_collapseBy, stripEndBy_collapseBy, tidyFrom_start]

end StaticSite.Text
