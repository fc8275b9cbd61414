import Mathlib.Data.List.Basic
import Mathlib.Tactic.SplitIfs
import StaticSite.Text.Blank
import StaticSite.Text.CharacterClass
import StaticSite.Text.LowerCase

/-!
# Texts in lower case

The mapping to lower case moves code points in runs. None is moved to where a run would move it
again, so a text in lower case is left as it is. This is a property of the table, and there are
enough code points in it to compare the runs two by two instead: either they are apart after the
first of them was moved, or all of its code points fall into the gaps of the other.

A letter or digit becomes letters and digits again, with one exception: the capital I with a dot
becomes the small one with the dot beside it, a combining character that is neither. Here too the
runs are compared with the table: each leads into one range of it, or moves no letter or digit.

The two forms of the Greek sigma at the end of a word and within are in lower case both.

## What this module delivers

- `toNat_ofNat`, `ofNat_of_not_isValidChar`: codes and their characters.
- `CaseRun.Moves`, `shiftCase_cases`: a code point is moved by a run, or not at all.
- `CaseRun.misses`, `not_moves_of_misses`: code points that are moved once.
- `mem_lower`, `eq_or_of_mem_lower`: what a character becomes in lower case.
- `holdsAll`, `CaseRun.staysIn`, `lowerRuns_stay`: runs that do not lead out of a table.
- `isAlphanumeric_or_of_mem_lower`: what a letter or digit becomes.
- `not_isBlank_of_isAlphanumeric`, `isAlphanumeric_of_isDigit`: blanks and the digits of ASCII.
- `lower_of_mem_lower`, `lowerText_lowerText`: a text in lower case is left as it is.
- `head?_lowerText`: no text begins with a dot that did not before.
-/

set_option autoImplicit false

namespace StaticSite.Text

/-! ## Codes and characters -/

/-- A code that is one of a character is read back from the character. -/
theorem toNat_ofNat {code : Nat} (h : code.isValidChar) : (Char.ofNat code).toNat = code := by
  rw [Char.ofNat, dif_pos h]
  rfl

/-- A code of no character stands for the character of code 0. -/
theorem ofNat_of_not_isValidChar {code : Nat} (h : ¬ code.isValidChar) :
    Char.ofNat code = Char.ofNat 0 := by
  rw [Char.ofNat, dif_neg h]
  rfl

/-! ## Code points that are moved -/

/-- A run moves a code point. -/
structure CaseRun.Moves (run : CaseRun) (code : Nat) : Prop where
  first_le : run.first ≤ code
  le_last : code ≤ run.last
  onStride : (code - run.first) % run.stride = 0

/-- Where a run moves a code point. -/
def CaseRun.moved (run : CaseRun) (code : Nat) : Nat :=
  ((code : Int) + run.distance).toNat

variable {runs : List CaseRun} {run other : CaseRun} {code : Nat}

/-- A code point is moved by a run, or it is in none. -/
theorem shiftCase_cases (runs : List CaseRun) (code : Nat) :
    (shiftCase runs code = code ∧ ∀ run ∈ runs, ¬ run.Moves code) ∨
      ∃ run ∈ runs, run.Moves code ∧ shiftCase runs code = run.moved code := by
  induction runs with
  | nil => exact .inl ⟨rfl, fun run hrun => absurd hrun List.not_mem_nil⟩
  | cons run rest ih =>
      rw [shiftCase]
      split
      · rename_i hin
        simp only [Bool.and_eq_true, decide_eq_true_eq, beq_iff_eq] at hin
        obtain ⟨⟨hfirst, hlast⟩, hstride⟩ := hin
        exact .inr ⟨run, List.mem_cons_self, ⟨hfirst, hlast, hstride⟩, rfl⟩
      · rename_i hout
        have hnot : ¬ run.Moves code := by
          rintro ⟨hfirst, hlast, hstride⟩
          exact hout (by simp [hfirst, hlast, hstride])
        rcases ih with ⟨hsame, hnone⟩ | ⟨found, hfound, hmoves, hmoved⟩
        · refine .inl ⟨hsame, ?_⟩
          intro found hfound
          rcases List.mem_cons.mp hfound with rfl | hfound
          · exact hnot
          · exact hnone found hfound
        · exact .inr ⟨found, List.mem_cons_of_mem run hfound, hmoves, hmoved⟩

theorem shiftCase_of_not_moves (h : ∀ run ∈ runs, ¬ run.Moves code) :
    shiftCase runs code = code := by
  rcases shiftCase_cases runs code with ⟨hsame, -⟩ | ⟨run, hrun, hmoves, -⟩
  · exact hsame
  · exact absurd hmoves (h run hrun)

/-! ## Code points that are moved once -/

/-- Whether a run has no code point between two others, or none at an even distance from the first
of them if only such ones count. -/
def CaseRun.avoids (run : CaseRun) (first last : Nat) (even : Bool) : Bool :=
  Nat.blt last run.first || Nat.blt run.last first ||
    (even && run.stride % 2 == 0 && (first + run.first) % 2 == 1)

/-- Whether other runs have no code point where a run moves its own. -/
def CaseRun.misses (run : CaseRun) (others : List CaseRun) : Bool :=
  others.all fun other => other.avoids (run.moved run.first) (run.moved run.last)
    (run.stride % 2 == 0 || run.first == run.last)

theorem even_of_mod_eq_zero {n stride : Nat} (hstride : stride % 2 = 0) (h : n % stride = 0) :
    n % 2 = 0 := by
  apply Nat.mod_eq_zero_of_dvd
  exact Nat.dvd_trans (Nat.dvd_of_mod_eq_zero hstride) (Nat.dvd_of_mod_eq_zero h)

theorem not_moves_of_avoids {first last : Nat} {even : Bool} (h : run.avoids first last even)
    (hfirst : first ≤ code) (hlast : code ≤ last) (heven : even → (code - first) % 2 = 0) :
    ¬ run.Moves code := by
  rintro ⟨hbegin, hend, hstride⟩
  simp only [CaseRun.avoids, Bool.or_eq_true, Bool.and_eq_true, Nat.blt_eq, beq_iff_eq] at h
  rcases h with (hbefore | hbehind) | ⟨⟨hcounts, hrun⟩, hodd⟩
  · omega
  · omega
  · have hgap := heven hcounts
    have hgap' := even_of_mod_eq_zero hrun hstride
    omega

/-- What is moved to where no run has a code point is not moved by any. -/
theorem not_moves_of_misses {others : List CaseRun} (h : run.misses others)
    (hpositive : 0 ≤ (run.first : Int) + run.distance) (hmoves : run.Moves code) :
    ∀ other ∈ others, ¬ other.Moves (run.moved code) := by
  obtain ⟨hfirst, hlast, hstride⟩ := hmoves
  have hmoved : ∀ code', run.first ≤ code' → (run.moved code' : Int) = code' + run.distance := by
    intro code' hcode'
    rw [CaseRun.moved]
    omega
  have hcode := hmoved code hfirst
  have hbegin := hmoved run.first (Nat.le_refl _)
  have hend := hmoved run.last (by omega)
  intro other hother
  apply not_moves_of_avoids (List.all_eq_true.mp h other hother)
  · omega
  · omega
  · -- a run of every second code point is moved as one
    intro heven
    rw [Bool.or_eq_true, beq_iff_eq, beq_iff_eq] at heven
    rcases heven with heven | hone
    · have hgap := even_of_mod_eq_zero heven hstride
      omega
    · omega

/-! ## Characters in lower case -/

theorem lowerRuns_positive :
    lowerRuns.all fun run => decide (0x41 ≤ (run.first : Int) + run.distance) := by
  decide

/-- No code point is moved to one that is moved. -/
theorem lowerRuns_misses : lowerRuns.all fun run => run.misses lowerRuns := by
  decide +kernel

/-- A character that is written as several, as a run of its own. -/
def expandedRuns : List CaseRun :=
  lowerExpansions.map fun entry => ⟨entry.1, entry.1, 1, 0⟩

theorem lowerRuns_misses_expanded : lowerRuns.all fun run => run.misses expandedRuns := by
  decide +kernel

/-- The character of a code point in no run is in lower case. -/
theorem lower_of_not_moves {c : Char} (hruns : ∀ run ∈ lowerRuns, ¬ run.Moves c.toNat)
    (hexpanded : ∀ run ∈ expandedRuns, ¬ run.Moves c.toNat) : lower c = [c] := by
  have hlookup : lowerExpansions.lookup c.toNat = none := by
    rw [List.lookup_eq_none_iff]
    intro entry hentry
    rw [bne_iff_ne]
    intro hsame
    apply hexpanded _ (List.mem_map_of_mem hentry)
    rw [hsame]
    exact ⟨Nat.le_refl _, Nat.le_refl _, Nat.mod_one _⟩
  rw [lower, mapCase, hlookup, shiftCase_of_not_moves hruns]
  simp only [Char.ofNat_toNat]

/-- What a character becomes in lower case: itself, one of several characters, or the one that it is
moved to. -/
theorem mem_lower {c d : Char} (h : d ∈ lower c) :
    d = c ∧ lower c = [c] ∨ (∃ entry ∈ lowerExpansions, ∃ code ∈ entry.2, d = Char.ofNat code) ∨
      ∃ run ∈ lowerRuns, run.Moves c.toNat ∧ d = Char.ofNat (run.moved c.toNat) := by
  rw [lower, mapCase] at h ⊢
  cases hlookup : lowerExpansions.lookup c.toNat with
  | some codes =>
      obtain ⟨before, after, hsplit, -⟩ := List.lookup_eq_some_iff.mp hlookup
      rw [hlookup] at h
      obtain ⟨code, hcode, rfl⟩ := List.mem_map.mp h
      refine .inr (.inl ⟨(c.toNat, codes), ?_, code, hcode, rfl⟩)
      rw [hsplit]
      exact List.mem_append_right _ List.mem_cons_self
  | none =>
      rw [hlookup] at h
      obtain rfl := List.mem_singleton.mp h
      rcases shiftCase_cases lowerRuns c.toNat with ⟨hsame, -⟩ | ⟨run, hrun, hmoves, hmoved⟩
      · left
        rw [hsame, Char.ofNat_toNat]
        exact ⟨rfl, rfl⟩
      · exact .inr (.inr ⟨run, hrun, hmoves, congrArg Char.ofNat hmoved⟩)

/-- What a character becomes in lower case is in lower case. -/
theorem lower_of_mem_lower {c d : Char} (h : d ∈ lower c) : lower d = [d] := by
  rcases mem_lower h with ⟨rfl, hlower⟩ | ⟨entry, hentry, code, hcode, rfl⟩ |
    ⟨run, hrun, hmoves, rfl⟩
  · exact hlower
  · have hchecked : lowerExpansions.all fun entry => entry.2.all fun code =>
        lower (Char.ofNat code) = [Char.ofNat code] := by
      decide
    exact of_decide_eq_true (List.all_eq_true.mp (List.all_eq_true.mp hchecked entry hentry) code
      hcode)
  · by_cases hvalid : (run.moved c.toNat).isValidChar
    · have hpositive := of_decide_eq_true (List.all_eq_true.mp lowerRuns_positive run hrun)
      have hmisses := List.all_eq_true.mp lowerRuns_misses run hrun
      have hexpanded := List.all_eq_true.mp lowerRuns_misses_expanded run hrun
      apply lower_of_not_moves
      · rw [toNat_ofNat hvalid]
        exact not_moves_of_misses hmisses (by omega) hmoves
      · rw [toNat_ofNat hvalid]
        exact not_moves_of_misses hexpanded (by omega) hmoves
    · rw [ofNat_of_not_isValidChar hvalid]
      decide

/-- A character becomes itself in lower case, or one from the code point of `A` on. -/
theorem eq_or_of_mem_lower {c d : Char} (h : d ∈ lower c) :
    d = c ∨ ∃ code, 0x41 ≤ code ∧ d = Char.ofNat code := by
  rcases mem_lower h with ⟨hsame, -⟩ | ⟨entry, hentry, code, hcode, hd⟩ |
    ⟨run, hrun, hmoves, hd⟩
  · exact .inl hsame
  · have hchecked : lowerExpansions.all fun entry => entry.2.all fun code => 0x41 ≤ code := by
      decide
    have hentries := List.all_eq_true.mp (List.all_eq_true.mp hchecked entry hentry)
    exact .inr ⟨code, of_decide_eq_true (hentries code hcode), hd⟩
  · have hpositive := of_decide_eq_true (List.all_eq_true.mp lowerRuns_positive run hrun)
    have hfirst := hmoves.first_le
    refine .inr ⟨run.moved c.toNat, ?_, hd⟩
    rw [CaseRun.moved]
    omega

/-- No character but the dot becomes a dot. -/
theorem dot_not_mem_lower {c : Char} (h : c ≠ '.') : '.' ∉ lower c := by
  intro hdot
  rcases eq_or_of_mem_lower hdot with hsame | ⟨code, hcode, hsame⟩
  · exact h hsame.symm
  · by_cases hvalid : code.isValidChar
    · have htoNat := congrArg Char.toNat hsame
      have hvalue : '.'.toNat = 0x2e := rfl
      rw [toNat_ofNat hvalid, hvalue] at htoNat
      omega
    · rw [ofNat_of_not_isValidChar hvalid] at hsame
      exact absurd hsame (by decide)

theorem lower_ne_nil (c : Char) : lower c ≠ [] := by
  rw [lower, mapCase]
  cases hlookup : lowerExpansions.lookup c.toNat with
  | some codes =>
      have hchecked : lowerExpansions.all fun entry => !entry.2.isEmpty := by decide
      obtain ⟨before, after, hsplit, -⟩ := List.lookup_eq_some_iff.mp hlookup
      have hmem : (c.toNat, codes) ∈ lowerExpansions := by
        rw [hsplit]
        exact List.mem_append_right _ List.mem_cons_self
      have hsome := List.all_eq_true.mp hchecked _ hmem
      intro hnil
      rw [List.map_eq_nil_iff.mp hnil] at hsome
      exact Bool.noConfusion hsome
  | none => exact List.cons_ne_nil _ _

/-! ## Ranges of code points -/

section

variable {ranges : List CodeRange} {first last : Nat}

/-- A code point of a table lies in one of its ranges. -/
theorem exists_of_inRanges (h : inRanges ranges code) :
    ∃ range ∈ ranges, range.1 ≤ code ∧ code ≤ range.2 := by
  induction ranges with
  | nil => exact absurd h (by simp [inRanges])
  | cons range rest ih =>
      obtain ⟨start, stop⟩ := range
      rw [inRanges] at h
      split_ifs at h with hbefore hinside
      · exact ⟨(start, stop), List.mem_cons_self, Nat.le_of_not_lt hbefore, hinside⟩
      · obtain ⟨range, hrange, hcode⟩ := ih h
        exact ⟨range, List.mem_cons_of_mem _ hrange, hcode⟩

/-- Whether one of the ranges, which are listed in increasing order, holds all code points between
two. -/
def holdsAll (first last : Nat) : List CodeRange → Bool
  | [] => false
  | (start, stop) :: rest =>
    Nat.ble start first && (Nat.ble last stop || (Nat.blt stop first && holdsAll first last rest))

theorem inRanges_of_holdsAll (h : holdsAll first last ranges) (hfirst : first ≤ code)
    (hlast : code ≤ last) : inRanges ranges code := by
  induction ranges with
  | nil => exact absurd h (by simp [holdsAll])
  | cons range rest ih =>
      obtain ⟨start, stop⟩ := range
      simp only [holdsAll, Bool.and_eq_true, Bool.or_eq_true, Nat.ble_eq, Nat.blt_eq] at h
      obtain ⟨hstart, hinside | ⟨hbehind, hrest⟩⟩ := h
      · rw [inRanges, if_neg (by omega), if_pos (by omega)]
      · rw [inRanges, if_neg (by omega), if_neg (by omega)]
        exact ih hrest

/-- Whether a run moves its code points into one range of a table, or has none of the table. -/
def CaseRun.staysIn (run : CaseRun) (ranges : List CodeRange) : Bool :=
  holdsAll (run.moved run.first) (run.moved run.last) ranges ||
    ranges.all fun range => Nat.blt range.2 run.first || Nat.blt run.last range.1

/-- A code point of a table is moved to one of the table. -/
theorem inRanges_moved {run : CaseRun} (h : run.staysIn ranges) (hmoves : run.Moves code)
    (hcode : inRanges ranges code) : inRanges ranges (run.moved code) := by
  obtain ⟨hfirst, hlast, -⟩ := hmoves
  rw [CaseRun.staysIn, Bool.or_eq_true] at h
  rcases h with hinto | hapart
  · refine inRanges_of_holdsAll hinto ?_ ?_
    · rw [CaseRun.moved, CaseRun.moved]
      omega
    · rw [CaseRun.moved, CaseRun.moved]
      omega
  · obtain ⟨range, hrange, hstart, hstop⟩ := exists_of_inRanges hcode
    have hrun := List.all_eq_true.mp hapart range hrange
    rw [Bool.or_eq_true, Nat.blt_eq, Nat.blt_eq] at hrun
    omega

theorem lowerRuns_stay : lowerRuns.all fun run => run.staysIn alphanumericRanges := by
  decide +kernel

end

/-! ## Letters and digits -/

/-- Every code point of the table is one of a character. -/
theorem isValidChar_of_alphanumeric (h : inRanges alphanumericRanges code) : code.isValidChar := by
  have hchecked : alphanumericRanges.all fun range =>
      Nat.blt range.2 0xd800 || (Nat.blt 0xdfff range.1 && Nat.blt range.2 0x110000) := by
    decide +kernel
  obtain ⟨range, hrange, hstart, hstop⟩ := exists_of_inRanges h
  have hvalid := List.all_eq_true.mp hchecked range hrange
  simp only [Bool.or_eq_true, Bool.and_eq_true, Nat.blt_eq] at hvalid
  rw [Nat.isValidChar]
  omega

theorem isAlphanumeric_ofNat (h : inRanges alphanumericRanges code) :
    isAlphanumeric (Char.ofNat code) := by
  rw [isAlphanumeric, toNat_ofNat (isValidChar_of_alphanumeric h)]
  exact h

/-- The dot that stands beside a small i where the capital letter had it above. -/
def combiningDot : Char := '\u0307'

/-- What a letter or digit becomes in lower case: letters and digits, and the dot of an I. -/
theorem isAlphanumeric_or_of_mem_lower {c d : Char} (hc : isAlphanumeric c) (hd : d ∈ lower c) :
    isAlphanumeric d ∨ d = combiningDot := by
  rcases mem_lower hd with ⟨rfl, -⟩ | ⟨entry, hentry, code, hcode, rfl⟩ |
    ⟨run, hrun, hmoves, rfl⟩
  · exact .inl hc
  · have hchecked : lowerExpansions.all fun entry => entry.2.all fun code =>
        isAlphanumeric (Char.ofNat code) || Char.ofNat code == combiningDot := by
      decide
    have hkept := List.all_eq_true.mp (List.all_eq_true.mp hchecked entry hentry) code hcode
    rwa [Bool.or_eq_true, beq_iff_eq] at hkept
  · have hstays := List.all_eq_true.mp lowerRuns_stay run hrun
    exact .inl (isAlphanumeric_ofNat (inRanges_moved hstays hmoves hc))

/-- A blank is no letter or digit. -/
theorem not_isBlank_of_isAlphanumeric {c : Char} (h : isAlphanumeric c) : isBlank c = false := by
  have hchecked : blankRanges.all fun range =>
      (List.range' range.1 (range.2 + 1 - range.1)).all fun code =>
        !inRanges alphanumericRanges code := by
    decide +kernel
  rw [Bool.eq_false_iff]
  intro hblank
  obtain ⟨range, hrange, hfirst, hlast⟩ := exists_of_inRanges hblank
  have hmem : c.toNat ∈ List.range' range.1 (range.2 + 1 - range.1) :=
    List.mem_range'_1.mpr ⟨hfirst, by omega⟩
  have hnone := List.all_eq_true.mp (List.all_eq_true.mp hchecked range hrange) _ hmem
  rw [← isAlphanumeric, h] at hnone
  exact Bool.noConfusion hnone

/-- The ten digits of ASCII are digits. -/
theorem isAlphanumeric_of_isDigit {c : Char} (h : c.isDigit) : isAlphanumeric c := by
  rw [Char.isDigit, Bool.and_eq_true, decide_eq_true_eq, decide_eq_true_eq] at h
  have hrange : 0x30 ≤ c.toNat ∧ c.toNat ≤ 0x39 :=
    ⟨UInt32.le_iff_toNat_le.mp h.1, UInt32.le_iff_toNat_le.mp h.2⟩
  have hdigits : holdsAll 0x30 0x39 alphanumericRanges := by decide
  exact inRanges_of_holdsAll hdigits hrange.1 hrange.2

/-! ## Texts in lower case -/

theorem sigma_not_lower : lower 'Σ' ≠ ['Σ'] := by
  decide

/-- Every character of a text in lower case is in lower case. -/
theorem lower_of_mem_lowerFrom {d : Char} {afterCased : Bool} {s : List Char}
    (h : d ∈ lowerFrom afterCased s) : lower d = [d] := by
  induction s generalizing afterCased with
  | nil => cases h
  | cons c rest ih =>
      rw [lowerFrom, List.mem_append] at h
      rcases h with hfirst | hrest
      · split_ifs at hfirst with hsigma hend
        · obtain rfl := List.mem_singleton.mp hfirst
          decide
        · obtain rfl := List.mem_singleton.mp hfirst
          decide
        · exact lower_of_mem_lower hfirst
      · exact ih hrest

/-- Characters in lower case are left as they are. -/
theorem lowerFrom_of_lower {s : List Char} (h : ∀ c ∈ s, lower c = [c]) (afterCased : Bool) :
    lowerFrom afterCased s = s := by
  induction s generalizing afterCased with
  | nil => rfl
  | cons c rest ih =>
      obtain ⟨hc, hrest⟩ := List.forall_mem_cons.mp h
      have hsigma : c ≠ 'Σ' := by
        rintro rfl
        exact sigma_not_lower hc
      rw [lowerFrom, if_neg hsigma, hc, ih hrest, List.singleton_append]

/-- A text in lower case is left as it is. -/
theorem lowerText_lowerText (s : String) : lowerText (lowerText s) = lowerText s := by
  have hlower : ∀ c ∈ (lowerText s).toList, lower c = [c] := by
    intro c hc
    rw [lowerText, String.toList_ofList] at hc
    exact lower_of_mem_lowerFrom hc
  rw [lowerText, lowerFrom_of_lower hlower, String.ofList_toList]

/-- A text begins with a dot in lower case only if it does before. -/
theorem head?_lowerText {s : String} (h : s.toList.head? ≠ some '.') :
    (lowerText s).toList.head? ≠ some '.' := by
  have hfirst : ∀ written : List Char, written ≠ [] → '.' ∉ written →
      ∀ more, (written ++ more).head? ≠ some '.' := by
    intro written hsome hdot more hhead
    rw [List.head?_append_of_ne_nil _ hsome] at hhead
    exact hdot (List.mem_of_head? hhead)
  rw [lowerText, String.toList_ofList]
  cases hchars : s.toList with
  | nil => simp [lowerFrom]
  | cons c rest =>
      rw [hchars, List.head?_cons, ne_eq, Option.some.injEq] at h
      rw [lowerFrom]
      apply hfirst
      · split
        · exact List.cons_ne_nil _ _
        · exact lower_ne_nil c
      · split
        · rw [List.mem_singleton]
          split
          · decide
          · decide
        · exact dot_not_mem_lower h

end StaticSite.Text
