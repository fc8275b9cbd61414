import Mathlib.Data.List.Nodup
import Mathlib.Data.List.Perm.Subperm
import StaticSite.Html.Anchor
import StaticSite.Proofs.Text.LowerCase

/-!
# Identifiers of headings

An identifier is the name of a heading's text, numbered if need be. Numbering cannot run out: the
candidates for one name are all different, so one more of them than there are issued identifiers
holds a free one.

A name is made of letters and digits in lower case, the separator between them, and the dot that one
letter leaves behind in lower case. A number adds a separator and digits. No sign that means
something on a page or in an address is among these characters, so an identifier may be written
wherever it is needed as it is.

## What this module delivers

- `candidate_injective`: the candidates for a name differ.
- `allocate_notMem`: the identifier that is issued was not issued before.
- `nodup_allocate`: all identifiers of a page are different.
- `isNameChar`, with `isNameChar_of_mem_anchorName` and `isNameChar_of_mem_candidate`: the alphabet
  of identifiers.
- `isNameChar_of_mem_allocate`, `sign_notMem_allocate`: identifiers that are issued hold nothing
  else, so they are never mistaken for that of a footnote.
-/

set_option autoImplicit false

namespace StaticSite.Html

open StaticSite.Text

/-! ## Candidates -/

theorem natToString_injective : Function.Injective (toString : Nat → String) := by
  intro m n h
  have hdigits : Nat.toDigits 10 m = Nat.toDigits 10 n := by
    have hlists := congrArg String.toList h
    simpa only [Nat.toString_eq_repr, Nat.toList_repr] using hlists
  -- the digits are read back as the number that they were made of
  have hread := congrArg (fun digits => Nat.ofDigitChars 10 digits 0) hdigits
  simpa using hread

namespace Anchors

theorem candidate_of_lt (name : String) {k : Nat} (hk : 1 < k) :
    candidate name k = name ++ "_" ++ toString k := by
  rw [candidate, if_neg (by omega)]

/-- A numbered candidate is longer than the name. -/
theorem candidate_ne_name (name : String) {k : Nat} (hk : 1 < k) : candidate name k ≠ name := by
  intro h
  have hlength := congrArg String.length h
  rw [candidate_of_lt name hk] at hlength
  have hmark : ("_" : String).length = 1 := rfl
  simp only [String.length_append, hmark] at hlength
  omega

/-- The candidates for a name, from the first on, are all different. -/
theorem candidate_injective {name : String} {j k : Nat} (hj : 1 ≤ j) (hk : 1 ≤ k)
    (h : candidate name j = candidate name k) : j = k := by
  rcases Nat.eq_or_lt_of_le hj with rfl | hj
  · rcases Nat.eq_or_lt_of_le hk with rfl | hk
    · rfl
    · exact absurd h.symm (candidate_ne_name name hk)
  · rcases Nat.eq_or_lt_of_le hk with rfl | hk
    · exact absurd h (candidate_ne_name name hj)
    · rw [candidate_of_lt name hj, candidate_of_lt name hk] at h
      exact natToString_injective (String.append_right_inj _ |>.mp h)

/-! ## The first free candidate -/

/-- The search ends at a candidate that it does not pass over, or it passes over as many candidates
as it has tries. -/
theorem firstFree_spec (issued : List String) (name : String) :
    ∀ tries k, ∃ n, n ≤ tries ∧ firstFree issued name tries k = candidate name (k + n) ∧
      (∀ m < n, candidate name (k + m) ∈ issued) ∧
      (n < tries → candidate name (k + n) ∉ issued) := by
  intro tries
  induction tries with
  | zero =>
      intro k
      refine ⟨0, Nat.le_refl 0, rfl, ?_, ?_⟩
      · intro m hm
        exact absurd hm (Nat.not_lt_zero m)
      · intro h
        exact absurd h (Nat.lt_irrefl 0)
  | succ tries ih =>
      intro k
      rw [firstFree]
      split
      · rename_i hissued
        -- one candidate is passed over, and the search begins anew at the next one
        obtain ⟨n, hn, hfound, hpassed, hfree⟩ := ih (k + 1)
        refine ⟨n + 1, by omega, ?_, ?_, ?_⟩
        · rw [hfound, Nat.add_right_comm, Nat.add_assoc]
        · intro m hm
          cases m with
          | zero => simpa using hissued
          | succ m =>
              have hm' := hpassed m (by omega)
              rwa [Nat.add_right_comm, Nat.add_assoc] at hm'
        · intro hlt
          have hfree' := hfree (by omega)
          rwa [Nat.add_right_comm, Nat.add_assoc] at hfree'
      · rename_i hfree
        refine ⟨0, Nat.zero_le _, rfl, ?_, ?_⟩
        · intro m hm
          exact absurd hm (Nat.not_lt_zero m)
        · intro _
          simpa using hfree

/-- As many tries as there are issued identifiers are enough. -/
theorem firstFree_notMem (issued : List String) (name : String) :
    firstFree issued name issued.length 1 ∉ issued := by
  obtain ⟨n, hn, hfound, hpassed, hfree⟩ := firstFree_spec issued name issued.length 1
  rw [hfound]
  intro hissued
  have hall : n = issued.length := by
    by_contra hne
    exact hfree (by omega) hissued
  -- otherwise one candidate more than there are identifiers would be among them
  have hnodup : ((List.range (n + 1)).map fun m => candidate name (1 + m)).Nodup := by
    refine List.Nodup.map_on ?_ List.nodup_range
    intro i _ j _ hij
    have hsame := candidate_injective (by omega) (by omega) hij
    omega
  have hsubset : ((List.range (n + 1)).map fun m => candidate name (1 + m)) ⊆ issued := by
    intro identifier hmem
    obtain ⟨m, hm, rfl⟩ := List.mem_map.mp hmem
    rcases Nat.lt_succ_iff_lt_or_eq.mp (List.mem_range.mp hm) with hlt | rfl
    · exact hpassed m hlt
    · exact hissued
  have hlength := (hnodup.subperm hsubset).length_le
  rw [List.length_map, List.length_range] at hlength
  omega

/-- An identifier that is issued was not issued before. -/
theorem allocate_notMem (anchors : Anchors) (text : String) :
    (anchors.allocate text).1 ∉ anchors.issued :=
  firstFree_notMem anchors.issued (anchorName text)

theorem allocate_issued (anchors : Anchors) (text : String) :
    (anchors.allocate text).2.issued = (anchors.allocate text).1 :: anchors.issued := rfl

/-- Issuing one more identifier keeps all of them different. -/
theorem nodup_allocate {anchors : Anchors} (h : anchors.issued.Nodup) (text : String) :
    (anchors.allocate text).2.issued.Nodup :=
  List.nodup_cons.mpr ⟨allocate_notMem anchors text, h⟩

end Anchors

/-! ## The alphabet of identifiers -/

/-- Whether a character may stand in an identifier of a heading. -/
def isNameChar (c : Char) : Bool :=
  isAlphanumeric c || c == '_' || c == combiningDot

theorem isNameChar_iff (c : Char) :
    isNameChar c ↔ isAlphanumeric c ∨ c = '_' ∨ c = combiningDot := by
  simp [isNameChar, or_assoc]

/-- What is made of the characters of identifiers holds no other sign. -/
theorem sign_notMem_of_isNameChar {text : String} (h : ∀ c ∈ text.toList, isNameChar c) {d : Char}
    (hd : isNameChar d = false) : d ∉ text.toList := by
  intro hin
  rw [h d hin] at hd
  exact Bool.noConfusion hd

/-- A character of a name is the separator, or comes from a letter or digit of the text. -/
theorem mem_anchorChars {d : Char} {text : List Char} : ∀ {separated : Bool},
    d ∈ anchorChars separated text → d = '_' ∨ ∃ c, isAlphanumeric c ∧ d ∈ lower c := by
  induction text with
  | nil => exact fun h => absurd h List.not_mem_nil
  | cons c rest ih =>
      intro separated h
      rw [anchorChars] at h
      split_ifs at h with hletter hseparated
      · rcases List.mem_append.mp h with hfirst | hrest
        · exact .inr ⟨c, hletter, hfirst⟩
        · exact ih hrest
      · exact ih h
      · rcases List.mem_cons.mp h with hsame | hrest
        · exact .inl hsame
        · exact ih hrest

theorem isNameChar_of_mem_anchorName {text : String} {d : Char}
    (h : d ∈ (anchorName text).toList) : isNameChar d := by
  rw [anchorName, String.toList_ofList] at h
  rcases mem_anchorChars h with rfl | ⟨c, hc, hd⟩
  · decide
  · exact (isNameChar_iff d).mpr ((isAlphanumeric_or_of_mem_lower hc hd).imp_right .inr)

theorem isNameChar_of_mem_nat {n : Nat} {d : Char} (h : d ∈ (toString n).toList) :
    isNameChar d := by
  rw [Nat.toString_eq_repr, Nat.toList_repr] at h
  have hdigit := Nat.isDigit_of_mem_toDigits (by decide) (by decide) h
  exact (isNameChar_iff d).mpr (.inl (isAlphanumeric_of_isDigit hdigit))

/-- A number behind a name brings no other characters. -/
theorem isNameChar_of_mem_candidate {text : String} {k : Nat} {d : Char}
    (h : d ∈ (Anchors.candidate (anchorName text) k).toList) : isNameChar d := by
  unfold Anchors.candidate at h
  split_ifs at h with hfirst
  · exact isNameChar_of_mem_anchorName h
  · rw [String.toList_append, String.toList_append, List.mem_append, List.mem_append] at h
    rcases h with (hname | hseparator) | hnumber
    · exact isNameChar_of_mem_anchorName hname
    · rw [List.mem_singleton.mp hseparator]
      decide
    · exact isNameChar_of_mem_nat hnumber

/-- The identifier of a heading, whatever the heading's text is and whatever was issued before. -/
theorem isNameChar_of_mem_allocate {anchors : Anchors} {text : String} {d : Char}
    (h : d ∈ (anchors.allocate text).1.toList) : isNameChar d := by
  obtain ⟨n, -, hfound, -, -⟩ :=
    Anchors.firstFree_spec anchors.issued (anchorName text) anchors.size 1
  have hidentifier : (anchors.allocate text).1 = Anchors.candidate (anchorName text) (1 + n) :=
    hfound
  rw [hidentifier] at h
  exact isNameChar_of_mem_candidate h

/-- An identifier of a heading holds no sign, whatever the heading's text is. -/
theorem sign_notMem_allocate {d : Char} (hd : isNameChar d = false) (anchors : Anchors)
    (text : String) : d ∉ (anchors.allocate text).1.toList :=
  sign_notMem_of_isNameChar (fun _ => isNameChar_of_mem_allocate) hd

end StaticSite.Html
