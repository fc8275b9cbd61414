import StaticSite.Proofs.Html.Identifier

/-!
# Identifiers issued one after the other

A page asks for one identifier after the other. The search for a free candidate has no bound of its
own: it tries the name, then the name with the numbers from 2 on, until it meets a candidate that
was not issued. It ends all the same, after as many candidates as identifiers were issued at most, and
the bounded search of `Anchors.firstFree` finds what it finds.

## What this module delivers

- `Finds`, `Finds.unique`: the search without a bound, which can end in one way only.
- `finds_allocate`: it ends, with the identifier that is issued.
- `IsNext`, `isNext_allocate`: which identifier a name gets, given those issued before.
- `allocateAll`, `Issues`, `allocateAll_issues`: the identifiers of any row of texts.
-/

set_option autoImplicit false

namespace StaticSite.Html.Anchors

/-! ## The search without a bound -/

/-- The search from the `k`-th candidate on, after it passed over some candidates, ends with an
identifier: the first candidate that was not issued. -/
inductive Finds (issued : List String) (name : String) : (k passed : Nat) → String → Prop
  | here {k : Nat} (hfree : candidate name k ∉ issued) : Finds issued name k 0 (candidate name k)
  | further {k passed : Nat} {identifier : String} (hissued : candidate name k ∈ issued)
      (rest : Finds issued name (k + 1) passed identifier) :
      Finds issued name k (passed + 1) identifier

section

variable {issued : List String} {name : String}

/-- The search ends in one way only. -/
theorem Finds.unique {k passed passed' : Nat} {identifier identifier' : String}
    (h : Finds issued name k passed identifier) (h' : Finds issued name k passed' identifier') :
    passed = passed' ∧ identifier = identifier' := by
  induction h generalizing passed' with
  | here hfree =>
      cases h' with
      | here _ => exact ⟨rfl, rfl⟩
      | further hissued _ => exact absurd hissued hfree
  | further hissued _ ih =>
      cases h' with
      | here hfree => exact absurd hissued hfree
      | further _ rest' =>
          obtain ⟨rfl, rfl⟩ := ih rest'
          exact ⟨rfl, rfl⟩

/-- It matters which identifiers were issued, and not in which order. -/
theorem Finds.congr {issued' : List String} (hsame : ∀ s, s ∈ issued ↔ s ∈ issued')
    {k passed : Nat} {identifier : String} (h : Finds issued name k passed identifier) :
    Finds issued' name k passed identifier := by
  induction h with
  | here hfree => exact .here (mt (hsame _).2 hfree)
  | further hissued _ ih => exact .further ((hsame _).1 hissued) ih

/-- The search passes over candidates that were issued and ends at the first that was not. -/
theorem finds_of_passed {n : Nat} : ∀ {k : Nat}, (∀ m < n, candidate name (k + m) ∈ issued) →
    candidate name (k + n) ∉ issued → Finds issued name k n (candidate name (k + n)) := by
  induction n with
  | zero => exact fun _ hfree => .here hfree
  | succ n ih =>
      intro k hpassed hfree
      have hfirst : candidate name k ∈ issued := hpassed 0 (Nat.succ_pos n)
      have hshift : ∀ m, k + (m + 1) = k + 1 + m := fun m => by omega
      have hrest : Finds issued name (k + 1) n (candidate name (k + 1 + n)) :=
        ih (fun m hm => hshift m ▸ hpassed (m + 1) (Nat.succ_lt_succ hm)) (hshift n ▸ hfree)
      rw [hshift n]
      exact .further hfirst hrest

/-- All candidates before the one that is found were issued. -/
theorem Finds.spec {k passed : Nat} {identifier : String}
    (h : Finds issued name k passed identifier) :
    identifier = candidate name (k + passed) ∧ identifier ∉ issued ∧
      ∀ m < passed, candidate name (k + m) ∈ issued := by
  induction h with
  | here hfree => exact ⟨rfl, hfree, fun m hm => absurd hm (Nat.not_lt_zero m)⟩
  | @further k passed identifier hissued _ ih =>
      obtain ⟨hcandidate, hfree, hpassed⟩ := ih
      have hshift : ∀ m, k + 1 + m = k + (m + 1) := fun m => by omega
      refine ⟨hshift passed ▸ hcandidate, hfree, fun m hm => ?_⟩
      cases m with
      | zero => exact hissued
      | succ m => exact hshift m ▸ hpassed m (Nat.lt_of_succ_lt_succ hm)

/-- The search for an identifier ends with the one that is issued. It passes over no more candidates
than there are issued identifiers. -/
theorem finds_allocate (anchors : Anchors) (text : String) :
    ∃ passed ≤ anchors.size,
      Finds anchors.issued (anchorName text) 1 passed (anchors.allocate text).1 := by
  obtain ⟨n, hn, hfound, hpassed, -⟩ :=
    firstFree_spec anchors.issued (anchorName text) anchors.issued.length 1
  have hfree := allocate_notMem anchors text
  have hidentifier : (anchors.allocate text).1 = candidate (anchorName text) (1 + n) := hfound
  rw [hidentifier] at hfree ⊢
  exact ⟨n, hn, finds_of_passed hpassed hfree⟩

/-! ## The identifier for a name -/

/-- The identifier that a name gets, given those issued before: the name itself if it is new, and
otherwise the name with the least number from 2 on that makes it new. -/
structure IsNext (issued : List String) (name identifier : String) : Prop where
  bare : name ∉ issued → identifier = name
  numbered : name ∈ issued → ∃ k, 2 ≤ k ∧ identifier = name ++ "_" ++ toString k ∧
    name ++ "_" ++ toString k ∉ issued ∧
    ∀ j, 2 ≤ j → j < k → name ++ "_" ++ toString j ∈ issued

theorem candidate_one (name : String) : candidate name 1 = name :=
  if_pos (Nat.le_refl 1)

theorem Finds.isNext {passed : Nat} {identifier : String}
    (h : Finds issued name 1 passed identifier) : IsNext issued name identifier := by
  obtain ⟨rfl, hfree, hpassed⟩ := h.spec
  constructor
  · intro hnew
    cases passed with
    | zero => exact candidate_one name
    | succ passed => exact absurd (candidate_one name ▸ hpassed 0 (Nat.succ_pos passed)) hnew
  · intro hissued
    have hpositive : passed ≠ 0 := by
      rintro rfl
      exact hfree (by rwa [candidate_one])
    rw [candidate_of_lt name (by omega)] at hfree ⊢
    refine ⟨1 + passed, by omega, rfl, hfree, fun j hj hlt => ?_⟩
    rw [← candidate_of_lt name hj]
    have hbefore := hpassed (j - 1) (by omega)
    rwa [Nat.add_sub_cancel' (by omega)] at hbefore

end

/-! ## Rows of identifiers -/

/-- Issues identifiers for texts, one after the other. -/
def allocateAll (anchors : Anchors) : List String → List String × Anchors
  | [] => ([], anchors)
  | text :: texts =>
    let (identifier, next) := anchors.allocate text
    let (identifiers, last) := next.allocateAll texts
    (identifier :: identifiers, last)

theorem allocateAll_cons (anchors : Anchors) (text : String) (texts : List String) :
    anchors.allocateAll (text :: texts)
      = ((anchors.allocate text).1 :: ((anchors.allocate text).2.allocateAll texts).1,
        ((anchors.allocate text).2.allocateAll texts).2) := rfl

/-- A row of identifiers joins those that were issued before, the latest first. -/
theorem issued_allocateAll (texts : List String) : ∀ anchors : Anchors,
    (anchors.allocateAll texts).2.issued
      = (anchors.allocateAll texts).1.reverse ++ anchors.issued := by
  induction texts with
  | nil => exact fun _ => rfl
  | cons text texts ih =>
      intro anchors
      rw [allocateAll_cons, ih, allocate_issued, List.reverse_cons, List.append_assoc,
        List.singleton_append]

theorem length_allocateAll (texts : List String) : ∀ anchors : Anchors,
    (anchors.allocateAll texts).1.length = texts.length := by
  induction texts with
  | nil => exact fun _ => rfl
  | cons text texts ih =>
      intro anchors
      rw [allocateAll_cons, List.length_cons, ih, List.length_cons]

theorem nodup_allocateAll (texts : List String) : ∀ {anchors : Anchors}, anchors.issued.Nodup →
    (anchors.allocateAll texts).2.issued.Nodup := by
  induction texts with
  | nil => exact fun h => h
  | cons text texts ih => exact fun h => ih (nodup_allocate h text)

/-- A text of a row gets what its search finds, given the identifiers issued before. -/
theorem finds_allocateAll (texts : List String) : ∀ (anchors : Anchors) {i : Nat} {text : String},
    texts[i]? = some text → ∃ identifier passed,
      (anchors.allocateAll texts).1[i]? = some identifier ∧ passed ≤ anchors.size + i ∧
      Finds (((anchors.allocateAll texts).1.take i).reverse ++ anchors.issued) (anchorName text) 1
        passed identifier := by
  induction texts with
  | nil => exact fun _ _ _ h => absurd h (by simp)
  | cons first texts ih =>
      intro anchors i text htext
      cases i with
      | zero =>
          obtain rfl : first = text := by simpa using htext
          obtain ⟨passed, hle, hfinds⟩ := finds_allocate anchors first
          exact ⟨(anchors.allocate first).1, passed, rfl, hle, hfinds⟩
      | succ i =>
          rw [List.getElem?_cons_succ] at htext
          obtain ⟨identifier, passed, hplace, hle, hfinds⟩ := ih (anchors.allocate first).2 htext
          have hsize : (anchors.allocate first).2.size = anchors.size + 1 := rfl
          refine ⟨identifier, passed, hplace, by omega, ?_⟩
          rw [allocateAll_cons, List.take_succ_cons, List.reverse_cons, List.append_assoc,
            List.singleton_append, ← allocate_issued]
          exact hfinds

/-- What a fresh page issues for a row of texts. -/
structure Issues (texts identifiers : List String) (anchors : Anchors) : Prop where
  length : identifiers.length = texts.length
  distinct : identifiers.Nodup
  size : anchors.size = texts.length
  contains : ∀ identifier, anchors.contains identifier = true ↔ identifier ∈ identifiers
  /-- The search for the identifier of a text ends, after no more candidates than there are texts
  before, and the identifier is the next one for its name. -/
  next : ∀ (i : Nat) (text : String), texts[i]? = some text → ∃ identifier passed,
    identifiers[i]? = some identifier ∧ passed ≤ i ∧
    Finds (identifiers.take i) (anchorName text) 1 passed identifier ∧
    IsNext (identifiers.take i) (anchorName text) identifier

/-- On a fresh page every search for an identifier ends, all identifiers are different, the page
knows exactly these, and each is the next one for its name. -/
theorem allocateAll_issues (texts : List String) :
    Issues texts (({} : Anchors).allocateAll texts).1 (({} : Anchors).allocateAll texts).2 := by
  have hissued := issued_allocateAll texts {}
  have hlength := length_allocateAll texts {}
  have hnew : ({} : Anchors).issued.Nodup := List.nodup_nil
  have hdistinct := nodup_allocateAll texts hnew
  rw [hissued, List.append_nil, List.nodup_reverse] at hdistinct
  -- everything but the search is read off the issued identifiers, which are the row itself
  refine ⟨hlength, hdistinct, ?_, fun identifier => ?_, fun i text htext => ?_⟩
  · rw [size, hissued, List.append_nil, List.length_reverse, hlength]
  · rw [contains, hissued, List.append_nil, List.contains_iff_mem, List.mem_reverse]
  · obtain ⟨identifier, passed, hplace, hle, hfinds⟩ := finds_allocateAll texts {} htext
    have hnone : ({} : Anchors).size = 0 := rfl
    have hsame : ∀ s, s ∈ ((({} : Anchors).allocateAll texts).1.take i).reverse ++ [] ↔
        s ∈ (({} : Anchors).allocateAll texts).1.take i := fun s => by
      rw [List.append_nil, List.mem_reverse]
    have hfound := hfinds.congr hsame
    exact ⟨identifier, passed, hplace, by omega, hfound, hfound.isNext⟩

/-- A name that looks numbered takes its number from later ones. -/
example : (({} : Anchors).allocateAll ["Setup 2", "Setup", "Setup", "Setup 2"]).1
    = ["setup_2", "setup", "setup_3", "setup_2_2"] := by
  decide +kernel

end StaticSite.Html.Anchors
