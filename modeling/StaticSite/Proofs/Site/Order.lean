import StaticSite.Proofs.File.Overlay
import StaticSite.Site.Scan

/-!
# The order of directories

The sources are listed by the directory that something is in, and then by name. A directory is
therefore listed before what it holds, which is what makes it possible to make the directories of
the target one after the other, none with its parents.

## What this module delivers

- `foundBefore_trans`, `foundBefore_total`: the order of the listing is one.
- `directoryPlaces`: the directories below a node, in the order of the listing.
- `parentsFirst_directoryPlaces`: each is listed after the one that it is in.
-/

set_option autoImplicit false

namespace StaticSite.Site

open StaticSite.File StaticSite.File.Ground

/-! ## The order of the listing -/

theorem foundBefore_iff (p q : List String) :
    foundBefore p q ↔ p.dropLast < q.dropLast ∨ (p.dropLast = q.dropLast ∧ ¬ q < p) := by
  simp [foundBefore]

theorem foundBefore_trans (p q r : List String) (hpq : foundBefore p q) (hqr : foundBefore q r) :
    foundBefore p r := by
  rw [foundBefore_iff] at hpq hqr ⊢
  rcases hpq with hpq | ⟨hpq, hle⟩
  · rcases hqr with hqr | ⟨hqr, -⟩
    · exact Or.inl (List.lt_trans hpq hqr)
    · exact Or.inl (hqr ▸ hpq)
  · rcases hqr with hqr | ⟨hqr, hle'⟩
    · exact Or.inl (hpq ▸ hqr)
    · refine Or.inr ⟨hpq.trans hqr, List.not_lt.mpr ?_⟩
      exact List.le_trans (List.not_lt.mp hle) (List.not_lt.mp hle')

theorem foundBefore_total (p q : List String) : foundBefore p q || foundBefore q p := by
  rw [Bool.or_eq_true, foundBefore_iff, foundBefore_iff]
  by_cases hpq : p.dropLast < q.dropLast
  · exact Or.inl (Or.inl hpq)
  by_cases hqp : q.dropLast < p.dropLast
  · exact Or.inr (Or.inl hqp)
  have hsame : p.dropLast = q.dropLast :=
    List.le_antisymm (List.not_lt.mp hqp) (List.not_lt.mp hpq)
  by_cases hlt : q < p
  · exact Or.inr (Or.inr ⟨hsame.symm, List.lt_asymm hlt⟩)
  · exact Or.inl (Or.inr ⟨hsame, hlt⟩)

theorem dropLast_lt {place : List String} (h : place ≠ []) : place.dropLast < place := by
  rcases List.eq_nil_or_concat place with hnil | ⟨first, last, hsnoc⟩
  · exact absurd hnil h
  · rw [hsnoc, List.concat_eq_append, List.dropLast_concat]
    have hlast : first ++ [] < first ++ [last] := List.append_left_lt (List.nil_lt_cons last [])
    rwa [List.append_nil] at hlast

/-- What is in a directory is not listed before it. -/
theorem not_foundBefore_dropLast {place : List String} (h : place.dropLast ≠ []) :
    ¬ foundBefore place place.dropLast := by
  rw [foundBefore_iff]
  rintro (hlt | ⟨hsame, -⟩)
  · exact List.lt_asymm hlt (dropLast_lt h)
  · have hlt := dropLast_lt h
    rw [← hsame] at hlt
    exact List.lt_irrefl _ hlt

theorem pairwise_inOrder (node : Node) :
    (inOrder node).Pairwise fun a b => foundBefore a.1 b.1 := by
  refine List.pairwise_mergeSort ?_ ?_ _
  · exact fun a b c => foundBefore_trans a.1 b.1 c.1
  · exact fun a b => foundBefore_total a.1 b.1

/-! ## Directories -/

/-- The places of the directories below a node, in the order of the listing. -/
def directoryPlaces (node : Node) : List (List String) :=
  (inOrder node).filterMap fun (place, found) =>
    match found with
    | .directory _ => some place
    | .file _ => none

variable {node : Node}

/-- In a proper tree everything below a node is listed. -/
theorem mem_inOrder (hproper : node.isProper) {place : List String} {found : Node} :
    (place, found) ∈ inOrder node ↔ place ≠ [] ∧ node.get? place = some found := by
  rw [inOrder, List.mem_mergeSort, Node.mem_contents_iff node [] place found hproper]
  constructor
  · rintro ⟨rest, hrest, rfl, hfound⟩
    exact ⟨hrest, hfound⟩
  · rintro ⟨hplace, hfound⟩
    exact ⟨place, hplace, rfl, hfound⟩

theorem mem_directoryPlaces (hproper : node.isProper) {place : List String} :
    place ∈ directoryPlaces node ↔ place ≠ [] ∧ node.shape? place = some .directory := by
  rw [directoryPlaces, List.mem_filterMap]
  constructor
  · rintro ⟨⟨other, found⟩, hmem, hsome⟩
    obtain ⟨hother, hfound⟩ := (mem_inOrder hproper).mp hmem
    cases found with
    | file data => exact absurd hsome (by simp)
    | directory entries =>
        obtain rfl : other = place := Option.some.inj hsome
        exact ⟨hother, Node.shape?_eq_directory.mpr ⟨entries, hfound⟩⟩
  · rintro ⟨hplace, hshape⟩
    obtain ⟨entries, hfound⟩ := Node.shape?_eq_directory.mp hshape
    exact ⟨(place, .directory entries), (mem_inOrder hproper).mpr ⟨hplace, hfound⟩, rfl⟩

theorem pairwise_directoryPlaces (node : Node) :
    (directoryPlaces node).Pairwise fun p q => foundBefore p q := by
  rw [directoryPlaces, List.pairwise_filterMap]
  apply (pairwise_inOrder node).imp
  rintro ⟨p, found⟩ ⟨q, other⟩ hpq p' hp q' hq
  cases found with
  | file data => exact absurd hp (by simp)
  | directory entries =>
      cases other with
      | file data => exact absurd hq (by simp)
      | directory entries' =>
          obtain rfl : p = p' := Option.some.inj hp
          obtain rfl : q = q' := Option.some.inj hq
          exact hpq

/-- Places in the order of the listing, each in a known place or in another of them, have the one
that each is in before it. -/
theorem parentsFirst_of_pairwise (places : List (List String)) :
    ∀ {known : List (List String)}, places.Pairwise (fun p q => foundBefore p q) →
      [] ∉ places → (∀ place ∈ places, place.dropLast ∈ known ∨ place.dropLast ∈ places) →
        ParentsFirst known places := by
  induction places with
  | nil => intro known _ _ _; trivial
  | cons place rest ih =>
      intro known hpairwise hplaces hclosed
      obtain ⟨hfirst, hrest⟩ := List.pairwise_cons.mp hpairwise
      have hplace : place ≠ [] := by
        rintro rfl
        exact hplaces List.mem_cons_self
      refine ⟨?_, ih hrest (fun h => hplaces (List.mem_cons_of_mem place h)) ?_⟩
      · rcases hclosed place List.mem_cons_self with hknown | hlisted
        · exact hknown
        · exfalso
          rcases List.mem_cons.mp hlisted with hsame | hlater
          · have hlt := dropLast_lt hplace
            rw [hsame] at hlt
            exact List.lt_irrefl _ hlt
          · -- the directory that a place is in would be listed after it
            have hne : place.dropLast ≠ [] := by
              intro hnil
              rw [hnil] at hlater
              exact hplaces (List.mem_cons_of_mem place hlater)
            exact not_foundBefore_dropLast hne (hfirst _ hlater)
      · intro other hother
        rcases hclosed other (List.mem_cons_of_mem place hother) with hknown | hlisted
        · exact Or.inl (List.mem_cons_of_mem place hknown)
        · rcases List.mem_cons.mp hlisted with hsame | hlater
          · exact Or.inl (hsame ▸ List.mem_cons_self)
          · exact Or.inr hlater

/-- Every directory of a proper tree is listed after the one that it is in. -/
theorem parentsFirst_directoryPlaces (hproper : node.isProper) :
    ParentsFirst [[]] (directoryPlaces node) := by
  refine parentsFirst_of_pairwise _ (pairwise_directoryPlaces node) ?_ ?_
  · intro hnil
    exact ((mem_directoryPlaces hproper).mp hnil).1 rfl
  · intro place hplace
    obtain ⟨hne, hshape⟩ := (mem_directoryPlaces hproper).mp hplace
    by_cases htop : place.dropLast = []
    · exact Or.inl (List.mem_singleton.mpr htop)
    · refine Or.inr ((mem_directoryPlaces hproper).mpr ⟨htop, ?_⟩)
      have hsome : (node.shape? (place.dropLast ++ [place.getLast hne])).isSome := by
        rw [List.dropLast_append_getLast hne, hshape]
        rfl
      exact Node.shape?_of_append (List.cons_ne_nil _ []) hsome

end StaticSite.Site
