import StaticSite.Proofs.File.Effect
import StaticSite.Proofs.File.Spelling

/-!
# Paths that lead down

Whether a place is under a directory is decided by the names of the two paths, where `..` is a name
like any other. That agrees with where the paths lead if names other than `..` lead to both from a
common path. A text that leads back on its way is a path that nothing further down is under by
names, wherever it leads.

## What this module delivers

- `Path.LeadsDownTo`: names other than `..` lead from one path to another.
- `Path.LeadsDownTo.spelledPlace_injective`: two paths that lead down to one place are equal.
- `Path.isUnder_iff`: what it is to be under a directory, by names.
- `Path.Aligned`, `Path.isUnder_iff_of_aligned`: where names and places agree.
- `Path.seenFrom`, `Path.StartsAnew`: a text as a path, seen from a root if it begins with a slash.
- `Path.leadsDownTo_seenFrom_iff`, `Path.isUnder_seenFrom_iff`: when such a path leads down, and
  what is under it by names.
-/

set_option autoImplicit false

namespace StaticSite.File.Path

/-- Names other than `..` lead from one path to another. -/
def LeadsDownTo (p q : Path) : Prop :=
  ∃ names, q = p.under names ∧ ".." ∉ names

/-- Two paths that lead down from a common one. -/
def Aligned (p q : Path) : Prop :=
  ∃ top : Path, top.LeadsDownTo p ∧ top.LeadsDownTo q

variable {store : Store} {root directory p q : Path}

theorem spelledPlace_of_not_back {names : List String} (h : ".." ∉ names) :
    store.spelledPlace (p.under names) = store.spelledPlace p ++ names :=
  Store.spelledPlace_under fun _ hname hback => h (hback ▸ hname)

theorem LeadsDownTo.refl (p : Path) : p.LeadsDownTo p :=
  ⟨[], by rw [under, List.append_nil], List.not_mem_nil⟩

theorem LeadsDownTo.trans {r : Path} (hp : p.LeadsDownTo q) (hq : q.LeadsDownTo r) :
    p.LeadsDownTo r := by
  obtain ⟨names, rfl, hnames⟩ := hp
  obtain ⟨more, rfl, hmore⟩ := hq
  refine ⟨names ++ more, under_under p names more, ?_⟩
  rw [List.mem_append, not_or]
  exact ⟨hnames, hmore⟩

/-- From a path that leads down it goes on down by names other than `..`. -/
theorem LeadsDownTo.under_iff (hp : root.LeadsDownTo p) {names : List String} :
    root.LeadsDownTo (p.under names) ↔ ".." ∉ names := by
  obtain ⟨first, rfl, hfirst⟩ := hp
  rw [under_under]
  constructor
  · rintro ⟨others, hothers, hback⟩
    rw [← under_injective hothers, List.mem_append, not_or] at hback
    exact hback.2
  · intro hnames
    rw [← under_under]
    exact LeadsDownTo.trans ⟨first, rfl, hfirst⟩ ⟨names, rfl, hnames⟩

/-- Paths that lead down from one root to one place are equal. -/
theorem LeadsDownTo.spelledPlace_injective (store : Store) (hp : root.LeadsDownTo p)
    (hq : root.LeadsDownTo q) (h : store.spelledPlace p = store.spelledPlace q) : p = q := by
  obtain ⟨names, rfl, hnames⟩ := hp
  obtain ⟨others, rfl, hothers⟩ := hq
  rw [spelledPlace_of_not_back hnames, spelledPlace_of_not_back hothers] at h
  rw [List.append_cancel_left h]

/-- By names, what is under a directory is the directory's path with names after it. -/
theorem isUnder_iff : p.isUnder directory = true ↔ ∃ names, p = directory.under names := by
  obtain ⟨anchor, segments⟩ := p
  rw [isUnder, relativeTo?]
  constructor
  · intro h
    split at h
    · rename_i hboth
      -- both paths start alike, and the names of the one begin with those of the other
      simp only [Bool.and_eq_true, decide_eq_true_eq, List.isPrefixOf_iff_prefix] at hboth
      obtain ⟨rfl, names, rfl⟩ := hboth
      exact ⟨names, rfl⟩
    · exact absurd h (by simp)
  · rintro ⟨names, h⟩
    obtain ⟨rfl, rfl⟩ := Path.mk.inj h
    rw [if_pos]
    · rfl
    · simp

/-- Paths that lead down from a common one: names and places agree on what is under a directory. -/
theorem isUnder_iff_of_aligned (h : directory.Aligned p) :
    p.isUnder directory = true ↔ store.spelledPlace directory <+: store.spelledPlace p := by
  obtain ⟨top, ⟨rest, rfl, hrest⟩, names, rfl, hnames⟩ := h
  rw [isUnder_iff, spelledPlace_of_not_back hrest, spelledPlace_of_not_back hnames,
    List.prefix_append_right_inj]
  constructor
  · rintro ⟨more, hmore⟩
    rw [under_under] at hmore
    exact ⟨more, (under_injective hmore).symm⟩
  · rintro ⟨more, rfl⟩
    exact ⟨more, (under_under top rest more).symm⟩

/-! ## Texts as paths -/

/-- The path that a text means: it is seen from the root if it begins with a slash, and from the
base otherwise. -/
def seenFrom (root base : Path) (value : String) : Path :=
  match value.toList with
  | '/' :: rest => root.child (String.ofList rest)
  | _ => base.child value

/-- A text that starts at a root of its own: its first slash is followed by another one. -/
def StartsAnew (value : String) : Prop :=
  ∃ rest, value.toList = '/' :: '/' :: rest

/-- A text that does not begin with a slash spells names that are followed from a path. -/
theorem child_of_relative (p : Path) {value : String} (h : ∀ rest, value.toList ≠ '/' :: rest) :
    p.child value = p.under (readSegments value.toList) := by
  rw [child, join, ofString]
  cases hvalue : value.toList with
  | nil => rfl
  | cons c rest =>
      have hslash : c ≠ '/' := by
        rintro rfl
        exact h rest hvalue
      simp [hslash, isAbsolute, under]

/-- A text spells names that are followed from the root or from the base. -/
theorem exists_seenFrom_eq_under (root base : Path) {value : String} (h : ¬ StartsAnew value) :
    ∃ start, (start = root ∨ start = base) ∧
      root.seenFrom base value = start.under (readSegments value.toList) := by
  rw [seenFrom]
  split
  · rename_i rest hvalue
    have hrest : ∀ more, (String.ofList rest).toList ≠ '/' :: more := by
      intro more hmore
      rw [String.toList_ofList] at hmore
      exact h ⟨more, by rw [hvalue, hmore]⟩
    refine ⟨root, Or.inl rfl, ?_⟩
    rw [child_of_relative root hrest, hvalue, readSegments_slash, String.toList_ofList]
  · rename_i hvalue
    exact ⟨base, Or.inr rfl, child_of_relative base hvalue⟩

variable {base : Path} {value : String}

/-- A path that a text means leads down if no name in the text leads back. -/
theorem leadsDownTo_seenFrom_iff (hbase : root.LeadsDownTo base) (h : ¬ StartsAnew value) :
    root.LeadsDownTo (root.seenFrom base value) ↔ ".." ∉ readSegments value.toList := by
  obtain ⟨start, hstart, heq⟩ := exists_seenFrom_eq_under root base h
  rw [heq]
  rcases hstart with rfl | rfl
  · exact (LeadsDownTo.refl start).under_iff
  · exact hbase.under_iff

/-- What is below the root is by names under the directory that a text means if it is there and no
name in the text leads back. -/
theorem isUnder_seenFrom_iff (hbase : root.Aligned base) (hp : root.LeadsDownTo p)
    (h : ¬ StartsAnew value) :
    p.isUnder (root.seenFrom base value) = true ↔ ".." ∉ readSegments value.toList ∧
      store.spelledPlace (root.seenFrom base value) <+: store.spelledPlace p := by
  obtain ⟨top, hroot, hbase⟩ := hbase
  obtain ⟨start, hstart, heq⟩ := exists_seenFrom_eq_under root base h
  have hdown : top.LeadsDownTo start := by
    rcases hstart with rfl | rfl
    · exact hroot
    · exact hbase
  rw [heq]
  have hagree (hnames : ".." ∉ readSegments value.toList) :
      p.isUnder (start.under (readSegments value.toList)) = true ↔
        store.spelledPlace (start.under (readSegments value.toList)) <+: store.spelledPlace p :=
    isUnder_iff_of_aligned ⟨top, hdown.under_iff.mpr hnames, hroot.trans hp⟩
  constructor
  · intro hunder
    -- the names of the text are among those that lead down to what is under the directory
    have hnames : ".." ∉ readSegments value.toList := by
      obtain ⟨more, rfl⟩ := isUnder_iff.mp hunder
      have hall := hroot.trans hp
      rw [under_under, hdown.under_iff, List.mem_append, not_or] at hall
      exact hall.1
    exact ⟨hnames, (hagree hnames).mp hunder⟩
  · rintro ⟨hnames, hprefix⟩
    exact (hagree hnames).mpr hprefix

end StaticSite.File.Path
