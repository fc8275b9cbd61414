import StaticSite.Proofs.File.Clearing
import StaticSite.Proofs.File.Effect

/-!
# Accepted paths and layouts

A path that a file system accepts can fail in two ways only: nothing is found under one of its
names, or a name is followed from something that is no directory. What is at the places of a store
is its layout, and a change to a store is told by what it does to the layout.

## What this module delivers

- `Path.IsAccepted`: the paths that a file system takes.
- `Store.locate_isMissing`, `Store.placeOf_isMissing`: the ways in which such a path fails.
- `Store.look_of_locate`, `Store.placeOf_of_locate`: a path that leads somewhere.
- `Layout.putAlone`, `Layout.without`: a layout with something else at one place.
- `Store.layout_putAt`, `Store.layout_erase`: the layouts of changed stores.
-/

set_option autoImplicit false

namespace StaticSite.File

/-! ## Paths that a file system takes -/

/-- A path without a null character which is not too long, nor is any of its names. -/
def Path.IsAccepted (p : Path) : Prop :=
  Store.pathFault? p = none ∧ ∀ name ∈ p.segments, name.utf8ByteSize ≤ Store.nameLimit

instance (p : Path) : Decidable p.IsAccepted :=
  inferInstanceAs (Decidable (_ ∧ _))

/-- The faults of a path that is accepted and leads nowhere. -/
def Fault.IsMissing (fault : Fault) : Prop :=
  fault = .notFound ∨ fault = .notDirectory

theorem Fault.IsMissing.ne_nullCharacter {fault : Fault} (h : fault.IsMissing) :
    fault ≠ .nullCharacter := by
  rcases h with rfl | rfl
  · intro hfault
    cases hfault
  · intro hfault
    cases hfault

namespace Store

variable {store : Store} {p : Path} {fault : Fault} {place : List String}

theorem follow_isMissing {tree : Node} {names : List String} :
    ∀ {place : List String}, (∀ name ∈ names, name.utf8ByteSize ≤ nameLimit) →
      follow tree place names = .error fault → fault.IsMissing := by
  induction names with
  | nil =>
      intro place _ h
      cases h
  | cons name rest ih =>
      intro place hshort h
      have hname : ¬ nameLimit < name.utf8ByteSize :=
        Nat.not_lt.mpr (hshort name List.mem_cons_self)
      have hrest : ∀ other ∈ rest, other.utf8ByteSize ≤ nameLimit :=
        fun other hother => hshort other (List.mem_cons_of_mem name hother)
      rw [follow] at h
      split at h
      · rw [if_neg hname] at h
        split at h
        · exact ih hrest h
        · split at h
          · exact ih hrest h
          · cases h
            exact Or.inl rfl
      · cases h
        exact Or.inr rfl
      · cases h
        exact Or.inl rfl

theorem locate_isMissing (hp : p.IsAccepted) (h : store.locate p = .error fault) :
    fault.IsMissing := by
  rw [locate, hp.1] at h
  exact follow_isMissing hp.2 h

theorem placeOf_isMissing (hp : p.IsAccepted) (h : store.placeOf p = .error fault) :
    fault.IsMissing := by
  rw [placeOf, hp.1] at h
  dsimp only at h
  split at h
  · cases h
  · rename_i name hlast
    have hname : ¬ nameLimit < name.utf8ByteSize :=
      Nat.not_lt.mpr (hp.2 name (List.mem_of_getLast? hlast))
    split at h
    · rename_i other hfollow
      cases h
      exact follow_isMissing (fun first hfirst => hp.2 first (List.dropLast_subset _ hfirst))
        hfollow
    · split at h
      · cases h
        exact Or.inr rfl
      · cases h
        exact Or.inl rfl
      · rw [if_neg hname] at h
        split at h <;> cases h

/-- Looking along a path that leads somewhere shows what is there. -/
theorem look_of_locate (h : store.locate p = .ok place) :
    store.look p = .ok (store.tree.get? place) := by
  rw [look, node, h]
  cases hnode : store.tree.get? place with
  | some found => simp only [hnode]
  | none => simp only [hnode]

/-- Looking along a path that leads nowhere shows nothing. -/
theorem look_of_locate_error (hp : p.IsAccepted) (h : store.locate p = .error fault) :
    store.look p = .ok none := by
  rw [look, node, h]
  rcases locate_isMissing hp h with rfl | rfl
  · rfl
  · rfl

theorem exists_follow_of_append {tree : Node} (first rest : List String) :
    ∀ {place last : List String}, follow tree place (first ++ rest) = .ok last →
      ∃ middle, follow tree place first = .ok middle ∧ follow tree middle rest = .ok last := by
  induction first with
  | nil =>
      intro place last h
      exact ⟨place, rfl, h⟩
  | cons name first ih =>
      intro place last h
      obtain ⟨hplace, hname, hrest⟩ := follow_cons_inv h
      obtain ⟨middle, hmiddle, hlast⟩ := ih hrest
      refine ⟨middle, ?_, hlast⟩
      rw [follow_cons hplace hname]
      exact hmiddle

/-- A path that leads somewhere by a name of its own names the place. -/
theorem placeOf_of_locate {name : String} (h : store.locate p = .ok place)
    (hname : p.segments.getLast? = some name) : store.placeOf p = .ok place := by
  obtain ⟨first, hsegments⟩ := List.getLast?_eq_some_iff.mp hname
  obtain ⟨hfault, hfollow⟩ := locate_eq_ok.mp h
  rw [hsegments] at hfollow
  obtain ⟨middle, hfirst, hlast⟩ := exists_follow_of_append first [name] hfollow
  obtain ⟨hmiddle, hstep, hend⟩ := follow_cons_inv hlast
  rw [follow, Except.ok.injEq] at hend
  rw [placeOf_eq_ok_of_snoc hsegments]
  exact ⟨hfault, middle, hfirst, hmiddle, fun hback => (hstep hback).1, hend.symm⟩

/-- A path leads to the place that it names, if anywhere. -/
theorem eq_of_locate_of_placeOf {found : List String} (hlocate : store.locate p = .ok found)
    (hplace : store.placeOf p = .ok place) : found = place := by
  rw [← spelledPlace_of_locate hlocate, spelledPlace_of_placeOf hplace]

end Store

/-! ## Layouts of stores -/

/-- What is at the places of a store. -/
def Store.layout (store : Store) : Layout :=
  fun place => store.tree.shape? place

namespace Layout

/-- The layout with something at a place that holds nothing. What leads there is a directory. -/
def putAlone (place : List String) (shape : Shape) (layout : Layout) : Layout :=
  fun other =>
    if place <+: other then if other = place then some shape else none
    else if other <+: place then some .directory
    else layout other

/-- The layout with nothing at a place or below it. -/
def without (place : List String) (layout : Layout) : Layout :=
  fun other => if place <+: other then none else layout other

end Layout

namespace Store

variable {store : Store} {place other : List String}

theorem layout_eq_directory :
    store.layout place = some .directory ↔
      ∃ entries, store.tree.get? place = some (.directory entries) :=
  Node.shape?_eq_directory

theorem layout_eq_none : store.layout place = none ↔ store.tree.get? place = none :=
  Node.shape?_eq_none

/-- What is above something is a directory. -/
theorem layout_of_prefix (hpre : other <+: place) (hne : other ≠ place)
    (h : (store.layout place).isSome) : store.layout other = some .directory := by
  obtain ⟨rest, rfl⟩ := hpre
  apply Node.shape?_of_append _ h
  rintro rfl
  exact hne (List.append_nil other).symm

theorem layout_putAt (store : Store) (place : List String) {new : Node}
    (hnew : ∀ rest, rest ≠ [] → new.shape? rest = none) :
    (Action.putAt store place new).layout = store.layout.putAlone place new.shape := by
  have hthere : (Action.putAt store place new).layout place = some new.shape := by
    show ((Node.set new place store.tree).get? place).map Node.shape = _
    rw [Node.get?_set]
    rfl
  funext other
  rw [Layout.putAlone]
  split
  · rename_i hbelow
    obtain ⟨rest, rfl⟩ := hbelow
    cases rest with
    | nil =>
        rw [List.append_nil, if_pos rfl]
        exact hthere
    | cons name rest =>
        rw [if_neg (by simp)]
        show (Node.set new place store.tree).shape? (place ++ name :: rest) = none
        rw [Node.shape?_set_append]
        exact hnew _ (List.cons_ne_nil name rest)
  · rename_i hbelow
    split
    · rename_i habove
      apply layout_of_prefix habove
      · rintro rfl
        exact hbelow List.prefix_rfl
      · rw [hthere]
        rfl
    · rename_i habove
      exact congrArg (Option.map Node.shape)
        (Node.get?_set_of_apart new place other store.tree hbelow habove)

theorem layout_erase (hne : place ≠ []) (hthere : (store.layout place).isSome) :
    ({ store with tree := store.tree.erase place } : Store).layout
      = store.layout.without place := by
  have hparent : store.layout place.dropLast = some .directory := by
    apply layout_of_prefix (List.dropLast_prefix place) _ hthere
    intro hsame
    apply Ground.not_prefix_dropLast hne
    exact ⟨[], (List.append_nil place).trans hsame.symm⟩
  funext other
  rw [Layout.without]
  split
  · rename_i hbelow
    obtain ⟨rest, rfl⟩ := hbelow
    exact Node.shape?_erase_append rest place store.tree hne
  · rename_i hbelow
    exact Node.shape?_erase_of_not_prefix place store.tree other hne hparent hbelow

/-- Emptying a directory and then removing it leaves what removing it leaves. -/
theorem without_putAlone {layout : Layout} {shape : Shape}
    (habove : ∀ other, other <+: place → other ≠ place → layout other = some .directory) :
    (layout.putAlone place shape).without place = layout.without place := by
  funext other
  rw [Layout.without, Layout.without, Layout.putAlone]
  split
  · rfl
  · rename_i hbelow
    split
    · rename_i hpre
      rw [habove other hpre]
      rintro rfl
      exact hbelow List.prefix_rfl
    · rfl

end Store

end StaticSite.File
