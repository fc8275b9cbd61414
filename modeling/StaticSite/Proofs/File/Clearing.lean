import StaticSite.Proofs.File.Overlay

/-!
# Beginning with the target

Before anything is built the target is made: it may be there already, or its directory may, and it
may have to be deleted first. Deleting is done by following the path of the target, and so is making
it again, which is why a path that leads through the target itself is of no use any more once the
target is gone.

## What this module delivers

- `Ground.MayClear`: neither path leads through the target, whose path ends in a name of its own.
- `Ground.old`: what is below the target at first, which is nothing if the target is deleted.
- `create_of_absent`, `delete_of_present`: the two steps.
- `exists_begin`: after these steps the ground carries the old layout, with the target a directory.
-/

set_option autoImplicit false

namespace StaticSite.File

namespace Ground

variable {g : Ground} {store : Store}

/-- The target can be deleted and made again: its path ends in a name of its own, and neither this
path nor that of the source leads through the target. -/
structure MayClear (g : Ground) : Prop where
  name : ∃ name, g.target.segments.getLast? = some name ∧ name ≠ ".."
  target : ∀ visited ∈ g.base.leadsThrough g.target, ¬ g.top <+: visited
  source : ∀ visited ∈ g.base.leadsThrough g.source, ¬ g.top <+: visited

/-- What is below the target when building begins. -/
def old (g : Ground) (clean : Bool) : Layout :=
  fun rest => if clean then none else g.base.tree.shape? (g.top ++ rest)

/-- The paths of a ground lead where they should. -/
structure Located (g : Ground) : Prop where
  target : g.base.placeOf g.target = .ok g.top
  source : g.base.locate g.source = .ok g.sourceTop
  /-- The target is in a directory. -/
  parent : g.base.tree.shape? g.top.dropLast = some .directory

/-- The ground without anything at the target or below it. -/
structure Bare (g : Ground) (store : Store) : Prop where
  here : store.here = g.base.here
  outside : ∀ place, ¬ g.top <+: place → store.tree.shape? place = g.base.tree.shape? place
  inside : ∀ rest, store.tree.shape? (g.top ++ rest) = none

/-- A path that names a place with nothing at it shows nothing. -/
theorem look_of_placeOf {p : Path} {top : List String} (h : store.placeOf p = .ok top)
    (hnone : store.tree.shape? top = none) : store.look p = .ok none := by
  have hget : store.tree.get? top = none := Node.shape?_eq_none.mp hnone
  rcases List.eq_nil_or_concat p.segments with hnil | ⟨first, last, hsnoc⟩
  · obtain ⟨hfault, rfl⟩ := (Store.placeOf_eq_ok_of_nil hnil).mp h
    have hlocate : store.locate p = .ok (store.start p.anchor) := by
      rw [Store.locate_eq_ok, hnil]
      exact ⟨hfault, rfl⟩
    rw [Store.look, Store.node, hlocate]
    simp only [hget]
  · rw [List.concat_eq_append] at hsnoc
    obtain ⟨hfault, place, hfollow, hplace, hshort, rfl⟩ :=
      (Store.placeOf_eq_ok_of_snoc hsnoc).mp h
    by_cases hback : last = ".."
    · -- the name leads back to a directory, so something is there
      subst hback
      rw [stepTo, if_pos rfl] at hnone
      exfalso
      rcases List.eq_nil_or_concat place with hroot | ⟨others, name, hconcat⟩
      · rw [hroot, List.dropLast_nil, ← hroot, hplace] at hnone
        exact absurd hnone (by simp)
      · rw [List.concat_eq_append] at hconcat
        rw [hconcat] at hplace hnone
        rw [List.dropLast_concat] at hnone
        have hothers : store.tree.shape? others = some .directory :=
          Node.shape?_of_append (List.cons_ne_nil name []) (by rw [hplace]; rfl)
        rw [hothers] at hnone
        exact absurd hnone (by simp)
    · obtain ⟨entries, hentries⟩ := Node.shape?_eq_directory.mp hplace
      rw [stepTo, if_neg hback] at hget
      have hentry : entries.lookup last = none := by
        rw [Node.get?_singleton, hentries] at hget
        exact hget
      have hlocate : store.locate p = .error .notFound := by
        rw [Store.locate, hfault]
        simp only
        rw [hsnoc, Store.follow_append _ _ hfollow]
        simp [Store.follow, hentries, hback, Nat.not_lt.mpr (hshort hback), hentry]
      rw [Store.look, Store.node, hlocate]

theorem not_prefix_dropLast {place : List String} (hne : place ≠ []) :
    ¬ place <+: place.dropLast := by
  intro hpre
  have hlength := hpre.length_le
  rw [List.length_dropLast] at hlength
  have hpositive := List.length_pos_iff.mpr hne
  omega

/-- On bare ground the target is made by making a directory. -/
theorem create_of_absent (hlocated : g.Located) (h : g.Bare store)
    (htarget : ∀ visited ∈ g.base.leadsThrough g.target, ¬ g.top <+: visited)
    (hsource : ∀ visited ∈ g.base.leadsThrough g.source, ¬ g.top <+: visited)
    (hne : g.top ≠ []) :
    ∃ store', Action.run store (.createDirectory g.target true) = (store', none) ∧
      g.Carries (Layout.put [] .directory fun _ => none) store' := by
  have hparent : ¬ g.top <+: g.top.dropLast := not_prefix_dropLast hne
  have hnone : store.tree.shape? g.top = none := by simpa using h.inside []
  have hplaceOf : store.placeOf g.target = .ok g.top := by
    apply Store.placeOf_transfer hlocated.target h.here
    intro visited hvisited
    rw [h.outside visited (htarget visited hvisited)]
    exact Store.shape?_of_mem_leadsThrough_of_placeOf hlocated.target visited hvisited
  -- neither path leads through the target, so all that they need is as it was
  have hset : ∀ other, ¬ g.top <+: other →
      (Node.set .empty g.top store.tree).shape? other = g.base.tree.shape? other := by
    intro other hother
    rw [Node.shape?_set_of_not_prefix .empty g.top store.tree other hne ?_ hother,
      h.outside other hother]
    rw [h.outside _ hparent, hlocated.parent]
  have hinside : ∀ rest, (Node.set .empty g.top store.tree).shape? (g.top ++ rest)
      = Layout.put [] .directory (fun _ => none) rest := by
    intro rest
    rw [Node.shape?_set_append]
    cases rest with
    | nil => rfl
    | cons name rest => rw [shape?_empty _ (by simp), Layout.put_of_ne (by simp)]
  have htop : (Node.set .empty g.top store.tree).shape? g.top = some .directory := by
    simpa [Layout.put_self] using hinside []
  refine ⟨{ store with tree := Node.set .empty g.top store.tree }, ?_, h.here, hset, hinside,
    ?_, ?_⟩
  · have hget : store.tree.get? g.top = none := Node.shape?_eq_none.mp hnone
    simp only [Action.run, Action.runCreate, if_true, look_of_placeOf hplaceOf hnone,
      Store.makeDirectory, hplaceOf, hget, Action.settle]
  · refine Store.locate_of_placeOf ?_ (by rw [htop]; rfl)
    refine Store.placeOf_transfer hlocated.target h.here ?_
    intro visited hvisited
    rw [hset visited (htarget visited hvisited)]
    exact Store.shape?_of_mem_leadsThrough_of_placeOf hlocated.target visited hvisited
  · refine Store.locate_transfer hlocated.source h.here ?_ ?_
    · intro visited hvisited
      rw [hset visited (hsource visited hvisited)]
      exact Store.shape?_of_mem_leadsThrough hlocated.source visited hvisited
    · rw [hset g.sourceTop g.target_not_above]
      exact id

theorem MayClear.top_ne_nil (hclear : g.MayClear) (hlocated : g.Located) : g.top ≠ [] := by
  obtain ⟨name, hname, hback⟩ := hclear.name
  obtain ⟨first, hsnoc⟩ := List.getLast?_eq_some_iff.mp hname
  obtain ⟨-, place, -, -, -, htop⟩ := (Store.placeOf_eq_ok_of_snoc hsnoc).mp hlocated.target
  rw [htop, stepTo, if_neg hback]
  simp

/-- A target that is there is seen under its path. -/
theorem look_of_present (hlocated : g.Located)
    (hpresent : g.base.tree.shape? g.top = some .directory) :
    ∃ entries, g.base.look g.target = .ok (some (.directory entries)) := by
  obtain ⟨entries, hentries⟩ := Node.shape?_eq_directory.mp hpresent
  have hlocate : g.base.locate g.target = .ok g.top :=
    Store.locate_of_placeOf hlocated.target (by rw [hpresent]; rfl)
  refine ⟨entries, ?_⟩
  rw [Store.look, Store.node, hlocate]
  simp only [hentries]

/-- Emptying the target leaves an empty directory there. -/
theorem emptyDirectory_of_present (hlocated : g.Located)
    (hpresent : g.base.tree.shape? g.top = some .directory) :
    g.base.emptyDirectory g.target
      = .ok { g.base with tree := Node.set .empty g.top g.base.tree } := by
  obtain ⟨entries, hentries⟩ := Node.shape?_eq_directory.mp hpresent
  have hlocate : g.base.locate g.target = .ok g.top :=
    Store.locate_of_placeOf hlocated.target (by rw [hpresent]; rfl)
  rw [Store.emptyDirectory, hlocate]
  simp only [hentries]

/-- The emptied target is removed by its name. -/
theorem removeDirectory_of_empty (hlocated : g.Located) (hclear : g.MayClear) (hne : g.top ≠ []) :
    ({ g.base with tree := Node.set .empty g.top g.base.tree } : Store).removeDirectory g.target
      = .ok { g.base with tree := (Node.set .empty g.top g.base.tree).erase g.top } := by
  obtain ⟨name, hname, hback⟩ := hclear.name
  have hplaceOf : ({ g.base with tree := Node.set .empty g.top g.base.tree } : Store).placeOf
      g.target = .ok g.top := by
    refine Store.placeOf_transfer hlocated.target rfl ?_
    intro visited hvisited
    have hkept := Node.shape?_set_of_not_prefix .empty g.top g.base.tree visited hne
      hlocated.parent (hclear.target visited hvisited)
    rw [← Store.shape?_of_mem_leadsThrough_of_placeOf hlocated.target visited hvisited]
    exact hkept
  have hempty : (Node.set .empty g.top g.base.tree).get? g.top = some (.directory []) :=
    Node.get?_set .empty g.top g.base.tree
  rw [Store.removeDirectory, hplaceOf]
  simp only [hname, hempty]

/-- A target that is there is deleted with all that is below it. -/
theorem delete_of_present (hlocated : g.Located) (hclear : g.MayClear) (hne : g.top ≠ [])
    (hpresent : g.base.tree.shape? g.top = some .directory) :
    ∃ store', Action.run g.base (.deleteDirectory g.target true true) = (store', none) ∧
      g.Bare store' := by
  obtain ⟨entries, hlook⟩ := look_of_present hlocated hpresent
  refine ⟨{ g.base with tree := (Node.set .empty g.top g.base.tree).erase g.top }, ?_, rfl, ?_, ?_⟩
  · simp only [Action.run, Action.runDelete, hlook, if_true,
      emptyDirectory_of_present hlocated hpresent,
      removeDirectory_of_empty hlocated hclear hne, Action.settle]
  · intro other hother
    have hparent : (Node.set .empty g.top g.base.tree).shape? g.top.dropLast = some .directory := by
      rw [Node.shape?_set_of_not_prefix .empty g.top g.base.tree _ hne hlocated.parent
        (not_prefix_dropLast hne), hlocated.parent]
    show ((Node.set .empty g.top g.base.tree).erase g.top).shape? other = _
    rw [Node.shape?_erase_of_not_prefix g.top _ other hne hparent hother,
      Node.shape?_set_of_not_prefix .empty g.top g.base.tree other hne hlocated.parent hother]
  · intro rest
    exact Node.shape?_erase_append rest g.top _ hne

/-- A path leads through nothing at or below a place at which there is nothing. -/
theorem not_prefix_of_absent (habsent : g.base.tree.shape? g.top = none) {visited : List String}
    (hvisited : g.base.tree.shape? visited = some .directory) : ¬ g.top <+: visited := by
  rintro ⟨rest, rfl⟩
  cases rest with
  | nil =>
      rw [List.append_nil, habsent] at hvisited
      exact absurd hvisited (by simp)
  | cons name rest =>
      rw [Node.shape?_append_eq_none (by simp) (by simp [habsent])] at hvisited
      exact absurd hvisited (by simp)

/-- What comes first of all that has to be done: the target is deleted if it has to be, and made. -/
def beginning (g : Ground) (clean : Bool) : List Action :=
  (if clean then [.deleteDirectory g.target true true] else []) ++
    [.createDirectory g.target true]

/-- Where nothing is there is nothing to delete, and the target is made. -/
theorem exists_begin_of_absent (hlocated : g.Located) (clean : Bool)
    (hshape : g.base.tree.shape? g.top = none) :
    ∃ store', Action.runAll g.base (g.beginning clean) = (store', none) ∧
      g.Carries ((g.old clean).put [] .directory) store' := by
  have hne : g.top ≠ [] := by
    intro hnil
    rw [hnil] at hshape
    exact absurd hshape (by simp [Node.shape?])
  have hbelow : ∀ rest, g.base.tree.shape? (g.top ++ rest) = none := by
    intro rest
    cases rest with
    | nil => rw [List.append_nil, hshape]
    | cons name rest => exact Node.shape?_append_eq_none (by simp) (by simp [hshape])
  have hbare : g.Bare g.base := ⟨rfl, fun _ _ => rfl, hbelow⟩
  obtain ⟨store', hcreate, hcarries⟩ := create_of_absent hlocated hbare
    (fun visited hvisited => not_prefix_of_absent hshape
      (Store.shape?_of_mem_leadsThrough_of_placeOf hlocated.target visited hvisited))
    (fun visited hvisited => not_prefix_of_absent hshape
      (Store.shape?_of_mem_leadsThrough hlocated.source visited hvisited)) hne
  have hold : g.old clean = fun _ => none := by
    funext rest
    rw [old, hbelow]
    cases clean <;> rfl
  have hdelete : Action.run g.base (.deleteDirectory g.target true true) = (g.base, none) := by
    simp only [Action.run, Action.runDelete, look_of_placeOf hlocated.target hshape, if_true]
  refine ⟨store', ?_, ?_⟩
  · cases clean with
    | true =>
        rw [beginning, if_pos rfl, List.singleton_append, runAll_cons hdelete,
          runAll_cons hcreate, Action.runAll]
    | false =>
        rw [beginning, if_neg Bool.false_ne_true, List.nil_append, runAll_cons hcreate,
          Action.runAll]
  · rw [hold]
    exact hcarries

/-- A target that is there and stays needs not be made. -/
theorem exists_begin_of_kept (hlocated : g.Located)
    (hshape : g.base.tree.shape? g.top = some .directory) :
    ∃ store', Action.runAll g.base (g.beginning false) = (store', none) ∧
      g.Carries ((g.old false).put [] .directory) store' := by
  have hlocate : g.base.locate g.target = .ok g.top :=
    Store.locate_of_placeOf hlocated.target (by rw [hshape]; rfl)
  obtain ⟨entries, hlook⟩ := look_of_present hlocated hshape
  have hcreate : Action.run g.base (.createDirectory g.target true) = (g.base, none) := by
    simp only [Action.run, Action.runCreate, hlook, if_true]
  have hold : (g.old false).put [] .directory = g.old false := by
    apply Layout.put_eq_self
    rw [old, if_neg Bool.false_ne_true, List.append_nil, hshape]
  refine ⟨g.base, ?_, ?_⟩
  · rw [beginning, if_neg Bool.false_ne_true, List.nil_append, runAll_cons hcreate,
      Action.runAll]
  · rw [hold]
    exact ⟨rfl, fun _ _ => rfl, fun _ => rfl, hlocate, hlocated.source⟩

/-- A target that is there and has to go is deleted and made again. -/
theorem exists_begin_of_cleared (hlocated : g.Located) (hclear : g.MayClear)
    (hshape : g.base.tree.shape? g.top = some .directory) :
    ∃ store', Action.runAll g.base (g.beginning true) = (store', none) ∧
      g.Carries ((g.old true).put [] .directory) store' := by
  have hne : g.top ≠ [] := hclear.top_ne_nil hlocated
  obtain ⟨middle, hdelete, hbare⟩ := delete_of_present hlocated hclear hne hshape
  obtain ⟨store', hcreate, hcarries⟩ := create_of_absent hlocated hbare hclear.target
    hclear.source hne
  refine ⟨store', ?_, hcarries⟩
  rw [beginning, if_pos rfl, List.singleton_append, runAll_cons hdelete, runAll_cons hcreate,
    Action.runAll]

/-- After the beginning the target is a directory with what was there before, unless that was to be
deleted. -/
theorem exists_begin (hlocated : g.Located) (clean : Bool) (hclear : clean = true → g.MayClear)
    (hkind : ∀ data, g.base.tree.shape? g.top ≠ some (.file data)) :
    ∃ store', Action.runAll g.base (g.beginning clean) = (store', none) ∧
      g.Carries ((g.old clean).put [] .directory) store' := by
  cases hshape : g.base.tree.shape? g.top with
  | none => exact exists_begin_of_absent hlocated clean hshape
  | some shape =>
      cases shape with
      | file data => exact absurd hshape (hkind data)
      | directory =>
          cases clean with
          | true => exact exists_begin_of_cleared hlocated (hclear rfl) hshape
          | false => exact exists_begin_of_kept hlocated hshape

end Ground

end StaticSite.File
