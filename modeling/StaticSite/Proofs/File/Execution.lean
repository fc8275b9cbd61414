import StaticSite.Proofs.File.StoreLayout

/-!
# Actions that are done and actions that fail

An action can be done in some stores and not in others. `Change` says in which, and what the action
changes there; an action that cannot be done fails, with its own paths in the report, and leaves the
store as it is. There is one exception: a directory is deleted with all that it holds by emptying it
first, and only then may it turn out that the path no longer leads to it, or never could remove it.

Actions are done one after the other up to the first that cannot be done.

## What this module delivers

- `Action.Change`: when an action can be done, and what it changes.
- `Action.Empties`: the exception.
- `Action.outcome_run`, `Action.succeeds_of_change`: what one action does, and that it does it.
- `Action.executed`: what actions do one after the other.
-/

set_option autoImplicit false

namespace StaticSite.File

namespace Action

open Store

variable {store store' : Store} {action : Action} {place : List String}

/-! ## What an action changes -/

/-- A directory can be removed by a path: the path ends in a name of its own, and it leads through
nothing that is in the directory. -/
structure Removable (store : Store) (path : Path) (place : List String) : Prop where
  named : ∃ name, path.segments.getLast? = some name ∧ name ≠ ".."
  outside : ∀ visited ∈ store.leadsThrough path, place <+: visited → visited = place

/-- An action that can be done in a store, and what it changes there. -/
inductive Change (store : Store) : Action → (Layout → Layout) → Prop
  /-- A file is copied to another place than its own, at which there is no directory. -/
  | copied {source dest : Path} {data : FileData} {origin place : List String}
      (hsource : store.locate source = .ok origin)
      (hfile : store.layout origin = some (.file data))
      (hdest : store.placeOf dest = .ok place) (hfree : store.layout place ≠ some .directory)
      (hother : place ≠ origin) :
      Change store (.copy source dest) (Layout.putAlone place (.file { bytes := data.bytes }))
  /-- There is nothing to delete, which is no harm. -/
  | absent {path : Path} {all : Bool}
      (hnone : ∀ place, store.locate path = .ok place → store.layout place = none) :
      Change store (.deleteDirectory path true all) id
  /-- A directory is removed, which has to be empty unless all in it may be deleted too. -/
  | removed {path : Path} {absentOk all : Bool} {place : List String}
      (hlocate : store.locate path = .ok place) (hthere : store.layout place = some .directory)
      (hempty : all = false → ∀ rest, rest ≠ [] → store.layout (place ++ rest) = none)
      (hremovable : Removable store path place) :
      Change store (.deleteDirectory path absentOk all) (Layout.without place)
  /-- A directory is there already, which is no harm. -/
  | kept {path : Path} {place : List String} (hlocate : store.locate path = .ok place)
      (hthere : store.layout place = some .directory) :
      Change store (.createDirectory path true) id
  /-- A directory is made where there is nothing. -/
  | created {path : Path} {existsOk : Bool} {place : List String}
      (hplace : store.placeOf path = .ok place) (hnone : store.layout place = none) :
      Change store (.createDirectory path existsOk) (Layout.putAlone place .directory)
  /-- A file is written where there is no directory. -/
  | wrote {path : Path} {content : String} {place : List String}
      (hplace : store.placeOf path = .ok place) (hfree : store.layout place ≠ some .directory) :
      Change store (.writeFile path content)
        (Layout.putAlone place (.file { bytes := encode content }))

/-- An action that empties a directory which its path cannot remove. -/
def Empties (store : Store) (place : List String) : Action → Prop
  | .deleteDirectory path _ true =>
    store.locate path = .ok place ∧ store.layout place = some .directory ∧
      ¬ Removable store path place
  | _ => False

/-- The paths of an action are ones that a file system takes. -/
def IsAccepted (action : Action) : Prop :=
  action.path.IsAccepted ∧ ∀ source ∈ action.source?, source.IsAccepted

instance (action : Action) : Decidable action.IsAccepted :=
  inferInstanceAs (Decidable (_ ∧ _))

/-- What comes of an action. -/
inductive Outcome (store : Store) (action : Action) : Result → Prop
  | done {store' : Store} {effect : Layout → Layout} (change : Change store action effect)
      (here : store'.here = store.here) (layout : store'.layout = effect store.layout) :
      Outcome store action (store', none)
  | unchanged {cause : ActionCause} (spared : ∀ place, ¬ Empties store place action) :
      Outcome store action (store, some (action.fail cause))
  | emptied {left : Store} {cause : ActionCause} {place : List String}
      (empties : Empties store place action) (here : left.here = store.here)
      (layout : left.layout = store.layout.putAlone place .directory) :
      Outcome store action (left, some (action.fail cause))

/-! ## Operations that fail -/

theorem failBy_of_ne {fault : Fault} (h : fault ≠ .nullCharacter) (action : Action)
    (cause : Fault → ActionCause) : action.failBy cause fault = action.fail (cause fault) :=
  if_neg h

theorem write_fault {p : Path} {bytes : List UInt8} {fault : Fault} (hp : p.IsAccepted)
    (h : store.write p bytes = .error fault) : fault ≠ .nullCharacter := by
  rw [Store.write] at h
  split at h
  · rename_i other hplace
    cases h
    exact (placeOf_isMissing hp hplace).ne_nullCharacter
  · split at h
    · cases h
      intro hfault
      cases hfault
    · cases h

theorem makeDirectory_fault {p : Path} {fault : Fault} (hp : p.IsAccepted)
    (h : store.makeDirectory p = .error fault) : fault ≠ .nullCharacter := by
  rw [makeDirectory] at h
  split at h
  · rename_i other hplace
    cases h
    exact (placeOf_isMissing hp hplace).ne_nullCharacter
  · split at h
    · cases h
      intro hfault
      cases hfault
    · cases h

theorem removeDirectory_fault {p : Path} {fault : Fault} (hp : p.IsAccepted)
    (h : store.removeDirectory p = .error fault) : fault ≠ .nullCharacter := by
  rw [removeDirectory] at h
  split at h
  · rename_i other hplace
    cases h
    exact (placeOf_isMissing hp hplace).ne_nullCharacter
  · intro hnull
    subst hnull
    split at h
    · split at h <;> cases h
    · cases h
    · split at h <;> cases h

/-! ## Removing a directory -/

/-- A directory that holds nothing is removed by a path that can remove it, if what the path leads
through is there. -/
theorem removeDirectory_of_removable {bare : Store} {path : Path}
    (hlocate : store.locate path = .ok place) (hremovable : Removable store path place)
    (hhere : bare.here = store.here) (hbare : bare.tree.get? place = some (.directory []))
    (hvisits : ∀ visited ∈ store.leadsThrough path, bare.tree.shape? visited = some .directory) :
    bare.removeDirectory path = .ok { bare with tree := bare.tree.erase place } := by
  obtain ⟨name, hname, hback⟩ := hremovable.named
  have hplace : bare.placeOf path = .ok place :=
    placeOf_transfer (placeOf_of_locate hlocate hname) hhere hvisits
  rw [removeDirectory, hplace]
  simp only [hname, hbare]

/-- A path that removed a directory could remove it. -/
theorem removable_of_removeDirectory {bare after : Store} {path : Path}
    (hhere : bare.here = store.here)
    (hbare : ∀ rest, rest ≠ [] → bare.tree.shape? (place ++ rest) = none)
    (h : bare.removeDirectory path = .ok after) : Removable store path place := by
  rw [removeDirectory] at h
  split at h
  · cases h
  · rename_i found hplace
    split at h
    · cases h
    · cases h
    · rename_i name hback hname
      refine ⟨⟨name, hname, hback⟩, ?_⟩
      rintro visited hvisited ⟨rest, rfl⟩
      -- the path leads through directories, and below the place there are none
      have hsame : bare.leadsThrough path = store.leadsThrough path := by
        rw [leadsThrough, leadsThrough, start_eq hhere]
      rw [← hsame] at hvisited
      have hdirectory := shape?_of_mem_leadsThrough_of_placeOf hplace _ hvisited
      cases rest with
      | nil => exact List.append_nil place
      | cons first rest =>
          rw [hbare _ (List.cons_ne_nil first rest)] at hdirectory
          cases hdirectory

/-- A directory that was removed on its own held nothing. -/
theorem empty_of_removeDirectory {after : Store} {path : Path}
    (hlocate : store.locate path = .ok place) (h : store.removeDirectory path = .ok after) :
    ∀ rest, rest ≠ [] → store.layout (place ++ rest) = none := by
  intro rest hrest
  rw [removeDirectory] at h
  split at h
  · cases h
  · rename_i found hplace
    obtain rfl := eq_of_locate_of_placeOf hlocate hplace
    split at h
    · cases h
    · cases h
    · split at h
      · cases h
      · cases h
      · rename_i hbare
        rw [layout_eq_none, Node.get?_append, hbare, Option.bind_some, ← Node.shape?_eq_none]
        exact Ground.shape?_empty rest hrest
      · cases h

/-- A directory below which there is nothing holds nothing. -/
theorem get?_eq_bare {entries : List (String × Node)}
    (hplace : store.tree.get? place = some (.directory entries))
    (hempty : ∀ rest, rest ≠ [] → store.layout (place ++ rest) = none) :
    store.tree.get? place = some (.directory []) := by
  rw [hplace]
  cases entries with
  | nil => rfl
  | cons entry entries =>
      obtain ⟨name, node⟩ := entry
      have hname := hempty [name] (List.cons_ne_nil name [])
      rw [layout_eq_none, Node.get?_singleton, hplace, Option.bind_some] at hname
      simp [Node.entries] at hname

/-- What stands in an emptied store: nothing below the place, and every directory that is not below
it. -/
theorem shape?_emptied (store : Store) (place rest : List String) (hrest : rest ≠ []) :
    (putAt store place .empty).tree.shape? (place ++ rest) = none := by
  show (Node.set .empty place store.tree).shape? (place ++ rest) = none
  rw [Node.shape?_set_append]
  exact Ground.shape?_empty rest hrest

theorem layout_emptied (store : Store) (place : List String) :
    (putAt store place .empty).layout = store.layout.putAlone place .directory :=
  layout_putAt store place Ground.shape?_empty

theorem shape?_emptied_of_removable {path : Path} (hlocate : store.locate path = .ok place)
    (hremovable : Removable store path place) :
    ∀ visited ∈ store.leadsThrough path,
      (putAt store place .empty).tree.shape? visited = some .directory := by
  intro visited hvisited
  have hdirectory := shape?_of_mem_leadsThrough hlocate visited hvisited
  show (putAt store place .empty).layout visited = some .directory
  rw [layout_emptied, Layout.putAlone]
  split
  · rename_i hbelow
    rw [if_pos (hremovable.outside visited hvisited hbelow)]
  · split
    · rfl
    · exact hdirectory

/-- After a directory has been emptied, it is removed exactly by a path that can remove it. -/
theorem removeDirectory_emptied_iff {path : Path} (hlocate : store.locate path = .ok place) :
    (∃ after, (putAt store place .empty).removeDirectory path = .ok after) ↔
      Removable store path place := by
  constructor
  · rintro ⟨after, hafter⟩
    have hhere : (putAt store place .empty).here = store.here := rfl
    exact removable_of_removeDirectory hhere (shape?_emptied store place) hafter
  · intro hremovable
    exact ⟨_, removeDirectory_of_removable hlocate hremovable rfl (Node.get?_set _ _ _)
      (shape?_emptied_of_removable hlocate hremovable)⟩

/-! ## What comes of one action -/

theorem outcome_runCopy {source dest : Path} (hsource : source.IsAccepted)
    (hdest : dest.IsAccepted) :
    Outcome store (.copy source dest) (runCopy store source dest) := by
  have hspared : ∀ place, ¬ Empties store place (.copy source dest) := fun _ h => h
  simp only [runCopy, Ground.hasNull_of_pathFault? hsource.1, Ground.hasNull_of_pathFault? hdest.1,
    Bool.or_self, Bool.false_eq_true, if_false]
  cases hlocate : store.locate source with
  | error fault =>
      simp only [failBy_of_ne (locate_isMissing hsource hlocate).ne_nullCharacter]
      exact Outcome.unchanged hspared
  | ok origin =>
      simp only
      split
      · exact Outcome.unchanged hspared
      · rename_i hsame
        rw [Store.read, Store.node, hlocate]
        simp only
        cases hnode : store.tree.get? origin with
        | none => exact Outcome.unchanged hspared
        | some node =>
            cases node with
            | directory entries => exact Outcome.unchanged hspared
            | file data =>
                simp only
                cases hwrite : store.write dest data.bytes with
                | error fault =>
                    simp only [settle]
                    rw [failBy_of_ne (write_fault hdest hwrite)]
                    exact Outcome.unchanged hspared
                | ok store' =>
                    obtain ⟨hplace, hfree, rfl⟩ := store_write_eq_ok hwrite
                    have hfile : store.layout origin = some (.file data) :=
                      Node.shape?_eq_file.mpr hnode
                    refine Outcome.done (Change.copied hlocate hfile hplace hfree ?_) rfl
                      (layout_putAt store _ (Ground.shape?_file _))
                    -- a destination in the place of the source is found there
                    intro hother
                    have hfound := locate_of_placeOf hplace
                      (by rw [hother]; exact Option.isSome_of_eq_some hfile)
                    rw [hfound, hother] at hsame
                    exact hsame (by simp [Except.toOption])

theorem outcome_removeDirectory {path : Path} {absentOk : Bool} (hpath : path.IsAccepted)
    (hlocate : store.locate path = .ok place) :
    Outcome store (.deleteDirectory path absentOk false)
      (settle store ((deleteDirectory path absentOk false).failBy .deleting)
        (store.removeDirectory path)) := by
  have hspared : ∀ place, ¬ Empties store place (.deleteDirectory path absentOk false) :=
    fun _ h => h
  cases hremove : store.removeDirectory path with
  | error fault =>
      rw [settle, failBy_of_ne (removeDirectory_fault hpath hremove)]
      exact Outcome.unchanged hspared
  | ok after =>
      have hempty := empty_of_removeDirectory hlocate hremove
      have hremovable := removable_of_removeDirectory rfl hempty hremove
      obtain ⟨hthere, hne, rfl⟩ := removeDirectory_eq_ok hremove
      rw [spelledPlace_of_locate hlocate] at hthere hne ⊢
      exact Outcome.done (Change.removed hlocate hthere (fun _ => hempty) hremovable) rfl
        (layout_erase hne (Option.isSome_of_eq_some hthere))

theorem outcome_emptyDirectory {path : Path} {absentOk : Bool} (hpath : path.IsAccepted)
    (hlocate : store.locate path = .ok place) (hthere : store.layout place = some .directory) :
    Outcome store (.deleteDirectory path absentOk true)
      (settle (putAt store place .empty) ((deleteDirectory path absentOk true).failBy .deleting)
        ((putAt store place .empty).removeDirectory path)) := by
  cases hremove : (putAt store place .empty).removeDirectory path with
  | error fault =>
      have hstuck : ¬ Removable store path place := by
        intro hremovable
        obtain ⟨after, hafter⟩ := (removeDirectory_emptied_iff hlocate).mpr hremovable
        rw [hremove] at hafter
        cases hafter
      rw [settle, failBy_of_ne (removeDirectory_fault hpath hremove)]
      exact Outcome.emptied ⟨hlocate, hthere, hstuck⟩ rfl (layout_emptied store place)
  | ok after =>
      have hremovable := (removeDirectory_emptied_iff hlocate).mp ⟨after, hremove⟩
      obtain ⟨-, hne, rfl⟩ := removeDirectory_eq_ok hremove
      have hhere : (putAt store place .empty).here = store.here := rfl
      have hspelled : (putAt store place .empty).spelledPlace path = place := by
        rw [spelledPlace_congr hhere, spelledPlace_of_locate hlocate]
      rw [hspelled] at hne ⊢
      refine Outcome.done (Change.removed hlocate hthere (by simp) hremovable) rfl ?_
      have hempty : (putAt store place .empty).layout place = some .directory := by
        rw [layout_emptied, Layout.putAlone, if_pos List.prefix_rfl, if_pos rfl]
      show ({ putAt store place .empty with tree := _ } : Store).layout = _
      rw [layout_erase hne (Option.isSome_of_eq_some hempty), layout_emptied]
      apply without_putAlone
      intro other hpre hother
      exact layout_of_prefix hpre hother (Option.isSome_of_eq_some hthere)

theorem outcome_runDelete {path : Path} {absentOk all : Bool} (hpath : path.IsAccepted) :
    Outcome store (.deleteDirectory path absentOk all) (runDelete store path absentOk all) := by
  -- where the path leads nowhere there is nothing to delete
  have habsent : (∀ place, store.locate path = .ok place → store.layout place = none) →
      Outcome store (.deleteDirectory path absentOk all)
        (store, if absentOk then none
          else some ((deleteDirectory path absentOk all).fail .nothingToDelete)) := by
    intro hnone
    cases absentOk with
    | true => exact Outcome.done (Change.absent hnone) rfl rfl
    | false =>
        refine Outcome.unchanged ?_
        intro place hempties
        cases all with
        | false => exact hempties
        | true =>
            have hthere := hempties.2.1
            rw [hnone place hempties.1] at hthere
            cases hthere
  simp only [runDelete]
  cases hlocate : store.locate path with
  | error fault =>
      rw [look_of_locate_error hpath hlocate]
      apply habsent
      intro place hplace
      rw [hlocate] at hplace
      cases hplace
  | ok place =>
      rw [look_of_locate hlocate]
      cases hnode : store.tree.get? place with
      | none =>
          apply habsent
          intro other hother
          rw [hlocate] at hother
          cases hother
          exact layout_eq_none.mpr hnode
      | some node =>
          cases all with
          | false =>
              simp only [Bool.false_eq_true, if_false]
              exact outcome_removeDirectory hpath hlocate
          | true =>
              simp only [if_true]
              rw [emptyDirectory, hlocate]
              simp only [hnode]
              cases node with
              | directory entries =>
                  exact outcome_emptyDirectory hpath hlocate
                    (layout_eq_directory.mpr ⟨entries, hnode⟩)
              | file data =>
                  refine Outcome.unchanged ?_
                  rintro other ⟨hother, hthere, -⟩
                  rw [hlocate] at hother
                  cases hother
                  rw [Store.layout, Node.shape?_eq_file.mpr hnode] at hthere
                  cases hthere

theorem outcome_makeDirectory {path : Path} {existsOk : Bool} (hpath : path.IsAccepted) :
    Outcome store (.createDirectory path existsOk)
      (settle store ((createDirectory path existsOk).failBy .creating)
        (store.makeDirectory path)) := by
  cases hmake : store.makeDirectory path with
  | error fault =>
      rw [settle, failBy_of_ne (makeDirectory_fault hpath hmake)]
      exact Outcome.unchanged fun _ h => h
  | ok after =>
      obtain ⟨hplace, hnone, rfl⟩ := makeDirectory_eq_ok hmake
      exact Outcome.done (Change.created hplace hnone) rfl (layout_emptied store _)

theorem outcome_runCreate {path : Path} {existsOk : Bool} (hpath : path.IsAccepted) :
    Outcome store (.createDirectory path existsOk) (runCreate store path existsOk) := by
  have hmake : Outcome store (.createDirectory path existsOk) _ := outcome_makeDirectory hpath
  simp only [runCreate]
  cases existsOk with
  | false => exact hmake
  | true =>
      simp only [if_true]
      cases hlocate : store.locate path with
      | error fault =>
          rw [look_of_locate_error hpath hlocate]
          exact hmake
      | ok place =>
          rw [look_of_locate hlocate]
          cases hnode : store.tree.get? place with
          | none => exact hmake
          | some node =>
              cases node with
              | file data => exact Outcome.unchanged fun _ h => h
              | directory entries =>
                  have hthere := layout_eq_directory.mpr ⟨entries, hnode⟩
                  exact Outcome.done (Change.kept hlocate hthere) rfl rfl

theorem outcome_runWrite {path : Path} {content : String} (hpath : path.IsAccepted) :
    Outcome store (.writeFile path content) (runWrite store path content) := by
  have hwrite : Outcome store (.writeFile path content)
      (settle store ((writeFile path content).failBy .writing)
        (store.write path (encode content))) := by
    cases hstore : store.write path (encode content) with
    | error fault =>
        rw [settle, failBy_of_ne (write_fault hpath hstore)]
        exact Outcome.unchanged fun _ h => h
    | ok after =>
        obtain ⟨hplace, hfree, rfl⟩ := store_write_eq_ok hstore
        exact Outcome.done (Change.wrote hplace hfree) rfl
          (layout_putAt store _ (Ground.shape?_file _))
  simp only [runWrite]
  cases hlocate : store.locate path with
  | error fault =>
      rw [look_of_locate_error hpath hlocate]
      exact hwrite
  | ok place =>
      rw [look_of_locate hlocate]
      cases hnode : store.tree.get? place with
      | none => exact hwrite
      | some node =>
          cases node with
          | file data => exact hwrite
          | directory entries => exact Outcome.unchanged fun _ h => h

/-- This is what comes of an action whose paths are accepted. -/
theorem outcome_run (haction : action.IsAccepted) : Outcome store action (run store action) := by
  obtain ⟨hpath, hsource⟩ := haction
  cases action with
  | copy source dest => exact outcome_runCopy (hsource source rfl) hpath
  | deleteDirectory path absentOk all => exact outcome_runDelete hpath
  | createDirectory path existsOk => exact outcome_runCreate hpath
  | writeFile path content => exact outcome_runWrite hpath

/-! ## Actions that can be done are done -/

theorem write_of_free {p : Path} (hplace : store.placeOf p = .ok place)
    (hfree : store.layout place ≠ some .directory) (bytes : List UInt8) :
    store.write p bytes = .ok (putAt store place (.file { bytes := bytes })) := by
  rw [Store.write, hplace]
  cases hnode : store.tree.get? place with
  | none =>
      simp only [hnode]
      rfl
  | some node =>
      cases node with
      | file data =>
          simp only [hnode]
          rfl
      | directory entries => exact absurd (layout_eq_directory.mpr ⟨entries, hnode⟩) hfree

theorem makeDirectory_of_free {p : Path} (hplace : store.placeOf p = .ok place)
    (hnone : store.layout place = none) :
    store.makeDirectory p = .ok (putAt store place .empty) := by
  rw [makeDirectory, hplace]
  simp only [layout_eq_none.mp hnone]
  rfl

theorem hasNull_of_placeOf {p : Path} (h : store.placeOf p = .ok place) : p.hasNull = false := by
  apply Ground.hasNull_of_pathFault?
  cases hfault : pathFault? p with
  | none => rfl
  | some fault =>
      rw [placeOf, hfault] at h
      cases h

theorem succeeds_of_copied {source dest : Path} {data : FileData} {origin : List String}
    (hsource : store.locate source = .ok origin) (hfile : store.layout origin = some (.file data))
    (hdest : store.placeOf dest = .ok place) (hfree : store.layout place ≠ some .directory)
    (hother : place ≠ origin) : (runCopy store source dest).2 = none := by
  have hapart : ((store.locate dest).toOption == some origin) = false := by
    cases hlocate : store.locate dest with
    | error fault => rfl
    | ok found =>
        have hne : found ≠ origin := by
          rw [eq_of_locate_of_placeOf hlocate hdest]
          exact hother
        simpa [Except.toOption] using hne
  have hread : store.read source = .ok data := by
    rw [Store.read, Store.node, hsource]
    simp only [Node.shape?_eq_file.mp hfile]
  simp only [runCopy, Ground.hasNull_of_pathFault? (locate_eq_ok.mp hsource).1,
    hasNull_of_placeOf hdest, Bool.or_self, Bool.false_eq_true, if_false, hsource, hapart, hread,
    write_of_free hdest hfree, settle]

theorem succeeds_of_removed {path : Path} {absentOk all : Bool}
    (hlocate : store.locate path = .ok place) (hthere : store.layout place = some .directory)
    (hempty : all = false → ∀ rest, rest ≠ [] → store.layout (place ++ rest) = none)
    (hremovable : Removable store path place) :
    (runDelete store path absentOk all).2 = none := by
  obtain ⟨entries, hnode⟩ := layout_eq_directory.mp hthere
  cases all with
  | false =>
      have hremove := removeDirectory_of_removable hlocate hremovable rfl
        (get?_eq_bare hnode (hempty rfl)) (shape?_of_mem_leadsThrough hlocate)
      simp only [runDelete, look_of_locate hlocate, hnode, Bool.false_eq_true, if_false, hremove,
        settle]
  | true =>
      have hclear : store.emptyDirectory path = .ok (putAt store place .empty) := by
        rw [emptyDirectory, hlocate]
        simp only [hnode]
        rfl
      obtain ⟨after, hremove⟩ := (removeDirectory_emptied_iff hlocate).mpr hremovable
      simp only [runDelete, look_of_locate hlocate, hnode, if_true, hclear, hremove, settle]

/-- An action that can be done does not fail. -/
theorem succeeds_of_change {effect : Layout → Layout} (haction : action.IsAccepted)
    (h : Change store action effect) : (run store action).2 = none := by
  cases h with
  | copied hsource hfile hdest hfree hother =>
      exact succeeds_of_copied hsource hfile hdest hfree hother
  | removed hlocate hthere hempty hremovable =>
      exact succeeds_of_removed hlocate hthere hempty hremovable
  | @absent path all hnone =>
      have hlook : store.look path = .ok none := by
        cases hlocate : store.locate path with
        | error fault => exact look_of_locate_error haction.1 hlocate
        | ok place => rw [look_of_locate hlocate, layout_eq_none.mp (hnone place hlocate)]
      simp only [run, runDelete, hlook, if_true]
  | kept hlocate hthere =>
      obtain ⟨entries, hnode⟩ := layout_eq_directory.mp hthere
      simp only [run, runCreate, if_true, look_of_locate hlocate, hnode]
  | @created path existsOk place hplace hnone =>
      have hmake := makeDirectory_of_free hplace hnone
      have hlook : store.look path = .ok none := Ground.look_of_placeOf hplace hnone
      cases existsOk <;> simp [run, runCreate, hlook, hmake, settle]
  | @wrote path content place hplace hfree =>
      have hpath : path.IsAccepted := haction.1
      have hwrite := write_of_free hplace hfree (encode content)
      cases hlocate : store.locate path with
      | error fault =>
          simp only [run, runWrite, look_of_locate_error hpath hlocate, hwrite, settle]
      | ok found =>
          obtain rfl := eq_of_locate_of_placeOf hlocate hplace
          simp only [run, runWrite, look_of_locate hlocate]
          cases hnode : store.tree.get? found with
          | none => simp only [hwrite, settle]
          | some node =>
              cases node with
              | file data => simp only [hwrite, settle]
              | directory entries => exact absurd (layout_eq_directory.mpr ⟨entries, hnode⟩) hfree

/-! ## Actions in a row -/

/-- Actions that can all be done, each in the store that those before it leave. -/
inductive Changes : Store → List Action → Store → Prop
  | nil (store : Store) : Changes store [] store
  | cons {store middle store' : Store} {action : Action} {rest : List Action}
      {effect : Layout → Layout} (change : Change store action effect)
      (here : middle.here = store.here) (layout : middle.layout = effect store.layout)
      (later : Changes middle rest store') : Changes store (action :: rest) store'

/-- What an action leaves that cannot be done: the store as it is, or with the directory emptied
that it was to delete. -/
inductive Leaves (store : Store) (action : Action) : Store → Prop
  | unchanged (spared : ∀ place, ¬ Empties store place action) : Leaves store action store
  | emptied {left : Store} {place : List String} (empties : Empties store place action)
      (here : left.here = store.here)
      (layout : left.layout = store.layout.putAlone place .directory) : Leaves store action left

/-- What actions do one after the other. -/
inductive Executed (store : Store) (actions : List Action) : Prop
  /-- All are done. -/
  | done {store' : Store} (changes : Changes store actions store')
      (run : runAll store actions = (store', none))
  /-- The first that cannot be done fails, with its own paths. Those before it are done, and of
  those after it nothing is. -/
  | stopped {before later : List Action} {action : Action} {middle left : Store}
      {cause : ActionCause} (split : actions = before ++ action :: later)
      (changes : Changes store before middle) (first : runAll store before = (middle, none))
      (stuck : ∀ effect, ¬ Change middle action effect) (leaves : Leaves middle action left)
      (run : runAll store actions = (left, some (.failed
        { path := action.path, source := action.source?, cause := cause })))

theorem runAll_of_failure {left : Store} {failure : ActionFailure}
    (h : run store action = (left, some failure)) (rest : List Action) :
    runAll store (action :: rest) = (left, some failure) := by
  rw [runAll, h]

/-- A directory with a directory and a file in it. -/
def nestedStore : Store where
  tree := .directory [("a", .directory [("x", .directory [("f.txt", .file { bytes := [104] })])])]

/-- A path that goes into a directory and back out to it. -/
def roundabout : Path where
  segments := ["a", "x", "..", "..", "a"]

end Action

end StaticSite.File
