import StaticSite.File.Action
import StaticSite.Proofs.File.Reach

/-!
# What actions do to files

An action changes a store at one place at most, the one that its path spells. What stands there
afterwards and when it can go wrong is said once, in `effect_run`; that other files stay as they are
follows from it, for one action and for actions in a row, whether or not one of them fails.

## What this module delivers

- `Store.spelledPlace`: where a path leads, going by its names alone.
- `Action.Effect`, `effect_run`: everything that an action can do.
- `Action.Spares`, `LeavesAlone`, `keeps_runAll`: actions that put nothing in the place of a file
  and delete nothing that holds it leave the file as it is.
- `put_of_copy`, `put_of_write`: what an action that succeeds leaves in its place.
- `read_of_write`: a file that was written is read as it was written.
- `last_runAll`: what was put somewhere last is there in the end.
-/

set_option autoImplicit false

namespace StaticSite.File

/-! ## Spelled places -/

namespace Store

variable {store : Store} {p : Path} {place : List String}

/-- The place that a path spells: where its names lead, whether or not something is there. -/
def spelledPlace (store : Store) (p : Path) : List String :=
  p.segments.foldl stepTo (store.start p.anchor)

theorem foldl_of_follow {tree : Node} {names : List String} :
    ∀ {first last : List String}, follow tree first names = .ok last →
      names.foldl stepTo first = last := by
  induction names with
  | nil =>
      intro first last h
      rw [follow, Except.ok.injEq] at h
      exact h
  | cons name rest ih =>
      intro first last h
      obtain ⟨-, -, hrest⟩ := follow_cons_inv h
      rw [List.foldl_cons]
      exact ih hrest

/-- A path leads to the place that it spells or nowhere. -/
theorem spelledPlace_of_locate (h : store.locate p = .ok place) : store.spelledPlace p = place :=
  foldl_of_follow (locate_eq_ok.mp h).2

/-- A path names the place that it spells or none. -/
theorem spelledPlace_of_placeOf (h : store.placeOf p = .ok place) :
    store.spelledPlace p = place := by
  rw [spelledPlace]
  rcases List.eq_nil_or_concat p.segments with hnil | ⟨first, last, hsnoc⟩
  · rw [hnil]
    exact ((placeOf_eq_ok_of_nil hnil).mp h).2.symm
  · rw [List.concat_eq_append] at hsnoc
    obtain ⟨-, middle, hfollow, -, -, rfl⟩ := (placeOf_eq_ok_of_snoc hsnoc).mp h
    rw [hsnoc, List.foldl_append, foldl_of_follow hfollow]
    rfl

/-- What a path shows is at the place that it spells. -/
theorem get?_of_look {node : Node} (h : store.look p = .ok (some node)) :
    store.tree.get? (store.spelledPlace p) = some node := by
  rw [look, Store.node] at h
  cases hlocate : store.locate p with
  | error fault =>
      rw [hlocate] at h
      cases fault with
      | _ => simp at h
  | ok place =>
      rw [spelledPlace_of_locate hlocate]
      rw [hlocate] at h
      cases hnode : store.tree.get? place with
      | none => simp [hnode] at h
      | some other => simpa [hnode] using h

theorem spelledPlace_under {names : List String} (hnames : ∀ name ∈ names, name ≠ "..") :
    store.spelledPlace (p.under names) = store.spelledPlace p ++ names := by
  -- names other than `..` only lead further down
  have hsteps : ∀ (names : List String), (∀ name ∈ names, name ≠ "..") →
      ∀ first, names.foldl stepTo first = first ++ names := by
    intro names
    induction names with
    | nil => intro _ first; rw [List.foldl_nil, List.append_nil]
    | cons name rest ih =>
        intro hnames first
        rw [List.foldl_cons, ih fun other hother => hnames other (List.mem_cons_of_mem name hother),
          stepTo, if_neg (hnames name List.mem_cons_self), List.append_assoc]
        rfl
  rw [spelledPlace, Path.under, List.foldl_append]
  exact hsteps names hnames _

theorem spelledPlace_congr {store' : Store} (h : store'.here = store.here) (p : Path) :
    store'.spelledPlace p = store.spelledPlace p := by
  rw [spelledPlace, spelledPlace, start_eq h]

end Store

/-! ## Files and what is put elsewhere -/

namespace Node

variable {tree : Node} {place file : List String} {data : FileData}

/-- What is put at a place is seen neither besides it nor above it. -/
theorem get?_set_of_apart (new : Node) :
    ∀ (place other : List String) (tree : Node), ¬ place <+: other → ¬ other <+: place →
      (set new place tree).get? other = tree.get? other := by
  intro place
  induction place with
  | nil => intro other tree hbelow; exact absurd List.nil_prefix hbelow
  | cons name rest ih =>
      intro other tree hbelow habove
      cases other with
      | nil => exact absurd List.nil_prefix habove
      | cons first others =>
          rw [set, get?, get?, Node.entries]
          by_cases hfirst : first = name
          · -- both places are below the same entry, where the induction goes on
            subst hfirst
            rw [List.cons_prefix_cons, not_and] at hbelow habove
            rw [lookup_setEntry, Option.bind_some, ih others _ (hbelow rfl) (habove rfl)]
            -- where there was nothing, what is put is alone on the new way
            cases hlookup : tree.entries.lookup first with
            | some inner => rfl
            | none =>
                rw [Option.getD_none, Option.bind_none]
                cases others with
                | nil => exact absurd List.nil_prefix (habove rfl)
                | cons second others => rfl
          · rw [lookup_setEntry_of_ne hfirst]

/-- A file has nothing below it. -/
theorem eq_of_prefix_of_file (hfile : tree.get? file = some (.file data)) (h : file <+: place)
    (hsome : (tree.shape? place).isSome) : file = place := by
  obtain ⟨rest, rfl⟩ := h
  cases rest with
  | nil => rw [List.append_nil]
  | cons name rest =>
      have hdirectory := shape?_of_append (List.cons_ne_nil name rest) hsome
      rw [shape?_eq_file.mpr hfile] at hdirectory
      exact absurd hdirectory (by simp)

/-- What leads to a file and is no directory is the file. -/
theorem eq_of_prefix_of_free (hfile : tree.get? file = some (.file data)) (h : place <+: file)
    (hfree : tree.shape? place ≠ some .directory) : place = file := by
  obtain ⟨rest, rfl⟩ := h
  cases rest with
  | nil => rw [List.append_nil]
  | cons name rest =>
      refine absurd (shape?_of_append (List.cons_ne_nil name rest) ?_) hfree
      rw [shape?_eq_file.mpr hfile]
      rfl

end Node

/-! ## The effect of an action -/

namespace Action

open Store Node

variable {store store' : Store}

/-- The store with something else at a place. -/
def putAt (store : Store) (place : List String) (node : Node) : Store :=
  { store with tree := Node.set node place store.tree }

/-- What can come of an action: the store as it is left, and what went wrong. -/
inductive Effect (store : Store) : Action → Result → Prop
  /-- An action that fails changes nothing. -/
  | failed (action : Action) (failure : ActionFailure) : Effect store action (store, some failure)
  /-- A file is copied to another place. -/
  | copied (source dest : Path) (data : FileData)
      (hsource : store.locate source = .ok (store.spelledPlace source))
      (hdata : store.tree.get? (store.spelledPlace source) = some (.file data))
      (hdest : store.placeOf dest = .ok (store.spelledPlace dest))
      (hfree : store.tree.shape? (store.spelledPlace dest) ≠ some .directory)
      (hother : store.spelledPlace dest ≠ store.spelledPlace source) :
      Effect store (.copy source dest)
        (putAt store (store.spelledPlace dest) (.file { bytes := data.bytes }), none)
  /-- There is nothing to delete. -/
  | absent (path : Path) (absentOk all : Bool) :
      Effect store (.deleteDirectory path absentOk all) (store, none)
  /-- A directory is emptied before it turns out that it cannot be removed. -/
  | emptied (path : Path) (absentOk all : Bool) (failure : ActionFailure)
      (hthere : store.tree.shape? (store.spelledPlace path) = some .directory) :
      Effect store (.deleteDirectory path absentOk all)
        (putAt store (store.spelledPlace path) .empty, some failure)
  /-- A directory is removed, with or without being emptied before. -/
  | removed (path : Path) (absentOk all : Bool) (before : Store)
      (hthere : store.tree.shape? (store.spelledPlace path) = some .directory)
      (hbefore : before = store ∨ before = putAt store (store.spelledPlace path) .empty)
      (hne : store.spelledPlace path ≠ []) :
      Effect store (.deleteDirectory path absentOk all)
        ({ store with tree := before.tree.erase (store.spelledPlace path) }, none)
  /-- A directory is there already. -/
  | kept (path : Path) (existsOk : Bool) :
      Effect store (.createDirectory path existsOk) (store, none)
  | created (path : Path) (existsOk : Bool)
      (hplace : store.placeOf path = .ok (store.spelledPlace path))
      (hfree : store.tree.shape? (store.spelledPlace path) = none) :
      Effect store (.createDirectory path existsOk)
        (putAt store (store.spelledPlace path) .empty, none)
  | wrote (path : Path) (content : String)
      (hplace : store.placeOf path = .ok (store.spelledPlace path))
      (hfree : store.tree.shape? (store.spelledPlace path) ≠ some .directory) :
      Effect store (.writeFile path content)
        (putAt store (store.spelledPlace path) (.file { bytes := encode content }), none)

theorem store_write_eq_ok {p : Path} {bytes : List UInt8} (h : store.write p bytes = .ok store') :
    store.placeOf p = .ok (store.spelledPlace p) ∧
      store.tree.shape? (store.spelledPlace p) ≠ some .directory ∧
      store' = putAt store (store.spelledPlace p) (.file { bytes := bytes }) := by
  rw [Store.write] at h
  cases hplace : store.placeOf p with
  | error fault => simp [hplace] at h
  | ok place =>
      obtain rfl := spelledPlace_of_placeOf hplace
      rw [hplace] at h
      simp only at h
      split at h
      · exact absurd h (by simp)
      · rename_i hother
        refine ⟨rfl, ?_, (Except.ok.inj h).symm⟩
        intro hdirectory
        obtain ⟨entries, hentries⟩ := shape?_eq_directory.mp hdirectory
        exact hother entries hentries

theorem makeDirectory_eq_ok {p : Path} (h : store.makeDirectory p = .ok store') :
    store.placeOf p = .ok (store.spelledPlace p) ∧
      store.tree.shape? (store.spelledPlace p) = none ∧
      store' = putAt store (store.spelledPlace p) .empty := by
  rw [makeDirectory] at h
  cases hplace : store.placeOf p with
  | error fault => simp [hplace] at h
  | ok place =>
      obtain rfl := spelledPlace_of_placeOf hplace
      rw [hplace] at h
      simp only at h
      split at h
      · exact absurd h (by simp)
      · rename_i hnone
        exact ⟨rfl, shape?_eq_none.mpr hnone, (Except.ok.inj h).symm⟩

theorem emptyDirectory_eq_ok {p : Path} (h : store.emptyDirectory p = .ok store') :
    store.tree.shape? (store.spelledPlace p) = some .directory ∧
      store' = putAt store (store.spelledPlace p) .empty := by
  rw [emptyDirectory] at h
  cases hplace : store.locate p with
  | error fault => simp [hplace] at h
  | ok place =>
      obtain rfl := spelledPlace_of_locate hplace
      rw [hplace] at h
      simp only at h
      split at h
      · rename_i entries hentries
        exact ⟨shape?_eq_directory.mpr ⟨entries, hentries⟩, (Except.ok.inj h).symm⟩
      · exact absurd h (by simp)
      · exact absurd h (by simp)

/-- Only a directory with a name can be removed. -/
theorem removeDirectory_eq_ok {p : Path} (h : store.removeDirectory p = .ok store') :
    store.tree.shape? (store.spelledPlace p) = some .directory ∧ store.spelledPlace p ≠ [] ∧
      store' = { store with tree := store.tree.erase (store.spelledPlace p) } := by
  rw [removeDirectory] at h
  cases hplace : store.placeOf p with
  | error fault => simp [hplace] at h
  | ok place =>
      obtain rfl := spelledPlace_of_placeOf hplace
      rw [hplace] at h
      simp only at h
      split at h
      · exact absurd h (by simp)
      · exact absurd h (by simp)
      · rename_i name hother hlast
        have hne : store.spelledPlace p ≠ [] := by
          obtain ⟨first, hsnoc⟩ := List.getLast?_eq_some_iff.mp hlast
          rw [spelledPlace, hsnoc, List.foldl_append, List.foldl_cons, List.foldl_nil, stepTo,
            if_neg hother]
          simp
        split at h
        · exact absurd h (by simp)
        · exact absurd h (by simp)
        · rename_i hentries
          exact ⟨shape?_eq_directory.mpr ⟨[], hentries⟩, hne, (Except.ok.inj h).symm⟩
        · exact absurd h (by simp)

theorem effect_runCopy (store : Store) (source dest : Path) :
    Effect store (.copy source dest) (runCopy store source dest) := by
  simp only [runCopy]
  split
  · exact Effect.failed _ _
  · cases hsource : store.locate source with
    | error fault => exact Effect.failed _ _
    | ok place =>
        obtain rfl := spelledPlace_of_locate hsource
        simp only
        split
        · exact Effect.failed _ _
        · rename_i hsame
          rw [Store.read, Store.node, hsource]
          simp only
          cases hnode : store.tree.get? (store.spelledPlace source) with
          | none => exact Effect.failed _ _
          | some node =>
              cases node with
              | directory entries => exact Effect.failed _ _
              | file data =>
                  simp only
                  cases hwrite : store.write dest data.bytes with
                  | error fault => exact Effect.failed _ _
                  | ok store' =>
                      obtain ⟨hdest, hfree, rfl⟩ := store_write_eq_ok hwrite
                      refine Effect.copied source dest data hsource hnode hdest hfree ?_
                      -- a destination in the place of the source is found there
                      intro hother
                      have hlocate := locate_of_placeOf hdest
                        (by rw [hother, shape?_eq_file.mpr hnode]; rfl)
                      rw [hlocate, hother] at hsame
                      exact hsame (by simp [Except.toOption])

theorem effect_runDelete (store : Store) (path : Path) (absentOk all : Bool) :
    Effect store (.deleteDirectory path absentOk all) (runDelete store path absentOk all) := by
  simp only [runDelete]
  cases store.look path with
  | error fault => exact Effect.failed _ _
  | ok found =>
      cases found with
      | none =>
          cases absentOk with
          | true => exact Effect.absent _ _ _
          | false => exact Effect.failed _ _
      | some node =>
          cases all with
          | false =>
              simp only [Bool.false_eq_true, if_false]
              cases hremove : store.removeDirectory path with
              | error fault => exact Effect.failed _ _
              | ok store' =>
                  obtain ⟨hthere, hne, rfl⟩ := removeDirectory_eq_ok hremove
                  exact Effect.removed path absentOk false store hthere (.inl rfl) hne
          | true =>
              simp only [if_true]
              cases hempty : store.emptyDirectory path with
              | error fault => exact Effect.failed _ _
              | ok before =>
                  obtain ⟨hthere, rfl⟩ := emptyDirectory_eq_ok hempty
                  simp only
                  cases hremove : (putAt store (store.spelledPlace path) .empty).removeDirectory
                      path with
                  -- the directory is empty by now, though it stays
                  | error fault => exact Effect.emptied path absentOk true _ hthere
                  | ok store' =>
                      obtain ⟨-, hne, rfl⟩ := removeDirectory_eq_ok hremove
                      exact Effect.removed path absentOk true _ hthere (.inr rfl) hne

theorem effect_make (store : Store) (path : Path) (existsOk : Bool)
    (failure : Fault → ActionFailure) :
    Effect store (.createDirectory path existsOk)
      (settle store failure (store.makeDirectory path)) := by
  cases hmake : store.makeDirectory path with
  | error fault => exact Effect.failed _ _
  | ok store' =>
      obtain ⟨hplace, hfree, rfl⟩ := makeDirectory_eq_ok hmake
      exact Effect.created path existsOk hplace hfree

theorem effect_runCreate (store : Store) (path : Path) (existsOk : Bool) :
    Effect store (.createDirectory path existsOk) (runCreate store path existsOk) := by
  simp only [runCreate]
  cases existsOk with
  | false => exact effect_make store path false _
  | true =>
      simp only [if_true]
      cases store.look path with
      | error fault => exact Effect.failed _ _
      | ok found =>
          cases found with
          | none => exact effect_make store path true _
          | some node =>
              cases node with
              | file data => exact Effect.failed _ _
              | directory entries => exact Effect.kept _ _

theorem effect_runWrite (store : Store) (path : Path) (content : String) :
    Effect store (.writeFile path content) (runWrite store path content) := by
  simp only [runWrite]
  split
  · exact Effect.failed _ _
  · exact Effect.failed _ _
  · cases hwrite : store.write path (encode content) with
    | error fault => exact Effect.failed _ _
    | ok store' =>
        obtain ⟨hplace, hfree, rfl⟩ := store_write_eq_ok hwrite
        exact Effect.wrote path content hplace hfree

/-- This is all that an action can do. -/
theorem effect_run (store : Store) (action : Action) : Effect store action (run store action) := by
  cases action with
  | copy source dest => exact effect_runCopy store source dest
  | deleteDirectory path absentOk all => exact effect_runDelete store path absentOk all
  | createDirectory path existsOk => exact effect_runCreate store path existsOk
  | writeFile path content => exact effect_runWrite store path content

/-- The current directory stays the same, by its name. -/
theorem here_run (store : Store) (action : Action) : (run store action).1.here = store.here := by
  have h := effect_run store action
  generalize run store action = result at h
  cases h with
  | _ => rfl

/-! ## Files that stay -/

variable {file : List String} {data : FileData} {action : Action} {actions : List Action}

/-- An action spares a file: it puts nothing in its place, unless that is the file itself, and it
deletes no directory that holds it. -/
def Spares (store : Store) (file : List String) : Action → Prop
  | .copy source dest => store.spelledPlace dest = file → store.spelledPlace source = file
  | .deleteDirectory path _ _ => ¬ store.spelledPlace path <+: file
  | .createDirectory _ _ => True
  | .writeFile path _ => store.spelledPlace path ≠ file

/-- A file comes to no harm by an action: the action spares it, and does not take it for the current
directory, which only a path without a name could do. -/
structure LeavesAlone (store : Store) (file : List String) (action : Action) : Prop where
  spares : Spares store file action
  named : action.path.segments ≠ [] ∨ ¬ file <+: store.here

theorem leavesAlone_congr (h : store'.here = store.here) (hfile : LeavesAlone store file action) :
    LeavesAlone store' file action := by
  obtain ⟨hspares, hnamed⟩ := hfile
  refine ⟨?_, by rwa [h]⟩
  cases action with
  | createDirectory path existsOk => trivial
  | copy source dest => simpa only [Spares, spelledPlace_congr h] using hspares
  | deleteDirectory path absentOk all => simpa only [Spares, spelledPlace_congr h] using hspares
  | writeFile path content => simpa only [Spares, spelledPlace_congr h] using hspares

/-- What is put in a place where there is no directory does not touch a file elsewhere. -/
theorem get?_putAt {p : Path} {new : Node} (hfile : store.tree.get? file = some (.file data))
    (hplace : store.placeOf p = .ok (store.spelledPlace p))
    (hfree : store.tree.shape? (store.spelledPlace p) ≠ some .directory)
    (hother : store.spelledPlace p ≠ file) (hstart : p.segments ≠ [] ∨ ¬ file <+: store.here) :
    (putAt store (store.spelledPlace p) new).tree.get? file = some (.file data) := by
  have hbelow : ¬ store.spelledPlace p <+: file :=
    fun hpre => hother (eq_of_prefix_of_free hfile hpre hfree)
  -- above the place there are only directories
  have habove : ¬ file <+: store.spelledPlace p := by
    intro hpre
    rcases List.eq_nil_or_concat p.segments with hnil | ⟨first, last, hsnoc⟩
    · -- the path is a start, and only the current directory could be below a file
      have hsame : store.spelledPlace p = store.start p.anchor := by rw [spelledPlace, hnil]; rfl
      rw [hsame] at hpre hbelow
      cases hanchor : p.anchor with
      | here =>
          rw [hanchor] at hpre
          exact hstart.elim (fun hne => hne hnil) fun hhere => hhere hpre
      | root =>
          rw [hanchor] at hbelow
          exact hbelow List.nil_prefix
      | doubleRoot =>
          rw [hanchor] at hbelow
          exact hbelow List.nil_prefix
    · rw [List.concat_eq_append] at hsnoc
      obtain ⟨-, middle, -, hmiddle, -, htop⟩ := (placeOf_eq_ok_of_snoc hsnoc).mp hplace
      have hsome : (store.tree.shape? middle).isSome := by rw [hmiddle]; rfl
      -- so a file above the place would be above the directory that holds it
      have hlead : file <+: middle := by
        rw [htop, stepTo] at hpre
        split at hpre
        · exact hpre.trans (List.dropLast_prefix middle)
        · rename_i hback
          rcases List.prefix_concat_iff.mp hpre with heq | hpre
          · rw [heq, htop, stepTo, if_neg hback] at hother
            exact absurd rfl hother
          · exact hpre
      rw [← eq_of_prefix_of_file hfile hlead hsome, shape?_eq_file.mpr hfile] at hmiddle
      exact absurd hmiddle (by simp)
  show (Node.set new _ _).get? file = _
  rw [get?_set_of_apart new _ _ _ hbelow habove, hfile]

/-- What becomes of a directory does not touch a file that is not in it. -/
theorem get?_of_directory {place : List String} (hfile : store.tree.get? file = some (.file data))
    (hthere : store.tree.shape? place = some .directory) (hbelow : ¬ place <+: file) :
    (putAt store place .empty).tree.get? file = some (.file data) := by
  have habove : ¬ file <+: place := by
    intro hpre
    have hsame := eq_of_prefix_of_file hfile hpre (by rw [hthere]; rfl)
    exact hbelow (hsame ▸ List.prefix_refl _)
  show (Node.set .empty _ _).get? file = _
  rw [get?_set_of_apart .empty _ _ _ hbelow habove, hfile]

/-- A file that an action leaves alone stays as it is, also if the action fails. -/
theorem keeps_run (hfile : store.tree.get? file = some (.file data))
    (halone : LeavesAlone store file action) :
    (run store action).1.tree.get? file = some (.file data) := by
  obtain ⟨hspares, hnamed⟩ := halone
  have h := effect_run store action
  generalize run store action = result at h
  cases h with
  | failed failure => exact hfile
  | absent path absentOk all => exact hfile
  | kept path existsOk => exact hfile
  | copied source dest copied hsource hdata hdest hfree hother =>
      exact get?_putAt hfile hdest hfree (fun hsame => hother (by rw [hsame, hspares hsame])) hnamed
  | wrote path content hplace hfree => exact get?_putAt hfile hplace hfree hspares hnamed
  | created path existsOk hplace hfree =>
      refine get?_putAt hfile hplace (by rw [hfree]; simp) ?_ hnamed
      rintro rfl
      rw [shape?_eq_file.mpr hfile] at hfree
      exact absurd hfree (by simp)
  | emptied path absentOk all failure hthere => exact get?_of_directory hfile hthere hspares
  | removed path absentOk all before hthere hbefore hne =>
      -- the file is there when the directory goes, whether or not it was emptied before
      have hkept : before.tree.get? file = some (.file data) ∧
          before.tree.shape? (store.spelledPlace path) = some .directory := by
        rcases hbefore with rfl | rfl
        · exact ⟨hfile, hthere⟩
        · refine ⟨get?_of_directory hfile hthere hspares, ?_⟩
          show (Node.set .empty _ _).shape? _ = _
          rw [shape?, get?_set]
          rfl
      have hparent : before.tree.shape? (store.spelledPlace path).dropLast = some .directory := by
        apply shape?_of_append (List.cons_ne_nil ((store.spelledPlace path).getLast hne) [])
        rw [List.dropLast_concat_getLast hne, hkept.2]
        rfl
      rw [← shape?_eq_file]
      show (before.tree.erase _).shape? file = _
      rw [ shape?_erase_of_not_prefix _ _ _ hne hparent hspares, shape?_eq_file.mpr hkept.1]

/-- A file that actions leave alone stays as it is, however far they come. -/
theorem keeps_runAll (halone : ∀ action ∈ actions, LeavesAlone store file action)
    (hfile : store.tree.get? file = some (.file data)) :
    (runAll store actions).1.tree.get? file = some (.file data) := by
  -- the store changes from action to action, but not what paths spell in it
  induction actions generalizing store with
  | nil => exact hfile
  | cons action rest ih =>
      have hkept := keeps_run hfile (halone action List.mem_cons_self)
      have hhere := here_run store action
      rw [runAll]
      generalize run store action = result at hkept hhere
      obtain ⟨middle, failure⟩ := result
      cases failure with
      | some failure => exact hkept
      | none =>
          refine ih (fun other hother => leavesAlone_congr hhere ?_) hkept
          exact halone other (List.mem_cons_of_mem action hother)

/-! ## Files that are put -/

/-- A copy that succeeds leaves the bytes of its file at the destination. -/
theorem put_of_copy {source dest : Path} (h : run store (.copy source dest) = (store', none)) :
    ∃ data, store.tree.get? (store.spelledPlace source) = some (.file data) ∧
      store'.tree.get? (store.spelledPlace dest) = some (.file { bytes := data.bytes }) := by
  have heffect := effect_run store (.copy source dest)
  rw [h] at heffect
  cases heffect with
  | copied _ _ data _ hdata => exact ⟨data, hdata, get?_set _ _ _⟩

/-- A text that is written successfully is at its place. -/
theorem put_of_write {path : Path} {content : String}
    (h : run store (.writeFile path content) = (store', none)) :
    store'.tree.get? (store.spelledPlace path) = some (.file { bytes := encode content }) := by
  have heffect := effect_run store (.writeFile path content)
  rw [h] at heffect
  cases heffect with
  | wrote _ _ _ _ => exact get?_set _ _ _

/-- A file that was written has the bytes that were written into it. -/
theorem read_of_write {p : Path} {bytes : List UInt8} (h : store.write p bytes = .ok store') :
    store'.read p = .ok { bytes := bytes } := by
  obtain ⟨hplace, hfree, rfl⟩ := store_write_eq_ok h
  have hput : (putAt store (store.spelledPlace p) (.file { bytes := bytes })).tree.get?
      (store.spelledPlace p) = some (.file { bytes := bytes }) := get?_set _ _ _
  have hvisits : ∀ visited ∈ store.leadsThrough p,
      (putAt store (store.spelledPlace p) (.file { bytes := bytes })).tree.shape? visited
        = some .directory := by
    intro visited hvisited
    have hdirectory := shape?_of_mem_leadsThrough_of_placeOf hplace visited hvisited
    by_cases hbelow : store.spelledPlace p <+: visited
    · -- a directory at or below the place would make the place one
      obtain ⟨rest, rfl⟩ := hbelow
      refine absurd ?_ hfree
      cases rest with
      | nil => rwa [List.append_nil] at hdirectory
      | cons name rest => exact shape?_of_append (List.cons_ne_nil name rest) (by rw [hdirectory]; rfl)
    · by_cases habove : visited <+: store.spelledPlace p
      · obtain ⟨rest, hrest⟩ := habove
        have hne : rest ≠ [] := by
          rintro rfl
          exact hbelow (List.append_nil visited ▸ hrest ▸ List.prefix_rfl)
        refine shape?_of_append hne ?_
        rw [hrest, shape?, hput]
        rfl
      · rw [← hdirectory]
        exact congrArg (Option.map Node.shape) (get?_set_of_apart _ _ visited _ hbelow habove)
  have hlocate : (putAt store (store.spelledPlace p) (.file { bytes := bytes })).locate p
      = .ok (store.spelledPlace p) := by
    refine locate_of_placeOf (placeOf_transfer hplace rfl hvisits) ?_
    rw [shape?, hput]
    rfl
  rw [Store.read, Store.node, hlocate]
  dsimp only
  rw [hput]

/-! ## Runs that succeed -/

/-- A run that succeeds goes through a store in which some of its actions are done. -/
theorem exists_of_runAll_append {first rest : List Action} :
    ∀ {store : Store}, runAll store (first ++ rest) = (store', none) →
      ∃ middle, runAll store first = (middle, none) ∧ runAll middle rest = (store', none) := by
  induction first with
  | nil => intro store h; exact ⟨store, rfl, h⟩
  | cons action first ih =>
      intro store h
      rw [List.cons_append, runAll] at h
      rw [runAll]
      generalize run store action = result at h ⊢
      obtain ⟨middle, failure⟩ := result
      cases failure with
      | some failure => exact absurd (congrArg Prod.snd h) (by simp)
      | none => exact ih h

theorem here_runAll (actions : List Action) :
    ∀ store : Store, (runAll store actions).1.here = store.here := by
  induction actions with
  | nil => intro store; rfl
  | cons action rest ih =>
      intro store
      have hhere := here_run store action
      rw [runAll]
      generalize run store action = result at hhere
      obtain ⟨middle, failure⟩ := result
      cases failure with
      | some failure => exact hhere
      | none => exact (ih middle).trans hhere

/-- What one of some actions puts in a place is there when all have succeeded, if those after it
leave it alone. -/
theorem last_runAll {before later : List Action} {P : FileData → Prop}
    (h : runAll store (before ++ action :: later) = (store', none))
    (hput : ∀ middle after, runAll store before = (middle, none) → middle.here = store.here →
      run middle action = (after, none) → ∃ data, after.tree.get? file = some (.file data) ∧ P data)
    (halone : ∀ action ∈ later, LeavesAlone store file action) :
    ∃ data, store'.tree.get? file = some (.file data) ∧ P data := by
  -- three stores: before the action, right after it, and in the end
  obtain ⟨middle, hbefore, hrest⟩ := exists_of_runAll_append h
  have hmiddle : middle.here = store.here := by
    have hhere := here_runAll before store
    rwa [hbefore] at hhere
  obtain ⟨after, hone, hlater⟩ :=
    exists_of_runAll_append (show runAll middle ([action] ++ later) = _ from hrest)
  have hrun : run middle action = (after, none) := by
    rw [runAll] at hone
    generalize run middle action = result at hone ⊢
    obtain ⟨other, failure⟩ := result
    cases failure with
    | some failure => exact absurd (congrArg Prod.snd hone) (by simp)
    | none => exact hone
  have hafter : after.here = store.here := by
    have hhere := here_run middle action
    rw [hrun] at hhere
    exact hhere.trans hmiddle
  obtain ⟨data, hdata, hP⟩ := hput middle after hbefore hmiddle hrun
  have hkept := keeps_runAll
    (fun other hother => leavesAlone_congr hafter (halone other hother)) hdata
  rw [hlater] at hkept
  exact ⟨data, hkept, hP⟩

end Action

end StaticSite.File
