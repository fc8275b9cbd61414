import StaticSite.Proofs.File.Shape

/-!
# Where paths lead

A path leads through directories to a place. Where it leads depends on the directories on the way
and on nothing else in the tree, so it leads there still after a change elsewhere; and from a
directory that a path leads to, names lead on to the places below.

## What this module delivers

- `visits`, `Store.leadsThrough`: the places at which a path needs directories.
- `follow_transfer`, `Store.locate_transfer`, `Store.placeOf_transfer`: a path in a changed tree.
- `Store.locate_of_placeOf`: a path that names a place leads there once something is there.
- `Path.under`, `Store.look_under`, `Store.placeOf_under`: the paths of the places below a
  directory.
-/

set_option autoImplicit false

namespace StaticSite.File

/-! ## Steps -/

/-- Where a name leads from a place. -/
def stepTo (place : List String) (name : String) : List String :=
  if name = ".." then place.dropLast else place ++ [name]

/-- The places at which names are looked up when they are followed from a place. -/
def visits : List String → List String → List (List String)
  | _, [] => []
  | place, name :: rest => place :: visits (stepTo place name) rest

namespace Store

variable {tree tree' : Node}

/-- A name is followed from a directory if it leads back or if something has the name. -/
theorem follow_cons {place : List String} {name : String}
    (hplace : tree.shape? place = some .directory)
    (hname : name ≠ ".." →
      name.utf8ByteSize ≤ nameLimit ∧ (tree.shape? (place ++ [name])).isSome)
    (rest : List String) :
    follow tree place (name :: rest) = follow tree (stepTo place name) rest := by
  obtain ⟨entries, hentries⟩ := Node.shape?_eq_directory.mp hplace
  simp only [follow, hentries, stepTo]
  by_cases hback : name = ".."
  · rw [if_pos hback, if_pos hback]
  · obtain ⟨hshort, hsome⟩ := hname hback
    rw [Node.shape?, Option.isSome_map, Node.get?_singleton, hentries] at hsome
    rw [if_neg hback, if_neg hback, if_neg (Nat.not_lt.mpr hshort)]
    exact if_pos hsome

/-- Names are followed to their end only from directories, and by names of what is there. -/
theorem follow_cons_inv {place last : List String} {name : String} {rest : List String}
    (h : follow tree place (name :: rest) = .ok last) :
    tree.shape? place = some .directory ∧
      (name ≠ ".." → name.utf8ByteSize ≤ nameLimit ∧ (tree.shape? (place ++ [name])).isSome) ∧
      follow tree (stepTo place name) rest = .ok last := by
  have hplace : tree.shape? place = some .directory := by
    cases hnode : tree.get? place with
    | none => simp [follow, hnode] at h
    | some node =>
        cases node with
        | file data => simp [follow, hnode] at h
        | directory entries => exact Node.shape?_eq_directory.mpr ⟨entries, hnode⟩
  have hname : name ≠ ".." →
      name.utf8ByteSize ≤ nameLimit ∧ (tree.shape? (place ++ [name])).isSome := by
    intro hback
    obtain ⟨entries, hentries⟩ := Node.shape?_eq_directory.mp hplace
    simp only [follow, hentries, hback, if_false] at h
    split at h
    · exact absurd h (by simp)
    · rename_i hshort
      split at h
      · rename_i hsome
        rw [Node.shape?, Option.isSome_map, Node.get?_singleton, hentries]
        exact ⟨Nat.not_lt.mp hshort, hsome⟩
      · exact absurd h (by simp)
  rw [follow_cons hplace hname] at h
  exact ⟨hplace, hname, h⟩

/-- Following names in two steps. -/
theorem follow_append (first rest : List String) :
    ∀ {place middle : List String}, follow tree place first = .ok middle →
      follow tree place (first ++ rest) = follow tree middle rest := by
  induction first with
  | nil =>
      intro place middle h
      obtain rfl : place = middle := by simpa [follow] using h
      rfl
  | cons name first ih =>
      intro place middle h
      obtain ⟨hplace, hname, hrest⟩ := follow_cons_inv h
      rw [List.cons_append, follow_cons hplace hname, ih hrest]

/-- What names are looked up in on the way is a directory. -/
theorem shape?_of_mem_visits {names : List String} :
    ∀ {place last : List String}, follow tree place names = .ok last →
      ∀ visited ∈ visits place names, tree.shape? visited = some .directory := by
  induction names with
  | nil => intro place last _ visited hvisited; cases hvisited
  | cons name rest ih =>
      intro place last h visited hvisited
      obtain ⟨hplace, -, hrest⟩ := follow_cons_inv h
      rcases List.mem_cons.mp hvisited with rfl | hvisited
      · exact hplace
      · exact ih hrest visited hvisited

/-- Names lead where they led before if the directories on the way are still there, and what is at
the end. -/
theorem follow_transfer {names : List String} :
    ∀ {place last : List String}, follow tree place names = .ok last →
      (∀ visited ∈ visits place names, tree'.shape? visited = some .directory) →
      ((tree.shape? last).isSome → (tree'.shape? last).isSome) →
        follow tree' place names = .ok last := by
  induction names with
  | nil => intro place last h _ _; exact h
  | cons name rest ih =>
      intro place last h hvisits hlast
      obtain ⟨-, hname, hrest⟩ := follow_cons_inv h
      have hplace := hvisits place List.mem_cons_self
      have hlater : ∀ visited ∈ visits (stepTo place name) rest,
          tree'.shape? visited = some .directory :=
        fun visited hvisited => hvisits visited (List.mem_cons_of_mem place hvisited)
      rw [follow_cons hplace]
      · exact ih hrest hlater hlast
      · intro hback
        obtain ⟨hshort, hsome⟩ := hname hback
        refine ⟨hshort, ?_⟩
        have hstep : stepTo place name = place ++ [name] := if_neg hback
        -- the name leads either to the end or to a place at which the next name is looked up
        cases rest with
        | nil =>
            obtain rfl : place ++ [name] = last := by simpa [follow, hstep] using hrest
            exact hlast hsome
        | cons second rest =>
            have hsecond := hlater (stepTo place name) List.mem_cons_self
            rw [hstep] at hsecond
            rw [hsecond]
            rfl

/-- Names of what is there lead to the places below. -/
theorem follow_names {names : List String}
    (hnames : ∀ name ∈ names, name ≠ ".." ∧ name.utf8ByteSize ≤ nameLimit) :
    ∀ {place : List String}, (tree.shape? (place ++ names)).isSome →
      follow tree place names = .ok (place ++ names) := by
  induction names with
  | nil => intro place _; rw [follow, List.append_nil]
  | cons name rest ih =>
      intro place hsome
      obtain ⟨hback, hshort⟩ := hnames name List.mem_cons_self
      have hplace : tree.shape? place = some .directory :=
        Node.shape?_of_append (by simp) hsome
      have hsplit : place ++ name :: rest = (place ++ [name]) ++ rest := by simp
      have hnext : (tree.shape? (place ++ [name])).isSome := by
        rw [hsplit] at hsome
        cases rest with
        | nil => simpa using hsome
        | cons second rest => rw [Node.shape?_of_append (by simp) hsome]; rfl
      have hstep : stepTo place name = place ++ [name] := if_neg hback
      rw [follow_cons hplace fun _ => ⟨hshort, hnext⟩, hstep, hsplit]
      rw [hsplit] at hsome
      exact ih (fun other hother => hnames other (List.mem_cons_of_mem name hother)) hsome

/-- Names that lead nowhere are not found, which is another fault than a name that is too long. -/
theorem follow_names_error {names : List String}
    (hnames : ∀ name ∈ names, name ≠ ".." ∧ name.utf8ByteSize ≤ nameLimit) :
    ∀ {place : List String}, tree.shape? (place ++ names) = none → (tree.shape? place).isSome →
      ∃ fault, follow tree place names = .error fault ∧ fault ≠ .nameTooLong := by
  induction names with
  | nil =>
      intro place hnone hsome
      rw [List.append_nil] at hnone
      rw [hnone] at hsome
      exact absurd hsome (by simp)
  | cons name rest ih =>
      intro place hnone hsome
      obtain ⟨hback, hshort⟩ := hnames name List.mem_cons_self
      have hsplit : place ++ name :: rest = (place ++ [name]) ++ rest := by simp
      cases hnode : tree.get? place with
      | none => exact ⟨.notFound, by simp [follow, hnode], by simp⟩
      | some node =>
          cases node with
          | file data => exact ⟨.notDirectory, by simp [follow, hnode], by simp⟩
          | directory entries =>
              have hplace : tree.shape? place = some .directory :=
                Node.shape?_eq_directory.mpr ⟨entries, hnode⟩
              -- the names end at the first one under which there is nothing
              by_cases hnext : (tree.shape? (place ++ [name])).isSome
              · have hstep : stepTo place name = place ++ [name] := if_neg hback
                rw [follow_cons hplace fun _ => ⟨hshort, hnext⟩, hstep]
                rw [hsplit] at hnone
                exact ih (fun other hother => hnames other (List.mem_cons_of_mem name hother))
                  hnone hnext
              · rw [Node.shape?, Option.isSome_map, Node.get?_singleton, hnode] at hnext
                refine ⟨.notFound, ?_, by simp⟩
                simp only [follow, hnode, hback, if_false, if_neg (Nat.not_lt.mpr hshort)]
                exact if_neg hnext

/-! ## Paths in a changed tree -/

variable {store store' : Store} {p : Path} {top : List String}

/-- The places at which a path needs directories: all that it leads through before its end. -/
def leadsThrough (store : Store) (p : Path) : List (List String) :=
  visits (store.start p.anchor) p.segments

theorem locate_eq_ok :
    store.locate p = .ok top ↔
      pathFault? p = none ∧ follow store.tree (store.start p.anchor) p.segments = .ok top := by
  rw [locate]
  cases hfault : pathFault? p with
  | none => simp
  | some fault => simp

theorem start_eq (hhere : store'.here = store.here) (anchor : Anchor) :
    store'.start anchor = store.start anchor := by
  cases anchor with
  | here => exact hhere
  | root => rfl
  | doubleRoot => rfl

/-- A path leads where it led before if the directories on the way are still there. -/
theorem locate_transfer (h : store.locate p = .ok top) (hhere : store'.here = store.here)
    (hvisits : ∀ visited ∈ store.leadsThrough p, store'.tree.shape? visited = some .directory)
    (htop : (store.tree.shape? top).isSome → (store'.tree.shape? top).isSome) :
    store'.locate p = .ok top := by
  rw [locate_eq_ok] at h ⊢
  rw [start_eq hhere]
  exact ⟨h.1, follow_transfer h.2 hvisits htop⟩

theorem shape?_of_mem_leadsThrough (h : store.locate p = .ok top) :
    ∀ visited ∈ store.leadsThrough p, store.tree.shape? visited = some .directory :=
  shape?_of_mem_visits (locate_eq_ok.mp h).2

theorem visits_append {tree : Node} (first rest : List String) :
    ∀ {place middle : List String}, follow tree place first = .ok middle →
      visits place (first ++ rest) = visits place first ++ visits middle rest := by
  induction first with
  | nil =>
      intro place middle h
      obtain rfl : place = middle := by simpa [follow] using h
      rfl
  | cons name first ih =>
      intro place middle h
      obtain ⟨-, -, hrest⟩ := follow_cons_inv h
      rw [List.cons_append, visits, visits, ih hrest, List.cons_append]

/-- What a path with a last name names: the directory before that name is found, and the name leads
on from there. -/
theorem placeOf_eq_ok_of_snoc {first : List String} {last : String}
    (hsegments : p.segments = first ++ [last]) :
    store.placeOf p = .ok top ↔
      pathFault? p = none ∧
      ∃ place, follow store.tree (store.start p.anchor) first = .ok place ∧
        store.tree.shape? place = some .directory ∧
        (last ≠ ".." → last.utf8ByteSize ≤ nameLimit) ∧ top = stepTo place last := by
  rw [placeOf]
  cases hfault : pathFault? p with
  | some fault => simp
  | none =>
      simp only [hsegments, List.getLast?_append, List.getLast?_singleton, Option.some_or,
        List.dropLast_concat, true_and]
      cases hfollow : follow store.tree (store.start p.anchor) first with
      | error fault => simp
      | ok place =>
          cases hnode : store.tree.get? place with
          | none => simp [hnode, Node.shape?]
          | some node =>
              cases node with
              | file data => simp [hnode, Node.shape?, Node.shape]
              | directory entries =>
                  have hplace : store.tree.shape? place = some .directory :=
                    Node.shape?_eq_directory.mpr ⟨entries, hnode⟩
                  by_cases hback : last = ".."
                  · simp [hnode, hplace, hback, stepTo, eq_comm]
                  · by_cases hlong : nameLimit < last.utf8ByteSize
                    · simp [hnode, hback, hlong, Nat.not_le.mpr hlong]
                    · simp [hnode, hplace, hback, hlong, Nat.not_lt.mp hlong, stepTo, eq_comm]

theorem placeOf_eq_ok_of_nil (hsegments : p.segments = []) :
    store.placeOf p = .ok top ↔ pathFault? p = none ∧ top = store.start p.anchor := by
  rw [placeOf]
  cases hfault : pathFault? p with
  | some fault => simp
  | none => simp [hsegments, eq_comm]

/-- A path that names a place leads there if something is there. -/
theorem locate_of_placeOf (h : store.placeOf p = .ok top) (htop : (store.tree.shape? top).isSome) :
    store.locate p = .ok top := by
  rw [locate_eq_ok]
  rcases List.eq_nil_or_concat p.segments with hnil | ⟨first, last, hsnoc⟩
  · obtain ⟨hfault, rfl⟩ := (placeOf_eq_ok_of_nil hnil).mp h
    rw [hnil]
    exact ⟨hfault, rfl⟩
  · rw [List.concat_eq_append] at hsnoc
    obtain ⟨hfault, place, hfollow, hplace, hshort, rfl⟩ := (placeOf_eq_ok_of_snoc hsnoc).mp h
    refine ⟨hfault, ?_⟩
    rw [hsnoc, follow_append _ _ hfollow, follow_cons hplace]
    · rfl
    · intro hback
      rw [stepTo, if_neg hback] at htop
      exact ⟨hshort hback, htop⟩

/-- A path names the same place if the directories on the way are still there. -/
theorem placeOf_transfer (h : store.placeOf p = .ok top) (hhere : store'.here = store.here)
    (hvisits : ∀ visited ∈ store.leadsThrough p, store'.tree.shape? visited = some .directory) :
    store'.placeOf p = .ok top := by
  -- only what comes before the last name is followed, and the name itself may be free
  rcases List.eq_nil_or_concat p.segments with hnil | ⟨first, last, hsnoc⟩
  · rw [placeOf_eq_ok_of_nil hnil] at h ⊢
    rw [start_eq hhere]
    exact h
  · rw [List.concat_eq_append] at hsnoc
    obtain ⟨hfault, place, hfollow, -, hshort, htop⟩ := (placeOf_eq_ok_of_snoc hsnoc).mp h
    have hsplit : store.leadsThrough p = visits (store.start p.anchor) first ++ [place] := by
      rw [leadsThrough, hsnoc, visits_append _ _ hfollow]
      rfl
    rw [hsplit] at hvisits
    have hplace := hvisits place (List.mem_append_right _ List.mem_cons_self)
    rw [placeOf_eq_ok_of_snoc hsnoc, start_eq hhere]
    refine ⟨hfault, place, ?_, hplace, hshort, htop⟩
    refine follow_transfer hfollow ?_ fun _ => by rw [hplace]; rfl
    exact fun visited hvisited => hvisits visited (List.mem_append_left _ hvisited)

theorem shape?_of_mem_leadsThrough_of_placeOf (h : store.placeOf p = .ok top) :
    ∀ visited ∈ store.leadsThrough p, store.tree.shape? visited = some .directory := by
  intro visited hvisited
  rcases List.eq_nil_or_concat p.segments with hnil | ⟨first, last, hsnoc⟩
  · rw [leadsThrough, hnil] at hvisited
    cases hvisited
  · rw [List.concat_eq_append] at hsnoc
    obtain ⟨-, place, hfollow, hplace, -, -⟩ := (placeOf_eq_ok_of_snoc hsnoc).mp h
    rw [leadsThrough, hsnoc, visits_append _ _ hfollow] at hvisited
    rcases List.mem_append.mp hvisited with hfirst | hlast
    · exact shape?_of_mem_visits hfollow visited hfirst
    · rw [visits, visits, List.mem_singleton] at hlast
      rw [hlast, hplace]

end Store

/-! ## Paths of places below a directory -/

/-- The path that names lead to from a path. -/
def Path.under (p : Path) (names : List String) : Path :=
  { p with segments := p.segments ++ names }

theorem under_injective {p : Path} {names others : List String}
    (h : p.under names = p.under others) : names = others :=
  List.append_cancel_left (congrArg Path.segments h)

theorem under_under (p : Path) (names more : List String) :
    (p.under names).under more = p.under (names ++ more) := by
  rw [Path.under, Path.under, Path.under, List.append_assoc]

/-- Names that lead from a directory to what is below it. -/
def areNames (names : List String) : Prop :=
  ∀ name ∈ names, name ≠ ".." ∧ name.utf8ByteSize ≤ Store.nameLimit

namespace Store

variable {store : Store} {p : Path} {top names : List String}

theorem locate_under (hp : store.locate p = .ok top) (hfault : pathFault? (p.under names) = none)
    (hnames : areNames names) (hsome : (store.tree.shape? (top ++ names)).isSome) :
    store.locate (p.under names) = .ok (top ++ names) := by
  obtain ⟨-, hfollow⟩ := locate_eq_ok.mp hp
  rw [locate_eq_ok]
  refine ⟨hfault, ?_⟩
  show follow store.tree (store.start p.anchor) (p.segments ++ names) = .ok (top ++ names)
  rw [follow_append _ _ hfollow]
  exact follow_names hnames hsome

/-- Looking at a path below a directory shows what is at the place below it. -/
theorem look_under (hp : store.locate p = .ok top) (hfault : pathFault? (p.under names) = none)
    (hnames : areNames names) (htop : (store.tree.shape? top).isSome) :
    store.look (p.under names) = .ok (store.tree.get? (top ++ names)) := by
  cases hnode : store.tree.get? (top ++ names) with
  | some node =>
      have hsome : (store.tree.shape? (top ++ names)).isSome := by rw [Node.shape?, hnode]; rfl
      rw [look, Store.node, locate_under hp hfault hnames hsome]
      simp only [hnode]
  | none =>
      obtain ⟨-, hfollow⟩ := locate_eq_ok.mp hp
      obtain ⟨fault, herror, hother⟩ := follow_names_error hnames
        (Node.shape?_eq_none.mpr hnode) htop
      have hlocate : store.locate (p.under names) = .error fault := by
        rw [locate, hfault]
        show follow store.tree (store.start p.anchor) (p.segments ++ names) = .error fault
        rw [follow_append _ _ hfollow, herror]
      rw [look, Store.node, hlocate]
      -- every other fault is taken for nothing being there
      cases fault with
      | nameTooLong => exact absurd rfl hother
      | _ => rfl

theorem read_under (hp : store.locate p = .ok top) (hfault : pathFault? (p.under names) = none)
    (hnames : areNames names) {data : FileData}
    (hfile : store.tree.get? (top ++ names) = some (.file data)) :
    store.read (p.under names) = .ok data := by
  have hsome : (store.tree.shape? (top ++ names)).isSome := by rw [Node.shape?, hfile]; rfl
  rw [read, Store.node, locate_under hp hfault hnames hsome]
  simp only [hfile]

/-- A path below a directory names the place below it if that is in a directory. -/
theorem placeOf_under (hp : store.locate p = .ok top) (hfault : pathFault? (p.under names) = none)
    (hnames : areNames names) (hne : names ≠ [])
    (hparent : store.tree.shape? (top ++ names.dropLast) = some .directory) :
    store.placeOf (p.under names) = .ok (top ++ names) := by
  obtain ⟨-, hfollow⟩ := locate_eq_ok.mp hp
  rcases List.eq_nil_or_concat names with hnil | ⟨first, last, hsnoc⟩
  · exact absurd hnil hne
  · rw [List.concat_eq_append] at hsnoc
    subst hsnoc
    rw [List.dropLast_concat] at hparent
    have hsegments : (p.under (first ++ [last])).segments = (p.segments ++ first) ++ [last] := by
      rw [Path.under, List.append_assoc]
    obtain ⟨hback, hshort⟩ := hnames last (List.mem_append_right _ List.mem_cons_self)
    have hfirst : areNames first := fun name hname => hnames name (List.mem_append_left _ hname)
    rw [placeOf_eq_ok_of_snoc hsegments]
    refine ⟨hfault, top ++ first, ?_, hparent, fun _ => hshort, ?_⟩
    · show follow store.tree (store.start p.anchor) (p.segments ++ first) = .ok (top ++ first)
      rw [follow_append _ _ hfollow]
      exact follow_names hfirst (by rw [hparent]; rfl)
    · rw [stepTo, if_neg hback, List.append_assoc]

end Store

end StaticSite.File
