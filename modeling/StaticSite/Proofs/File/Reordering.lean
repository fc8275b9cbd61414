import Mathlib.Data.List.Perm.Basic
import StaticSite.File.Store
import StaticSite.Proofs.File.Shape

/-!
# The order of entries

A directory lists its entries in some order, and a file system may choose another one the next time.
No path depends on it: in a proper tree an entry is found by its name, which is its alone, so that
there is the same at every place, and every path leads where it led.

## What this module delivers

- `areProper_iff`: proper directories, without regard to the order of their entries.
- `Node.Reordered`: trees that differ in the order of entries, in directories anywhere.
- `Reordered.same`: they have the same at every place.
- `Relists`, `Relists.locate`, `Relists.node`, `Relists.read`: a store with such a tree, and what is
  read from it.
-/

set_option autoImplicit false

namespace StaticSite.File

namespace Node

theorem shape_eq_file {node : Node} {data : FileData} :
    node.shape = .file data ↔ node = .file data := by
  cases node with
  | file other => simp [shape]
  | directory entries => simp [shape]

/-! ## Entries in any order -/

/-- A directory is proper if each entry is and no two have one name. -/
theorem areProper_iff {entries : List (String × Node)} :
    areProper entries ↔ (∀ entry ∈ entries, isName entry.1 ∧ entry.2.isProper) ∧
      entries.Pairwise fun a b => a.1 ≠ b.1 := by
  induction entries with
  | nil => simp [areProper]
  | cons entry rest ih =>
      obtain ⟨name, node⟩ := entry
      have hlookup : rest.lookup name = none ↔ ∀ other ∈ rest, name ≠ other.1 := by
        simp [List.lookup_eq_none_iff]
      rw [areProper_cons, ih, hlookup, List.forall_mem_cons, List.pairwise_cons]
      tauto

theorem areProper_perm {entries entries' : List (String × Node)} (hperm : entries.Perm entries')
    (hproper : areProper entries) : areProper entries' := by
  obtain ⟨hentries, hnames⟩ := areProper_iff.mp hproper
  refine areProper_iff.mpr ⟨fun entry hentry => ?_, hperm.pairwise hnames fun h => h.symm⟩
  exact hentries entry (hperm.mem_iff.mpr hentry)

/-- An entry of a proper directory is found under its name. -/
theorem lookup_eq_some_iff_mem {entries : List (String × Node)} (hproper : areProper entries)
    {name : String} {node : Node} :
    entries.lookup name = some node ↔ (name, node) ∈ entries := by
  induction entries with
  | nil => simp
  | cons entry rest ih =>
      obtain ⟨first, other⟩ := entry
      obtain ⟨-, hnone, -, hrest⟩ := areProper_cons.mp hproper
      rw [lookup_cons_eq_some hnone, ih hrest, List.mem_cons, Prod.mk.injEq]

theorem lookup_perm {entries entries' : List (String × Node)} (hperm : entries.Perm entries')
    (hproper : areProper entries) (name : String) :
    entries'.lookup name = entries.lookup name := by
  apply Option.ext
  intro node
  rw [lookup_eq_some_iff_mem (areProper_perm hperm hproper), lookup_eq_some_iff_mem hproper,
    hperm.mem_iff]

/-! ## Trees in any order -/

/-- Trees that differ only in the order in which directories list their entries. -/
inductive Reordered : Node → Node → Prop where
  | refl (node : Node) : Reordered node node
  | entries {entries entries' : List (String × Node)} (perm : entries.Perm entries') :
      Reordered (.directory entries) (.directory entries')
  | inside (front : List (String × Node)) (name : String) {node node' : Node}
      (inner : Reordered node node') (back : List (String × Node)) :
      Reordered (.directory (front ++ (name, node) :: back))
        (.directory (front ++ (name, node') :: back))
  | trans {node middle node' : Node} (first : Reordered node middle)
      (second : Reordered middle node') : Reordered node node'

/-- What is at a place of a directory is at the rest of the place in one of its entries. -/
theorem shape?_directory (name : String) (rest : List String) (entries : List (String × Node)) :
    (directory entries).shape? (name :: rest) = (entries.lookup name).bind (shape? rest) := by
  rw [shape?, get?, Option.map_bind]
  rfl

/-- An entry can be another one of the same name, if that has the same at every place. -/
theorem shape?_inside {front back : List (String × Node)} {name : String} {node node' : Node}
    (hsame : ∀ place, node'.shape? place = node.shape? place) (place : List String) :
    (directory (front ++ (name, node') :: back)).shape? place
      = (directory (front ++ (name, node) :: back)).shape? place := by
  cases place with
  | nil => rfl
  | cons first rest =>
      rw [shape?_directory, shape?_directory, List.lookup_append, List.lookup_append]
      cases front.lookup first with
      | some other => rfl
      | none =>
          rw [Option.none_or, Option.none_or, List.lookup_cons, List.lookup_cons]
          cases first == name with
          | true => exact hsame rest
          | false => rfl

/-- A proper tree is proper in any order, and has the same at every place. -/
theorem Reordered.same {node node' : Node} (h : node.Reordered node') (hproper : node.isProper) :
    node'.isProper ∧ ∀ place, node'.shape? place = node.shape? place := by
  induction h with
  | refl node => exact ⟨hproper, fun _ => rfl⟩
  | entries hperm =>
      refine ⟨areProper_perm hperm hproper, fun place => ?_⟩
      cases place with
      | nil => rfl
      | cons name rest => rw [shape?_directory, shape?_directory, lookup_perm hperm hproper]
  | inside front name _ back ih =>
      obtain ⟨hentries, hnames⟩ := areProper_iff.mp hproper
      have hnode := hentries (name, _) (List.mem_append_right front List.mem_cons_self)
      obtain ⟨hinner, hsame⟩ := ih hnode.2
      refine ⟨areProper_iff.mpr ⟨fun entry hentry => ?_, ?_⟩, shape?_inside hsame⟩
      · rcases List.mem_append.mp hentry with hfront | hrest
        · exact hentries entry (List.mem_append_left _ hfront)
        · rcases List.mem_cons.mp hrest with rfl | hback
          · exact ⟨hnode.1, hinner⟩
          · exact hentries entry (List.mem_append_right front (List.mem_cons_of_mem _ hback))
      · simpa [List.pairwise_append] using hnames
  | trans _ _ ihFirst ihSecond =>
      obtain ⟨hmiddle, hfirst⟩ := ihFirst hproper
      obtain ⟨hend, hsecond⟩ := ihSecond hmiddle
      exact ⟨hend, fun place => (hsecond place).trans (hfirst place)⟩

end Node

/-! ## Stores -/

namespace Store

/-- A proper store that has the same at every place as another one. -/
structure Relists (store' store : Store) : Prop where
  proper : store'.tree.isProper
  here : store'.here = store.here
  tree : ∀ place, store'.tree.shape? place = store.tree.shape? place

variable {store store' : Store}

theorem relists_of_reordered {tree' : Node} (h : store.tree.Reordered tree')
    (hproper : store.tree.isProper) : Relists { store with tree := tree' } store :=
  ⟨(h.same hproper).1, rfl, (h.same hproper).2⟩

/-- What is in a proper store is proper. -/
theorem isProper_of_node {p : Path} {node : Node} (hproper : store.tree.isProper)
    (h : store.node p = .ok node) : node.isProper := by
  rw [Store.node] at h
  split at h
  · exact absurd h (by simp)
  · rename_i top _
    split at h
    · rename_i found hfound
      obtain rfl := Except.ok.inj h
      exact (Node.isName_of_get? top store.tree hproper hfound).2
    · exact absurd h (by simp)

theorem node_of_look {p : Path} {node : Node} (h : store.look p = .ok (some node)) :
    store.node p = .ok node := by
  rw [look] at h
  split at h
  · rename_i found hfound
    rw [hfound, Option.some.inj (Except.ok.inj h)]
  · exact absurd h (by simp)
  · exact absurd h (by simp)

/-- Names lead to the same place, or nowhere for the same reason. -/
theorem follow_congr {tree tree' : Node} (h : ∀ place, tree'.shape? place = tree.shape? place)
    (place names : List String) : follow tree' place names = follow tree place names := by
  induction names generalizing place with
  | nil => rfl
  | cons name rest ih =>
      have hplace := h place
      cases hnode : tree.get? place with
      | none =>
          have hnode' : tree'.get? place = none := by
            rw [← Node.shape?_eq_none, hplace, Node.shape?_eq_none, hnode]
          simp only [follow, hnode, hnode']
      | some node =>
          cases node with
          | file data =>
              have hnode' : tree'.get? place = some (.file data) := by
                rw [← Node.shape?_eq_file, hplace, Node.shape?_eq_file, hnode]
              simp only [follow, hnode, hnode']
          | directory entries =>
              have hshape : tree'.shape? place = some .directory := by
                rw [hplace, Node.shape?_eq_directory]
                exact ⟨entries, hnode⟩
              obtain ⟨entries', hnode'⟩ := Node.shape?_eq_directory.mp hshape
              -- a name is found in both directories or in neither
              have hnext := congrArg Option.isSome (h (place ++ [name]))
              rw [Node.shape?, Node.shape?, Option.isSome_map, Option.isSome_map,
                Node.get?_singleton, Node.get?_singleton, hnode, hnode'] at hnext
              have hfound : (entries'.lookup name).isSome = (entries.lookup name).isSome := hnext
              simp only [follow, hnode, hnode', ih, hfound]

variable {p : Path}

theorem Relists.locate (h : Relists store' store) (p : Path) :
    store'.locate p = store.locate p := by
  have hstart : store'.start p.anchor = store.start p.anchor := by
    cases p.anchor with
    | here => exact h.here
    | root => rfl
    | doubleRoot => rfl
  rw [Store.locate, Store.locate, hstart]
  split
  · rfl
  · exact follow_congr h.tree _ _

/-- A path leads to a node with the same at every place, or nowhere for the same reason. -/
theorem Relists.node (h : Relists store' store) (p : Path) :
    (∃ fault, store.node p = .error fault ∧ store'.node p = .error fault) ∨
      ∃ node node', store.node p = .ok node ∧ store'.node p = .ok node' ∧ node'.isProper ∧
        ∀ place, node'.shape? place = node.shape? place := by
  cases hlocate : store.locate p with
  | error fault =>
      refine .inl ⟨fault, ?_, ?_⟩
      · rw [Store.node, hlocate]
      · rw [Store.node, h.locate, hlocate]
  | ok top =>
      have htop := h.tree top
      cases hnode : store.tree.get? top with
      | none =>
          have hnode' : store'.tree.get? top = none := by
            rw [← Node.shape?_eq_none, htop, Node.shape?_eq_none, hnode]
          refine .inl ⟨.notFound, ?_, ?_⟩
          · simp only [Store.node, hlocate, hnode]
          · simp only [Store.node, h.locate, hlocate, hnode']
      | some node =>
          rw [Node.shape?, Node.shape?, hnode] at htop
          obtain ⟨node', hnode', -⟩ := Option.map_eq_some_iff.mp htop
          refine .inr ⟨node, node', ?_, ?_, ?_, fun place => ?_⟩
          · simp only [Store.node, hlocate, hnode]
          · simp only [Store.node, h.locate, hlocate, hnode']
          · exact (Node.isName_of_get? top store'.tree h.proper hnode').2
          · have hplace := h.tree (top ++ place)
            rw [Node.shape?, Node.shape?, Node.get?_append, Node.get?_append, hnode, hnode']
              at hplace
            exact hplace

theorem Relists.read (h : Relists store' store) (p : Path) : store'.read p = store.read p := by
  rcases h.node p with ⟨fault, hfault, hfault'⟩ | ⟨node, node', hnode, hnode', -, hsame⟩
  · rw [Store.read, Store.read, hfault, hfault']
  · have hshape : node'.shape = node.shape := Option.some.inj (hsame [])
    rw [Store.read, Store.read, hnode, hnode']
    cases node with
    | file data =>
        obtain rfl : node' = .file data := Node.shape_eq_file.mp hshape
        rfl
    | directory entries =>
        obtain ⟨entries', rfl⟩ := Node.shape_eq_directory.mp hshape
        rfl

theorem Relists.readText (h : Relists store' store) (p : Path) :
    store'.readText p = store.readText p := by
  rw [Store.readText, Store.readText, h.read]

end Store

end StaticSite.File
