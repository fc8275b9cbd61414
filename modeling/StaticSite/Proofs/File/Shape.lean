import StaticSite.File.Tree
import StaticSite.File.Store

/-!
# What is at the places of a file tree

A file tree is told apart from another by what is at its places: a file with its data, a directory,
or nothing. `Node.shape?` looks at one place and leaves aside what a directory holds, since that is
at places of its own. A change at one place shows there and below and nowhere else.

The contents of a directory are listed with the names that lead to them. In a tree as a file system
has it, where the names in a directory are proper and distinct, the list has exactly the places at
which something is, with what is there.

## What this module delivers

- `Shape`, `Node.shape?`: what is at a place.
- `shape?_of_append`: what leads to something is a directory.
- `shape?_set_append`, `shape?_set_of_not_prefix`: the places of a tree after something was put into
  it.
- `shape?_erase_append`, `shape?_erase_of_not_prefix`: the same for something that was taken out.
- `isName`: the names that something can have.
- `Node.isProper`: the names in every directory are such names and distinct.
- `mem_contents_iff`: what is listed.
- `isName_of_get?`: every name that leads somewhere is proper.
-/

set_option autoImplicit false

namespace StaticSite.File

/-- What is at a place, leaving aside what a directory holds. -/
inductive Shape where
  | file (data : FileData)
  | directory
deriving DecidableEq, Repr

namespace Node

/-- What a node is, leaving aside what it holds. -/
def shape : Node → Shape
  | file data => .file data
  | directory _ => .directory

/-- What is at a place of a tree, if there is something. -/
def shape? (place : List String) (tree : Node) : Option Shape :=
  (tree.get? place).map shape

theorem shape_eq_directory {node : Node} :
    node.shape = .directory ↔ ∃ entries, node = .directory entries := by
  cases node with
  | file data => simp [shape]
  | directory entries => simp [shape]

theorem shape?_eq_directory {place : List String} {tree : Node} :
    tree.shape? place = some .directory ↔ ∃ entries, tree.get? place = some (.directory entries) := by
  rw [shape?, Option.map_eq_some_iff]
  constructor
  · rintro ⟨node, hnode, hshape⟩
    obtain ⟨entries, rfl⟩ := shape_eq_directory.mp hshape
    exact ⟨entries, hnode⟩
  · rintro ⟨entries, hentries⟩
    exact ⟨_, hentries, rfl⟩

theorem shape?_eq_file {place : List String} {tree : Node} {data : FileData} :
    tree.shape? place = some (.file data) ↔ tree.get? place = some (.file data) := by
  rw [shape?, Option.map_eq_some_iff]
  constructor
  · rintro ⟨node, hnode, hshape⟩
    cases node with
    | file other => simpa [hnode, shape] using hshape
    | directory entries => simp [shape] at hshape
  · intro hfile
    exact ⟨_, hfile, rfl⟩

theorem shape?_eq_none {place : List String} {tree : Node} :
    tree.shape? place = none ↔ tree.get? place = none := by
  rw [shape?, Option.map_eq_none_iff]

/-! ## Looking further -/

/-- Looking for a place in two steps. -/
theorem get?_append (first rest : List String) :
    ∀ tree : Node, tree.get? (first ++ rest) = (tree.get? first).bind (get? rest) := by
  induction first with
  | nil => intro tree; rfl
  | cons name first ih =>
      intro tree
      rw [List.cons_append, get?, get?, Option.bind_assoc]
      congr 1
      funext inner
      exact ih inner

theorem get?_singleton (place : List String) (name : String) (tree : Node) :
    tree.get? (place ++ [name]) = (tree.get? place).bind fun node => node.entries.lookup name := by
  rw [get?_append]
  congr 1
  funext node
  rw [get?]
  cases node.entries.lookup name <;> rfl

/-- A place that something else leads through is a directory. -/
theorem shape?_of_append {place rest : List String} {tree : Node} (hrest : rest ≠ [])
    (h : (tree.shape? (place ++ rest)).isSome) : tree.shape? place = some .directory := by
  rw [shape?, Option.isSome_map, get?_append] at h
  cases hnode : tree.get? place with
  | none => simp [hnode] at h
  | some node =>
      cases node with
      | directory entries => exact shape?_eq_directory.mpr ⟨entries, hnode⟩
      | file data =>
          cases rest with
          | nil => exact absurd rfl hrest
          | cons name rest => simp [hnode, get?, entries] at h

/-- Nothing is below a place that is no directory. -/
theorem shape?_append_eq_none {place rest : List String} {tree : Node} (hrest : rest ≠ [])
    (h : tree.shape? place ≠ some .directory) : tree.shape? (place ++ rest) = none := by
  rw [← Option.not_isSome_iff_eq_none]
  exact fun hsome => h (shape?_of_append hrest hsome)

/-! ## Putting something into a tree -/

theorem lookup_setEntry_of_ne {name other : String} (h : other ≠ name) (node : Node)
    (entries : List (String × Node)) :
    (setEntry name node entries).lookup other = entries.lookup other := by
  induction entries with
  | nil =>
      have hbeq : (other == name) = false := by simpa using h
      simp [setEntry, List.lookup_cons, hbeq]
  | cons entry rest ih =>
      obtain ⟨first, old⟩ := entry
      by_cases hfirst : first = name
      · subst hfirst
        have hbeq : (other == first) = false := by simpa using h
        simp [setEntry, List.lookup_cons, hbeq]
      · simp only [setEntry, hfirst, if_false, List.lookup_cons, ih]

theorem get?_set_append (new : Node) (place rest : List String) (tree : Node) :
    (set new place tree).get? (place ++ rest) = new.get? rest := by
  rw [get?_append, get?_set]
  rfl

theorem shape?_set_append (new : Node) (place rest : List String) (tree : Node) :
    (set new place tree).shape? (place ++ rest) = new.shape? rest := by
  rw [shape?, get?_set_append, shape?]

/-- What is put at a place of a directory is not seen at other places. -/
theorem shape?_set_of_not_prefix (new : Node) :
    ∀ (place : List String) (tree : Node) (other : List String), place ≠ [] →
      tree.shape? place.dropLast = some .directory → ¬ place <+: other →
        (set new place tree).shape? other = tree.shape? other := by
  intro place
  induction place with
  | nil => intro tree other hplace; exact absurd rfl hplace
  | cons name rest ih =>
      intro tree other _ hparent hother
      obtain ⟨entries, rfl⟩ : ∃ entries, tree = .directory entries := by
        cases tree with
        | directory entries => exact ⟨entries, rfl⟩
        | file data =>
            -- a file leads nowhere, so it is no parent of a place below it
            cases rest with
            | nil => simp [shape?, shape] at hparent
            | cons second rest => simp [shape?, get?, Node.entries] at hparent
      cases other with
      | nil => rfl
      | cons first others =>
          by_cases hfirst : first = name
          · -- both places are below the same entry, where the induction goes on
            subst hfirst
            have hrest : ¬ rest <+: others := by
              intro hpre
              exact hother ((List.cons_prefix_cons).mpr ⟨rfl, hpre⟩)
            have hne : rest ≠ [] := by
              rintro rfl
              exact hrest List.nil_prefix
            have hdrop : (first :: rest).dropLast = first :: rest.dropLast := by
              cases rest with
              | nil => exact absurd rfl hne
              | cons second rest => rfl
            rw [hdrop, shape?, get?, Node.entries] at hparent
            cases hlookup : entries.lookup first with
            | none => simp [hlookup] at hparent
            | some inner =>
                have hinner : inner.shape? rest.dropLast = some .directory := by
                  simpa [hlookup, shape?] using hparent
                have hset := ih inner others hne hinner hrest
                simp only [set, shape?, get?, Node.entries, lookup_setEntry, hlookup,
                  Option.getD_some, Option.bind_some]
                exact hset
          · simp only [set, shape?, get?, Node.entries, lookup_setEntry_of_ne hfirst]

/-! ## Taking something out of a tree -/

theorem lookup_filter_of_ne {name other : String} (h : other ≠ name)
    (entries : List (String × Node)) :
    (entries.filter (·.1 != name)).lookup other = entries.lookup other := by
  induction entries with
  | nil => rfl
  | cons entry rest ih =>
      obtain ⟨first, node⟩ := entry
      by_cases hfirst : first = name
      · subst hfirst
        have hbeq : (other == first) = false := by simpa using h
        simp [List.lookup_cons, hbeq, ih]
      · simp [hfirst, List.lookup_cons, ih]

theorem lookup_filter_self (name : String) (entries : List (String × Node)) :
    (entries.filter (·.1 != name)).lookup name = none := by
  rw [List.lookup_eq_none_iff]
  intro entry hentry
  have hne : entry.1 ≠ name := by simpa using (List.mem_filter.mp hentry).2
  simpa using hne.symm

theorem erase_cons_cons (name second : String) (rest : List String) (tree : Node) :
    erase (name :: second :: rest) tree =
      match tree.entries.lookup name with
      | some inner => directory (setEntry name (erase (second :: rest) inner) tree.entries)
      | none => tree := rfl

/-- What was taken out is gone, with all that was below it. -/
theorem shape?_erase_append (rest : List String) :
    ∀ (place : List String) (tree : Node), place ≠ [] →
      (erase place tree).shape? (place ++ rest) = none := by
  intro place
  induction place with
  | nil => intro tree hplace; exact absurd rfl hplace
  | cons name others ih =>
      intro tree _
      cases others with
      | nil =>
          simp only [erase, shape?, List.cons_append, get?, Node.entries, lookup_filter_self,
            Option.bind_none, Option.map_none]
      | cons second others =>
          rw [shape?_eq_none, List.cons_append, erase_cons_cons]
          cases hlookup : tree.entries.lookup name with
          | none => simp only [get?, hlookup, Option.bind_none]
          | some inner =>
              have hinner := ih inner (by simp)
              rw [shape?_eq_none] at hinner
              simp only [get?, Node.entries, lookup_setEntry, Option.bind_some]
              exact hinner

/-- What is taken out of a directory is missed at no other place. -/
theorem shape?_erase_of_not_prefix :
    ∀ (place : List String) (tree : Node) (other : List String), place ≠ [] →
      tree.shape? place.dropLast = some .directory → ¬ place <+: other →
        (erase place tree).shape? other = tree.shape? other := by
  intro place
  induction place with
  | nil => intro tree other hplace; exact absurd rfl hplace
  | cons name rest ih =>
      intro tree other _ hparent hother
      cases rest with
      | nil =>
          obtain ⟨entries, hentries⟩ := shape?_eq_directory.mp hparent
          obtain rfl : tree = .directory entries := by simpa using hentries
          cases other with
          | nil => rfl
          | cons first others =>
              have hfirst : first ≠ name := by
                rintro rfl
                exact hother ((List.cons_prefix_cons).mpr ⟨rfl, List.nil_prefix⟩)
              simp only [erase, shape?, get?, Node.entries, lookup_filter_of_ne hfirst]
      | cons second rest =>
          rw [erase_cons_cons]
          cases hlookup : tree.entries.lookup name with
          | none => rfl
          | some inner =>
              obtain ⟨entries, rfl⟩ : ∃ entries, tree = .directory entries := by
                cases tree with
                | directory entries => exact ⟨entries, rfl⟩
                | file data => simp [Node.entries] at hlookup
              cases other with
              | nil => rfl
              | cons first others =>
                  by_cases hfirst : first = name
                  · -- both places are below the same entry, where the induction goes on
                    subst hfirst
                    have hrest : ¬ (second :: rest) <+: others := by
                      intro hpre
                      exact hother ((List.cons_prefix_cons).mpr ⟨rfl, hpre⟩)
                    have hdrop : (first :: second :: rest).dropLast
                        = first :: (second :: rest).dropLast := rfl
                    rw [hdrop, shape?, get?, hlookup] at hparent
                    have herase := ih inner others (by simp) hparent hrest
                    rw [Node.entries] at hlookup
                    simp only [shape?, get?, Node.entries, lookup_setEntry, hlookup,
                      Option.bind_some]
                    exact herase
                  · simp only [shape?, get?, Node.entries, lookup_setEntry_of_ne hfirst]

end Node

/-- Whether something can have a name: it is a name of its own, in one piece and not too long. -/
def isName (name : String) : Bool :=
  !(name == "" || name == "." || name == "..") &&
    !(name.toList.contains '/' || name.toList.contains '\x00') &&
    decide (name.utf8ByteSize ≤ Store.nameLimit)

namespace Node

mutual

/-- Whether the names in every directory are names that something can have, and distinct. -/
def isProper : Node → Bool
  | file _ => true
  | directory entries => areProper entries

def areProper : List (String × Node) → Bool
  | [] => true
  | (name, node) :: rest =>
      isName name && (rest.lookup name).isNone && isProper node && areProper rest

end

theorem areProper_cons {name : String} {node : Node} {rest : List (String × Node)} :
    areProper ((name, node) :: rest) ↔
      isName name ∧ rest.lookup name = none ∧ node.isProper ∧ areProper rest := by
  rw [areProper]
  simp [and_assoc]

/-- The first of some entries is found under its name, and the others under theirs. -/
theorem lookup_cons_eq_some {name other : String} {node found : Node}
    {rest : List (String × Node)} (hrest : rest.lookup name = none) :
    ((name, node) :: rest).lookup other = some found ↔
      (other = name ∧ found = node) ∨ rest.lookup other = some found := by
  by_cases hother : other = name
  · subst hother
    simp [hrest, eq_comm]
  · have hbeq : (other == name) = false := by simpa using hother
    simp [List.lookup_cons, hbeq, hother]

mutual

/-- In a proper tree the contents of a directory are what is at the places below it. -/
theorem mem_contents_iff :
    ∀ (node : Node) (top place : List String) (found : Node), node.isProper →
      ((place, found) ∈ node.contents top ↔
        ∃ rest, rest ≠ [] ∧ place = top ++ rest ∧ node.get? rest = some found)
  | .file data, top, place, found, _ => by
      rw [contents]
      constructor
      · intro hmem
        cases hmem
      · rintro ⟨rest, hrest, -, hfound⟩
        cases rest with
        | nil => exact absurd rfl hrest
        | cons name rest => simp [get?, entries] at hfound
  | .directory entries, top, place, found, hproper => by
      rw [contents, mem_entryContents_iff entries top place found (by simpa [isProper] using hproper)]
      constructor
      · rintro ⟨name, rest, inner, hlookup, rfl, hfound⟩
        exact ⟨name :: rest, by simp, rfl, by simp [get?, Node.entries, hlookup, hfound]⟩
      · rintro ⟨rest, hrest, rfl, hfound⟩
        cases rest with
        | nil => exact absurd rfl hrest
        | cons name rest =>
            rw [get?, Option.bind_eq_some_iff] at hfound
            obtain ⟨inner, hlookup, hinner⟩ := hfound
            exact ⟨name, rest, inner, hlookup, rfl, hinner⟩

theorem mem_entryContents_iff :
    ∀ (entries : List (String × Node)) (top place : List String) (found : Node),
      areProper entries →
        ((place, found) ∈ entryContents top entries ↔
          ∃ name rest inner, entries.lookup name = some inner ∧ place = top ++ name :: rest ∧
            inner.get? rest = some found)
  | [], top, place, found, _ => by simp [entryContents]
  | (name, node) :: others, top, place, found, hproper => by
      obtain ⟨-, hothers, hnode, hrest⟩ := areProper_cons.mp hproper
      rw [entryContents, List.mem_cons, List.mem_append,
        mem_contents_iff node (top ++ [name]) place found hnode,
        mem_entryContents_iff others top place found hrest]
      constructor
      · -- the first entry itself, something below it, or something of the other entries
        rintro (hfirst | ⟨rest, -, rfl, hfound⟩ | ⟨other, rest, inner, hlookup, hplace, hfound⟩)
        · obtain ⟨rfl, rfl⟩ := Prod.mk.inj hfirst
          exact ⟨name, [], found, by simp, rfl, rfl⟩
        · exact ⟨name, rest, node, by simp, by simp, hfound⟩
        · refine ⟨other, rest, inner, ?_, hplace, hfound⟩
          exact (lookup_cons_eq_some hothers).mpr (Or.inr hlookup)
      · rintro ⟨other, rest, inner, hlookup, hplace, hfound⟩
        rcases (lookup_cons_eq_some hothers).mp hlookup with ⟨rfl, rfl⟩ | hlater
        · cases rest with
          | nil =>
              apply Or.inl
              obtain rfl : inner = found := by simpa using hfound
              rw [hplace]
          | cons second rest =>
              exact Or.inr (Or.inl ⟨second :: rest, by simp, by simp [hplace], hfound⟩)
        · exact Or.inr (Or.inr ⟨other, rest, inner, hlater, hplace, hfound⟩)

end

theorem isProper_of_lookup {entries : List (String × Node)} {name : String} {node : Node}
    (hproper : areProper entries) (h : entries.lookup name = some node) :
    isName name ∧ node.isProper := by
  induction entries with
  | nil => simp at h
  | cons entry rest ih =>
      obtain ⟨first, other⟩ := entry
      obtain ⟨hname, hrest, hnode, hothers⟩ := areProper_cons.mp hproper
      rcases (lookup_cons_eq_some hrest).mp h with ⟨rfl, rfl⟩ | hlater
      · exact ⟨hname, hnode⟩
      · exact ih hothers hlater

/-- Every name that leads somewhere in a proper tree is proper, and so is what it leads to. -/
theorem isName_of_get? {found : Node} :
    ∀ (place : List String) (tree : Node), tree.isProper → tree.get? place = some found →
      (∀ name ∈ place, isName name) ∧ found.isProper := by
  intro place
  induction place with
  | nil =>
      intro tree hproper hfound
      obtain rfl : tree = found := by simpa using hfound
      exact ⟨by simp, hproper⟩
  | cons name rest ih =>
      intro tree hproper hfound
      rw [get?, Option.bind_eq_some_iff] at hfound
      obtain ⟨inner, hlookup, hinner⟩ := hfound
      have hentries : areProper tree.entries := by
        cases tree with
        | file data => simp [Node.entries] at hlookup
        | directory entries =>
            rw [isProper] at hproper
            exact hproper
      obtain ⟨hname, hproper'⟩ := isProper_of_lookup hentries hlookup
      obtain ⟨hnames, hend⟩ := ih inner hproper' hinner
      refine ⟨?_, hend⟩
      intro other hother
      rcases List.mem_cons.mp hother with rfl | hother
      · exact hname
      · exact hnames other hother

end Node

end StaticSite.File
