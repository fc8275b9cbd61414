import StaticSite.Proofs.File.Reordering
import StaticSite.Proofs.Site.Order
import Mathlib.Logic.Function.Iterate

/-!
# Walking through directories

A walk lists what is in a directory by name, and then goes through the directories in it, one after
the other, by name. The listing of the sources is sorted as a whole, by the directory that something
is in and then by name. In a tree as a file system has it both are the same: a walk visits the
directories in the order in which the listing has them.

A search keeps the directories that it has yet to look into in a list, and looks into the last of
them. The directories that it finds there are put at the end of the list, the first by name last, so
that it is the next one. This way the search needs no recursion, and it visits the directories in
the order of a walk.

## What this module delivers

- `byName`: the entries of a directory in order.
- `walk`, `walk_directory`: the walk, as a recursion on the tree.
- `Node.induction`: induction on a tree by the entries of its directories.
- `walk_perm`, `pairwise_walk`: a walk leaves nothing out, and it has the order of the listing.
- `picked_inOrder`: the listing of the sources is a walk.
- `mem_walk`: a walk finds exactly the places at which something is that is picked.
- `Search`, `Search.step`: a search under way, and its next step.
- `found_step`: what has been found, with the walks through what is left, stays the same.
- `weight_step`: every step brings the search one step closer to its end.
- `run_eq`: a search that goes on to its end has found what the walks find.
- `run_start`: from the top of a tree it takes a step for every directory.
-/

set_option autoImplicit false

namespace StaticSite.File

/-- Whether there is a directory. -/
def Shape.isDirectory : Shape → Bool
  | file _ => false
  | directory => true

/-- Whether there is a file. -/
def Shape.isFile : Shape → Bool
  | file _ => true
  | directory => false

namespace Node

/-! ## Induction on trees -/

section

variable {P : Node → Prop}

mutual

/-- What is passed on to a directory by all that is in it holds for every node. -/
theorem induction (file : ∀ data, P (.file data))
    (directory : ∀ entries, (∀ entry ∈ entries, P entry.2) → P (.directory entries)) :
    ∀ node, P node
  | .file data => file data
  | .directory entries => directory entries (entryInduction file directory entries)

theorem entryInduction (file : ∀ data, P (.file data))
    (directory : ∀ entries, (∀ entry ∈ entries, P entry.2) → P (.directory entries)) :
    ∀ entries : List (String × Node), ∀ entry ∈ entries, P entry.2
  | [], _, hentry => absurd hentry List.not_mem_nil
  | (_, node) :: rest, entry, hentry => by
      rcases List.mem_cons.mp hentry with rfl | hrest
      · exact induction file directory node
      · exact entryInduction file directory rest entry hrest

end

end

/-- The entries of a directory are listed one after the other, each before what is below it. -/
theorem entryContents_eq_flatMap (place : List String) (entries : List (String × Node)) :
    entryContents place entries = entries.flatMap fun entry =>
      [(place ++ [entry.1], entry.2)] ++ contents (place ++ [entry.1]) entry.2 := by
  induction entries with
  | nil => rfl
  | cons entry rest ih => rw [entryContents, ih, List.flatMap_cons]; rfl

/-- The contents of a directory are its entries and the contents of these. -/
theorem entryContents_perm (place : List String) (entries : List (String × Node)) :
    (entryContents place entries).Perm
      ((entries.map fun entry => (place ++ [entry.1], entry.2)) ++
        entries.flatMap fun entry => contents (place ++ [entry.1]) entry.2) := by
  rw [entryContents_eq_flatMap, List.map_eq_flatMap]
  exact (List.flatMap_append_perm entries _ _).symm

end Node

end StaticSite.File

namespace StaticSite.Site

open StaticSite.File

/-! ## Names in order -/

/-- Named items in the order of their names. -/
def byName {α : Type} (items : List (String × α)) : List (String × α) :=
  items.mergeSort fun a b => !decide (b.1 < a.1)

section

variable {α β : Type} (items : List (String × α))

theorem byName_perm : (byName items).Perm items :=
  List.mergeSort_perm items _

theorem byName_map (f : String × α → β) :
    byName (items.map fun item => (item.1, f item))
      = (byName items).map fun item => (item.1, f item) := by
  rw [byName, byName, List.map_mergeSort]
  exact fun _ _ _ _ => rfl

theorem pairwise_byName : (byName items).Pairwise fun a b => a.1 ≤ b.1 := by
  have hsorted : (byName items).Pairwise fun a b => !decide (b.1 < a.1) := by
    apply List.pairwise_mergeSort
    · intro a b c hab hbc
      simp only [Bool.not_eq_true', decide_eq_false_iff_not, String.not_lt] at hab hbc ⊢
      exact String.le_trans hab hbc
    · intro a b
      simp only [Bool.or_eq_true, Bool.not_eq_true', decide_eq_false_iff_not, String.not_lt]
      exact String.le_total a.1 b.1
  apply hsorted.imp
  intro a b hab
  rwa [Bool.not_eq_true', decide_eq_false_iff_not, String.not_lt] at hab

end

/-! ## Walks -/

mutual

/-- The places of what is picked below a node: in a directory by name, and then below each of its
entries, which are gone through by name. -/
def walk (pick : Shape → Bool) (place : List String) : Node → List (List String)
  | .file _ => []
  | .directory entries =>
    ((byName entries).filter fun entry => pick entry.2.shape).map (fun entry => place ++ [entry.1])
      ++ (byName (branches pick place entries)).flatMap Prod.snd

/-- The entries of a directory with the walk through each. -/
def branches (pick : Shape → Bool) (place : List String) :
    List (String × Node) → List (String × List (List String))
  | [] => []
  | (name, node) :: rest => (name, walk pick (place ++ [name]) node) :: branches pick place rest

end

section

variable (pick : Shape → Bool) (place : List String)

theorem branches_eq_map (entries : List (String × Node)) :
    branches pick place entries
      = entries.map fun entry => (entry.1, walk pick (place ++ [entry.1]) entry.2) := by
  induction entries with
  | nil => rfl
  | cons entry rest ih => rw [branches, ih, List.map_cons]

/-- A walk through a directory has what is in the directory by name, and then the walks through its
entries by name. -/
theorem walk_directory (entries : List (String × Node)) :
    walk pick place (.directory entries)
      = ((byName entries).filter fun entry => pick entry.2.shape).map
          (fun entry => place ++ [entry.1])
        ++ (byName entries).flatMap fun entry => walk pick (place ++ [entry.1]) entry.2 := by
  rw [walk, branches_eq_map, byName_map entries fun entry => walk pick (place ++ [entry.1]) entry.2,
    List.flatMap_map]

theorem walk_file (data : FileData) : walk pick place (.file data) = [] :=
  rfl

/-- A walk goes through everything below a node. -/
theorem walk_perm (node : Node) :
    (walk pick place node).Perm
      (((node.contents place).filter fun item => pick item.2.shape).map Prod.fst) := by
  induction node using Node.induction generalizing place with
  | file data => exact List.Perm.refl _
  | directory entries ih =>
      have hentries : (byName entries).Perm entries := byName_perm entries
      have hcontents := ((Node.entryContents_perm place entries).filter
        fun item => pick item.2.shape).map Prod.fst
      rw [List.filter_append, List.map_append, List.filter_map, List.map_map,
        List.filter_flatMap, List.map_flatMap] at hcontents
      rw [walk_directory]
      refine List.Perm.trans ?_ hcontents.symm
      exact ((hentries.filter _).map _).append (hentries.flatMap fun entry hentry =>
        ih entry (hentries.mem_iff.mp hentry) (place ++ [entry.1]))

/-- A walk finds nothing but what is below the place that it begins at. -/
theorem below_of_mem_walk {pick : Shape → Bool} {place found : List String} {node : Node}
    (h : found ∈ walk pick place node) : ∃ name rest, found = place ++ name :: rest := by
  induction node using Node.induction generalizing place with
  | file data => exact absurd h List.not_mem_nil
  | directory entries ih =>
      rw [walk_directory, List.mem_append, List.mem_map, List.mem_flatMap] at h
      rcases h with ⟨entry, -, rfl⟩ | ⟨entry, hentry, hfound⟩
      · exact ⟨entry.1, [], rfl⟩
      · obtain ⟨name, rest, rfl⟩ := ih entry ((byName_perm entries).mem_iff.mp hentry) hfound
        exact ⟨entry.1, name :: rest, by simp⟩

/-! ## The order of a walk -/

/-- Whether something is listed before something else in another place. -/
def ListedBefore (p q : List String) : Prop :=
  foundBefore p q ∧ p ≠ q

theorem listedBefore_of_lt {p q : List String} (h : p.dropLast < q.dropLast) :
    ListedBefore p q := by
  refine ⟨(foundBefore_iff p q).mpr (.inl h), ?_⟩
  rintro rfl
  exact List.lt_irrefl _ h

/-- In a directory the names decide. -/
theorem listedBefore_sibling {name other : String} (h : name < other) :
    ListedBefore (place ++ [name]) (place ++ [other]) := by
  have hlt : place ++ [name] < place ++ [other] :=
    List.append_left_lt (List.cons_lt_cons_iff.mpr (.inl h))
  refine ⟨(foundBefore_iff _ _).mpr (.inr ⟨by simp, List.lt_asymm hlt⟩), ?_⟩
  intro heq
  rw [heq] at hlt
  exact List.lt_irrefl _ hlt

/-- What is in a directory is listed before what is further below. -/
theorem listedBefore_below (name other next : String) (rest : List String) :
    ListedBefore (place ++ [name]) (place ++ other :: next :: rest) := by
  apply listedBefore_of_lt
  rw [List.dropLast_concat, List.dropLast_append_of_ne_nil (List.cons_ne_nil _ _),
    List.dropLast_cons_cons]
  have hlt : place ++ [] < place ++ other :: (next :: rest).dropLast :=
    List.append_left_lt (List.nil_lt_cons _ _)
  rwa [List.append_nil] at hlt

/-- Below two entries of a directory the names of these decide. -/
theorem listedBefore_apart {name other : String} (h : name < other) (next next' : String)
    (rest rest' : List String) :
    ListedBefore (place ++ name :: next :: rest) (place ++ other :: next' :: rest') := by
  apply listedBefore_of_lt
  rw [List.dropLast_append_of_ne_nil (List.cons_ne_nil _ _),
    List.dropLast_append_of_ne_nil (List.cons_ne_nil _ _), List.dropLast_cons_cons,
    List.dropLast_cons_cons]
  exact List.append_left_lt (List.cons_lt_cons_iff.mpr (.inl h))

/-- The entries of a proper directory are in the strict order of their names. -/
theorem byName_lt {entries : List (String × Node)} (hproper : Node.areProper entries) :
    (byName entries).Pairwise fun a b => a.1 < b.1 := by
  have hdistinct : (byName entries).Pairwise fun a b => a.1 ≠ b.1 :=
    (byName_perm entries).symm.pairwise (Node.areProper_iff.mp hproper).2 fun h => h.symm
  apply (pairwise_byName entries).imp₂ _ hdistinct
  intro a b hle hne
  rw [← String.not_le]
  exact fun hge => hne (String.le_antisymm hle hge)

/-- A walk through a proper tree has the order of the listing. -/
theorem pairwise_walk (node : Node) (hproper : node.isProper) :
    (walk pick place node).Pairwise ListedBefore := by
  induction node using Node.induction generalizing place with
  | file data => exact List.Pairwise.nil
  | directory entries ih =>
      have hentries : Node.areProper entries := hproper
      have hmem : ∀ entry, entry ∈ byName entries → entry ∈ entries :=
        fun entry => (byName_perm entries).mem_iff.mp
      rw [walk_directory, List.pairwise_append]
      refine ⟨?_, ?_, ?_⟩
      · -- two entries of the directory
        rw [List.pairwise_map]
        exact ((byName_lt hentries).filter _).imp (listedBefore_sibling place)
      · -- below one entry, and below two of them
        rw [List.pairwise_flatMap]
        constructor
        · intro entry hentry
          have hentry' := (Node.areProper_iff.mp hentries).1 entry (hmem entry hentry)
          exact ih entry (hmem entry hentry) _ hentry'.2
        · apply (byName_lt hentries).imp
          intro a b hlt p hp q hq
          obtain ⟨next, rest, rfl⟩ := below_of_mem_walk hp
          obtain ⟨next', rest', rfl⟩ := below_of_mem_walk hq
          simpa using listedBefore_apart place hlt next next' rest rest'
      · -- an entry, and what is below an entry
        intro p hp q hq
        obtain ⟨entry, -, rfl⟩ := List.mem_map.mp hp
        obtain ⟨other, -, hfound⟩ := List.mem_flatMap.mp hq
        obtain ⟨next, rest, rfl⟩ := below_of_mem_walk hfound
        simpa using listedBefore_below place entry.1 other.1 next rest

end

/-! ## The listing of the sources -/

variable {pick : Shape → Bool} {node : Node}

theorem nodup_walk (hproper : node.isProper) : (walk pick [] node).Nodup :=
  (pairwise_walk pick [] node hproper).imp fun h => h.2

/-- What is listed before and after something is the same. -/
theorem eq_of_foundBefore {p q : List String} (hpq : foundBefore p q) (hqp : foundBefore q p) :
    p = q := by
  rw [foundBefore_iff] at hpq hqp
  rcases hpq with hpq | ⟨hsame, hpq⟩
  · rcases hqp with hqp | ⟨hsame, -⟩
    · exact absurd hqp (List.lt_asymm hpq)
    · rw [hsame] at hpq
      exact absurd hpq (List.lt_irrefl _)
  · rcases hqp with hqp | ⟨-, hqp⟩
    · rw [hsame] at hqp
      exact absurd hqp (List.lt_irrefl _)
    · exact List.le_antisymm (List.not_lt.mp hpq) (List.not_lt.mp hqp)

/-- The picked part of the listing of the sources is a walk. -/
theorem picked_inOrder (hproper : node.isProper) (pick : Shape → Bool) :
    ((inOrder node).filter fun item => pick item.2.shape).map Prod.fst = walk pick [] node := by
  have hlisting : (inOrder node).Perm (node.contents []) := List.mergeSort_perm _ _
  have hperm := ((hlisting.filter fun item => pick item.2.shape).map Prod.fst).trans
    (walk_perm pick [] node).symm
  have hlisted : (((inOrder node).filter fun item => pick item.2.shape).map Prod.fst).Pairwise
      fun p q => foundBefore p q := by
    rw [List.pairwise_map]
    exact (pairwise_inOrder node).filter _
  have hwalked : (walk pick [] node).Pairwise fun p q => foundBefore p q :=
    (pairwise_walk pick [] node hproper).imp fun h => h.1
  exact hperm.eq_of_pairwise (fun p q _ _ hpq hqp => eq_of_foundBefore hpq hqp) hlisted hwalked

/-- A walk finds exactly the places at which something is that is picked. -/
theorem mem_walk (hproper : node.isProper) {place : List String} :
    place ∈ walk pick [] node ↔
      place ≠ [] ∧ ∃ shape, node.shape? place = some shape ∧ pick shape := by
  rw [← picked_inOrder hproper, List.mem_map]
  constructor
  · rintro ⟨⟨other, found⟩, hmem, rfl⟩
    obtain ⟨hlisted, hpick⟩ := List.mem_filter.mp hmem
    obtain ⟨hplace, hfound⟩ := (mem_inOrder hproper).mp hlisted
    exact ⟨hplace, found.shape, by rw [Node.shape?, hfound, Option.map_some], hpick⟩
  · rintro ⟨hplace, shape, hshape, hpick⟩
    obtain ⟨found, hfound, rfl⟩ := Option.map_eq_some_iff.mp hshape
    exact ⟨(place, found),
      List.mem_filter.mpr ⟨(mem_inOrder hproper).mpr ⟨hplace, hfound⟩, hpick⟩, rfl⟩

end StaticSite.Site

namespace StaticSite.Site

open StaticSite.File

/-! ## Steps -/

/-- A search for directories and files. -/
structure Search where
  /-- The directories to look into, the next one last. -/
  pending : List (List String × Node)
  directories : List (List String)
  files : List (List String)

/-- What is in a directory, by name. -/
def entriesAt (place : List String) (node : Node) : List (List String × Node) :=
  (byName node.entries).map fun entry => (place ++ [entry.1], entry.2)

namespace Search

/-- A search that begins at the top of a tree. -/
def start (node : Node) : Search :=
  { pending := [([], node)], directories := [], files := [] }

/-- Looks into the next directory, if there is one. -/
def step (search : Search) : Search :=
  match search.pending.getLast? with
  | none => search
  | some (place, node) =>
    let entries := entriesAt place node
    let inner := entries.filter fun entry => entry.2.shape.isDirectory
    { pending := search.pending.dropLast ++ inner.reverse
      directories := search.directories ++ inner.map Prod.fst
      files := search.files ++
        (entries.filter fun entry => entry.2.shape.isFile).map Prod.fst }

/-- What the walks through the directories that are left find. -/
def remaining (pick : Shape → Bool) (search : Search) : List (List String) :=
  search.pending.reverse.flatMap fun item => walk pick item.1 item.2

end Search

/-- Files have nothing below them, so that walks through them find nothing. -/
theorem flatMap_walk_directories (pick : Shape → Bool) (items : List (List String × Node)) :
    ((items.filter fun item => item.2.shape.isDirectory).flatMap fun item =>
        walk pick item.1 item.2)
      = items.flatMap fun item => walk pick item.1 item.2 := by
  induction items with
  | nil => rfl
  | cons item rest ih =>
      obtain ⟨place, node⟩ := item
      cases node with
      | file data => rw [List.filter_cons_of_neg Bool.false_ne_true, ih, List.flatMap_cons]; rfl
      | directory entries =>
          rw [List.filter_cons_of_pos rfl, List.flatMap_cons, ih, List.flatMap_cons]

/-- A walk finds what is picked in a directory, and then walks through the directories in it. -/
theorem walk_eq_entriesAt (pick : Shape → Bool) (place : List String) (node : Node) :
    walk pick place node
      = ((entriesAt place node).filter fun entry => pick entry.2.shape).map Prod.fst ++
        ((entriesAt place node).filter fun entry => entry.2.shape.isDirectory).flatMap
          fun entry => walk pick entry.1 entry.2 := by
  rw [flatMap_walk_directories]
  cases node with
  | file data =>
      have hnone : entriesAt place (.file data) = [] := by
        rw [entriesAt, Node.entries, byName, List.mergeSort_nil, List.map_nil]
      rw [hnone, walk_file]
      rfl
  | directory entries =>
      rw [walk_directory, entriesAt, Node.entries, List.filter_map, List.map_map, List.flatMap_map]
      rfl

namespace Search

variable {search : Search} {place : List String} {node : Node} {rest : List (List String × Node)}

/-- What the next step does if there is something left. -/
theorem step_of_pending (h : search.pending = rest ++ [(place, node)]) :
    search.step =
      { pending := rest ++
          ((entriesAt place node).filter fun entry => entry.2.shape.isDirectory).reverse
        directories := search.directories ++
          ((entriesAt place node).filter fun entry => entry.2.shape.isDirectory).map Prod.fst
        files := search.files ++
          ((entriesAt place node).filter fun entry => entry.2.shape.isFile).map Prod.fst } := by
  simp only [step, h, List.getLast?_concat, List.dropLast_concat]

theorem step_of_done (h : search.pending = []) : search.step = search := by
  simp only [step, h, List.getLast?_nil]

/-- The walks that are left begin with the one through the next directory. -/
theorem remaining_of_pending (pick : Shape → Bool) (h : search.pending = rest ++ [(place, node)]) :
    search.remaining pick
      = walk pick place node ++ rest.reverse.flatMap fun item => walk pick item.1 item.2 := by
  rw [remaining, h, List.reverse_concat, List.flatMap_cons]

/-- After a step, what was picked in the next directory is left no more. -/
theorem remaining_step (pick : Shape → Bool) (h : search.pending = rest ++ [(place, node)]) :
    search.remaining pick
      = ((entriesAt place node).filter fun entry => pick entry.2.shape).map Prod.fst ++
        search.step.remaining pick := by
  rw [remaining_of_pending pick h, walk_eq_entriesAt, step_of_pending h, remaining,
    List.reverse_append, List.reverse_reverse, List.flatMap_append, List.append_assoc]

/-- A step puts off nothing that it should find: what has been found and what the walks through
what is left find are the same as before. -/
theorem found_step {pick : Shape → Bool} {found : Search → List (List String)}
    (hfound : ∀ {search : Search} {rest : List (List String × Node)} {place : List String}
      {node : Node}, search.pending = rest ++ [(place, node)] →
      found search.step = found search ++
        ((entriesAt place node).filter fun entry => pick entry.2.shape).map Prod.fst)
    (search : Search) :
    found search.step ++ search.step.remaining pick = found search ++ search.remaining pick := by
  rcases List.eq_nil_or_concat search.pending with hdone | ⟨rest, ⟨place, node⟩, hpending⟩
  · rw [step_of_done hdone]
  · rw [List.concat_eq_append] at hpending
    rw [remaining_step pick hpending, ← List.append_assoc, hfound hpending]

theorem directories_step (search : Search) :
    search.step.directories ++ search.step.remaining Shape.isDirectory
      = search.directories ++ search.remaining Shape.isDirectory :=
  found_step (fun hpending => by rw [step_of_pending hpending]) search

theorem files_step (search : Search) :
    search.step.files ++ search.step.remaining Shape.isFile
      = search.files ++ search.remaining Shape.isFile :=
  found_step (fun hpending => by rw [step_of_pending hpending]) search

/-! ## Whole searches -/

/-- How many directories a search has yet to look into. -/
def weight (search : Search) : Nat :=
  search.pending.length + (search.remaining Shape.isDirectory).length

theorem pending_of_weight (h : search.weight = 0) : search.pending = [] :=
  List.length_eq_zero_iff.mp (Nat.eq_zero_of_add_eq_zero_right h)

/-- The directories that a step puts at the end of the list were counted before. -/
theorem weight_step (h : search.pending ≠ []) : search.step.weight + 1 = search.weight := by
  rcases List.eq_nil_or_concat search.pending with hdone | ⟨rest, ⟨place, node⟩, hpending⟩
  · exact absurd hdone h
  · rw [List.concat_eq_append] at hpending
    have hremaining := congrArg List.length (remaining_step Shape.isDirectory hpending)
    rw [List.length_append, List.length_map] at hremaining
    have hlength : search.step.pending.length = rest.length +
        ((entriesAt place node).filter fun entry => entry.2.shape.isDirectory).length := by
      rw [step_of_pending hpending, List.length_append, List.length_reverse]
    rw [weight, weight, hlength, hremaining, hpending, List.length_append, List.length_singleton]
    omega

/-- A search that goes on to its end finds what the walks through what is left find. -/
theorem run_eq (search : Search) :
    step^[search.weight] search =
      { pending := []
        directories := search.directories ++ search.remaining Shape.isDirectory
        files := search.files ++ search.remaining Shape.isFile } := by
  -- by induction on the number of directories to look into
  induction hweight : search.weight generalizing search with
  | zero =>
      have hdone := pending_of_weight hweight
      obtain ⟨pending, directories, files⟩ := search
      obtain rfl : pending = [] := hdone
      simp [remaining]
  | succ count ih =>
      have hpending : search.pending ≠ [] := by
        intro hdone
        simp [weight, remaining, hdone] at hweight
      have hstep := weight_step hpending
      rw [Function.iterate_succ_apply, ih search.step (by omega), directories_step, files_step]

/-- A search from the top of a tree takes one step for the top and one for every directory below,
and then it has found what the walks through the tree find. -/
theorem run_start (node : Node) :
    step^[(walk Shape.isDirectory [] node).length + 1] (start node) =
      { pending := []
        directories := walk Shape.isDirectory [] node
        files := walk Shape.isFile [] node } := by
  have hremaining : ∀ pick, (start node).remaining pick = walk pick [] node := by
    intro pick
    rw [remaining, start, List.reverse_singleton, List.flatMap_singleton]
  have hweight : (start node).weight = (walk Shape.isDirectory [] node).length + 1 := by
    rw [weight, hremaining, start, List.length_singleton, Nat.add_comm]
  have hrun := run_eq (start node)
  rw [hweight, hremaining, hremaining] at hrun
  exact hrun

end Search

end StaticSite.Site
