import Mathlib.Data.List.Nodup
import StaticSite.Proofs.Site.Delivery
import StaticSite.Proofs.Site.Walk

/-!
# A scan is a walk

A scan lists the directories below the root of the sources in the order of a walk, and sorts the
files of the walk into posts, feeds and copies. Each list has its part of the walk, in the order of
the walk, and a file is in one list, unless it would be a copy and is the template of a post. In
what order the file system lists the entries of directories makes no difference to it.

## What this module delivers

- `SourceKind`, `kindOf`, `kindOf_eq_kind`: what a source file is taken for.
- `forall₂_filterMap`: what is kept of items and what is kept of their results.
- `Scan.FollowsWalk`, `followsWalk_of_scanNode`: the lists of a scan are parts of walks.
- `Scan.ListsOnce`, `FollowsWalk.listsOnce`: everything is in one list, and in it once.
- `scan_relists`: a scan of the same sources, listed in another order.
- `scan_walks`: the main statement.
-/

set_option autoImplicit false

namespace StaticSite.Site

open StaticSite.File StaticSite.File.Ground

/-! ## What files are taken for -/

/-- What a source file is taken for. -/
inductive SourceKind where
  | feed
  | post
  | copy
deriving DecidableEq, Repr

/-- What a source file is taken for. The extension of feeds counts first, which can be that of posts
or of style sheets, but what is no good as a feed is copied. -/
def kindOf (store : Store) (settings : Settings) (path : Path) : SourceKind :=
  if fileExtension path = settings.feedExtension then
    if (Feed.load store path).isOk then .feed else .copy
  else if fileExtension path = postExtension then .post
  else .copy

/-- The kind of what a file is found to be. -/
def Finding.kind : Finding → SourceKind
  | .feed _ => .feed
  | .post _ => .post
  | .copy _ => .copy

/-- What is found has the kind of the file. -/
theorem kindOf_eq_kind {store : Store} {settings : Settings} {root path : Path} {finding : Finding}
    (h : IsFound store settings root path finding) :
    kindOf store settings path = finding.kind := by
  cases h with
  | feed extension load =>
      rw [kindOf, if_pos extension, load]
      rfl
  | post other extension =>
      rw [kindOf, if_neg other, if_pos extension]
      rfl
  | copy noFeed noPost =>
      by_cases hextension : fileExtension path = settings.feedExtension
      · rw [kindOf, if_pos hextension]
        cases hload : Feed.load store path with
        | ok feed => exact absurd hload (noFeed hextension feed)
        | error error => rfl
      · rw [kindOf, if_neg hextension,
          if_neg fun hpost => hextension (hpost.trans (noPost hpost).symm)]
        rfl

theorem isSome_post? (finding : Finding) :
    finding.post?.isSome = decide (finding.kind = .post) := by
  cases finding <;> rfl

theorem isSome_feed? (finding : Finding) :
    finding.feed?.isSome = decide (finding.kind = .feed) := by
  cases finding <;> rfl

theorem isSome_copy? (finding : Finding) :
    finding.copy?.isSome = decide (finding.kind = .copy) := by
  cases finding <;> rfl

/-- What is kept of items corresponds to what is kept of their results, if it is decided alike. -/
theorem forall₂_filterMap {α β γ : Type} {R : α → β → Prop} {S : α → γ → Prop} {keep : α → Bool}
    {pick : β → Option γ} {items : List α} {results : List β} (h : List.Forall₂ R items results)
    (hkeep : ∀ item result, R item result → keep item = (pick result).isSome)
    (hpick : ∀ item result kept, R item result → pick result = some kept → S item kept) :
    List.Forall₂ S (items.filter keep) (results.filterMap pick) := by
  induction h with
  | nil => exact .nil
  | @cons item result items results hfirst _ ih =>
      have hitem := hkeep item result hfirst
      cases hresult : pick result with
      | some kept =>
          rw [hresult] at hitem
          rw [List.filter_cons_of_pos hitem, List.filterMap_cons_some hresult]
          exact .cons (hpick item result kept hfirst hresult) ih
      | none =>
          rw [hresult] at hitem
          rw [List.filter_cons_of_neg (by simp [hitem]), List.filterMap_cons_none hresult]
          exact ih

/-! ## The lists of a scan -/

/-- The source files in the order of a walk. -/
def sourceFiles (settings : Settings) (node : Node) : List Path :=
  (walk Shape.isFile [] node).map settings.sourceRoot.under

/-- The source files of a kind in the order of a walk. -/
def filesOfKind (store : Store) (settings : Settings) (node : Node) (kind : SourceKind) :
    List Path :=
  (sourceFiles settings node).filter fun path => kindOf store settings path = kind

/-- Each list of a scan is a part of a walk, in the order of the walk. -/
structure Scan.FollowsWalk (scan : Scan) (store : Store) (settings : Settings) (node : Node) :
    Prop where
  directories : scan.directories
    = (walk Shape.isDirectory [] node).map settings.sourceRoot.under
  posts : List.Forall₂
    (fun path post => (Post.load store settings.sourceRoot path settings.pageExtension).outcome
      = .ok post)
    (filesOfKind store settings node .post) scan.posts
  feeds : List.Forall₂ (fun path feed => Feed.load store path = .ok feed)
    (filesOfKind store settings node .feed) scan.feeds
  /-- The templates of posts are left out. -/
  copies : scan.copies = (filesOfKind store settings node .copy).filter fun path =>
    !(scan.posts.any fun post => post.template == some path)
  /-- The style sheets are told by their extension, whatever else they are. -/
  stylesheets : scan.stylesheets
    = ((walk Shape.isFile [] node).filter fun names =>
        fileExtension (settings.sourceRoot.under names) = stylesheetExtension).map
      fun names => "/" ++ String.intercalate "/" names

/-- The directories of the listing. -/
theorem directoryPlaces_eq_walk {node : Node} (hproper : node.isProper) :
    directoryPlaces node = walk Shape.isDirectory [] node := by
  rw [← picked_inOrder hproper, directoryPlaces]
  induction inOrder node with
  | nil => rfl
  | cons item rest ih =>
      obtain ⟨place, found⟩ := item
      cases found with
      | file data => exact ih
      | directory entries => exact congrArg (place :: ·) ih

/-- The files of the listing. -/
theorem listedFiles_eq_sourceFiles {settings : Settings} {node : Node} (hproper : node.isProper) :
    listedFiles settings.sourceRoot node = sourceFiles settings node := by
  rw [sourceFiles, ← picked_inOrder hproper, listedFiles]
  induction inOrder node with
  | nil => rfl
  | cons item rest ih =>
      obtain ⟨place, found⟩ := item
      cases found with
      | directory entries => exact ih
      | file data => exact congrArg (settings.sourceRoot.under place :: ·) ih

variable {store : Store} {settings : Settings} {node : Node} {found : Scan}

/-- The address of a file is where it is below the root of the sources. -/
theorem addresses_eq (root : Path) {places : List (List String)}
    (hplaces : ∀ names ∈ places, names ≠ []) :
    (places.map root.under).filterMap
        (fun path => (path.relativeTo? root).map fun p => "/" ++ p.text)
      = places.map fun names => "/" ++ String.intercalate "/" names := by
  rw [List.filterMap_map, ← List.filterMap_eq_map]
  apply List.filterMap_congr
  intro names hnames
  rw [Function.comp_apply, Path.relativeTo?_under, Option.map_some]
  cases names with
  | nil => exact absurd rfl (hplaces [] hnames)
  | cons name rest =>
      show some ("/" ++ ("" ++ String.intercalate "/" (name :: rest))) = _
      rw [String.empty_append]
      rfl

section

variable {findings : List Finding} (h : found.MadeOf store settings node findings)
  (hproper : node.isProper)

include h hproper

/-- What is taken out of the findings of a kind is about the files of this kind, in their order. -/
theorem forall₂_filesOfKind {γ : Type} {kind : SourceKind} {pick : Finding → Option γ}
    {S : Path → γ → Prop} (hkind : ∀ finding, (pick finding).isSome = decide (finding.kind = kind))
    (hpick : ∀ path finding kept, IsFound store settings settings.sourceRoot path finding →
      pick finding = some kept → S path kept) :
    List.Forall₂ S (filesOfKind store settings node kind) (findings.filterMap pick) := by
  have hfound := h.found
  rw [listedFiles_eq_sourceFiles hproper] at hfound
  apply forall₂_filterMap hfound
  · intro path finding hfind
    rw [hkind, kindOf_eq_kind (isFound_of_find hfind)]
  · intro path finding kept hfind
    exact hpick path finding kept (isFound_of_find hfind)

theorem posts_follow : List.Forall₂
    (fun path post => (Post.load store settings.sourceRoot path settings.pageExtension).outcome
      = .ok post)
    (filesOfKind store settings node .post) found.posts := by
  rw [h.posts]
  apply forall₂_filesOfKind h hproper isSome_post?
  intro path finding post hfound hpost
  obtain rfl := post?_eq_some.mp hpost
  cases hfound with
  | post _ _ load => exact load

theorem feeds_follow : List.Forall₂ (fun path feed => Feed.load store path = .ok feed)
    (filesOfKind store settings node .feed) found.feeds := by
  rw [h.feeds]
  apply forall₂_filesOfKind h hproper isSome_feed?
  intro path finding feed hfound hfeed
  obtain rfl := feed?_eq_some.mp hfeed
  cases hfound with
  | feed _ load => exact load

theorem copies_follow : found.copies
    = (filesOfKind store settings node .copy).filter fun path =>
      !(found.posts.any fun post => post.template == some path) := by
  have hcopies : List.Forall₂ Eq (filesOfKind store settings node .copy)
      (findings.filterMap Finding.copy?) := by
    apply forall₂_filesOfKind h hproper isSome_copy?
    intro path finding place hfound hcopy
    obtain rfl := copy?_eq_some.mp hcopy
    cases hfound with
    | copy => rfl
  rw [List.forall₂_eq_eq_eq] at hcopies
  rw [h.copies, hcopies]

theorem stylesheets_follow : found.stylesheets
    = ((walk Shape.isFile [] node).filter fun names =>
        fileExtension (settings.sourceRoot.under names) = stylesheetExtension).map
      fun names => "/" ++ String.intercalate "/" names := by
  rw [h.stylesheets, listedFiles_eq_sourceFiles hproper, sourceFiles, List.filter_map,
    Function.comp_def]
  apply addresses_eq
  intro names hnames
  exact ((mem_walk hproper).mp (List.mem_filter.mp hnames).1).1

end

theorem followsWalk_of_scanNode (hproper : node.isProper)
    (h : (scanNode store settings node).outcome = .ok found) :
    found.FollowsWalk store settings node := by
  obtain ⟨findings, hmade, -⟩ := scanNode_eq_ok_iff.mp h
  refine ⟨?_, posts_follow hmade hproper, feeds_follow hmade hproper, copies_follow hmade hproper,
    stylesheets_follow hmade hproper⟩
  rw [hmade.directories, directoryPlaces_eq_walk hproper]

/-! ## Everything once -/

/-- The paths of all files that a scan lists. -/
def Scan.listed (scan : Scan) : List Path :=
  scan.posts.map (·.path) ++ scan.feeds.map (·.path) ++ scan.copies

/-- Every directory is listed once and after the one that it is in, and every file is in one list,
and in it once, unless it is left out of the copies as the template of a post. -/
structure Scan.ListsOnce (scan : Scan) (store : Store) (settings : Settings) (node : Node) :
    Prop where
  directories : ∀ path, path ∈ scan.directories ↔ ∃ names, names ≠ [] ∧
    path = settings.sourceRoot.under names ∧ node.shape? names = some .directory
  nodup : scan.directories.Nodup
  parents : ParentsFirst [settings.sourceRoot.segments] (scan.directories.map (·.segments))
  files : ∀ path, IsSource settings.sourceRoot node path →
    scan.listed.count path
      = if kindOf store settings path = .copy ∧ ∃ post ∈ scan.posts, post.template = some path
        then 0 else 1
  only : ∀ path ∈ scan.listed, IsSource settings.sourceRoot node path

/-- Paths below a directory are listed in order if the names that lead to them are. -/
theorem parentsFirst_append (top : List String) {places : List (List String)}
    (hplaces : ∀ names ∈ places, names ≠ []) :
    ∀ {known : List (List String)}, ParentsFirst known places →
      ParentsFirst (known.map (top ++ ·)) (places.map (top ++ ·)) := by
  induction places with
  | nil => intro _ _; trivial
  | cons names rest ih =>
      intro known hfirst
      obtain ⟨hne, hrest⟩ := List.forall_mem_cons.mp hplaces
      refine ⟨?_, ih hrest hfirst.2⟩
      rw [List.dropLast_append_of_ne_nil hne]
      exact List.mem_map.mpr ⟨names.dropLast, hfirst.1, rfl⟩

theorem mem_sourceFiles (hproper : node.isProper) {path : Path} :
    path ∈ sourceFiles settings node ↔ IsSource settings.sourceRoot node path := by
  rw [← listedFiles_eq_sourceFiles hproper, mem_listedFiles hproper]

theorem nodup_sourceFiles (hproper : node.isProper) : (sourceFiles settings node).Nodup :=
  List.Nodup.map (fun _ _ => under_injective) (nodup_walk hproper)

/-- A source file is among the files of its kind, and no others. -/
theorem count_filesOfKind (hproper : node.isProper) {path : Path}
    (hpath : path ∈ sourceFiles settings node) (kind : SourceKind) :
    (filesOfKind store settings node kind).count path
      = if kindOf store settings path = kind then 1 else 0 := by
  have hnodup : (filesOfKind store settings node kind).Nodup :=
    List.Nodup.filter _ (nodup_sourceFiles hproper)
  have hmem : path ∈ filesOfKind store settings node kind ↔ kindOf store settings path = kind := by
    rw [filesOfKind, List.mem_filter, decide_eq_true_iff, and_iff_right hpath]
  rw [List.Nodup.count hnodup]
  exact if_congr hmem rfl rfl

namespace Scan.FollowsWalk

/-- A post has the path of its file. -/
theorem postPaths (h : found.FollowsWalk store settings node) :
    found.posts.map (·.path) = filesOfKind store settings node .post := by
  apply Eq.symm
  rw [← List.forall₂_eq_eq_eq, List.forall₂_map_right_iff]
  exact h.posts.imp fun path post hload => (Post.load_eq_ok hload).1.symm

/-- A feed has the path of its file. -/
theorem feedPaths (h : found.FollowsWalk store settings node) :
    found.feeds.map (·.path) = filesOfKind store settings node .feed := by
  apply Eq.symm
  rw [← List.forall₂_eq_eq_eq, List.forall₂_map_right_iff]
  exact h.feeds.imp fun path feed hload => (Feed.path_of_load hload).symm

/-- What would be a copy is one unless it is the template of a post. -/
theorem mem_copies (h : found.FollowsWalk store settings node) (hproper : node.isProper)
    {path : Path} (hsource : IsSource settings.sourceRoot node path) :
    path ∈ found.copies ↔ kindOf store settings path = .copy ∧
      ∀ post ∈ found.posts, post.template ≠ some path := by
  rw [h.copies, List.mem_filter, filesOfKind, List.mem_filter, decide_eq_true_iff,
    and_iff_right ((mem_sourceFiles hproper).mpr hsource)]
  simp

/-- A copy is listed unless it is the template of a post. -/
theorem count_copies (h : found.FollowsWalk store settings node) (hproper : node.isProper)
    {path : Path} (hpath : path ∈ sourceFiles settings node) :
    found.copies.count path
      = if kindOf store settings path = .copy ∧ ¬ ∃ post ∈ found.posts, post.template = some path
        then 1 else 0 := by
  have hnodup : found.copies.Nodup := by
    rw [h.copies]
    exact List.Nodup.filter _ (List.Nodup.filter _ (nodup_sourceFiles hproper))
  have hmem := h.mem_copies hproper ((mem_sourceFiles hproper).mp hpath)
  rw [List.Nodup.count hnodup]
  apply if_congr _ rfl rfl
  simpa using hmem

theorem mem_listed (h : found.FollowsWalk store settings node) {path : Path}
    (hpath : path ∈ found.listed) : path ∈ sourceFiles settings node := by
  rw [listed, List.mem_append, List.mem_append, h.postPaths, h.feedPaths, h.copies] at hpath
  rcases hpath with (hpost | hfeed) | hcopy
  · exact (List.mem_filter.mp hpost).1
  · exact (List.mem_filter.mp hfeed).1
  · exact (List.mem_filter.mp (List.mem_filter.mp hcopy).1).1

/-- Lists that follow a walk list everything once. -/
theorem listsOnce (h : found.FollowsWalk store settings node) (hproper : node.isProper) :
    found.ListsOnce store settings node := by
  refine ⟨fun path => ?_, ?_, ?_, fun path hsource => ?_, fun path hpath => ?_⟩
  · -- the walk finds the directories and nothing else
    rw [h.directories, List.mem_map]
    constructor
    · rintro ⟨names, hnames, rfl⟩
      obtain ⟨hne, shape, hshape, hdirectory⟩ := (mem_walk hproper).mp hnames
      cases shape with
      | file data => exact Bool.noConfusion hdirectory
      | directory => exact ⟨names, hne, rfl, hshape⟩
    · rintro ⟨names, hne, rfl, hshape⟩
      exact ⟨names, (mem_walk hproper).mpr ⟨hne, .directory, hshape, rfl⟩, rfl⟩
  · rw [h.directories]
    exact List.Nodup.map (fun _ _ => under_injective) (nodup_walk hproper)
  · -- the walk has the order of the listing, in which directories come first
    have hnames : ∀ names ∈ walk Shape.isDirectory [] node, names ≠ [] :=
      fun names hnames => ((mem_walk hproper).mp hnames).1
    have hfirst := parentsFirst_directoryPlaces hproper
    rw [directoryPlaces_eq_walk hproper] at hfirst
    have hbelow := parentsFirst_append settings.sourceRoot.segments hnames hfirst
    rw [List.map_singleton, List.append_nil] at hbelow
    rw [h.directories, List.map_map]
    exact hbelow
  · -- a file counts for the list of its kind, and for no other
    have hpath := (mem_sourceFiles hproper).mpr hsource
    rw [listed, List.count_append, List.count_append, h.postPaths, h.feedPaths,
      count_filesOfKind hproper hpath, count_filesOfKind hproper hpath,
      h.count_copies hproper hpath]
    cases kindOf store settings path with
    | feed => simp
    | post => simp
    | copy =>
        by_cases htemplate : ∃ post ∈ found.posts, post.template = some path
        · simp [htemplate]
        · simp [htemplate]
  · exact (mem_sourceFiles hproper).mp (h.mem_listed hpath)

end Scan.FollowsWalk

/-! ## The same sources in another order -/

section

variable {node' : Node}

/-- The listing with what is at each place. -/
def listedShapes (node : Node) : List (List String × Shape) :=
  (inOrder node).map fun item => (item.1, item.2.shape)

theorem mem_listedShapes (hproper : node.isProper) {place : List String} {shape : Shape} :
    (place, shape) ∈ listedShapes node ↔ place ≠ [] ∧ node.shape? place = some shape := by
  rw [listedShapes, List.mem_map]
  constructor
  · rintro ⟨⟨other, found⟩, hmem, heq⟩
    obtain ⟨rfl, rfl⟩ := Prod.mk.inj heq
    obtain ⟨hplace, hfound⟩ := (mem_inOrder hproper).mp hmem
    exact ⟨hplace, by rw [Node.shape?, hfound, Option.map_some]⟩
  · rintro ⟨hplace, hshape⟩
    obtain ⟨found, hfound, rfl⟩ := Option.map_eq_some_iff.mp hshape
    exact ⟨(place, found), (mem_inOrder hproper).mpr ⟨hplace, hfound⟩, rfl⟩

theorem nodup_listedShapes (hproper : node.isProper) : (listedShapes node).Nodup := by
  have hplaces := picked_inOrder hproper fun _ => true
  rw [List.filter_true] at hplaces
  have hnodup : ((listedShapes node).map Prod.fst).Nodup := by
    rw [listedShapes, List.map_map]
    exact hplaces ▸ nodup_walk hproper
  exact hnodup.of_map

/-- Trees with the same at every place have the same listing. -/
theorem listedShapes_congr (hproper : node.isProper) (hproper' : node'.isProper)
    (hsame : ∀ place, node'.shape? place = node.shape? place) :
    listedShapes node' = listedShapes node := by
  have hperm : (listedShapes node').Perm (listedShapes node) := by
    rw [List.perm_ext_iff_of_nodup (nodup_listedShapes hproper') (nodup_listedShapes hproper)]
    rintro ⟨place, shape⟩
    rw [mem_listedShapes hproper', mem_listedShapes hproper, hsame]
  have hsorted : ∀ node : Node,
      (listedShapes node).Pairwise fun a b => foundBefore a.1 b.1 := by
    intro node
    rw [listedShapes, List.pairwise_map]
    exact pairwise_inOrder node
  apply hperm.eq_of_pairwise _ (hsorted node') (hsorted node)
  rintro ⟨place, shape⟩ ⟨other, shape'⟩ hmem hmem' hle hge
  obtain rfl : place = other := eq_of_foundBefore hle hge
  have hshape := ((mem_listedShapes hproper').mp hmem).2
  rw [hsame, ((mem_listedShapes hproper).mp hmem').2, Option.some.injEq] at hshape
  rw [hshape]

/-- What is made of the listing is the same if it does not depend on how directories list their
entries. -/
theorem filterMap_inOrder_congr {β : Type} {f : List String × Node → Option β}
    (hproper : node.isProper) (hproper' : node'.isProper)
    (hsame : ∀ place, node'.shape? place = node.shape? place)
    (hf : ∀ place entries entries',
      f (place, .directory entries') = f (place, .directory entries)) :
    (inOrder node').filterMap f = (inOrder node).filterMap f := by
  have hshapes := listedShapes_congr hproper hproper' hsame
  rw [listedShapes, listedShapes, ← List.forall₂_eq_eq_eq, List.forall₂_map_left_iff,
    List.forall₂_map_right_iff] at hshapes
  generalize inOrder node' = items' at hshapes ⊢
  generalize inOrder node = items at hshapes ⊢
  induction hshapes with
  | nil => rfl
  | @cons item' item _ _ hitem _ ih =>
      obtain ⟨place', found'⟩ := item'
      obtain ⟨place, found⟩ := item
      obtain ⟨hplace, hshape⟩ := Prod.mk.inj hitem
      obtain rfl : place' = place := hplace
      have hfirst : f (place', found') = f (place', found) := by
        cases found with
        | file data =>
            obtain rfl : found' = .file data := Node.shape_eq_file.mp hshape
            rfl
        | directory entries =>
            obtain ⟨entries', rfl⟩ := Node.shape_eq_directory.mp hshape
            exact hf place' entries entries'
      rw [List.filterMap_cons, List.filterMap_cons, hfirst, ih]

end

section

variable {store' : Store} (h : store'.Relists store)

include h

theorem find_relists (root path : Path) :
    find store' settings root path = find store settings root path := by
  have hfeed : Feed.load store' path = Feed.load store path := by
    rw [Feed.load, Feed.load, h.read]
  have hsource : Post.readSource store' path = Post.readSource store path := by
    rw [Post.readSource, Post.readSource, h.read]
  have hpost : Post.load store' root path settings.pageExtension
      = Post.load store root path settings.pageExtension := by
    rw [Post.load, Post.load, hsource]
  rw [find, find, hfeed, hpost]

theorem loadTemplates_relists (root : Path) (paths : List Path) :
    loadTemplates store' settings root paths = loadTemplates store settings root paths := by
  induction paths with
  | nil => rfl
  | cons path rest ih => simp only [loadTemplates, ih, h.readText]

theorem loadDefaultTemplate_relists (root : Path) :
    loadDefaultTemplate store' settings root = loadDefaultTemplate store settings root := by
  have hload : ∀ path, Template.load store' root path settings.rawExtensions
      = Template.load store root path settings.rawExtensions := by
    intro path
    rw [Template.load, Template.load, h.readText]
  simp only [loadDefaultTemplate, hload]

theorem scanNode_relists {node' : Node} (hproper : node.isProper) (hproper' : node'.isProper)
    (hsame : ∀ place, node'.shape? place = node.shape? place) :
    scanNode store' settings node' = scanNode store settings node := by
  have hfind : find store' settings settings.sourceRoot
      = find store settings settings.sourceRoot :=
    funext (find_relists h settings.sourceRoot)
  simp only [scanNode, hfind, loadTemplates_relists h, loadDefaultTemplate_relists h]
  rw [filterMap_inOrder_congr hproper hproper' hsame fun _ _ _ => rfl,
    filterMap_inOrder_congr hproper hproper' hsame fun _ _ _ => rfl]

end

/-- A scan of a proper tree does not depend on the order in which directories list their entries,
in what it finds as in what it notes. -/
theorem scan_relists {store' : Store} (hproper : store.tree.isProper)
    (h : store'.Relists store) : scan store' settings = scan store settings := by
  rcases h.node settings.sourceRoot with
    ⟨fault, hnode, hnode'⟩ | ⟨node, node', hnode, hnode', hproper', hsame⟩
  · rw [scan, scan, Store.look, Store.look, hnode, hnode']
    cases fault <;> rfl
  · have hnodeProper := Store.isProper_of_node hproper hnode
    have hshape : node'.shape = node.shape := Option.some.inj (hsame [])
    have hlong : tooLong settings.sourceRoot node' = tooLong settings.sourceRoot node :=
      filterMap_inOrder_congr hnodeProper hproper' hsame fun _ _ _ => rfl
    have hbefore (place : List String) : filesBefore settings.sourceRoot node' place
        = filesBefore settings.sourceRoot node place :=
      filterMap_inOrder_congr hnodeProper hproper' hsame fun _ _ _ => rfl
    have hfind : find store' settings settings.sourceRoot
        = find store settings settings.sourceRoot :=
      funext (find_relists h settings.sourceRoot)
    rw [scan, scan, Store.look, Store.look, hnode, hnode']
    cases node with
    | file data =>
        obtain rfl : node' = .file data := Node.shape_eq_file.mp hshape
        rfl
    | directory entries =>
        obtain ⟨entries', rfl⟩ := Node.shape_eq_directory.mp hshape
        simp only [hlong, hbefore, hfind, scanNode_relists h hnodeProper hproper' hsame]

/-! ## Scans -/

/-- A scan of a proper tree that succeeds lists what walks through the sources find: every directory
below the root once and after the one that it is in, every file once in one of the lists, in the
order of the walk, but for copies that are templates of posts. A search with a list of what is left
ends and finds the same. The order in which directories list their entries has no influence on the
scan, whether it succeeds or not. -/
theorem scan_walks (hproper : store.tree.isProper) :
    (∀ found, (scan store settings).outcome = .ok found →
      ∃ node, store.look settings.sourceRoot = .ok (some node) ∧
        found.FollowsWalk store settings node ∧ found.ListsOnce store settings node ∧
        Search.step^[(walk Shape.isDirectory [] node).length + 1] (Search.start node) =
          { pending := []
            directories := walk Shape.isDirectory [] node
            files := walk Shape.isFile [] node }) ∧
    ∀ tree', store.tree.Reordered tree' →
      scan { store with tree := tree' } settings = scan store settings := by
  refine ⟨fun found hfound => ?_, fun tree' htree => ?_⟩
  · obtain ⟨node, hlook, -, -, hscan⟩ := scan_eq_ok_iff.mp hfound
    have hnode := Store.isProper_of_node hproper (Store.node_of_look hlook)
    have hwalk := followsWalk_of_scanNode hnode hscan
    exact ⟨node, hlook, hwalk, hwalk.listsOnce hnode, Search.run_start node⟩
  · exact scan_relists hproper (Store.relists_of_reordered htree hproper)

/-- The sample sources with every directory listed backwards. -/
def backwardsSource : Node :=
  .directory
    [("notes", .directory [("p.md", .file { bytes := encode "# Hi\n" })]),
     ("a.css", .file { bytes := [1, 2] })]

def backwardsTree : Node :=
  .directory
    [("page.html", .file { bytes := encode "<!--P/ CONTENTS /P-->" }),
     ("dist", .directory [("old.txt", .file { bytes := [3] })]), ("content", backwardsSource)]

theorem reordered_sample : sampleStore.tree.Reordered backwardsTree := by
  have hsource : Node.Reordered sampleSource backwardsSource :=
    .entries (List.reverse_perm sampleSource.entries).symm
  exact .trans (.inside [] "content" hsource _) (.entries (List.reverse_perm _).symm)

/-- The scan of the sample lists what walks find, also when it is listed backwards. -/
theorem scan_walks_sample :
    sampleStore.tree.isProper ∧
    (∃ node, sampleStore.look (sampleSettings "dist" "html").sourceRoot = .ok (some node) ∧
      (sampleScan "html").FollowsWalk sampleStore (sampleSettings "dist" "html") node ∧
      (sampleScan "html").ListsOnce sampleStore (sampleSettings "dist" "html") node) ∧
    sampleStore.tree.Reordered backwardsTree ∧
    (scan { sampleStore with tree := backwardsTree } (sampleSettings "dist" "html")).outcome
      = .ok (sampleScan "html") := by
  have hproper : sampleStore.tree.isProper := by decide
  have hscan : (scan sampleStore (sampleSettings "dist" "html")).outcome
      = .ok (sampleScan "html") := scan_sample isUsable_html
  obtain ⟨node, hlook, hwalk, honce, -⟩ := (scan_walks hproper).1 (sampleScan "html") hscan
  refine ⟨hproper, ⟨node, hlook, hwalk, honce⟩, reordered_sample, ?_⟩
  rw [(scan_walks hproper).2 backwardsTree reordered_sample]
  exact hscan

end StaticSite.Site
