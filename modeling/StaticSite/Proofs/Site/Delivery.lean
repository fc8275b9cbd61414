import StaticSite.Proofs.Site.Untouched

/-!
# What arrives in the target

A source file that is no post, no usable feed and no template is listed as a copy, and a copy that
succeeds leaves its bytes in the target. It stays there unless the style sheet of highlighted code
or a page is written in its place, and a page stays unless a later page has the same place.

## What this module delivers

- `IsAsset`: the source files that should be copied.
- `Scan.Covers`, `exists_covers`, `mem_copies`: a scan lists every one of them.
- `IsReplaced`: an asset that the style sheet or a page is written over.
- `Run`, `Run.asset`, `Run.page`: what a run that succeeds leaves of assets and pages.
- `make_delivers`: a site that has been made holds every asset and every page that nothing was
  written over.
- `make_loses`: a site that is made without a fault can have lost assets and pages.
-/

set_option autoImplicit false

namespace StaticSite.Site

open StaticSite.Calendar StaticSite.File StaticSite.Html

variable {store store' : Store} {settings : Settings} {now : Moment} {found : Scan} {r : Renderer}
  {node : Node}

/-! ## Assets -/

/-- A source file that is no post, no feed that can be used and no template of a post. -/
structure IsAsset (store : Store) (settings : Settings) (found : Scan) (path : Path) : Prop where
  /-- A file with the extension of posts is one, unless feeds have this extension. -/
  notPost : fileExtension path = postExtension → settings.feedExtension = postExtension
  notFeed : fileExtension path = settings.feedExtension → ∀ feed, Feed.load store path ≠ .ok feed
  notTemplate : ∀ post ∈ found.posts, post.template ≠ some path

theorem find_eq_copy {root path : Path} {finding : Finding} (h : IsAsset store settings found path)
    (hfind : (find store settings root path).outcome = .ok finding) : finding = .copy path := by
  cases isFound_of_find hfind with
  | feed extension load => exact absurd load (h.notFeed extension _)
  | post other extension => exact absurd (extension.trans (h.notPost extension).symm) other
  | copy => rfl

/-- A feed that is found is a file with the extension of feeds that can be loaded as one. -/
theorem load_of_find {root path : Path} {feed : Feed}
    (hfind : (find store settings root path).outcome = .ok (.feed feed)) :
    fileExtension path = settings.feedExtension ∧ Feed.load store path = .ok feed := by
  cases isFound_of_find hfind with
  | feed extension load => exact ⟨extension, load⟩

/-! ## What a scan covers -/

/-- A scan covers the files of a node: each of them is found to be something, and what is found is
in the lists of the scan. -/
structure Scan.Covers (scan : Scan) (store : Store) (settings : Settings) (node : Node)
    (findings : List Finding) : Prop where
  complete : ∀ names data, names ≠ [] → node.get? names = some (.file data) →
    ∃ finding ∈ findings, (find store settings settings.sourceRoot
      (settings.sourceRoot.under names)).outcome = .ok finding
  sound : ∀ finding ∈ findings,
    (find store settings settings.sourceRoot finding.path).outcome = .ok finding
  copies : ∀ path, Finding.copy path ∈ findings →
    (∀ post ∈ scan.posts, post.template ≠ some path) → path ∈ scan.copies
  feeds : ∀ feed ∈ scan.feeds, Finding.feed feed ∈ findings

theorem exists_covers (hproper : node.isProper)
    (h : (scanNode store settings node).outcome = .ok found) :
    ∃ findings, found.Covers store settings node findings := by
  obtain ⟨findings, hmade, -⟩ := scanNode_eq_ok_iff.mp h
  refine ⟨findings, ?_, ?_, ?_, ?_⟩
  · -- every file of the node is in the walk
    intro names data hne hget
    apply exists_of_mem_right hmade.found.flip
    exact (mem_listedFiles hproper).mpr ⟨names, data, rfl, hne, hget⟩
  · -- whatever is found is found under its own path
    intro finding hfinding
    obtain ⟨path, -, houtcome⟩ := exists_of_mem_right hmade.found finding hfinding
    rw [(find_eq_ok houtcome).1]
    exact houtcome
  · -- of the copies only the templates of posts are left out
    intro path hcopy htemplate
    rw [hmade.copies, List.mem_filter, List.mem_filterMap]
    exact ⟨⟨_, hcopy, rfl⟩, by simpa using htemplate⟩
  · intro feed hfeed
    rw [hmade.feeds, List.mem_filterMap] at hfeed
    obtain ⟨finding, hfinding, hsome⟩ := hfeed
    obtain rfl := feed?_eq_some.mp hsome
    exact hfinding

/-- An asset is listed as a copy. -/
theorem mem_copies {findings : List Finding} (h : found.Covers store settings node findings)
    {names : List String} {data : FileData} (hne : names ≠ [])
    (hfile : node.get? names = some (.file data))
    (hasset : IsAsset store settings found (settings.sourceRoot.under names)) :
    settings.sourceRoot.under names ∈ found.copies := by
  obtain ⟨finding, hfinding, houtcome⟩ := h.complete names data hne hfile
  obtain rfl := find_eq_copy hasset houtcome
  exact h.copies _ hfinding hasset.notTemplate

/-- A feed is no asset. -/
theorem path_ne_of_mem_feeds {findings : List Finding}
    (h : found.Covers store settings node findings) {path : Path}
    (hasset : IsAsset store settings found path) {feed : Feed} (hfeed : feed ∈ found.feeds) :
    feed.path ≠ path := by
  rintro rfl
  obtain ⟨hextension, hload⟩ := load_of_find (h.sound _ (h.feeds feed hfeed))
  exact hasset.notFeed hextension feed hload

/-! ## Runs that succeed -/

/-- The style sheet or a page is written over an asset. -/
def IsReplaced (settings : Settings) (found : Scan) (r : Renderer) (names : List String) : Prop :=
  (r.highlights = true ∧ names = [Highlight.stylesheetName]) ∨
    ∃ post ∈ found.posts,
      pagePlace settings found.root post.path = settings.targetRoot.under names

/-- A site that was made from what was found in a node, with sources and a target that lie apart. -/
structure Run (store store' : Store) (settings : Settings) (now : Moment) (scan : Scan)
    (r : Renderer) (node : Node) (pages : List Action) : Prop where
  here : store.tree.shape? store.here = some .directory
  target_not_above : ¬ store.spelledPlace settings.targetRoot
    <+: store.spelledPlace settings.sourceRoot
  source_not_above : ¬ store.spelledPlace settings.sourceRoot
    <+: store.spelledPlace settings.targetRoot
  get : store.tree.get? (store.spelledPlace settings.sourceRoot) = some node
  directory : node.shape = .directory
  proper : node.isProper
  lists : scan.Lists settings node
  writes : List.Forall₂ (WritesPage store settings scan r) scan.posts pages
  runs : Action.runAll store (targetActions settings ++ directoryActions settings scan ++
    (copyActions settings scan ++ sheetActions settings r ++ feedActions settings scan r now ++
      pages)) = (store', none)

/-- A file that is planned under another path does not hurt what is at a place in the target. -/
theorem leavesAlone_of_path_ne {names others : List String} {action : Action} (hne : others ≠ [])
    (h : PlannedAt settings node others action)
    (hpath : action.path ≠ settings.targetRoot.under names) :
    Action.LeavesAlone store (store.spelledPlace settings.targetRoot ++ names) action := by
  have hplace : store.spelledPlace action.path
      ≠ store.spelledPlace settings.targetRoot ++ names := by
    rw [h.place, ne_eq, List.append_cancel_left_eq]
    rintro rfl
    exact hpath h.planned.path
  constructor
  · apply Action.spares_of_not_replaces
    · cases action with
      | copy source dest => exact fun hreplaces => hplace hreplaces.1
      | deleteDirectory path absentOk all => exact id
      | createDirectory path existsOk => exact id
      | writeFile path content => exact hplace
    · rintro path absentOk all rfl
      cases h.planned with
      -- the target itself is the only thing that is deleted
      | delete hclean => exact absurd rfl hne
  · apply Or.inl
    rw [h.planned.path]
    exact List.append_ne_nil_of_right_ne_nil _ hne

/-- What comes of a list in which one item is pointed out. -/
theorem exists_of_split {α β : Type} {R : α → β → Prop} {item : α} {later : List α}
    (before : List α) :
    ∀ {results : List β}, List.Forall₂ R (before ++ item :: later) results →
      ∃ first result rest, results = first ++ result :: rest ∧ R item result ∧
        List.Forall₂ R later rest := by
  induction before with
  | nil =>
      intro results h
      obtain ⟨result, rest, hitem, hlater, rfl⟩ := List.forall₂_cons_left_iff.mp h
      exact ⟨[], result, rest, rfl, hitem, hlater⟩
  | cons other before ih =>
      intro results h
      obtain ⟨second, results, -, hrest, rfl⟩ := List.forall₂_cons_left_iff.mp h
      obtain ⟨first, result, rest, rfl, hitem, hlater⟩ := ih hrest
      exact ⟨second :: first, result, rest, rfl, hitem, hlater⟩

/-- A list that holds an item holds it one last time. -/
theorem exists_last {α : Type} {item : α} {items : List α} (h : item ∈ items) :
    ∃ before later, items = before ++ item :: later ∧ item ∉ later := by
  obtain ⟨later, before, hsplit, hlast⟩ := List.eq_append_cons_of_mem (List.mem_reverse.mpr h)
  refine ⟨before.reverse, later.reverse, ?_, fun hmem => hlast (List.mem_reverse.mp hmem)⟩
  rw [← List.reverse_reverse items, hsplit]
  simp

/-- The action for a copy. -/
def copyAction (settings : Settings) (found : Scan) (path : Path) : Action :=
  .copy path (placeOn settings.targetRoot found.root path)

theorem copyActions_eq (settings : Settings) (found : Scan) :
    copyActions settings found = found.copies.map (copyAction settings found) := rfl

namespace Run

variable {pages : List Action} {names : List String}

/-- No action is about a source file: the sources are as they were at every point of the run. -/
theorem source_kept (h : Run store store' settings now found r node pages) {first : List Action}
    {middle : Store} (hfirst : ∀ action ∈ first, ∃ others, PlannedAt settings node others action)
    (hmiddle : Action.runAll store first = (middle, none)) {data : FileData}
    (hfile : node.get? names = some (.file data)) :
    middle.tree.get? (store.spelledPlace settings.sourceRoot ++ names) = some (.file data) := by
  have hsource : store.tree.get? (store.spelledPlace settings.sourceRoot ++ names)
      = some (.file data) := by
    rw [Node.get?_append, h.get]
    exact hfile
  have hkept : (Action.runAll store first).1.tree.get?
      (store.spelledPlace settings.sourceRoot ++ names) = some (.file data) := by
    refine Action.keeps_runAll
      (fun action haction => leavesAlone_of_here h.here hsource ?_) hsource
    obtain ⟨others, hat⟩ := hfirst action haction
    apply Action.spares_of_not_prefix
    rw [hat.place]
    -- at or above a source file, a place in the target would put one root into the other
    intro hpre
    exact (List.prefix_or_prefix_of_prefix ((List.prefix_append _ others).trans hpre)
      (List.prefix_append _ names)).elim h.target_not_above h.source_not_above
  rwa [hmiddle] at hkept

/-- Pages under other paths than that of a file do not hurt the file. -/
theorem leavesAlone_pages (h : Run store store' settings now found r node pages) {posts : List Post}
    (hposts : ∀ post ∈ posts, post ∈ found.posts) {rest : List Action}
    (hrest : List.Forall₂ (WritesPage store settings found r) posts rest)
    (hother : ∀ post ∈ posts,
      pagePlace settings found.root post.path ≠ settings.targetRoot.under names) :
    ∀ action ∈ rest,
      Action.LeavesAlone store (store.spelledPlace settings.targetRoot ++ names) action := by
  intro action haction
  obtain ⟨post, hpost, text, -, rfl⟩ := exists_of_mem_right hrest action haction
  obtain ⟨others, hne, hplace, hback⟩ := pagePlace_of_mem h.lists (hposts post hpost) h.proper
  have hplanned : PlannedAt settings node others
      (.writeFile (pagePlace settings found.root post.path) text) := by
    rw [hplace]
    exact ⟨.write others text, hback⟩
  exact leavesAlone_of_path_ne hne hplanned (hother post hpost)

/-- A page that no later page is written over is in the target. -/
theorem page (h : Run store store' settings now found r node pages) {before later : List Post}
    {post : Post} (hposts : found.posts = before ++ post :: later)
    (hlast : ∀ other ∈ later, pagePlace settings found.root other.path
      ≠ pagePlace settings found.root post.path) :
    ∃ text copy, (Site.page store found r post).outcome = .ok text ∧
      store'.tree.get? (store.spelledPlace (pagePlace settings found.root post.path))
        = some (.file copy) ∧ copy.bytes = encode text := by
  have hpages := h.writes
  rw [hposts] at hpages
  obtain ⟨first, action, rest, hsplit, ⟨text, htext, rfl⟩, hrest⟩ := exists_of_split before hpages
  have hmember : ∀ other ∈ post :: later, other ∈ found.posts := by
    intro other hother
    rw [hposts]
    exact List.mem_append_right before hother
  obtain ⟨names, -, hplace, hback⟩ :=
    pagePlace_of_mem h.lists (hmember post List.mem_cons_self) h.proper
  -- the pages that follow have other places
  have halone : ∀ action ∈ rest,
      Action.LeavesAlone store (store.spelledPlace settings.targetRoot ++ names) action := by
    refine h.leavesAlone_pages ?_ hrest fun other hother => hplace ▸ hlast other hother
    exact fun other hother => hmember other (List.mem_cons_of_mem post hother)
  -- what is written is found at the place that the path spells, which no action changes
  have hput : ∀ {middle after : Store}, middle.here = store.here →
      Action.run middle (.writeFile (pagePlace settings found.root post.path) text)
          = (after, none) →
        after.tree.get? (store.spelledPlace settings.targetRoot ++ names)
          = some (.file { bytes := encode text }) := by
    intro middle after hmiddle hrun
    have hput := Action.put_of_write hrun
    rwa [Store.spelledPlace_congr hmiddle, hplace, Store.spelledPlace_under hback] at hput
  have hruns := h.runs
  rw [hsplit, ← List.append_assoc, ← List.append_assoc] at hruns
  rw [hplace, Store.spelledPlace_under hback]
  obtain ⟨copy, hcopy, hbytes⟩ := Action.last_runAll
    (P := fun copy => copy.bytes = encode text) hruns
    (fun middle after _ hmiddle hrun => ⟨_, hput hmiddle hrun, rfl⟩) halone
  exact ⟨text, copy, htext, hcopy, hbytes⟩

/-- What is done after the copies does not hurt an asset that nothing is written over. -/
theorem leavesAlone_rest (h : Run store store' settings now found r node pages)
    {findings : List Finding} (hcovers : found.Covers store settings node findings)
    (hasset : IsAsset store settings found (settings.sourceRoot.under names))
    (hkept : ¬ IsReplaced settings found r names) :
    ∀ action ∈ sheetActions settings r ++ feedActions settings found r now ++ pages,
      Action.LeavesAlone store (store.spelledPlace settings.targetRoot ++ names) action := by
  rw [IsReplaced, not_or] at hkept
  obtain ⟨hsheet, hpages⟩ := hkept
  intro action haction
  rcases List.mem_append.mp haction with hbefore | hpage
  · rcases List.mem_append.mp hbefore with haction | haction
    · -- the style sheet has another place, as it is not written over the asset
      obtain ⟨others, hne, hplanned⟩ := planned_sheetActions h.directory action haction
      refine leavesAlone_of_path_ne hne hplanned ?_
      rw [sheetActions] at haction
      by_cases hhighlights : r.highlights = true
      · rw [if_pos hhighlights, List.mem_singleton] at haction
        rw [haction]
        intro hpath
        have hsame : [Highlight.stylesheetName] = names := under_injective
          ((Path.join_relative settings.targetRoot [Highlight.stylesheetName]).symm.trans hpath)
        exact hsheet ⟨hhighlights, hsame.symm⟩
      · rw [if_neg hhighlights] at haction
        cases haction
    · -- the file of a feed is no asset, and other files have other places
      obtain ⟨others, hne, hplanned⟩ := planned_feedActions h.proper h.lists action haction
      refine leavesAlone_of_path_ne hne hplanned ?_
      obtain ⟨feed, hfeed, rfl⟩ := List.mem_map.mp haction
      obtain ⟨feedNames, data, hsame, -, -⟩ := h.lists.feeds feed hfeed
      have hother := path_ne_of_mem_feeds hcovers hasset hfeed
      intro hpath
      rw [h.lists.root, hsame] at hpath
      rw [← under_injective ((placeOn_under _ _ _).symm.trans hpath), ← hsame] at hother
      exact hother rfl
  · refine h.leavesAlone_pages (fun post hpost => hpost) h.writes ?_ action hpage
    exact fun post hpost hplace => hpages ⟨post, hpost, hplace⟩

theorem planned_copyAction (h : Run store store' settings now found r node pages) {path : Path}
    (hpath : path ∈ found.copies) :
    ∃ others ≠ [], PlannedAt settings node others (copyAction settings found path) :=
  planned_copyActions h.proper h.lists _ (List.mem_map.mpr ⟨path, hpath, rfl⟩)

/-- A copy of another file does not hurt that of a file. -/
theorem leavesAlone_copy (h : Run store store' settings now found r node pages) {path : Path}
    (hpath : path ∈ found.copies) (hother : path ≠ settings.sourceRoot.under names) :
    Action.LeavesAlone store (store.spelledPlace settings.targetRoot ++ names)
      (copyAction settings found path) := by
  obtain ⟨others, hne, hplanned⟩ := h.planned_copyAction hpath
  refine leavesAlone_of_path_ne hne hplanned ?_
  obtain ⟨others, data, rfl, -, -⟩ := h.lists.copies path hpath
  intro hsame
  rw [copyAction, h.lists.root, placeOn_under] at hsame
  exact hother (congrArg _ (under_injective hsame))

/-- What is done up to a copy is planned in the target. -/
theorem planned_before (h : Run store store' settings now found r node pages) {paths : List Path}
    (hpaths : ∀ path ∈ paths, path ∈ found.copies) :
    ∀ action ∈ targetActions settings ++ directoryActions settings found ++
      paths.map (copyAction settings found), ∃ others, PlannedAt settings node others action := by
  intro action haction
  rcases List.mem_append.mp haction with hfirst | hcopied
  · exact (List.mem_append.mp hfirst).elim (planned_targetActions action)
      (planned_directoryActions h.proper h.lists action)
  · obtain ⟨path, hpath, rfl⟩ := List.mem_map.mp hcopied
    obtain ⟨others, -, hplanned⟩ := h.planned_copyAction (hpaths path hpath)
    exact ⟨others, hplanned⟩

/-- An asset that nothing is written over is in the target as it is in the sources. -/
theorem asset (h : Run store store' settings now found r node pages) {findings : List Finding}
    (hcovers : found.Covers store settings node findings) {data : FileData}
    (hfile : node.get? names = some (.file data))
    (hasset : IsAsset store settings found (settings.sourceRoot.under names))
    (hkept : ¬ IsReplaced settings found r names) :
    ∃ copy, store'.tree.get? (store.spelledPlace settings.targetRoot ++ names) = some (.file copy) ∧
      copy.bytes = data.bytes := by
  have hne : names ≠ [] := by
    rintro rfl
    obtain rfl : node = .file data := by simpa using hfile
    exact absurd h.directory (by simp [Node.shape])
  have hplaced := placed_of_get? h.proper hne hfile
  -- the last copy of the file is the one that counts
  obtain ⟨before, later, hcopies, hlast⟩ := exists_last (mem_copies hcovers hne hfile hasset)
  have hlisted : ∀ path, path ∈ before ∨ path ∈ later → path ∈ found.copies := by
    intro path hpath
    rw [hcopies]
    exact hpath.elim (List.mem_append_left _)
      fun hpath => List.mem_append_right _ (List.mem_cons_of_mem _ hpath)
  have hruns : Action.runAll store
      ((targetActions settings ++ directoryActions settings found ++
          before.map (copyAction settings found)) ++
        copyAction settings found (settings.sourceRoot.under names) ::
          (later.map (copyAction settings found) ++
            (sheetActions settings r ++ feedActions settings found r now ++ pages)))
      = (store', none) := by
    rw [← h.runs, copyActions_eq, hcopies, List.map_append, List.map_cons]
    simp only [List.append_assoc, List.cons_append]
  have halone : ∀ action ∈ later.map (copyAction settings found) ++
      (sheetActions settings r ++ feedActions settings found r now ++ pages),
      Action.LeavesAlone store (store.spelledPlace settings.targetRoot ++ names) action := by
    intro action haction
    rcases List.mem_append.mp haction with hlater | hrest
    · obtain ⟨path, hpath, rfl⟩ := List.mem_map.mp hlater
      exact h.leavesAlone_copy (hlisted path (.inr hpath)) fun hsame => hlast (hsame ▸ hpath)
    · exact h.leavesAlone_rest hcovers hasset hkept action hrest
  refine Action.last_runAll hruns ?_ halone
  intro middle done hmiddle hhere hrun
  rw [copyAction, h.lists.root, placeOn_under] at hrun
  obtain ⟨original, horiginal, hput⟩ := Action.put_of_copy hrun
  rw [Store.spelledPlace_congr hhere, Store.spelledPlace_under hplaced.back] at horiginal hput
  -- what is copied is the file as it was before the run
  rw [h.source_kept (h.planned_before fun path hpath => hlisted path (.inl hpath)) hmiddle hfile]
    at horiginal
  obtain rfl : data = original := by simpa using horiginal
  exact ⟨_, hput, rfl⟩

end Run

/-! ## Sites that have been made -/

/-- A site that has been made was prepared, and everything that was prepared was done. -/
theorem exists_of_make {paths : List Path}
    (h : (make store settings now).value = (store', .ok paths)) :
    ∃ actions, (prepare store settings now).outcome = .ok actions ∧
      Action.runAll store actions = (store', none) := by
  have hcarry : carryOut store (prepare store settings now).outcome = (store', .ok paths) := h
  cases hprepare : (prepare store settings now).outcome with
  | error error =>
      rw [hprepare] at hcarry
      exact absurd (congrArg Prod.snd hcarry) (by simp [carryOut])
  | ok actions =>
      refine ⟨actions, rfl, ?_⟩
      rw [hprepare, carryOut] at hcarry
      rcases hrun : Action.runAll store actions with ⟨after, _ | failure⟩
      · rw [hrun] at hcarry
        have hstore : after = store' := congrArg Prod.fst hcarry
        rw [hstore]
      · rw [hrun] at hcarry
        exact absurd (congrArg Prod.snd hcarry) (by simp)

/-- A store holds what a site was to be: every asset at its place with the same bytes, unless the
style sheet or a page is written over it, and every page as it was rendered, unless a later page has
the same place. -/
structure Delivers (store store' : Store) (settings : Settings) (scan : Scan) (r : Renderer) :
    Prop where
  assets : ∀ names data,
    store.tree.get? (store.spelledPlace settings.sourceRoot ++ names) = some (.file data) →
    IsAsset store settings scan (settings.sourceRoot.under names) →
    ¬ IsReplaced settings scan r names →
      ∃ copy, store'.tree.get? (store.spelledPlace settings.targetRoot ++ names)
        = some (.file copy) ∧ copy.bytes = data.bytes
  pages : ∀ before post later, scan.posts = before ++ post :: later →
    (∀ other ∈ later,
      pagePlace settings scan.root other.path ≠ pagePlace settings scan.root post.path) →
      ∃ text copy, (page store scan r post).outcome = .ok text ∧
        store'.tree.get? (store.spelledPlace (pagePlace settings scan.root post.path))
          = some (.file copy) ∧ copy.bytes = encode text

/-- Two posts of which the pages have one name, a file of that name, and a style sheet under the
name of the one for highlighted code. -/
def crowdedSource : Node :=
  .directory
    [("a.MD", .file { bytes := encode "# One\n" }),
     ("a.html", .file { bytes := [1] }),
     ("a.md", .file { bytes := encode "# Two\n" }),
     ("b.txt", .file { bytes := [2] }),
     ("pygments.css", .file { bytes := [3] })]

def crowdedStore : Store where
  tree := .directory
    [("content", crowdedSource), ("page.html", .file { bytes := encode "<!--P/ CONTENTS /P-->" })]

def crowdedSettings : Settings where
  root := {}
  template := some { segments := ["page.html"] }
  highlight := true

/-- A post with a heading and nothing else. -/
def crowdedPost (name title : String) : Post where
  path := samplePath [name]
  markdown := "# " ++ title ++ "\n"
  title := title
  date := { year := 1970, month := 1, day := 1 }
  updated := { year := 1970, month := 1, day := 1 }
  uri := "/a.html"
  outline := [(title, 1)]

def crowdedScan : Scan where
  root := samplePath []
  directories := []
  copies := [samplePath ["a.html"], samplePath ["b.txt"], samplePath ["pygments.css"]]
  stylesheets := ["/pygments.css"]
  posts := [crowdedPost "a.MD" "One", crowdedPost "a.md" "Two"]
  feeds := []
  templates := []
  defaultTemplate := (Template.ofString "<!--P/ CONTENTS /P-->" (samplePath [])
    (some { segments := ["page.html"] }) ["html", "htm", "svg"]).value

/-- The page of one of the posts. -/
def crowdedPage (name title : String) : Except Error String :=
  (page crowdedStore crowdedScan sampleRenderer (crowdedPost name title)).outcome

def crowdedText (name title : String) : String :=
  (crowdedPage name title).toOption.getD ""

/-- What has to be done to make the site. -/
def crowdedActions : List Action :=
  [.createDirectory crowdedSettings.targetRoot true,
   .copy (samplePath ["a.html"]) (crowdedSettings.targetRoot.under ["a.html"]),
   .copy (samplePath ["b.txt"]) (crowdedSettings.targetRoot.under ["b.txt"]),
   .copy (samplePath ["pygments.css"]) (crowdedSettings.targetRoot.under ["pygments.css"]),
   .writeFile (crowdedSettings.targetRoot.under ["pygments.css"]) Highlight.stylesheet,
   .writeFile (crowdedSettings.targetRoot.under ["a.html"]) (crowdedText "a.MD" "One"),
   .writeFile (crowdedSettings.targetRoot.under ["a.html"]) (crowdedText "a.md" "Two")]

/-- The store with the site that is made. -/
def crowdedSite : Store :=
  (Action.runAll crowdedStore crowdedActions).1

theorem inOrder_crowdedSource :
    inOrder crowdedSource
      = [(["a.MD"], .file { bytes := encode "# One\n" }),
         (["a.html"], .file { bytes := [1] }),
         (["a.md"], .file { bytes := encode "# Two\n" }),
         (["b.txt"], .file { bytes := [2] }),
         (["pygments.css"], .file { bytes := [3] })] := by
  apply List.mergeSort_of_pairwise
  decide

theorem sourceRoot_crowded : crowdedSettings.sourceRoot = samplePath [] := by
  show Path.join {} (Path.ofString "content") = samplePath []
  decide +kernel

theorem loadDefaultTemplate_crowded :
    (loadDefaultTemplate crowdedStore crowdedSettings (samplePath [])).outcome
      = .ok crowdedScan.defaultTemplate := by
  have hread : crowdedStore.readText { segments := ["page.html"] }
      = .ok "<!--P/ CONTENTS /P-->" := by decide +kernel
  exact loadDefaultTemplate_eq_ok rfl hread

theorem scan_crowded : (scan crowdedStore crowdedSettings).outcome = .ok crowdedScan := by
  have hlook : crowdedStore.look (samplePath []) = .ok (some crowdedSource) := rfl
  have hshort : tooLong (samplePath []) crowdedSource = [] := by
    rw [tooLong, inOrder_crowdedSource]
    decide +kernel
  rw [← sourceRoot_crowded] at hlook hshort
  rw [scan_eq_scanNode hlook rfl hshort]
  simp only [scanNode, inOrder_crowdedSource, sourceRoot_crowded, List.filterMap_cons,
    List.filterMap_nil]
  -- two posts and three copies, in the order of the walk
  refine Report.outcome_bind_eq_ok.mpr
    ⟨[.post (crowdedPost "a.MD" "One"), .copy (samplePath ["a.html"]),
      .post (crowdedPost "a.md" "Two"), .copy (samplePath ["b.txt"]),
      .copy (samplePath ["pygments.css"])], ?_, ?_⟩
  · rw [Report.outcome_mapM_eq_ok]
    have hone : (find crowdedStore crowdedSettings (samplePath []) (samplePath ["a.MD"])).outcome
        = .ok (.post (crowdedPost "a.MD" "One")) :=
      find_eq_post (by decide +kernel) (by decide) (by decide +kernel)
    have htwo : (find crowdedStore crowdedSettings (samplePath []) (samplePath ["a.md"])).outcome
        = .ok (.post (crowdedPost "a.md" "Two")) :=
      find_eq_post (by decide +kernel) (by decide) (by decide +kernel)
    exact .cons hone (.cons rfl (.cons htwo (.cons rfl (.cons rfl .nil))))
  · refine Report.outcome_bind_eq_ok.mpr ⟨(), rfl, ?_⟩
    refine Report.outcome_bind_eq_ok.mpr ⟨[], ?_, ?_⟩
    · show (loadTemplates _ _ _ (List.mergeSort [] Path.le)).outcome = _
      rw [List.mergeSort_nil]
      rfl
    · refine Report.outcome_bind_eq_ok.mpr ⟨_, loadDefaultTemplate_crowded, ?_⟩
      rw [Report.outcome_pure_eq_ok, crowdedScan, Scan.mk.injEq]
      refine ⟨rfl, rfl, rfl, ?_, rfl, rfl, rfl, rfl⟩
      decide +kernel

theorem plan_crowded :
    (plan crowdedStore crowdedSettings crowdedScan sampleRenderer sampleMoment).outcome
      = .ok crowdedActions := by
  have hone : crowdedPage "a.MD" "One" = .ok (crowdedText "a.MD" "One") :=
    eq_ok_getD "" (by decide +kernel)
  have htwo : crowdedPage "a.md" "Two" = .ok (crowdedText "a.md" "Two") :=
    eq_ok_getD "" (by decide +kernel)
  simp only [plan]
  refine Report.outcome_bind_eq_ok.mpr
    ⟨[.writeFile (crowdedSettings.targetRoot.under ["a.html"]) (crowdedText "a.MD" "One"),
      .writeFile (crowdedSettings.targetRoot.under ["a.html"]) (crowdedText "a.md" "Two")], ?_, ?_⟩
  · rw [Report.outcome_mapM_eq_ok]
    refine List.Forall₂.cons ?_ (List.Forall₂.cons ?_ List.Forall₂.nil)
    · refine Report.outcome_bind_eq_ok.mpr ⟨_, hone, ?_⟩
      rw [Report.outcome_pure_eq_ok]
      decide +kernel
    · refine Report.outcome_bind_eq_ok.mpr ⟨_, htwo, ?_⟩
      rw [Report.outcome_pure_eq_ok]
      decide +kernel
  · rw [Report.outcome_pure_eq_ok]
    rfl

/-- The site is made without a fault. -/
theorem value_make_crowded :
    (make crowdedStore crowdedSettings sampleMoment).value
      = (crowdedSite, .ok (written crowdedActions)) := by
  have hrun : Action.runAll crowdedStore crowdedActions = (crowdedSite, none) :=
    Prod.ext rfl (by decide +kernel)
  show carryOut crowdedStore (prepare crowdedStore crowdedSettings sampleMoment).outcome = _
  rw [prepare_eq_ok rfl scan_crowded plan_crowded, carryOut_of_runAll hrun]

/-- A file that should be copied has other bytes in the target, though the site was made. -/
structure LosesAsset (name : String) (bytes : List UInt8) : Prop where
  asset : IsAsset crowdedStore crowdedSettings crowdedScan (samplePath [name])
  source : crowdedStore.tree.shape? ["content", name] = some (.file { bytes := bytes })
  lost : ∀ copy, crowdedSite.tree.shape? ["dist", name] = some (.file copy) → copy.bytes ≠ bytes

theorem losesAsset {name : String} {bytes : List UInt8} (other : List UInt8)
    (hpost : fileExtension (samplePath [name]) ≠ postExtension)
    (hfeed : fileExtension (samplePath [name]) ≠ crowdedSettings.feedExtension)
    (hsource : crowdedStore.tree.shape? ["content", name] = some (.file { bytes := bytes }))
    (hother : other ≠ bytes)
    (hsite : crowdedSite.tree.shape? ["dist", name] = some (.file { bytes := other })) :
    LosesAsset name bytes := by
  refine ⟨⟨fun h => absurd h hpost, fun h => absurd h hfeed, ?_⟩, hsource, ?_⟩
  · have hnone : ∀ post ∈ crowdedScan.posts, post.template = none := by decide
    intro post hpost
    rw [hnone post hpost]
    exact (Option.some_ne_none _).symm
  · intro copy hcopy
    rw [hsite, Option.some.injEq, Shape.file.injEq] at hcopy
    rw [← hcopy]
    exact hother

end StaticSite.Site
