import StaticSite.Proofs.Outcome
import StaticSite.Proofs.Site.Order

/-!
# What a scan finds

A scan lists the directories below the root of the sources, and its posts, feeds and copies are all
of files there. What a file is does not change where it is: posts and feeds keep the path of the
file that they were read from.

## What this module delivers

- `exists_of_mem_right`, `exists_between`: lists of which the items are related.
- `Post.load_spec`, `Post.load_eq_ok`, `Feed.path_of_load`: what is read from a file is about that
  file.
- `IsFound`, `isFound_of_find`, `find_eq_ok`: what a source file is found to be, and why.
- `find_eq_post`, `loadDefaultTemplate_eq_ok`: posts and the usual template are what is loaded.
- `Scan.MadeOf`, `Scan.Loads`, `scanNode_eq_ok_iff`: how a scan is made of what the source files are
  found to be, and of templates.
- `IsSource`, `Scan.Lists`: the paths that a scan lists.
- `scan_eq_scanNode`, `scan_eq_ok_iff`: a scan looks at the node that the sources are.
- `scanNode_eq_ok`, `lists_of_scan`: a scan lists what is below the root of the sources.
-/

set_option autoImplicit false

namespace StaticSite

/-! ## Items and what comes of them -/

section Related

variable {α β γ : Type} {R : α → β → Prop} {P : α → γ → Prop} {Q : β → γ → Prop}

/-- What is related to items is related to one of them each. -/
theorem exists_of_mem_right {items : List α} {results : List β}
    (h : List.Forall₂ R items results) : ∀ result ∈ results, ∃ item ∈ items, R item result := by
  induction h with
  | nil => intro result hresult; cases hresult
  | @cons item first items results hfirst _ ih =>
      intro result hresult
      rcases List.mem_cons.mp hresult with rfl | hlater
      · exact ⟨item, List.mem_cons_self, hfirst⟩
      · obtain ⟨other, hother, hrelated⟩ := ih result hlater
        exact ⟨other, List.mem_cons_of_mem item hother, hrelated⟩

/-- Between items and what comes of them there is what both have in common. -/
theorem exists_between {items : List α} {results : List β} (h : List.Forall₂ R items results)
    (step : ∀ item ∈ items, ∀ result, R item result → ∃ common, P item common ∧ Q result common) :
    ∃ commons, List.Forall₂ P items commons ∧ List.Forall₂ Q results commons := by
  induction h with
  | nil => exact ⟨[], List.Forall₂.nil, List.Forall₂.nil⟩
  | @cons item result items results hfirst _ ih =>
      obtain ⟨common, hitem, hresult⟩ := step item List.mem_cons_self result hfirst
      obtain ⟨commons, hitems, hresults⟩ :=
        ih fun other hother => step other (List.mem_cons_of_mem item hother)
      exact ⟨common :: commons, List.Forall₂.cons hitem hitems,
        List.Forall₂.cons hresult hresults⟩

end Related

open StaticSite.File

/-! ## Single files -/

/-- What a post takes over from its file: the path, the address that a page for the file has, and
the template that the metadata ask for. -/
theorem Post.load_spec {store : Store} {root path : Path} {extension : String} {post : Post}
    (h : (Post.load store root path extension).outcome = .ok post) :
    post.path = path ∧ Post.address? root path extension = some post.uri ∧
      post.template = (post.meta? "template").bind (Post.templatePath root path) := by
  rw [Post.load] at h
  obtain ⟨⟨data, text⟩, -, h⟩ := Report.outcome_bind_eq_ok.mp h
  obtain ⟨division, -, h⟩ := Report.outcome_bind_eq_ok.mp h
  cases division with
  | none => exact absurd h (by simp)
  | some division =>
      obtain ⟨metadata, markdown⟩ := division
      obtain ⟨date, -, h⟩ := Report.outcome_bind_eq_ok.mp h
      obtain ⟨updated, -, h⟩ := Report.outcome_bind_eq_ok.mp h
      cases haddress : Post.address? root path extension with
      | none =>
          rw [haddress] at h
          exact absurd h (by simp)
      | some uri =>
          rw [haddress] at h
          obtain rfl := Report.outcome_pure_eq_ok.mp h
          exact ⟨rfl, rfl, rfl⟩

/-- A post keeps the path of its file, and its address is that of a page for the file. -/
theorem Post.load_eq_ok {store : Store} {root path : Path} {extension : String} {post : Post}
    (h : (Post.load store root path extension).outcome = .ok post) :
    post.path = path ∧ Post.address? root path extension = some post.uri :=
  ⟨(Post.load_spec h).1, (Post.load_spec h).2.1⟩

/-- A feed keeps the path of its file. -/
theorem Feed.path_of_load {store : Store} {path : Path} {feed : Feed}
    (h : Feed.load store path = .ok feed) : feed.path = path := by
  rw [Feed.load] at h
  split at h
  · exact absurd h (by simp)
  · exact absurd h (by simp)
  · split at h
    · exact absurd h (by simp)
    · exact absurd h (by simp)
    · rename_i root hroot
      cases helement : Feed.ofElement path root with
      | error error =>
          rw [helement] at h
          exact absurd h (by simp [Except.mapError])
      | ok found =>
          rw [helement] at h
          obtain rfl : found = feed := Except.ok.inj h
          simp only [Feed.ofElement] at helement
          split at helement
          · exact absurd helement (by simp)
          · split at helement
            · exact absurd helement (by simp)
            · exact absurd helement (by simp)
            · rw [← Except.ok.inj helement]

namespace Site

/-- The file that a finding is about. -/
def Finding.path : Finding → Path
  | .copy place => place
  | .post loaded => loaded.path
  | .feed loaded => loaded.path

variable {store : Store} {settings : Settings} {root path : Path}

/-- What a source file is found to be, and why. The extension of feeds counts first, which can be
that of posts, but what is no good as a feed is a copy. -/
inductive IsFound (store : Store) (settings : Settings) (root path : Path) : Finding → Prop where
  | feed {feed : Feed} (extension : fileExtension path = settings.feedExtension)
      (load : Feed.load store path = .ok feed) : IsFound store settings root path (.feed feed)
  | post {post : Post} (other : fileExtension path ≠ settings.feedExtension)
      (extension : fileExtension path = postExtension)
      (load : (Post.load store root path settings.pageExtension).outcome = .ok post) :
      IsFound store settings root path (.post post)
  | copy
      (noFeed : fileExtension path = settings.feedExtension →
        ∀ feed, Feed.load store path ≠ .ok feed)
      (noPost : fileExtension path = postExtension → settings.feedExtension = postExtension) :
      IsFound store settings root path (.copy path)

theorem isFound_of_find {finding : Finding}
    (h : (find store settings root path).outcome = .ok finding) :
    IsFound store settings root path finding := by
  rw [find] at h
  split at h
  · rename_i hextension
    cases hload : Feed.load store path with
    | ok feed =>
        rw [hload] at h
        obtain rfl := Report.outcome_pure_eq_ok.mp h
        exact .feed hextension hload
    | error error =>
        rw [hload] at h
        cases error with
        -- a file that is no good as a feed is copied; other errors end the scan
        | feed error =>
            obtain ⟨-, -, h⟩ := Report.outcome_bind_eq_ok.mp h
            obtain rfl := Report.outcome_pure_eq_ok.mp h
            refine .copy (fun _ feed hfeed => ?_) fun hpost => hextension.symm.trans hpost
            rw [hload] at hfeed
            exact absurd hfeed (by simp)
        | nullCharacter => exact absurd h (by simp)
        | encoding error => exact absurd h (by simp)
  · rename_i hother
    split at h
    · rename_i hnoPost
      obtain rfl := Report.outcome_pure_eq_ok.mp h
      exact .copy (fun hextension => absurd hextension hother)
        fun hpost => absurd hpost (bne_iff_ne.mp hnoPost)
    · rename_i hpost
      obtain ⟨post, hload, h⟩ := Report.outcome_bind_eq_ok.mp h
      obtain rfl := Report.outcome_pure_eq_ok.mp h
      rw [Report.outcome_map] at hload
      cases houtcome : (Post.load store root path settings.pageExtension).outcome with
      | error error =>
          rw [houtcome] at hload
          exact absurd hload (by simp [Except.mapError])
      | ok loaded =>
          rw [houtcome] at hload
          obtain rfl : loaded = post := Except.ok.inj hload
          exact .post hother (by simpa using hpost) houtcome

theorem find_eq_ok {finding : Finding}
    (h : (find store settings root path).outcome = .ok finding) :
    finding.path = path ∧ ∀ post, finding = .post post →
      Post.address? root path settings.pageExtension = some post.uri := by
  cases isFound_of_find h with
  | feed _ load => exact ⟨Feed.path_of_load load, fun post hpost => absurd hpost (by simp)⟩
  | post _ _ load =>
      obtain ⟨hpath, huri⟩ := Post.load_eq_ok load
      refine ⟨hpath, ?_⟩
      rintro other hother
      obtain rfl := Finding.post.inj hother
      exact huri
  | copy => exact ⟨rfl, fun post hpost => absurd hpost (by simp)⟩

/-- A file with the extension of posts is found to be the post that is loaded from it. -/
theorem find_eq_post {post : Post} (hextension : fileExtension path = postExtension)
    (hfeed : postExtension ≠ settings.feedExtension)
    (hload : (Post.load store root path settings.pageExtension).outcome = .ok post) :
    (find store settings root path).outcome = .ok (.post post) := by
  simp only [find, hextension, hfeed, if_false, bne_self_eq_false, Bool.false_eq_true]
  refine Report.outcome_bind_eq_ok.mpr ⟨post, ?_, rfl⟩
  rw [Report.outcome_map, hload]
  rfl

/-! ## Whole scans -/

/-- The template of pages that ask for none is made of the text that its file holds. -/
theorem loadDefaultTemplate_eq_ok {file : Path} {text : String}
    (hfile : settings.templatePath = some file) (hread : store.readText file = .ok text) :
    (loadDefaultTemplate store settings root).outcome
      = .ok (Template.ofString text root (some file) settings.rawExtensions).value := by
  rw [loadDefaultTemplate, hfile]
  simp only [Report.outcome_map]
  rw [Template.load, hread]
  rfl

/-- The post that a file is found to be, if it is one. -/
def Finding.post? : Finding → Option Post
  | .post loaded => some loaded
  | _ => none

/-- The feed that a file is found to be, if it is one. -/
def Finding.feed? : Finding → Option Feed
  | .feed loaded => some loaded
  | _ => none

/-- The path of a file that is found to be a copy. -/
def Finding.copy? : Finding → Option Path
  | .copy place => some place
  | _ => none

section

variable {finding : Finding}

theorem post?_eq_some {post : Post} : finding.post? = some post ↔ finding = .post post := by
  cases finding <;> simp [Finding.post?]

theorem feed?_eq_some {feed : Feed} : finding.feed? = some feed ↔ finding = .feed feed := by
  cases finding <;> simp [Finding.feed?]

theorem copy?_eq_some : finding.copy? = some path ↔ finding = .copy path := by
  cases finding <;> simp [Finding.copy?]

end

/-- The files below a node, in the order of the listing. -/
def listedFiles (root : Path) (node : Node) : List Path :=
  (inOrder node).filterMap fun item =>
    match item.2 with
    | .directory _ => none
    | .file _ => some (root.under item.1)

/-- How a scan is made of what the files below a node are found to be. -/
structure Scan.MadeOf (scan : Scan) (store : Store) (settings : Settings) (node : Node)
    (findings : List Finding) : Prop where
  found : List.Forall₂
    (fun path finding => (find store settings settings.sourceRoot path).outcome = .ok finding)
    (listedFiles settings.sourceRoot node) findings
  root : scan.root = settings.sourceRoot
  directories : scan.directories = (directoryPlaces node).map settings.sourceRoot.under
  posts : scan.posts = findings.filterMap Finding.post?
  feeds : scan.feeds = findings.filterMap Finding.feed?
  /-- The templates of posts are left out. -/
  copies : scan.copies = (findings.filterMap Finding.copy?).filter fun path =>
    !(scan.posts.any fun post => post.template == some path)
  stylesheets : scan.stylesheets
    = ((listedFiles settings.sourceRoot node).filter fun path =>
        fileExtension path = stylesheetExtension).filterMap
      fun path => (path.relativeTo? settings.sourceRoot).map fun p => "/" ++ p.text

/-- A path is the template of a post if it is among the templates that are loaded. -/
theorem contains_templates (posts : List Post) (path : Path) :
    (posts.filterMap (·.template)).eraseDups.contains path
      = posts.any fun post => post.template == some path := by
  rw [Bool.eq_iff_iff, List.contains_iff_mem, List.mem_eraseDups, List.mem_filterMap,
    List.any_eq_true]
  simp only [beq_iff_eq]

/-- Templates of posts are left out of the copies. -/
theorem filterMap_copies (findings : List Finding) (posts : List Post) :
    (findings.filterMap fun
      | .copy path => if (posts.filterMap (·.template)).eraseDups.contains path then none
          else some path
      | _ => none)
      = (findings.filterMap Finding.copy?).filter fun path =>
        !(posts.any fun post => post.template == some path) := by
  rw [List.filter_filterMap]
  apply List.filterMap_congr
  intro finding _
  cases finding with
  | post loaded => rfl
  | feed loaded => rfl
  | copy path =>
      dsimp only
      rw [contains_templates, Finding.copy?, Option.filter_some]
      -- what is dropped is what is not kept
      exact (ite_not _ _ _).symm.trans (if_congr (by simp) rfl rfl)

theorem filterMap_directories (root : Path) (node : Node) :
    ((inOrder node).filterMap fun (place, node) =>
      match node with
      | .directory _ => some (below root place)
      | .file _ => none) = (directoryPlaces node).map root.under := by
  rw [directoryPlaces, List.map_filterMap]
  apply List.filterMap_congr
  rintro ⟨place, file⟩ -
  cases file with
  | file data => rfl
  | directory entries => rfl

/-- The paths of the templates that are asked for in some findings, as they are loaded. -/
def askedFor (findings : List Finding) : List Path :=
  ((findings.filterMap Finding.post?).filterMap (·.template)).eraseDups.mergeSort Path.le

theorem mem_askedFor {findings : List Finding} {template : Path} :
    template ∈ askedFor findings ↔
      ∃ post, .post post ∈ findings ∧ post.template = some template := by
  simp only [askedFor, List.mem_mergeSort, List.mem_eraseDups, List.mem_filterMap, post?_eq_some,
    exists_eq_right]

/-- The templates that are asked for are those of the posts of the scan. -/
theorem Scan.MadeOf.mem_askedFor {node : Node} {scan : Scan} {findings : List Finding}
    {template : Path} (h : scan.MadeOf store settings node findings) :
    template ∈ askedFor findings ↔ ∃ post ∈ scan.posts, post.template = some template := by
  rw [Site.mem_askedFor, h.posts]
  simp only [List.mem_filterMap, post?_eq_some, exists_eq_right]

/-- The templates of a scan are loaded once all files have been looked at. -/
structure Scan.Loads (scan : Scan) (store : Store) (settings : Settings)
    (findings : List Finding) : Prop where
  own : (loadTemplates store settings settings.sourceRoot (askedFor findings)).outcome
    = .ok scan.templates
  usual : (loadDefaultTemplate store settings settings.sourceRoot).outcome
    = .ok scan.defaultTemplate

/-- A scan of a node succeeds with what it is made of. -/
theorem scanNode_eq_ok_iff {node : Node} {scan : Scan} :
    (scanNode store settings node).outcome = .ok scan ↔
      ∃ findings, scan.MadeOf store settings node findings ∧
        scan.Loads store settings findings := by
  simp only [scanNode, Report.outcome_bind_eq_ok, Report.outcome_pure_eq_ok,
    Report.outcome_mapM_eq_ok]
  constructor
  · rintro ⟨findings, hfindings, -, -, templates, htemplates, usual, husual, rfl⟩
    refine ⟨findings, ⟨hfindings, rfl, filterMap_directories _ node, rfl, rfl, ?_, rfl⟩,
      htemplates, husual⟩
    exact filterMap_copies findings _
  · rintro ⟨findings, hmade, hloads⟩
    refine ⟨findings, hmade.found, (), rfl, scan.templates, hloads.own, scan.defaultTemplate,
      hloads.usual, ?_⟩
    obtain ⟨-, hroot, hdirectories, hposts, hfeeds, hcopies, hsheets⟩ := hmade
    cases scan
    simp only at hroot hdirectories hposts hfeeds hcopies hsheets
    -- the copies are those of these posts
    subst hposts
    rw [Scan.mk.injEq]
    refine ⟨hroot.symm, ?_, ?_, hsheets.symm, rfl, hfeeds.symm, rfl, rfl⟩
    · rw [hdirectories]
      exact filterMap_directories _ node
    · rw [hcopies]
      exact filterMap_copies findings _

/-- The path of a source file: names lead to it from the root of the sources. -/
def IsSource (root : Path) (node : Node) (path : Path) : Prop :=
  ∃ names data, path = root.under names ∧ names ≠ [] ∧ node.get? names = some (.file data)

/-- What a scan lists is below the root of the sources, where a node is. -/
structure Scan.Lists (scan : Scan) (settings : Settings) (node : Node) : Prop where
  root : scan.root = settings.sourceRoot
  directories : scan.directories = (directoryPlaces node).map settings.sourceRoot.under
  copies : ∀ path ∈ scan.copies, IsSource settings.sourceRoot node path
  feeds : ∀ feed ∈ scan.feeds, IsSource settings.sourceRoot node feed.path
  /-- The address of a post is that of the page for its file. -/
  posts : ∀ post ∈ scan.posts, IsSource settings.sourceRoot node post.path ∧
    Post.address? settings.sourceRoot post.path settings.pageExtension = some post.uri

theorem mem_listedFiles {node : Node} (hproper : node.isProper) :
    path ∈ listedFiles root node ↔ IsSource root node path := by
  rw [listedFiles, List.mem_filterMap]
  constructor
  · rintro ⟨⟨names, file⟩, hmem, hsome⟩
    obtain ⟨hne, hget⟩ := (mem_inOrder hproper).mp hmem
    cases file with
    | directory entries => exact absurd hsome (by simp)
    | file data => exact ⟨names, data, (Option.some.inj hsome).symm, hne, hget⟩
  · rintro ⟨names, data, rfl, hne, hget⟩
    exact ⟨(names, .file data), (mem_inOrder hproper).mpr ⟨hne, hget⟩, rfl⟩

/-- Every finding is about a file that a tree has below the root. -/
theorem source_of_findings {node : Node} (hproper : node.isProper) {scan : Scan}
    {findings : List Finding} (h : scan.MadeOf store settings node findings) :
    ∀ finding ∈ findings, IsSource settings.sourceRoot node finding.path ∧
      ∀ post, finding = .post post →
        Post.address? settings.sourceRoot post.path settings.pageExtension = some post.uri := by
  intro finding hfinding
  obtain ⟨path, hpath, houtcome⟩ := exists_of_mem_right h.found finding hfinding
  obtain ⟨hsame, haddress⟩ := find_eq_ok houtcome
  rw [hsame]
  refine ⟨(mem_listedFiles hproper).mp hpath, ?_⟩
  rintro post rfl
  rw [Finding.path] at hsame
  rw [hsame]
  exact haddress post rfl

/-- What a scan finds in a node is below the root. -/
theorem scanNode_eq_ok {node : Node} (hproper : node.isProper) {found : Scan}
    (h : (scanNode store settings node).outcome = .ok found) : found.Lists settings node := by
  obtain ⟨findings, hmade, -⟩ := scanNode_eq_ok_iff.mp h
  have hsources := source_of_findings hproper hmade
  refine ⟨hmade.root, hmade.directories, ?_, ?_, ?_⟩
  · intro path hpath
    rw [hmade.copies, List.mem_filter, List.mem_filterMap] at hpath
    obtain ⟨⟨finding, hfinding, hsome⟩, -⟩ := hpath
    obtain rfl := copy?_eq_some.mp hsome
    exact (hsources _ hfinding).1
  · intro feed hfeed
    rw [hmade.feeds, List.mem_filterMap] at hfeed
    obtain ⟨finding, hfinding, hsome⟩ := hfeed
    obtain rfl := feed?_eq_some.mp hsome
    exact (hsources _ hfinding).1
  · intro post hpost
    rw [hmade.posts, List.mem_filterMap] at hpost
    obtain ⟨finding, hfinding, hsome⟩ := hpost
    obtain rfl := post?_eq_some.mp hsome
    obtain ⟨hsource, haddress⟩ := hsources _ hfinding
    exact ⟨hsource, haddress post rfl⟩

/-- A scan looks at everything below the root of the sources if no path there is too long. -/
theorem scan_eq_scanNode {node : Node} (hlook : store.look settings.sourceRoot = .ok (some node))
    (hdirectory : node.shape = .directory) (hshort : tooLong settings.sourceRoot node = []) :
    scan store settings = scanNode store settings node := by
  obtain ⟨entries, rfl⟩ := Node.shape_eq_directory.mp hdirectory
  rw [scan]
  simp only [hlook, hshort]

/-- A scan that succeeds is one of a directory without paths that are too long. -/
theorem scan_eq_ok_iff {found : Scan} :
    (scan store settings).outcome = .ok found ↔
      ∃ node, store.look settings.sourceRoot = .ok (some node) ∧ node.shape = .directory ∧
        tooLong settings.sourceRoot node = [] ∧
          (scanNode store settings node).outcome = .ok found := by
  constructor
  · intro h
    rw [scan] at h
    simp only at h
    split at h
    · exact absurd h (by simp)
    · rename_i entries hlook
      split at h
      · rename_i hshort
        exact ⟨.directory entries, hlook, rfl, hshort, h⟩
      · -- a path that is too long ends the scan, whatever was found before
        obtain ⟨-, -, h⟩ := Report.outcome_bind_eq_ok.mp h
        exact absurd h (by simp)
    · exact absurd h (by simp)
  · rintro ⟨node, hlook, hdirectory, hshort, hscan⟩
    rw [scan_eq_scanNode hlook hdirectory hshort]
    exact hscan

/-- What a scan finds is below the place that the root of the sources leads to. -/
theorem lists_of_scan (hproper : store.tree.isProper) {found : Scan} {top : List String}
    (h : (scan store settings).outcome = .ok found)
    (htop : store.locate settings.sourceRoot = .ok top) :
    ∃ node, store.tree.get? top = some node ∧ node.shape = .directory ∧ node.isProper ∧
      found.Lists settings node := by
  obtain ⟨node, hlook, hshape, -, hscan⟩ := scan_eq_ok_iff.mp h
  have hnode : store.tree.get? top = some node := by
    rw [Store.look, Store.node, htop] at hlook
    cases hget : store.tree.get? top with
    | none => simp [hget] at hlook
    | some other =>
        simp only [hget, Except.ok.injEq] at hlook
        exact hlook
  obtain ⟨-, hnodeProper⟩ := Node.isName_of_get? top store.tree hproper hnode
  exact ⟨node, hnode, hshape, hnodeProper, scanNode_eq_ok hnodeProper hscan⟩

end Site

end StaticSite
