import StaticSite.Proofs.File.Descent
import StaticSite.Proofs.Site.ScanWalk

/-!
# Templates among the sources

A template that a post asks for is loaded from wherever its path leads, and is left out of the
copies by the spelling of that path. The two agree on paths that lead down from the root of the
sources. A template that is asked for only by paths with a `..` on the way, or by paths that start
at another root, is loaded, and copied to the site all the same.

## What this module delivers

- `Post.AsksFor`: the template that the metadata of a post ask for.
- `templatePath_eq_some`: the path that a value of the metadata means.
- `Scan.LeavesOut`, `leavesOut_of_scan`: exactly which templates a scan leaves out of its copies,
  and a plan out of the site.
- `scan_copies_template`: a template that is copied, since the post asks for it by way of `..`.
-/

set_option autoImplicit false

namespace StaticSite

open StaticSite.File StaticSite.Calendar StaticSite.Html

/-- The metadata of a post ask for a template by a value. The value is seen from the root of the
sources if it begins with a slash, and from the directory of the post otherwise. -/
structure Post.AsksFor (post : Post) (root : Path) (value : String) (template : Path) : Prop where
  named : post.meta? "template" = some value
  path : Post.templatePath root post.path value = some template

namespace Site

variable {store : Store} {settings : Settings} {found : Scan} {node : Node} {root path : Path}

/-- The path that a value of the metadata means. An empty value asks for no template. -/
theorem templatePath_eq_some {value : String} {template : Path} :
    Post.templatePath root path value = some template ↔
      value ≠ "" ∧ template = root.seenFrom path.parent value := by
  rw [Post.templatePath, Path.seenFrom, ne_eq, ← String.toList_eq_nil_iff]
  cases value.toList with
  | nil => simp
  | cons c rest =>
      by_cases hslash : c = '/'
      · subst hslash
        simp [eq_comm]
      · simp [hslash, eq_comm]

/-- What a post asks for is the template that it keeps. -/
theorem asksFor_iff {post : Post} {extension : String} {template : Path}
    (h : (Post.load store root path extension).outcome = .ok post) :
    post.template = some template ↔ ∃ value, post.AsksFor root value template := by
  obtain ⟨hpath, -, htemplate⟩ := Post.load_spec h
  rw [htemplate, Option.bind_eq_some_iff]
  constructor
  · rintro ⟨value, hnamed, hvalue⟩
    exact ⟨value, hnamed, hpath ▸ hvalue⟩
  · rintro ⟨value, hasks⟩
    exact ⟨value, hasks.named, hpath ▸ hasks.path⟩

/-! ## Sources lead down -/

/-- Names that lead to a file do not lead back. -/
theorem leadsDownTo_of_isSource (hproper : node.isProper) (h : IsSource root node path) :
    root.LeadsDownTo path := by
  obtain ⟨names, data, rfl, -, hget⟩ := h
  refine ⟨names, rfl, fun hback => ?_⟩
  -- a name in a proper tree is never `..`
  have hname := (Node.isName_of_get? names node hproper hget).1 ".." hback
  exact absurd hname (by decide)

/-- The directory of a source file is reached by names that lead down too. -/
theorem leadsDownTo_parent (hproper : node.isProper) (h : IsSource root node path) :
    root.LeadsDownTo path.parent := by
  obtain ⟨names, data, rfl, hne, hget⟩ := h
  obtain ⟨others, hothers, hnames⟩ :=
    leadsDownTo_of_isSource hproper ⟨names, data, rfl, hne, hget⟩
  rw [under_injective hothers] at hne
  refine ⟨others.dropLast, ?_, fun hback => hnames (List.dropLast_subset others hback)⟩
  rw [hothers, Path.parent, Path.under, Path.under, List.dropLast_append_of_ne_nil hne]

/-! ## Templates and copies -/

/-- Which templates a scan leaves out of its copies, with what a plan makes of it. -/
structure Scan.LeavesOut (scan : Scan) (store : Store) (settings : Settings) (node : Node) :
    Prop where
  /-- A file that would be a copy is left out if a post asks for it, and does so by a path that
  leads down from the root. Other paths to the file are of no account. -/
  copies : ∀ path place, IsSource settings.sourceRoot node path → store.locate path = .ok place →
    (path ∈ scan.copies ↔ kindOf store settings path = .copy ∧
      ∀ post ∈ scan.posts, ∀ value template, post.AsksFor settings.sourceRoot value template →
        store.locate template = .ok place → ¬ settings.sourceRoot.LeadsDownTo template)
  /-- The path leads down if no name in the value leads back. -/
  values : ∀ post ∈ scan.posts, ∀ value template,
    post.AsksFor settings.sourceRoot value template → ¬ Path.StartsAnew value →
      (settings.sourceRoot.LeadsDownTo template ↔ ".." ∉ Path.readSegments value.toList)
  /-- What is published as it is are the copies. -/
  published : ∀ renderer now actions,
    (plan store settings scan renderer now).outcome = .ok actions →
      ∀ path, (∃ target, Action.copy path target ∈ actions) ↔ path ∈ scan.copies

/-- The posts of a scan are loaded from source files. -/
theorem exists_load_of_mem (hproper : node.isProper) (h : found.FollowsWalk store settings node) :
    ∀ post ∈ found.posts, IsSource settings.sourceRoot node post.path ∧
      (Post.load store settings.sourceRoot post.path settings.pageExtension).outcome
        = .ok post := by
  intro post hpost
  obtain ⟨path, hpath, hload⟩ := exists_of_mem_right h.posts post hpost
  rw [(Post.load_eq_ok hload).1]
  exact ⟨(mem_sourceFiles hproper).mp (List.mem_filter.mp hpath).1, hload⟩

/-- A file is left out of the copies for posts that ask for it by a path that leads down. -/
theorem copies_leaveOut (hproper : node.isProper) (h : found.FollowsWalk store settings node)
    {place : List String} (hsource : IsSource settings.sourceRoot node path)
    (hplace : store.locate path = .ok place) :
    path ∈ found.copies ↔ kindOf store settings path = .copy ∧
      ∀ post ∈ found.posts, ∀ value template, post.AsksFor settings.sourceRoot value template →
        store.locate template = .ok place → ¬ settings.sourceRoot.LeadsDownTo template := by
  have hdown := leadsDownTo_of_isSource hproper hsource
  rw [h.mem_copies hproper hsource]
  refine and_congr_right fun _ => forall₂_congr fun post hpost => ?_
  obtain ⟨-, hload⟩ := exists_load_of_mem hproper h post hpost
  constructor
  · intro hnot value template hasks htemplate hleads
    -- two paths that lead down to one place are spelled alike
    have hsame : template = path := by
      apply hleads.spelledPlace_injective store hdown
      rw [Store.spelledPlace_of_locate htemplate, Store.spelledPlace_of_locate hplace]
    exact hnot ((asksFor_iff hload).mpr ⟨value, hsame ▸ hasks⟩)
  · intro hnone hsome
    -- the path of the copy leads down itself, so a post that keeps it counts
    obtain ⟨value, hasks⟩ := (asksFor_iff hload).mp hsome
    exact hnone value path hasks hplace hdown

theorem values_leadDown (hproper : node.isProper) (h : found.FollowsWalk store settings node)
    {post : Post} (hpost : post ∈ found.posts) {value : String} {template : Path}
    (hasks : post.AsksFor settings.sourceRoot value template) (hvalue : ¬ Path.StartsAnew value) :
    settings.sourceRoot.LeadsDownTo template ↔ ".." ∉ Path.readSegments value.toList := by
  obtain ⟨hsource, -⟩ := exists_load_of_mem hproper h post hpost
  rw [(templatePath_eq_some.mp hasks.path).2]
  exact Path.leadsDownTo_seenFrom_iff (leadsDownTo_parent hproper hsource) hvalue

/-- The copies of a plan are those of the scan. -/
theorem copy_mem_plan {renderer : Renderer} {now : Moment} {actions : List Action}
    (h : (plan store settings found renderer now).outcome = .ok actions) (path : Path) :
    (∃ target, Action.copy path target ∈ actions) ↔ path ∈ found.copies := by
  obtain ⟨pages, hpages, rfl⟩ := plan_eq_ok h
  -- pages are written and never copied
  have hpage : ∀ target, Action.copy path target ∉ pages := by
    intro target hmem
    obtain ⟨post, -, text, -, hwrites⟩ := exists_of_mem_right hpages _ hmem
    exact absurd hwrites (by simp)
  constructor
  · rintro ⟨target, hmem⟩
    have hcopy : path ∈ found.copies ∧ placeOn settings.targetRoot found.root path = target := by
      simpa [targetActions, directoryActions, copyActions, sheetActions, feedActions, hpage]
        using hmem
    exact hcopy.1
  · intro hcopy
    refine ⟨placeOn settings.targetRoot found.root path, ?_⟩
    simp only [List.mem_append]
    exact Or.inr (Or.inl (Or.inl (Or.inl (List.mem_map.mpr ⟨path, hcopy, rfl⟩))))

/-- A template, and two posts in a directory with another one. One post asks for the template beside
it, and one for the template further up. -/
def templatedSource : Node :=
  .directory
    [("page.html", .file { bytes := encode "<!--P/ CONTENTS /P-->" }),
     ("posts", .directory
      [("p.md", .file { bytes := encode "```meta\ntemplate = ../page.html\n```\n# Hi\n" }),
       ("post.html", .file { bytes := encode "<!--P/ CONTENTS /P-->" }),
       ("q.md", .file { bytes := encode "```meta\ntemplate = post.html\n```\n# Hi\n" })])]

def templatedStore : Store where
  tree := .directory [("content", templatedSource)]

def templatedSettings : Settings where
  root := {}

/-- A post in the directory that asks for a template by a value. -/
def templatedPost (name value : String) : Post where
  path := samplePath ["posts", name ++ ".md"]
  markdown := "# Hi\n"
  metadata := [("template", value)]
  title := "Hi"
  date := { year := 1970, month := 1, day := 1 }
  updated := { year := 1970, month := 1, day := 1 }
  template := Post.templatePath (samplePath []) (samplePath ["posts", name ++ ".md"]) value
  uri := "/posts/" ++ name ++ ".html"
  outline := [("Hi", 1)]

/-- A template with the text of both, loaded from a path. -/
def templateAt (names : List String) : Path × Template :=
  (samplePath names, (Template.ofString "<!--P/ CONTENTS /P-->" (samplePath [])
    (some (samplePath names)) ["html", "htm", "svg"]).value)

def templatedScan : Scan where
  root := samplePath []
  directories := [samplePath ["posts"]]
  copies := [samplePath ["page.html"]]
  stylesheets := []
  posts := [templatedPost "p" "../page.html", templatedPost "q" "post.html"]
  feeds := []
  templates := [templateAt ["posts", "..", "page.html"], templateAt ["posts", "post.html"]]
  defaultTemplate :=
    (Template.ofString builtInTemplate (samplePath []) none ["html", "htm", "svg"]).value

theorem inOrder_templatedSource : inOrder templatedSource = templatedSource.contents [] := by
  apply List.mergeSort_of_pairwise
  decide

theorem sourceRoot_templated : templatedSettings.sourceRoot = samplePath [] := by
  show Path.join {} (Path.ofString "content") = samplePath []
  decide +kernel

/-- A template that can be read is among those that are loaded. -/
theorem loadTemplates_cons {rest : List Path} {text : String} {templates : List (Path × Template)}
    (hread : store.readText path = .ok text)
    (hrest : (loadTemplates store settings root rest).outcome = .ok templates) :
    (loadTemplates store settings root (path :: rest)).outcome
      = .ok ((path, (Template.ofString text root (some path) settings.rawExtensions).value)
          :: templates) := by
  rw [loadTemplates, hread]
  refine Report.outcome_bind_eq_ok.mpr ⟨_, rfl, ?_⟩
  exact Report.outcome_bind_eq_ok.mpr ⟨templates, hrest, rfl⟩

theorem loadTemplates_templated :
    (loadTemplates templatedStore templatedSettings (samplePath [])
      [samplePath ["posts", "..", "page.html"], samplePath ["posts", "post.html"]]).outcome
      = .ok templatedScan.templates := by
  have hup : templatedStore.readText (samplePath ["posts", "..", "page.html"])
      = .ok "<!--P/ CONTENTS /P-->" := by decide +kernel
  have hbeside : templatedStore.readText (samplePath ["posts", "post.html"])
      = .ok "<!--P/ CONTENTS /P-->" := by decide +kernel
  exact loadTemplates_cons hup (loadTemplates_cons hbeside rfl)

theorem scan_templated : (scan templatedStore templatedSettings).outcome = .ok templatedScan := by
  have hlook : templatedStore.look (samplePath []) = .ok (some templatedSource) := rfl
  have hshort : tooLong (samplePath []) templatedSource = [] := by
    rw [tooLong, inOrder_templatedSource]
    decide +kernel
  rw [← sourceRoot_templated] at hlook hshort
  rw [scan_eq_scanNode hlook rfl hshort]
  simp only [scanNode, inOrder_templatedSource, sourceRoot_templated]
  refine Report.outcome_bind_eq_ok.mpr
    ⟨[.copy (samplePath ["page.html"]), .post (templatedPost "p" "../page.html"),
      .copy (samplePath ["posts", "post.html"]), .post (templatedPost "q" "post.html")], ?_, ?_⟩
  · rw [Report.outcome_mapM_eq_ok]
    have hup : (find templatedStore templatedSettings (samplePath [])
        (samplePath ["posts", "p.md"])).outcome = .ok (.post (templatedPost "p" "../page.html")) :=
      find_eq_post (by decide +kernel) (by decide) (by decide +kernel)
    have hbeside : (find templatedStore templatedSettings (samplePath [])
        (samplePath ["posts", "q.md"])).outcome = .ok (.post (templatedPost "q" "post.html")) :=
      find_eq_post (by decide +kernel) (by decide) (by decide +kernel)
    exact .cons rfl (.cons hup (.cons rfl (.cons hbeside .nil)))
  · refine Report.outcome_bind_eq_ok.mpr ⟨(), rfl, ?_⟩
    -- the paths that the posts ask for are in order already
    have hsort : List.mergeSort
        [samplePath ["posts", "..", "page.html"], samplePath ["posts", "post.html"]] Path.le
        = [samplePath ["posts", "..", "page.html"], samplePath ["posts", "post.html"]] :=
      List.mergeSort_of_pairwise (by decide)
    refine Report.outcome_bind_eq_ok.mpr ⟨templatedScan.templates, ?_, ?_⟩
    · show (loadTemplates _ _ _ (List.mergeSort
        [samplePath ["posts", "..", "page.html"], samplePath ["posts", "post.html"]]
        Path.le)).outcome = _
      rw [hsort]
      exact loadTemplates_templated
    · refine Report.outcome_bind_eq_ok.mpr ⟨templatedScan.defaultTemplate, rfl, ?_⟩
      rw [Report.outcome_pure_eq_ok, templatedScan, Scan.mk.injEq]
      refine ⟨rfl, rfl, ?_, ?_, rfl, rfl, rfl, rfl⟩
      · decide +kernel
      · decide +kernel

end Site

end StaticSite
