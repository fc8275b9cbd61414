import StaticSite.Proofs.Site.LoadFailure
import StaticSite.Proofs.Site.ScanWalk

/-!
# How a scan ends

A scan gives a result or an error. Some errors are those that a scan is said to end with: there are
no sources, a post cannot be loaded, or the template of pages that ask for none cannot be read.
Other errors come from below and are nowhere turned into one of these.

## What this module delivers

- `Foreseen`, `Unforeseen`: what a scan is said to fail for, and what it fails for besides.
- `cause_of_scan`: a scan that fails does so for one of these causes.
- `Scan.Handles`, `handles_of_scanNode`: what becomes of feeds and templates that are no good.
- `not_cause_of_scan`: where there is a cause, no scan succeeds.
- `scan_ends`: the main statement.
- `scan_ends_undecodable`: a template that is no text ends a scan for an unforeseen cause.
-/

set_option autoImplicit false

namespace StaticSite.Site

open StaticSite.File StaticSite.Calendar

variable {store : Store} {settings : Settings} {root path : Path} {node : Node} {found : Scan}
  {error : Error}

/-! ## Causes -/

/-- The path of a source file: names lead to the file from what the path of the sources shows. -/
def IsSourceFile (store : Store) (settings : Settings) (path : Path) : Prop :=
  ∃ node, store.look settings.sourceRoot = .ok (some node) ∧
    IsSource settings.sourceRoot node path

/-- What a scan is said to fail for. -/
inductive Foreseen (store : Store) (settings : Settings) : Error → Prop where
  /-- The sources are no directory. -/
  | noSource {found : Option Node} (look : store.look settings.sourceRoot = .ok found)
      (directory : ∀ entries, found ≠ some (.directory entries)) :
      Foreseen store settings (.noSource settings.sourceRoot)
  /-- A post cannot be read, or its block of metadata does not end. -/
  | post {path : Path} {reason : PostError} (source : IsSourceFile store settings path)
      (other : fileExtension path ≠ settings.feedExtension)
      (extension : fileExtension path = postExtension)
      (load : (Post.load store settings.sourceRoot path settings.pageExtension).outcome
        = .error (.post reason)) :
      Foreseen store settings (.post (.post reason))
  /-- The file system does not give the template of pages that ask for none. -/
  | template {file : Path} {fault : Fault} (setting : settings.templatePath = some file)
      (read : store.read file = .error fault) (other : fault ≠ .nullCharacter) :
      Foreseen store settings (.settings (.noTemplate file (fault.message file)))

/-- What a scan fails for besides. -/
inductive Unforeseen (store : Store) (settings : Settings) : Error → Prop where
  /-- The path of the sources is too long. -/
  | longRoot (look : store.look settings.sourceRoot = .error .nameTooLong) :
      Unforeseen store settings (.source .nameTooLong)
  /-- Something below the sources has a path that is too long. -/
  | longPath {node : Node} {names : List String}
      (look : store.look settings.sourceRoot = .ok (some node))
      (long : names ∈ tooLong settings.sourceRoot node) :
      Unforeseen store settings (.source .nameTooLong)
  /-- A file with the extension of feeds declares an encoding that cannot be read. -/
  | encoding {path : Path} {data : FileData} {reason : Xml.ReadError}
      (source : IsSourceFile store settings path)
      (extension : fileExtension path = settings.feedExtension)
      (read : store.read path = .ok data) (document : Xml.read data.bytes = .error reason)
      (declared : reason ≠ .malformed) :
      Unforeseen store settings (.feed (.encoding reason))
  /-- A time of the file of a post has no date. -/
  | noDate {path : Path} {data : FileData} {fault : TimeFault}
      (source : IsSourceFile store settings path)
      (other : fileExtension path ≠ settings.feedExtension)
      (extension : fileExtension path = postExtension) (read : store.read path = .ok data)
      (time : Date.ofSeconds data.created = .error fault ∨
        Date.ofSeconds data.modified = .error fault)
      (load : (Post.load store settings.sourceRoot path settings.pageExtension).outcome
        = .error (.noDate fault)) :
      Unforeseen store settings (.post (.noDate fault))
  /-- A post asks for a template whose path holds a null character. -/
  | ownTemplate {path template : Path} {post : Post} (source : IsSourceFile store settings path)
      (other : fileExtension path ≠ settings.feedExtension)
      (extension : fileExtension path = postExtension)
      (load : (Post.load store settings.sourceRoot path settings.pageExtension).outcome = .ok post)
      (asked : post.template = some template) (null : template.hasNull = true) :
      Unforeseen store settings (.template (.fault .nullCharacter template))
  /-- The path of the template of pages that ask for none holds a null character. -/
  | nullTemplate {file : Path} (setting : settings.templatePath = some file)
      (null : file.hasNull = true) :
      Unforeseen store settings (.template (.fault .nullCharacter file))
  /-- The template of pages that ask for none is no text. -/
  | undecodable {file : Path} {reason : EncodingError}
      (setting : settings.templatePath = some file)
      (read : store.readText file = .error (.encoding reason)) :
      Unforeseen store settings (.template (.encoding reason))

/-- A cause for which a scan ends with an error. -/
def Cause (store : Store) (settings : Settings) (error : Error) : Prop :=
  Foreseen store settings error ∨ Unforeseen store settings error

/-- Something is found only where there is no null character on the way. -/
theorem hasNull_of_look {found : Node} (h : store.look path = .ok (some found)) :
    path.hasNull = false := by
  obtain ⟨place, hplace⟩ : ∃ place, store.locate path = .ok place := by
    rw [Store.look, Store.node] at h
    cases hlocate : store.locate path with
    | ok place => exact ⟨place, rfl⟩
    | error fault =>
        rw [hlocate] at h
        cases fault with
        | _ => simp at h
  exact Ground.hasNull_of_pathFault? (Store.locate_eq_ok.mp hplace).1

/-- The path of a source file holds no null character. -/
theorem hasNull_of_isSourceFile (hproper : store.tree.isProper)
    (h : IsSourceFile store settings path) : path.hasNull = false := by
  obtain ⟨node, hlook, names, data, rfl, -, hget⟩ := h
  have hnode := Store.isProper_of_node hproper (Store.node_of_look hlook)
  rw [Bool.eq_false_iff, ne_eq, Path.hasNull_iff]
  rintro ⟨name, hname, hnull⟩
  rcases List.mem_append.mp hname with hroot | hbelow
  · have hfree := hasNull_of_look hlook
    rw [Path.hasNull_iff.mpr ⟨name, hroot, hnull⟩] at hfree
    cases hfree
  · have hproperName := (Node.isName_of_get? names node hnode hget).1 name hbelow
    exact (isName_iff.mp hproperName).2.1.2 hnull

/-- The page for a source file has an address. -/
theorem address?_of_isSourceFile (h : IsSourceFile store settings path)
    (hpage : settings.pageExtension ≠ "" ∧ '/' ∉ settings.pageExtension.toList) :
    Post.address? settings.sourceRoot path settings.pageExtension ≠ none := by
  obtain ⟨node, -, names, data, rfl, hne, -⟩ := h
  have hplace : Path.withExtension? { segments := names } settings.pageExtension = some _ :=
    Path.withExtension?_eq_some.mpr ⟨⟨hne, hpage⟩, rfl⟩
  rw [Post.address?, Path.relativeTo?_under, Option.bind_some, hplace]
  simp

/-- A source file that ends a scan does so for a cause. -/
theorem cause_of_find (hproper : store.tree.isProper)
    (hpage : settings.pageExtension ≠ "" ∧ '/' ∉ settings.pageExtension.toList)
    (hsource : IsSourceFile store settings path)
    (h : (find store settings settings.sourceRoot path).outcome = .error error) :
    Cause store settings error := by
  have hnull := hasNull_of_isSourceFile hproper hsource
  by_cases hfeed : fileExtension path = settings.feedExtension
  · obtain ⟨reason, rfl, hload, hother⟩ := (find_feed_eq_error hfeed).mp h
    cases Feed.load_eq_error hload with
    | feed other => exact absurd rfl (hother other)
    | nullCharacter null =>
        rw [hnull] at null
        cases null
    | encoding read document declared =>
        exact Or.inr (.encoding hsource hfeed read document declared)
  · by_cases hpost : fileExtension path = postExtension
    · obtain ⟨reason, rfl, hload⟩ := (find_post_eq_error hfeed hpost).mp h
      cases Post.load_eq_error hload with
      | post reason => exact Or.inl (.post hsource hfeed hpost hload)
      | nullCharacter null =>
          rw [hnull] at null
          cases null
      | noAddress address => exact absurd address (address?_of_isSourceFile hsource hpage)
      | noDate read time => exact Or.inr (.noDate hsource hfeed hpost read time hload)
    · exact absurd h (find_ne_error hfeed hpost)

/-! ## Scans that fail -/

/-- What is listed below the path of the sources are source files. -/
theorem isSourceFile_of_mem (hproper : store.tree.isProper)
    (hlook : store.look settings.sourceRoot = .ok (some node))
    (h : path ∈ listedFiles settings.sourceRoot node) : IsSourceFile store settings path :=
  ⟨node, hlook,
    (mem_listedFiles (Store.isProper_of_node hproper (Store.node_of_look hlook))).mp h⟩

theorem mem_listedFiles_of_filesBefore {place : List String}
    (h : path ∈ filesBefore root node place) : path ∈ listedFiles root node := by
  rw [filesBefore, List.mem_filterMap] at h
  obtain ⟨⟨other, found⟩, hmem, hsome⟩ := h
  rw [listedFiles, List.mem_filterMap]
  refine ⟨(other, found), hmem, ?_⟩
  cases found with
  | directory entries => exact absurd hsome (by simp)
  | file data =>
      simp only [Option.ite_none_right_eq_some] at hsome
      exact hsome.2

/-- A template that is asked for in findings is the template of a post among the sources. -/
theorem exists_of_mem_askedFor {findings : List Finding}
    (hfindings : List.Forall₂
      (fun path finding => (find store settings settings.sourceRoot path).outcome = .ok finding)
      (listedFiles settings.sourceRoot node) findings)
    {template : Path} (h : template ∈ askedFor findings) :
    ∃ path ∈ listedFiles settings.sourceRoot node, ∃ post,
      IsFound store settings settings.sourceRoot path (.post post) ∧
        post.template = some template := by
  obtain ⟨post, hpost, htemplate⟩ := mem_askedFor.mp h
  obtain ⟨path, hpath, hfind⟩ := exists_of_mem_right hfindings _ hpost
  exact ⟨path, hpath, post, isFound_of_find hfind, htemplate⟩

/-- The template of pages that ask for none ends a scan for a cause. -/
theorem cause_of_defaultTemplate
    (h : (loadDefaultTemplate store settings root).outcome = .error error) :
    Cause store settings error := by
  obtain ⟨file, reason, hsetting, hread, rfl⟩ := loadDefaultTemplate_eq_error.mp h
  cases reason with
  | encoding reason => exact Or.inr (.undecodable hsetting hread)
  | fault fault path =>
      obtain ⟨hfault, rfl⟩ := Store.readText_eq_fault_iff.mp hread
      by_cases hnull : fault = .nullCharacter
      · subst hnull
        exact Or.inr (.nullTemplate hsetting (Store.read_eq_nullCharacter_iff.mp hfault))
      · have herror : defaultTemplateError (.fault fault path)
            = .settings (.noTemplate path (fault.message path)) := by
          cases fault with
          | nullCharacter => exact absurd rfl hnull
          | _ => rfl
        rw [herror]
        exact Or.inl (.template hsetting hfault hnull)

section

variable (hproper : store.tree.isProper)
  (hpage : settings.pageExtension ≠ "" ∧ '/' ∉ settings.pageExtension.toList)

include hproper hpage

theorem cause_of_scanNode (hlook : store.look settings.sourceRoot = .ok (some node))
    (h : (scanNode store settings node).outcome = .error error) : Cause store settings error := by
  simp only [scanNode] at h
  -- files are looked at first, then the templates of posts are loaded, and the usual one is last
  rcases Report.outcome_bind_eq_error.mp h with hfindings | ⟨findings, hfindings, h⟩
  · obtain ⟨path, hpath, hfind⟩ := Report.outcome_mapM_eq_error hfindings
    exact cause_of_find hproper hpage (isSourceFile_of_mem hproper hlook hpath) hfind
  have hfound := Report.outcome_mapM_eq_ok.mp hfindings
  -- the note about what was found cannot fail
  obtain ⟨-, -, h⟩ := (Report.outcome_bind_eq_error.mp h).resolve_left (by simp)
  rcases Report.outcome_bind_eq_error.mp h with htemplates | ⟨templates, -, h⟩
  · obtain ⟨template, hmem, hnull, rfl⟩ := loadTemplates_eq_error htemplates
    obtain ⟨path, hpath, post, hpost, hasked⟩ := exists_of_mem_askedFor hfound hmem
    cases hpost with
    | post other extension load =>
        exact Or.inr (.ownTemplate (isSourceFile_of_mem hproper hlook hpath) other extension load
          hasked hnull)
  rcases Report.outcome_bind_eq_error.mp h with hdefault | ⟨defaultTemplate, -, hpure⟩
  · exact cause_of_defaultTemplate hdefault
  · exact absurd hpure (by simp)

/-- A scan that fails does so for a cause. -/
theorem cause_of_scan (h : (scan store settings).outcome = .error error) :
    Cause store settings error := by
  rw [scan] at h
  simp only at h
  split at h
  · rename_i fault hlook
    cases h
    -- other faults show no node at all, and a scan says that there are no sources
    obtain rfl : fault = .nameTooLong := by
      rw [Store.look] at hlook
      split at hlook
      · cases hlook
      · cases hlook
        rfl
      · cases hlook
    exact Or.inr (.longRoot hlook)
  · rename_i entries hlook
    split at h
    · exact cause_of_scanNode hproper hpage hlook h
    · rename_i place rest hlong
      -- the files before may fail first
      rcases Report.outcome_bind_eq_error.mp h with hfind | ⟨-, -, hthrow⟩
      · obtain ⟨path, hpath, hfails⟩ := Report.outcome_mapM_eq_error hfind
        have hlisted := mem_listedFiles_of_filesBefore hpath
        exact cause_of_find hproper hpage (isSourceFile_of_mem hproper hlook hlisted) hfails
      · cases hthrow
        exact Or.inr (.longPath hlook (hlong ▸ List.mem_cons_self))
  · rename_i found hdirectory hlook
    cases h
    exact Or.inl (.noSource hlook fun entries hfound => hdirectory entries hfound)

end

/-! ## Scans that succeed -/

/-- What a scan makes of feeds and templates that are no good. -/
structure Scan.Handles (scan : Scan) (store : Store) (settings : Settings) (node : Node) :
    Prop where
  /-- A file with the extension of feeds that is none is a copy, if it is not the template of a
  post. -/
  feeds : ∀ path, IsSource settings.sourceRoot node path →
    fileExtension path = settings.feedExtension → (∀ feed, Feed.load store path ≠ .ok feed) →
      (∀ post ∈ scan.posts, post.template ≠ some path) → path ∈ scan.copies
  /-- A post has the template that it asks for if this can be read, and else the usual one. -/
  templates : ∀ post ∈ scan.posts, ∀ path, post.template = some path → scan.templateFor post
    = match store.readText path with
      | .ok text => (Template.ofString text settings.sourceRoot (some path)
          settings.rawExtensions).value
      | .error _ => scan.defaultTemplate
  /-- The usual template is the one that the settings name. -/
  usual : (loadDefaultTemplate store settings settings.sourceRoot).outcome
    = .ok scan.defaultTemplate

theorem handles_of_scanNode (hproper : node.isProper)
    (h : (scanNode store settings node).outcome = .ok found) :
    found.Handles store settings node := by
  have hwalk := followsWalk_of_scanNode hproper h
  obtain ⟨findings, hmade, hloads⟩ := scanNode_eq_ok_iff.mp h
  refine ⟨?_, ?_, hloads.usual⟩
  · intro path hsource hextension hfeed hpost
    refine (hwalk.mem_copies hproper hsource).mpr ⟨?_, hpost⟩
    rw [kindOf, if_pos hextension]
    cases hload : Feed.load store path with
    | ok feed => exact absurd hload (hfeed feed)
    | error reason => rfl
  · intro post hpost path htemplate
    have hlookup := lookup_loadTemplates path hloads.own
    rw [if_pos (hmade.mem_askedFor.mpr ⟨post, hpost, htemplate⟩)] at hlookup
    rw [Scan.templateFor, Scan.ownTemplate?, htemplate, Option.bind_some, hlookup]
    cases store.readText path with
    | ok text => rfl
    | error reason => rfl

/-- In a scan that succeeds, every source file is found to be something, and the posts among them
are the posts of the scan. -/
theorem exists_find_of_scanNode (hproper : store.tree.isProper)
    (hlook : store.look settings.sourceRoot = .ok (some node))
    (h : (scanNode store settings node).outcome = .ok found)
    (hsource : IsSourceFile store settings path) :
    ∃ finding, (find store settings settings.sourceRoot path).outcome = .ok finding ∧
      ∀ post, finding = .post post → post ∈ found.posts := by
  have hnode := Store.isProper_of_node hproper (Store.node_of_look hlook)
  obtain ⟨findings, hmade, -⟩ := scanNode_eq_ok_iff.mp h
  obtain ⟨other, hother, hbelow⟩ := hsource
  obtain rfl : other = node := by
    rw [hlook] at hother
    exact (Option.some.inj (Except.ok.inj hother)).symm
  have hmem := (mem_listedFiles hnode).mpr hbelow
  obtain ⟨finding, hfinding, hfind⟩ := exists_of_mem_right hmade.found.flip path hmem
  refine ⟨finding, hfind, ?_⟩
  rintro post rfl
  rw [hmade.posts, List.mem_filterMap]
  exact ⟨_, hfinding, rfl⟩

/-- In a scan that succeeds, what can be loaded as a post is one of its posts. -/
theorem mem_posts_of_load {post : Post} (hproper : store.tree.isProper)
    (hlook : store.look settings.sourceRoot = .ok (some node))
    (h : (scanNode store settings node).outcome = .ok found)
    (hsource : IsSourceFile store settings path)
    (hother : fileExtension path ≠ settings.feedExtension)
    (hextension : fileExtension path = postExtension)
    (hload : (Post.load store settings.sourceRoot path settings.pageExtension).outcome = .ok post) :
    post ∈ found.posts := by
  obtain ⟨finding, hfind, hposts⟩ := exists_find_of_scanNode hproper hlook h hsource
  cases isFound_of_find hfind with
  | feed extension load => exact absurd extension hother
  | post other extension load =>
      rw [hload] at load
      exact hposts post (congrArg Finding.post (Except.ok.inj load).symm)
  | copy noFeed noPost => exact absurd (hextension.trans (noPost hextension).symm) hother

/-- Where there is a cause, no scan succeeds. -/
theorem not_cause_of_scan (hproper : store.tree.isProper)
    (h : (scan store settings).outcome = .ok found) : ¬ Cause store settings error := by
  obtain ⟨node, hlook, hshape, hshort, hscan⟩ := scan_eq_ok_iff.mp h
  obtain ⟨findings, hmade, hloads⟩ := scanNode_eq_ok_iff.mp hscan
  have hfinds {path : Path} (hsource : IsSourceFile store settings path)
      (hfails : (find store settings settings.sourceRoot path).outcome = .error error) : False := by
    obtain ⟨finding, hfind, -⟩ := exists_find_of_scanNode hproper hlook hscan hsource
    rw [hfind] at hfails
    cases hfails
  have hreads {file : Path} {reason : TextError} (hsetting : settings.templatePath = some file)
      (hread : store.readText file = .error reason) : False := by
    have hfails : (loadDefaultTemplate store settings settings.sourceRoot).outcome
        = .error (defaultTemplateError reason) :=
      loadDefaultTemplate_eq_error.mpr ⟨file, reason, hsetting, hread, rfl⟩
    rw [hloads.usual] at hfails
    cases hfails
  -- a cause names the step that would have failed, and all steps succeeded
  rintro (hforeseen | hunforeseen)
  · cases hforeseen with
    | noSource look directory =>
        obtain ⟨entries, rfl⟩ := Node.shape_eq_directory.mp hshape
        rw [hlook] at look
        exact directory entries (Except.ok.inj look).symm
    | post source other extension load =>
        exact hfinds source ((find_post_eq_error other extension).mpr ⟨_, rfl, load⟩)
    | template setting read other =>
        exact hreads setting (Store.readText_eq_fault_iff.mpr ⟨read, rfl⟩)
  · cases hunforeseen with
    | longRoot look =>
        rw [hlook] at look
        cases look
    | longPath look long =>
        rw [hlook] at look
        obtain rfl := Option.some.inj (Except.ok.inj look)
        rw [hshort] at long
        exact List.not_mem_nil long
    | encoding source extension read document declared =>
        have hload := Feed.load_eq_encoding read document declared
        refine hfinds source ((find_feed_eq_error extension).mpr ⟨_, rfl, hload, ?_⟩)
        intro reason hreason
        cases hreason
    | noDate source other extension read time load =>
        exact hfinds source ((find_post_eq_error other extension).mpr ⟨_, rfl, load⟩)
    | ownTemplate source other extension load asked null =>
        have hpost := mem_posts_of_load hproper hlook hscan source other extension load
        have hfree := hasNull_of_loadTemplates hloads.own _
          (hmade.mem_askedFor.mpr ⟨_, hpost, asked⟩)
        rw [null] at hfree
        cases hfree
    | nullTemplate setting null =>
        exact hreads setting
          (Store.readText_eq_fault_iff.mpr ⟨Store.read_eq_nullCharacter_iff.mpr null, rfl⟩)
    | undecodable setting read => exact hreads setting read

/-- With settings that are accepted, a scan of a proper tree ends in one of two ways. Either it
gives a result in which feeds and templates that are no good are made up for, and there is no cause
for an error, or it ends with an error that has a cause. Only causes that are unforeseen lead to
errors that a scan is not said to end with. -/
theorem scan_ends {origin : Store} {root : Path} {overrides : List (String × Given)}
    {asked : Option Path} (hproper : store.tree.isProper)
    (hsettings : Settings.load origin root overrides asked = .ok settings) :
    (∀ found, (scan store settings).outcome = .ok found →
      (∃ node, store.look settings.sourceRoot = .ok (some node) ∧
        found.Handles store settings node) ∧
      ∀ error, ¬ Foreseen store settings error ∧ ¬ Unforeseen store settings error) ∧
    ∀ error, (scan store settings).outcome = .error error →
      Foreseen store settings error ∨ Unforeseen store settings error := by
  constructor
  · intro found hfound
    obtain ⟨node, hlook, -, -, hscan⟩ := scan_eq_ok_iff.mp hfound
    have hnode := Store.isProper_of_node hproper (Store.node_of_look hlook)
    refine ⟨⟨node, hlook, handles_of_scanNode hnode hscan⟩, fun error => ?_⟩
    exact not_or.mp (not_cause_of_scan hproper hfound)
  · intro error herror
    exact cause_of_scan hproper (Settings.pageExtension_of_load hsettings) herror

/-! ## Files that are no good -/

/-- A file with the extension of feeds that is no document, and a post that asks for a template that
does not exist. -/
def unusableSource : Node :=
  .directory
    [("a.atom", .file { bytes := [1] }),
     ("p.md", .file { bytes := encode "```meta\ntemplate = gone.html\n```\n# Hi\n" })]

def unusableStore : Store where
  tree := .directory [("content", unusableSource)]

def unusableSettings : Settings where
  root := {}

def unusablePost : Post where
  path := samplePath ["p.md"]
  markdown := "# Hi\n"
  metadata := [("template", "gone.html")]
  title := "Hi"
  date := { year := 1970, month := 1, day := 1 }
  updated := { year := 1970, month := 1, day := 1 }
  template := some (samplePath ["gone.html"])
  uri := "/p.html"
  outline := [("Hi", 1)]

def unusableScan : Scan where
  root := samplePath []
  directories := []
  copies := [samplePath ["a.atom"]]
  stylesheets := []
  posts := [unusablePost]
  feeds := []
  templates := []
  defaultTemplate :=
    (Template.ofString builtInTemplate (samplePath []) none ["html", "htm", "svg"]).value

theorem sourceRoot_unusable : unusableSettings.sourceRoot = samplePath [] := by
  show Path.join {} (Path.ofString "content") = samplePath []
  decide +kernel

theorem inOrder_unusableSource : inOrder unusableSource = unusableSource.contents [] := by
  apply List.mergeSort_of_pairwise
  decide

theorem scan_unusable : (scan unusableStore unusableSettings).outcome = .ok unusableScan := by
  have hlook : unusableStore.look (samplePath []) = .ok (some unusableSource) := rfl
  have hshort : tooLong (samplePath []) unusableSource = [] := by
    rw [tooLong, inOrder_unusableSource]
    decide +kernel
  rw [← sourceRoot_unusable] at hlook hshort
  rw [scan_eq_scanNode hlook rfl hshort]
  simp only [scanNode, inOrder_unusableSource, sourceRoot_unusable]
  refine Report.outcome_bind_eq_ok.mpr
    ⟨[.copy (samplePath ["a.atom"]), .post unusablePost], ?_, ?_⟩
  · rw [Report.outcome_mapM_eq_ok]
    have hfeed : (find unusableStore unusableSettings (samplePath [])
        (samplePath ["a.atom"])).outcome = .ok (.copy (samplePath ["a.atom"])) := by
      have hextension : fileExtension (samplePath ["a.atom"]) = unusableSettings.feedExtension := by
        decide +kernel
      have hload : Feed.load unusableStore (samplePath ["a.atom"])
          = .error (.feed (.malformed (samplePath ["a.atom"]))) := by decide +kernel
      rw [find, if_pos hextension, hload]
      rfl
    have hpost : (find unusableStore unusableSettings (samplePath [])
        (samplePath ["p.md"])).outcome = .ok (.post unusablePost) :=
      find_eq_post (by decide +kernel) (by decide) (by decide +kernel)
    exact .cons hfeed (.cons hpost .nil)
  · refine Report.outcome_bind_eq_ok.mpr ⟨(), rfl, ?_⟩
    refine Report.outcome_bind_eq_ok.mpr ⟨[], ?_, ?_⟩
    · show (loadTemplates _ _ _ (List.mergeSort [samplePath ["gone.html"]] Path.le)).outcome = _
      have hread : unusableStore.readText (samplePath ["gone.html"])
          = .error (.fault .notFound (samplePath ["gone.html"])) := by decide +kernel
      rw [List.mergeSort_singleton, loadTemplates, hread]
      rfl
    · refine Report.outcome_bind_eq_ok.mpr ⟨unusableScan.defaultTemplate, rfl, ?_⟩
      rw [Report.outcome_pure_eq_ok, unusableScan, Scan.mk.injEq]
      refine ⟨rfl, rfl, ?_, rfl, rfl, rfl, rfl, rfl⟩
      decide +kernel

theorem load_unusableSettings :
    Settings.load unusableStore {} [] none = .ok unusableSettings := rfl

/-- The scan copies the one file, and its post has the usual template. -/
theorem scan_ends_unusable :
    unusableStore.tree.isProper ∧
    Settings.load unusableStore {} [] none = .ok unusableSettings ∧
    (scan unusableStore unusableSettings).outcome = .ok unusableScan ∧
    ∃ node, unusableStore.look unusableSettings.sourceRoot = .ok (some node) ∧
      unusableScan.Handles unusableStore unusableSettings node := by
  have hproper : unusableStore.tree.isProper := by decide
  have hends := (scan_ends hproper load_unusableSettings).1 unusableScan scan_unusable
  exact ⟨hproper, load_unusableSettings, scan_unusable, hends.1⟩

/-- Sources without anything in them, and a template that is no text. -/
def undecodableStore : Store where
  tree := .directory [("content", .directory []), ("page.html", .file { bytes := [0xff] })]

def undecodableSettings : Settings where
  root := {}
  template := some { segments := ["page.html"] }

/-- Why the template is no text. -/
def undecodableReason : EncodingError where
  fault := .startByte
  position := 0
  length := 1
  first := 0xff

/-- The scan ends with the reason itself, which is no error that a scan is said to end with. -/
theorem scan_ends_undecodable :
    Settings.load undecodableStore {} [("template", .value (.text "page.html"))] none
      = .ok undecodableSettings ∧
    (scan undecodableStore undecodableSettings).outcome
      = .error (.template (.encoding undecodableReason)) ∧
    ¬ Foreseen undecodableStore undecodableSettings (.template (.encoding undecodableReason)) := by
  have hlook : undecodableStore.look undecodableSettings.sourceRoot
      = .ok (some (.directory [])) := by
    have hlocate : undecodableStore.locate undecodableSettings.sourceRoot = .ok ["content"] := by
      decide +kernel
    rw [Store.look, Store.node, hlocate]
    rfl
  have horder : inOrder (.directory []) = [] := List.mergeSort_nil
  have hshort : tooLong undecodableSettings.sourceRoot (.directory []) = [] := by
    rw [tooLong, horder]
    rfl
  have hread : undecodableStore.readText { segments := ["page.html"] }
      = .error (.encoding undecodableReason) := by decide +kernel
  refine ⟨rfl, ?_, ?_⟩
  · rw [scan_eq_scanNode hlook rfl hshort]
    simp only [scanNode, horder]
    refine Report.outcome_bind_eq_error.mpr (Or.inr ⟨[], rfl, ?_⟩)
    refine Report.outcome_bind_eq_error.mpr (Or.inr ⟨(), rfl, ?_⟩)
    refine Report.outcome_bind_eq_error.mpr (Or.inr ⟨[], ?_, ?_⟩)
    · show (loadTemplates _ _ _ (List.mergeSort [] Path.le)).outcome = _
      rw [List.mergeSort_nil]
      rfl
    · refine Report.outcome_bind_eq_error.mpr (Or.inl ?_)
      exact loadDefaultTemplate_eq_error.mpr ⟨_, _, rfl, hread, rfl⟩
  · intro hforeseen
    cases hforeseen

end StaticSite.Site
