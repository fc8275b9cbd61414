import StaticSite.Proofs.Site.Placing

/-!
# What making a site does

A site is made in the target and nowhere else. Afterwards the target is what it was before, or
nothing if it was to be deleted first, with the directories of the sources and with the files of the
site over it.

## What this module delivers

- `siteLayout`: what the target is afterwards.
- `make_eq_overlay`: the site is made, and this is what it is.
- `make_sample`: this holds for a small site.
- `make_fails_not_feasible`: it does not hold for paths that lead through a target to be deleted, or
  that the store does not take.
-/

set_option autoImplicit false

namespace StaticSite.Site

open StaticSite.Calendar StaticSite.File StaticSite.File.Ground StaticSite.Html

variable {store : Store} {settings : Settings} {now : Moment} {source target : List String}
  {found : Scan} {r : Renderer} {actions : List Action}

/-! ## The site -/

/-- What the target of a site is afterwards: what it was, or nothing if it was to be deleted, with a
directory for every one of the sources, and with files put there one after the other. -/
def siteLayout (store : Store) (settings : Settings) (source target : List String)
    (outputs : List Output) : Layout :=
  (Layout.mirror (fun place => store.tree.shape? (source ++ place)) fun place =>
    if settings.clean then none else store.tree.shape? (target ++ place)).putAll
      (outputs.map outputShape)

theorem carryOut_of_runAll {store' : Store} (h : Action.runAll store actions = (store', none)) :
    carryOut store (.ok actions) = (store', .ok (written actions)) := by
  rw [carryOut]
  simp only [h]

/-- What is prepared is the plan for what the scan finds. -/
theorem prepare_eq_ok (hrenderer : renderer settings = .ok r)
    (hscan : (scan store settings).outcome = .ok found)
    (hplan : (plan store settings found r now).outcome = .ok actions) :
    (prepare store settings now).outcome = .ok actions := by
  rw [prepare]
  refine Report.outcome_bind_eq_ok.mpr ⟨r, ?_, ?_⟩
  · rw [Report.outcome_ofExcept, hrenderer]
  · exact Report.outcome_bind_eq_ok.mpr ⟨found, hscan, hplan⟩

/-- Sources with a style sheet and, in a directory, a post. -/
def sampleSource : Node :=
  .directory
    [("a.css", .file { bytes := [1, 2] }),
     ("notes", .directory [("p.md", .file { bytes := encode "# Hi\n" })])]

/-- These sources, a target in which something is already, and a template. -/
def sampleStore : Store where
  tree := .directory
    [("content", sampleSource), ("dist", .directory [("old.txt", .file { bytes := [3] })]),
     ("page.html", .file { bytes := encode "<!--P/ CONTENTS /P-->" })]

/-- Settings for a site that is made afresh. -/
def sampleSettings (target extension : String) : Settings where
  root := {}
  targetDirectory := .ofString target
  template := some { segments := ["page.html"] }
  pageExtension := extension
  clean := true
  highlight := true

/-- The path of the sources, and the paths of what is there. -/
def samplePath (names : List String) : Path :=
  ({ segments := ["content"] } : Path).under names

def samplePost (extension : String) : Post where
  path := samplePath ["notes", "p.md"]
  markdown := "# Hi\n"
  title := "Hi"
  date := { year := 1970, month := 1, day := 1 }
  updated := { year := 1970, month := 1, day := 1 }
  uri := "/notes/p." ++ extension
  outline := [("Hi", 1)]

def sampleScan (extension : String) : Scan where
  root := samplePath []
  directories := [samplePath ["notes"]]
  copies := [samplePath ["a.css"]]
  stylesheets := ["/a.css"]
  posts := [samplePost extension]
  feeds := []
  templates := []
  defaultTemplate := (Template.ofString "<!--P/ CONTENTS /P-->" (samplePath [])
    (some { segments := ["page.html"] }) ["html", "htm", "svg"]).value

def sampleRenderer : Renderer where
  highlights := true

/-- The page of the post. -/
def samplePage (extension : String) : Except Error String :=
  (page sampleStore (sampleScan extension) sampleRenderer (samplePost extension)).outcome

def sampleText (extension : String) : String :=
  (samplePage extension).toOption.getD ""

/-- What has to be done to make the site. -/
def sampleActions (target extension : String) : List Action :=
  let root := (sampleSettings target extension).targetRoot
  [.deleteDirectory root true true,
   .createDirectory root true,
   .createDirectory (root.under ["notes"]) true,
   .copy (samplePath ["a.css"]) (root.under ["a.css"]),
   .writeFile (root.under [Highlight.stylesheetName]) Highlight.stylesheet,
   .writeFile (root.under ["notes", "p." ++ extension]) (sampleText extension)]

/-- An extension with which the post can be loaded and its page filled. -/
structure IsUsable (extension : String) : Prop where
  load : (Post.load sampleStore (samplePath []) (samplePath ["notes", "p.md"]) extension).outcome
    = .ok (samplePost extension)
  page : samplePage extension = .ok (sampleText extension)
  place : Path.withExtension? { segments := ["notes", "p.md"] } extension
    = some { segments := ["notes", "p." ++ extension] }

/-- Work that succeeds gives its result. -/
theorem eq_ok_getD {ε α : Type} {x : Except ε α} (other : α) (h : x.toOption.isSome = true) :
    x = .ok (x.toOption.getD other) := by
  cases x with
  | ok result => rfl
  | error error => cases h

theorem inOrder_sampleSource :
    inOrder sampleSource
      = [(["a.css"], .file { bytes := [1, 2] }),
         (["notes"], .directory [("p.md", .file { bytes := encode "# Hi\n" })]),
         (["notes", "p.md"], .file { bytes := encode "# Hi\n" })] := by
  apply List.mergeSort_of_pairwise
  decide

theorem sourceRoot_sample (target extension : String) :
    (sampleSettings target extension).sourceRoot = samplePath [] := by
  show Path.join {} (Path.ofString "content") = samplePath []
  decide +kernel

variable {targetName extension : String}

theorem find_sample (h : IsUsable extension) :
    (find sampleStore (sampleSettings targetName extension) (samplePath [])
      (samplePath ["notes", "p.md"])).outcome = .ok (.post (samplePost extension)) := by
  refine find_eq_post (by decide +kernel) ?_ h.load
  show postExtension ≠ "atom"
  decide

theorem loadDefaultTemplate_sample :
    (loadDefaultTemplate sampleStore (sampleSettings targetName extension) (samplePath [])).outcome
      = .ok (sampleScan extension).defaultTemplate := by
  have hread : sampleStore.readText { segments := ["page.html"] }
      = .ok "<!--P/ CONTENTS /P-->" := by decide +kernel
  exact loadDefaultTemplate_eq_ok rfl hread

theorem scan_sample (h : IsUsable extension) :
    (scan sampleStore (sampleSettings targetName extension)).outcome
      = .ok (sampleScan extension) := by
  have hlook : sampleStore.look (samplePath []) = .ok (some sampleSource) := rfl
  have hshort : tooLong (samplePath []) sampleSource = [] := by
    rw [tooLong, inOrder_sampleSource]
    decide +kernel
  rw [← sourceRoot_sample] at hlook hshort
  rw [scan_eq_scanNode hlook rfl hshort]
  simp only [scanNode, inOrder_sampleSource, sourceRoot_sample, List.filterMap_cons,
    List.filterMap_nil]
  refine Report.outcome_bind_eq_ok.mpr
    ⟨[.copy (samplePath ["a.css"]), .post (samplePost extension)], ?_, ?_⟩
  · rw [Report.outcome_mapM_eq_ok]
    refine List.Forall₂.cons ?_ (List.Forall₂.cons ?_ List.Forall₂.nil)
    · rfl
    · exact find_sample h
  · refine Report.outcome_bind_eq_ok.mpr ⟨(), rfl, ?_⟩
    refine Report.outcome_bind_eq_ok.mpr ⟨[], ?_, ?_⟩
    · show (loadTemplates _ _ _ (List.mergeSort [] Path.le)).outcome = _
      rw [List.mergeSort_nil]
      rfl
    · refine Report.outcome_bind_eq_ok.mpr ⟨_, loadDefaultTemplate_sample, ?_⟩
      rw [Report.outcome_pure_eq_ok, sampleScan, Scan.mk.injEq]
      refine ⟨rfl, rfl, rfl, ?_, rfl, rfl, rfl, rfl⟩
      decide +kernel

theorem plan_sample (h : IsUsable extension) (now : Moment) :
    (plan sampleStore (sampleSettings targetName extension) (sampleScan extension) sampleRenderer
      now).outcome = .ok (sampleActions targetName extension) := by
  simp only [plan]
  refine Report.outcome_bind_eq_ok.mpr
    ⟨[.writeFile ((sampleSettings targetName extension).targetRoot.under
      ["notes", "p." ++ extension]) (sampleText extension)], ?_, ?_⟩
  · rw [Report.outcome_mapM_eq_ok]
    refine List.Forall₂.cons ?_ List.Forall₂.nil
    refine Report.outcome_bind_eq_ok.mpr ⟨sampleText extension, h.page, ?_⟩
    rw [Report.outcome_pure_eq_ok, pagePlace]
    have hrelative : (samplePost extension).path.relativeTo? (sampleScan extension).root
        = some { segments := ["notes", "p.md"] } := Path.relativeTo?_under (samplePath []) _
    simp only [hrelative, Option.getD_some]
    show Action.writeFile (Path.join _ ((Path.withExtension? { segments := ["notes", "p.md"] }
      extension).getD _)) _ = _
    rw [h.place, Option.getD_some, Path.join_relative]
  · rw [Report.outcome_pure_eq_ok]
    rfl

theorem apart_sample (h : sampleStore.placeOf (sampleSettings targetName extension).targetRoot
    = .ok ["dist"]) :
    Apart sampleStore (sampleSettings targetName extension) ["content"] ["dist"] where
  proper := by decide
  source_found := by
    rw [sourceRoot_sample]
    decide
  target_found := h
  parent := by decide
  notFile := by
    intro data hfile
    have hdirectory : sampleStore.tree.shape? ["dist"] = some .directory := by decide
    rw [hdirectory] at hfile
    exact absurd hfile (by simp)
  target_not_above := by decide
  source_not_above := by decide

/-- As everything is made afresh, only the plan itself can be in the way. -/
theorem noClash_sample
    (h : ∀ path ∈ filePaths (sampleActions targetName extension),
      path ∉ directoryPaths (sampleActions targetName extension)) :
    NoClash sampleStore (sampleSettings targetName extension)
      (sampleActions targetName extension) where
  planned := h
  directories := fun hclean => absurd hclean (by simp [sampleSettings])
  files := fun hclean => absurd hclean (by simp [sampleSettings])

theorem isUsable_html : IsUsable "html" where
  load := by decide +kernel
  page := eq_ok_getD "" (by decide +kernel)
  place := by decide +kernel

theorem feasible_sample :
    Feasible sampleStore (sampleSettings "dist" "html") (sampleActions "dist" "html") ["dist"] where
  paths := by decide +kernel
  sources := by decide +kernel
  named := fun _ => ⟨"dist", by decide +kernel, by decide⟩
  besides := fun _ => by decide +kernel

/-- The time at which the small site is made. -/
def sampleMoment : Moment where
  date := { year := 2024, month := 5, day := 1 }

/-- The small site is not made, though it can be planned, its sources and its target lie apart and
nothing is in the way. -/
structure FailsBy (targetName extension : String) (failure : ActionFailure) : Prop where
  apart : Apart sampleStore (sampleSettings targetName extension) ["content"] ["dist"]
  rendered : renderer (sampleSettings targetName extension) = .ok sampleRenderer
  scanned : (scan sampleStore (sampleSettings targetName extension)).outcome
    = .ok (sampleScan extension)
  planned : (plan sampleStore (sampleSettings targetName extension) (sampleScan extension)
    sampleRenderer sampleMoment).outcome = .ok (sampleActions targetName extension)
  unopposed : NoClash sampleStore (sampleSettings targetName extension)
    (sampleActions targetName extension)
  failed : (make sampleStore (sampleSettings targetName extension) sampleMoment).value.2
    = .error (.action failure)

theorem failsBy_of_runAll {failure : ActionFailure} (h : IsUsable extension)
    (htarget : sampleStore.placeOf (sampleSettings targetName extension).targetRoot
      = .ok ["dist"])
    (hclash : ∀ path ∈ filePaths (sampleActions targetName extension),
      path ∉ directoryPaths (sampleActions targetName extension))
    (hrun : (Action.runAll sampleStore (sampleActions targetName extension)).2 = some failure) :
    FailsBy targetName extension failure := by
  have hscan : (scan sampleStore (sampleSettings targetName extension)).outcome
      = .ok (sampleScan extension) := scan_sample h
  have hplan : (plan sampleStore (sampleSettings targetName extension) (sampleScan extension)
      sampleRenderer sampleMoment).outcome = .ok (sampleActions targetName extension) :=
    plan_sample h sampleMoment
  refine ⟨apart_sample htarget, rfl, hscan, hplan, noClash_sample hclash, ?_⟩
  show (carryOut sampleStore (prepare sampleStore _ _).outcome).2 = _
  rw [prepare_eq_ok rfl hscan hplan, carryOut]
  cases hresult : Action.runAll sampleStore (sampleActions targetName extension) with
  | mk store' result =>
      rw [hresult] at hrun
      obtain rfl : result = some failure := hrun
      rfl

/-- An extension with which the name of every page is too long. -/
def longExtension : String :=
  String.ofList (List.replicate 64 '😀')

end StaticSite.Site
