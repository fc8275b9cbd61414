import StaticSite.Proofs.File.Effect
import StaticSite.Proofs.Site.Making
import StaticSite.Settings.Load

/-!
# What making a site leaves alone

Every action of a plan is about the target or a place below it. So files outside the target stay as
they are, whether or not the site can be made. In the target a file stays unless the target is
deleted first or another file is planned in its place: sources are safe if they lie apart from the
target, and are not if they do not.

## What this module delivers

- `Action.Replaces`: an action puts another file in the place of a file.
- `IsPlanned`, `isPlanned_of_prepare`: the actions that are planned.
- `MayChange`: why a file may change.
- `make_keeps`: a source file that changes is one that may change, and none does if the sources lie
  apart from the target.
- `make_changes_sources`: sources that do not lie apart from the target change.
-/

set_option autoImplicit false

namespace StaticSite

open StaticSite.Calendar StaticSite.File StaticSite.Html

/-! ## Files that are replaced -/

namespace File.Action

variable {store : Store} {file : List String} {action : Action}

/-- An action puts another file in the place of a file. -/
def Replaces (store : Store) (file : List String) : Action → Prop
  | .copy source dest => store.spelledPlace dest = file ∧ store.spelledPlace source ≠ file
  | .deleteDirectory _ _ _ => False
  | .createDirectory _ _ => False
  | .writeFile path _ => store.spelledPlace path = file

theorem spares_of_not_replaces (h : ¬ Replaces store file action)
    (hdelete : ∀ path absentOk all, action = .deleteDirectory path absentOk all →
      ¬ store.spelledPlace path <+: file) :
    Spares store file action := by
  cases action with
  | copy source dest =>
      intro hdest
      by_contra hsource
      exact h ⟨hdest, hsource⟩
  | deleteDirectory path absentOk all => exact hdelete path absentOk all rfl
  | createDirectory path existsOk => trivial
  | writeFile path content => exact h

/-- What an action is about besides a file does not hurt the file. -/
theorem spares_of_not_prefix (h : ¬ store.spelledPlace action.path <+: file) :
    Spares store file action := by
  have hne : store.spelledPlace action.path ≠ file := fun heq => h (heq ▸ List.prefix_refl _)
  apply spares_of_not_replaces
  · cases action with
    | copy source dest => exact fun hreplaces => hne hreplaces.1
    | deleteDirectory path absentOk all => exact id
    | createDirectory path existsOk => exact id
    | writeFile path content => exact hne
  · rintro path absentOk all rfl
    exact h

end File.Action

namespace Site

variable {store : Store} {settings : Settings} {now : Moment} {found : Scan} {r : Renderer}
  {actions : List Action} {node : Node}

/-! ## Planned actions -/

/-- An action that can be planned, with the names that lead to its place in the target. -/
inductive IsPlanned (settings : Settings) (node : Node) : List String → Action → Prop
  | delete (hclean : settings.clean = true) :
      IsPlanned settings node [] (.deleteDirectory settings.targetRoot true true)
  | create : IsPlanned settings node [] (.createDirectory settings.targetRoot true)
  | createBelow (names : List String) :
      IsPlanned settings node names (.createDirectory (settings.targetRoot.under names) true)
  | copy (names : List String) (data : FileData) (hfile : node.get? names = some (.file data)) :
      IsPlanned settings node names
        (.copy (settings.sourceRoot.under names) (settings.targetRoot.under names))
  | write (names : List String) (content : String) :
      IsPlanned settings node names (.writeFile (settings.targetRoot.under names) content)

theorem IsPlanned.path {names : List String} {action : Action}
    (h : IsPlanned settings node names action) : action.path = settings.targetRoot.under names := by
  have hself : settings.targetRoot = settings.targetRoot.under [] := by
    rw [Path.under, List.append_nil]
  cases h with
  | delete hclean => exact hself
  | create => exact hself
  | createBelow => rfl
  | copy data hfile => rfl
  | write content => rfl

/-- Names lead from the target to where an action is planned; only the target itself needs none. -/
structure PlannedAt (settings : Settings) (node : Node) (names : List String) (action : Action) :
    Prop where
  planned : IsPlanned settings node names action
  back : ∀ name ∈ names, name ≠ ".."

/-- An action at a place with a directory that the sources have is planned there. -/
theorem Placed.plannedAt {names : List String} {action : Action} (h : Placed node names)
    (hplanned : IsPlanned settings node names action) : PlannedAt settings node names action :=
  ⟨hplanned, h.back⟩

theorem planned_targetActions :
    ∀ action ∈ targetActions settings, ∃ names, PlannedAt settings node names action := by
  intro action haction
  rcases List.mem_append.mp haction with hdelete | hcreate
  · by_cases hclean : settings.clean = true
    · rw [if_pos hclean, List.mem_singleton] at hdelete
      exact ⟨[], hdelete ▸ .delete hclean, by simp⟩
    · rw [if_neg hclean] at hdelete
      cases hdelete
  · exact ⟨[], List.mem_singleton.mp hcreate ▸ .create, by simp⟩

theorem planned_directoryActions (hproper : node.isProper) (hlists : found.Lists settings node) :
    ∀ action ∈ directoryActions settings found, ∃ names, PlannedAt settings node names action := by
  intro action haction
  obtain ⟨path, hpath, rfl⟩ := List.mem_map.mp haction
  rw [hlists.directories] at hpath
  obtain ⟨names, hnames, rfl⟩ := List.mem_map.mp hpath
  obtain ⟨-, hshape⟩ := (mem_directoryPlaces hproper).mp hnames
  obtain ⟨entries, hget⟩ := Node.shape?_eq_directory.mp hshape
  obtain ⟨hsegments, -⟩ := Node.isName_of_get? names node hproper hget
  rw [hlists.root, placeOn_under]
  exact ⟨names, .createBelow names, fun name hname => (isName_iff.mp (hsegments name hname)).1.2⟩

theorem planned_copyActions (hproper : node.isProper) (hlists : found.Lists settings node) :
    ∀ action ∈ copyActions settings found, ∃ names ≠ [], PlannedAt settings node names action := by
  intro action haction
  obtain ⟨path, hpath, rfl⟩ := List.mem_map.mp haction
  obtain ⟨names, data, rfl, hne, hfile⟩ := hlists.copies path hpath
  rw [hlists.root, placeOn_under]
  exact ⟨names, hne, (placed_of_get? hproper hne hfile).plannedAt (.copy names data hfile)⟩

theorem planned_sheetActions (hnode : node.shape = .directory) :
    ∀ action ∈ sheetActions settings r, ∃ names ≠ [], PlannedAt settings node names action := by
  intro action haction
  rw [sheetActions] at haction
  by_cases hhighlights : r.highlights = true
  · rw [if_pos hhighlights, List.mem_singleton] at haction
    have hchild : settings.targetRoot.child Highlight.stylesheetName
        = settings.targetRoot.under [Highlight.stylesheetName] :=
      Path.join_relative settings.targetRoot [Highlight.stylesheetName]
    rw [haction, hchild]
    exact ⟨_, by simp, (placed_stylesheet hnode).plannedAt (.write _ _)⟩
  · rw [if_neg hhighlights] at haction
    cases haction

theorem planned_feedActions (hproper : node.isProper) (hlists : found.Lists settings node) :
    ∀ action ∈ feedActions settings found r now, ∃ names ≠ [],
      PlannedAt settings node names action := by
  intro action haction
  obtain ⟨feed, hfeed, rfl⟩ := List.mem_map.mp haction
  obtain ⟨names, data, hsame, hne, hfile⟩ := hlists.feeds feed hfeed
  rw [hlists.root, hsame, placeOn_under]
  exact ⟨names, hne, (placed_of_get? hproper hne hfile).plannedAt (.write names _)⟩

/-- The page of a post is planned next to where its file is in the sources. -/
theorem pagePlace_of_mem (hlists : found.Lists settings node) {post : Post}
    (hpost : post ∈ found.posts) (hproper : node.isProper) :
    ∃ names ≠ [], pagePlace settings found.root post.path = settings.targetRoot.under names ∧
      ∀ name ∈ names, name ≠ ".." := by
  obtain ⟨⟨names, data, hsame, hne, hfile⟩, haddress⟩ := hlists.posts post hpost
  rw [hsame] at haddress
  obtain ⟨hextension, hslash, -⟩ := address?_under haddress
  have hplaced := placed_pageNames hproper hne hfile hextension hslash
  refine ⟨_, hplaced.ne, ?_, hplaced.back⟩
  rw [hlists.root, hsame, pagePlace_under hne hextension hslash]

theorem planned_pages (hproper : node.isProper) (hlists : found.Lists settings node)
    {pages : List Action}
    (hpages : List.Forall₂ (WritesPage store settings found r) found.posts pages) :
    ∀ action ∈ pages, ∃ names ≠ [], PlannedAt settings node names action := by
  intro action haction
  obtain ⟨post, hpost, text, -, rfl⟩ := exists_of_mem_right hpages action haction
  obtain ⟨names, hne, hplace, hback⟩ := pagePlace_of_mem hlists hpost hproper
  rw [hplace]
  exact ⟨names, hne, .write names text, hback⟩

/-! ## What is prepared -/

/-- What is prepared is the plan for a scan. -/
theorem exists_of_prepare (h : (prepare store settings now).outcome = .ok actions) :
    ∃ r found, renderer settings = .ok r ∧ (scan store settings).outcome = .ok found ∧
      (plan store settings found r now).outcome = .ok actions := by
  rw [prepare] at h
  obtain ⟨r, hrenderer, h⟩ := Report.outcome_bind_eq_ok.mp h
  obtain ⟨found, hscan, hplan⟩ := Report.outcome_bind_eq_ok.mp h
  rw [Report.outcome_ofExcept] at hrenderer
  exact ⟨r, found, hrenderer, hscan, hplan⟩

/-- A scan is of the node at the place that the path of the sources spells. -/
theorem exists_of_scan (hproper : store.tree.isProper)
    (hscan : (scan store settings).outcome = .ok found) :
    ∃ node, store.tree.get? (store.spelledPlace settings.sourceRoot) = some node ∧
      node.shape = .directory ∧ node.isProper ∧
      (scanNode store settings node).outcome = .ok found := by
  obtain ⟨node, hlook, hshape, -, hscan⟩ := scan_eq_ok_iff.mp hscan
  have hnode := Store.get?_of_look hlook
  exact ⟨node, hnode, hshape, (Node.isName_of_get? _ store.tree hproper hnode).2, hscan⟩

/-- Everything that is prepared is planned in the target. -/
theorem isPlanned_of_prepare (hproper : store.tree.isProper)
    (h : (prepare store settings now).outcome = .ok actions) :
    ∃ node, store.tree.get? (store.spelledPlace settings.sourceRoot) = some node ∧
      ∀ action ∈ actions, ∃ names, PlannedAt settings node names action := by
  obtain ⟨r, found, -, hscan, hplan⟩ := exists_of_prepare h
  obtain ⟨node, hnode, hshape, hnodeProper, hscanNode⟩ := exists_of_scan hproper hscan
  have hlists := scanNode_eq_ok hnodeProper hscanNode
  obtain ⟨pages, hpages, rfl⟩ := plan_eq_ok hplan
  refine ⟨node, hnode, ?_⟩
  -- only the target itself is planned without names, which do not matter here
  have hforget : ∀ {action : Action}, (∃ names ≠ [], PlannedAt settings node names action) →
      ∃ names, PlannedAt settings node names action :=
    fun ⟨names, _, hplanned⟩ => ⟨names, hplanned⟩
  intro action haction
  rcases List.mem_append.mp haction with hfirst | hfiles
  · rcases List.mem_append.mp hfirst with htarget | hdirectory
    · exact planned_targetActions action htarget
    · exact planned_directoryActions hnodeProper hlists action hdirectory
  · rcases List.mem_append.mp hfiles with hbefore | hpage
    · rcases List.mem_append.mp hbefore with hcopies | hfeed
      · rcases List.mem_append.mp hcopies with hcopy | hsheet
        · exact hforget (planned_copyActions hnodeProper hlists action hcopy)
        · exact hforget (planned_sheetActions hshape action hsheet)
      · exact hforget (planned_feedActions hnodeProper hlists action hfeed)
    · exact hforget (planned_pages hnodeProper hlists hpages action hpage)

theorem PlannedAt.place {names : List String} {action : Action}
    (h : PlannedAt settings node names action) :
    store.spelledPlace action.path = store.spelledPlace settings.targetRoot ++ names := by
  rw [h.planned.path, Store.spelledPlace_under h.back]

/-! ## What may change -/

/-- Why a file may change when a site is made: it is in the target, and the target is deleted first
or another file is planned in its place. -/
structure MayChange (store : Store) (settings : Settings) (now : Moment) (file : List String) :
    Prop where
  inTarget : store.spelledPlace settings.targetRoot <+: file
  planned : ∃ actions, (prepare store settings now).outcome = .ok actions ∧
    (settings.clean = true ∨ ∃ action ∈ actions, Action.Replaces store file action)

/-- An action that spares a file leaves it alone, as the current directory is no file. -/
theorem leavesAlone_of_here (hhere : store.tree.shape? store.here = some .directory)
    {file : List String} {data : FileData} (hfile : store.tree.get? file = some (.file data))
    {action : Action} (hspares : Action.Spares store file action) :
    Action.LeavesAlone store file action := by
  refine ⟨hspares, Or.inr fun hpre => ?_⟩
  rw [← Node.eq_of_prefix_of_file hfile hpre (by rw [hhere]; rfl), Node.shape?_eq_file.mpr hfile]
    at hhere
  exact absurd hhere (by simp)

theorem store_make_of_prepare (h : (prepare store settings now).outcome = .ok actions) :
    (make store settings now).value.1 = (Action.runAll store actions).1 := by
  show (carryOut store _).1 = _
  rw [h, carryOut]
  rcases Action.runAll store actions with ⟨after, _ | failure⟩
  · rfl
  · rfl

/-- A file that may not change is as it was before, also if the site cannot be made. -/
theorem keeps_of_not_mayChange (hproper : store.tree.isProper)
    (hhere : store.tree.shape? store.here = some .directory) {file : List String} {data : FileData}
    (hfile : store.tree.get? file = some (.file data))
    (h : ¬ MayChange store settings now file) :
    (make store settings now).value.1.tree.get? file = some (.file data) := by
  cases hprepare : (prepare store settings now).outcome with
  | error error =>
      -- what could not be prepared is not begun
      show (carryOut store _).1.tree.get? file = _
      rw [hprepare]
      exact hfile
  | ok actions =>
      rw [store_make_of_prepare hprepare]
      obtain ⟨node, -, hplanned⟩ := isPlanned_of_prepare hproper hprepare
      refine Action.keeps_runAll (fun action haction => leavesAlone_of_here hhere hfile ?_) hfile
      obtain ⟨names, hat⟩ := hplanned action haction
      by_cases htarget : store.spelledPlace settings.targetRoot <+: file
      · -- in the target, neither is it deleted nor is something put there
        have hunharmed : ¬ (settings.clean = true ∨
            ∃ action ∈ actions, Action.Replaces store file action) :=
          fun hharm => h ⟨htarget, actions, hprepare, hharm⟩
        rw [not_or] at hunharmed
        apply Action.spares_of_not_replaces
        · exact fun hreplaces => hunharmed.2 ⟨action, haction, hreplaces⟩
        · rintro path absentOk all rfl
          cases hat.planned with
          | delete hclean => exact absurd hclean hunharmed.1
      · -- what is planned in the target is neither the file nor above it
        apply Action.spares_of_not_prefix
        rw [hat.place]
        exact fun hpre => htarget ((List.prefix_append _ names).trans hpre)

/-- A style sheet, and a directory with the name of the sources that has one too. -/
def nestedSource : Node :=
  .directory
    [("a.css", .file { bytes := [1] }),
     ("content", .directory [("a.css", .file { bytes := [2] })])]

def nestedStore : Store where
  tree := .directory [("content", nestedSource)]

/-- Settings with a target that does not lie apart from the sources. -/
def nestedSettings (target : String) (clean : Bool) : Settings where
  root := {}
  targetDirectory := .ofString target
  clean := clean

def nestedScan : Scan where
  root := samplePath []
  directories := [samplePath ["content"]]
  copies := [samplePath ["a.css"], samplePath ["content", "a.css"]]
  stylesheets := ["/a.css", "/content/a.css"]
  posts := []
  feeds := []
  templates := []
  defaultTemplate :=
    (Template.ofString builtInTemplate (samplePath []) none ["html", "htm", "svg"]).value

theorem inOrder_nestedSource :
    inOrder nestedSource
      = [(["a.css"], .file { bytes := [1] }),
         (["content"], .directory [("a.css", .file { bytes := [2] })]),
         (["content", "a.css"], .file { bytes := [2] })] := by
  apply List.mergeSort_of_pairwise
  decide

theorem sourceRoot_nested (target : String) (clean : Bool) :
    (nestedSettings target clean).sourceRoot = samplePath [] := by
  show Path.join {} (Path.ofString "content") = samplePath []
  decide +kernel

theorem scan_nested (target : String) (clean : Bool) :
    (scan nestedStore (nestedSettings target clean)).outcome = .ok nestedScan := by
  have hlook : nestedStore.look (samplePath []) = .ok (some nestedSource) := rfl
  have hshort : tooLong (samplePath []) nestedSource = [] := by
    rw [tooLong, inOrder_nestedSource]
    decide +kernel
  rw [← sourceRoot_nested] at hlook hshort
  rw [scan_eq_scanNode hlook rfl hshort]
  simp only [scanNode, inOrder_nestedSource, sourceRoot_nested, List.filterMap_cons,
    List.filterMap_nil]
  -- both files have extensions of neither posts nor feeds, so they are copies
  refine Report.outcome_bind_eq_ok.mpr
    ⟨[.copy (samplePath ["a.css"]), .copy (samplePath ["content", "a.css"])], ?_, ?_⟩
  · rw [Report.outcome_mapM_eq_ok]
    exact List.Forall₂.cons rfl (List.Forall₂.cons rfl List.Forall₂.nil)
  · refine Report.outcome_bind_eq_ok.mpr ⟨(), rfl, ?_⟩
    refine Report.outcome_bind_eq_ok.mpr ⟨[], ?_, ?_⟩
    · show (loadTemplates _ _ _ (List.mergeSort [] Path.le)).outcome = _
      rw [List.mergeSort_nil]
      rfl
    · refine Report.outcome_bind_eq_ok.mpr ⟨nestedScan.defaultTemplate, rfl, ?_⟩
      rw [Report.outcome_pure_eq_ok, nestedScan, Scan.mk.injEq]
      refine ⟨rfl, rfl, rfl, ?_, rfl, rfl, rfl, rfl⟩
      decide +kernel

/-- What has to be done to make the site. -/
def nestedActions (target : String) (clean : Bool) : List Action :=
  let root := (nestedSettings target clean).targetRoot
  targetActions (nestedSettings target clean) ++
    [.createDirectory (root.under ["content"]) true,
     .copy (samplePath ["a.css"]) (root.under ["a.css"]),
     .copy (samplePath ["content", "a.css"]) (root.under ["content", "a.css"])]

theorem prepare_nested (target : String) (clean : Bool) :
    (prepare nestedStore (nestedSettings target clean) sampleMoment).outcome
      = .ok (nestedActions target clean) := by
  refine prepare_eq_ok (r := { }) rfl (scan_nested target clean) ?_
  simp only [plan]
  refine Report.outcome_bind_eq_ok.mpr ⟨[], rfl, ?_⟩
  rw [Report.outcome_pure_eq_ok]
  cases clean <;> rfl

/-- Settings that are accepted, and what a source file is after a run with them. -/
structure ChangesTo (target : String) (clean : Bool) (after : Option Shape) : Prop where
  accepted : (Settings.load nestedStore {}
    [("target_dir", .value (.text target)), ("clean", .value (.boolean clean))] none).toOption
      = some (nestedSettings target clean)
  source : nestedStore.spelledPlace (nestedSettings target clean).sourceRoot
    <+: ["content", "a.css"]
  before : nestedStore.tree.shape? ["content", "a.css"] = some (.file { bytes := [1] })
  changed : (make nestedStore (nestedSettings target clean) sampleMoment).value.1.tree.shape?
    ["content", "a.css"] = after

theorem changesTo_of_runAll {target : String} {clean : Bool} {after : Option Shape}
    (haccepted : (Settings.load nestedStore {}
      [("target_dir", .value (.text target)), ("clean", .value (.boolean clean))] none).toOption
        = some (nestedSettings target clean))
    (hrun : (Action.runAll nestedStore (nestedActions target clean)).1.tree.shape?
      ["content", "a.css"] = after) :
    ChangesTo target clean after := by
  refine ⟨haccepted, ?_, by decide, ?_⟩
  · rw [sourceRoot_nested]
    decide
  · rw [store_make_of_prepare (prepare_nested target clean), hrun]

end Site

end StaticSite
