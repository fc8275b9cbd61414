import StaticSite.Proofs.File.Clearing
import StaticSite.Proofs.Site.PagePlace

/-!
# What a plan says

A plan begins with the target itself, goes on with a directory for every one of the sources, and
ends with files: the copies, the style sheet of highlighted code, the feeds and the pages. Every
file goes to a place below the target that names lead to, into a directory that the sources have
too.

## What this module delivers

- `IsCopy`, `IsFilled`, `IsPage`, `Files`: the files of a site, each with its place and its bytes.
- `plan_eq_ok`: the parts of a plan, in order.
- `Placed`: a place in a directory that the sources have.
- `Footing.exists_files`: the last part of a plan puts the files of the site at such places, and
  writes all of them but the copies.
-/

set_option autoImplicit false

namespace StaticSite.Site

open StaticSite.Calendar StaticSite.File StaticSite.File.Ground StaticSite.Html

variable {store : Store} {settings : Settings} {scan : Scan} {renderer : Renderer} {now : Moment}

/-! ## The files of a site -/

/-- A copy is where its file is in the sources, with the same bytes. -/
def IsCopy (store : Store) (root path : Path) (output : Output) : Prop :=
  path = root.under output.1 ∧ ∃ data, store.read path = .ok data ∧ output.2 = data.bytes

/-- A filled feed is where its file is in the sources. -/
def IsFilled (scan : Scan) (renderer : Renderer) (now : Moment) (feed : Feed)
    (output : Output) : Prop :=
  feed.path = scan.root.under output.1 ∧
    output.2 = encode (feed.fill scan.posts renderer.markdown now)

/-- A page is where the address of its post says: at the path that the address without its slash
names, as seen from the target. -/
def IsPage (store : Store) (settings : Settings) (scan : Scan) (renderer : Renderer) (post : Post)
    (output : Output) : Prop :=
  settings.targetRoot.child (String.ofList post.uri.toList.tail)
      = settings.targetRoot.under output.1 ∧
    ∃ text, (page store scan renderer post).outcome = .ok text ∧ output.2 = encode text

/-- The style sheet of highlighted code, if code is highlighted. -/
def sheetOutputs (renderer : Renderer) : List Output :=
  if renderer.highlights then [([Highlight.stylesheetName], encode Highlight.stylesheet)] else []

/-- The files that are put into the target. -/
structure Files where
  copies : List Output
  sheet : List Output
  feeds : List Output
  pages : List Output

/-- The files in the order in which they are put there. -/
def Files.inOrder (files : Files) : List Output :=
  files.copies ++ files.sheet ++ files.feeds ++ files.pages

/-- Files are those of a site: one for every copy, feed and post of the scan. -/
structure Files.AreOf (files : Files) (store : Store) (settings : Settings) (scan : Scan)
    (renderer : Renderer) (now : Moment) : Prop where
  copies : List.Forall₂ (IsCopy store scan.root) scan.copies files.copies
  sheet : files.sheet = sheetOutputs renderer
  feeds : List.Forall₂ (IsFilled scan renderer now) scan.feeds files.feeds
  pages : List.Forall₂ (IsPage store settings scan renderer) scan.posts files.pages

/-! ## The parts of a plan -/

/-- The actions for the target itself. -/
def targetActions (settings : Settings) : List Action :=
  (if settings.clean then [.deleteDirectory settings.targetRoot true true] else []) ++
    [.createDirectory settings.targetRoot true]

/-- The actions for the directories below the target. -/
def directoryActions (settings : Settings) (scan : Scan) : List Action :=
  scan.directories.map fun path =>
    .createDirectory (placeOn settings.targetRoot scan.root path) true

/-- The actions for the copies. -/
def copyActions (settings : Settings) (scan : Scan) : List Action :=
  scan.copies.map fun path => .copy path (placeOn settings.targetRoot scan.root path)

/-- The action for the style sheet of highlighted code. -/
def sheetActions (settings : Settings) (renderer : Renderer) : List Action :=
  if renderer.highlights then
    [.writeFile (settings.targetRoot.child Highlight.stylesheetName) Highlight.stylesheet]
  else []

/-- The actions for the feeds. -/
def feedActions (settings : Settings) (scan : Scan) (renderer : Renderer) (now : Moment) :
    List Action :=
  scan.feeds.map fun feed => .writeFile (placeOn settings.targetRoot scan.root feed.path)
    (feed.fill scan.posts renderer.markdown now)

/-- The action for a page. -/
def WritesPage (store : Store) (settings : Settings) (scan : Scan) (renderer : Renderer)
    (post : Post) (action : Action) : Prop :=
  ∃ text, (page store scan renderer post).outcome = .ok text ∧
    action = .writeFile (pagePlace settings scan.root post.path) text

/-- A plan is for the target, then for the directories, then for the files, and for the pages in the
end. -/
theorem plan_eq_ok {actions : List Action}
    (h : (plan store settings scan renderer now).outcome = .ok actions) :
    ∃ pages, List.Forall₂ (WritesPage store settings scan renderer) scan.posts pages ∧
      actions = targetActions settings ++ directoryActions settings scan ++
        (copyActions settings scan ++ sheetActions settings renderer ++
          feedActions settings scan renderer now ++ pages) := by
  simp only [plan] at h
  obtain ⟨pages, hpages, h⟩ := Report.outcome_bind_eq_ok.mp h
  obtain rfl := Report.outcome_pure_eq_ok.mp h
  refine ⟨pages, ?_, ?_⟩
  · apply (Report.outcome_mapM_eq_ok.mp hpages).imp
    intro post action haction
    obtain ⟨text, htext, hpure⟩ := Report.outcome_bind_eq_ok.mp haction
    exact ⟨text, htext, (Report.outcome_pure_eq_ok.mp hpure).symm⟩
  · simp only [targetActions, directoryActions, copyActions, sheetActions, feedActions,
      List.map_cons, List.map_map, List.append_assoc, List.nil_append, List.cons_append,
      Function.comp_def]

/-! ## Places of files -/

/-- A place below the target in a directory that the sources have: names lead to it. -/
structure Placed (node : Node) (place : List String) : Prop where
  ne : place ≠ []
  parent : node.shape? place.dropLast = some .directory
  back : ∀ name ∈ place, name ≠ ".."

variable {node : Node} {names : List String}

/-- A source file is at such a place itself. -/
theorem placed_of_get? (hproper : node.isProper) (hne : names ≠ []) {data : FileData}
    (h : node.get? names = some (.file data)) : Placed node names := by
  obtain ⟨hnames, -⟩ := Node.isName_of_get? names node hproper h
  refine ⟨hne, ?_, fun name hname => (isName_iff.mp (hnames name hname)).1.2⟩
  have hsome : (node.shape? (names.dropLast ++ [names.getLast hne])).isSome := by
    rw [List.dropLast_append_getLast hne, Node.shape?_eq_file.mpr h]
    rfl
  exact Node.shape?_of_append (List.cons_ne_nil _ []) hsome

/-- So is the page for it, which is next to it. -/
theorem placed_pageNames (hproper : node.isProper) (hne : names ≠ []) {data : FileData}
    (h : node.get? names = some (.file data)) {extension : String} (hextension : extension ≠ "")
    (hslash : '/' ∉ extension.toList) : Placed node (pageNames names extension) := by
  obtain ⟨hnames, -⟩ := Node.isName_of_get? names node hproper h
  refine ⟨pageNames_ne_nil names extension, ?_, ?_⟩
  · rw [dropLast_pageNames]
    exact (placed_of_get? hproper hne h).parent
  · exact fun name hname => (isSegment_pageNames hne hnames hextension hslash name hname).2

/-- The style sheet of highlighted code is at the top. -/
theorem placed_stylesheet (hnode : node.shape = .directory) :
    Placed node [Highlight.stylesheetName] := by
  refine ⟨by simp, ?_, ?_⟩
  · rw [List.dropLast_singleton, Node.shape?, Node.get?_nil, Option.map_some, hnode]
  · intro name hname
    rw [List.mem_singleton.mp hname]
    decide

/-! ## What the last part puts -/

/-- What a site is made of: a scan of a node at the source of a ground. -/
structure Footing (g : Ground) (settings : Settings) (scan : Scan) (node : Node) : Prop where
  target : g.target = settings.targetRoot
  source : g.source = settings.sourceRoot
  located : g.Located
  found : g.base.tree.get? g.sourceTop = some node
  directory : node.shape = .directory
  proper : node.isProper
  lists : scan.Lists settings node

/-- An action puts a file at a place in a directory that the sources have. -/
def Places (g : Ground) (node : Node) (action : Action) (output : Output) : Prop :=
  g.Puts action output ∧ Placed node output.1

variable {g : Ground}

theorem placeOn_under (target root : Path) (names : List String) :
    placeOn target root (root.under names) = target.under names := by
  rw [placeOn, Path.relativeTo?_under, Option.getD_some, Path.join_relative]

theorem Footing.root (h : Footing g settings scan node) : scan.root = g.source := by
  rw [h.lists.root, h.source]

theorem Footing.exists_copies (h : Footing g settings scan node)
    (hfault : ∀ path ∈ scan.copies, Store.pathFault? path = none) :
    ∃ outputs, List.Forall₂ (IsCopy g.base scan.root) scan.copies outputs ∧
      List.Forall₂ (Places g node) (copyActions settings scan) outputs := by
  have hactions : List.Forall₂
      (fun path action => action = Action.copy path (placeOn settings.targetRoot scan.root path))
      scan.copies (copyActions settings scan) := by
    rw [copyActions, List.forall₂_map_right_iff]
    exact List.forall₂_same.mpr fun _ _ => rfl
  apply exists_between hactions
  rintro path hpath action rfl
  obtain ⟨names, data, hsame, hne, hfile⟩ := h.lists.copies path hpath
  rw [← h.source] at hsame
  have hget : g.base.tree.get? (g.sourceTop ++ names) = some (.file data) := by
    rw [Node.get?_append, h.found]
    exact hfile
  obtain ⟨hproper, -⟩ := Node.isName_of_get? names node h.proper hfile
  have hnames : areNames names := areNames_of_isName hproper
  have hpathFault : Store.pathFault? (g.source.under names) = none := hsame ▸ hfault path hpath
  refine ⟨(names, data.bytes), ⟨?_, data, ?_, rfl⟩, ?_, placed_of_get? h.proper hne hfile⟩
  · rw [h.root, hsame]
  · rw [hsame]
    exact Store.read_under h.located.source hpathFault hnames hget
  · rw [h.root, ← h.target, hsame, placeOn_under]
    exact Puts.copy names names data hpathFault hnames (Node.shape?_eq_file.mpr hget)

theorem Footing.places_sheet (h : Footing g settings scan node) (renderer : Renderer) :
    List.Forall₂ (Places g node) (sheetActions settings renderer) (sheetOutputs renderer) := by
  rw [sheetActions, sheetOutputs]
  by_cases hhighlights : renderer.highlights = true
  · rw [if_pos hhighlights, if_pos hhighlights]
    refine List.Forall₂.cons ⟨?_, placed_stylesheet h.directory⟩ List.Forall₂.nil
    have hchild : settings.targetRoot.child Highlight.stylesheetName
        = g.target.under [Highlight.stylesheetName] := by
      rw [h.target]
      exact Path.join_relative settings.targetRoot [Highlight.stylesheetName]
    rw [hchild]
    exact Puts.write [Highlight.stylesheetName] Highlight.stylesheet
  · rw [if_neg hhighlights, if_neg hhighlights]
    exact List.Forall₂.nil

theorem Footing.exists_feeds (h : Footing g settings scan node) (renderer : Renderer)
    (now : Moment) :
    ∃ outputs, List.Forall₂ (IsFilled scan renderer now) scan.feeds outputs ∧
      List.Forall₂ (Places g node) (feedActions settings scan renderer now) outputs := by
  have hactions : List.Forall₂ (fun feed action =>
        action = Action.writeFile (placeOn settings.targetRoot scan.root feed.path)
          (feed.fill scan.posts renderer.markdown now))
      scan.feeds (feedActions settings scan renderer now) := by
    rw [feedActions, List.forall₂_map_right_iff]
    exact List.forall₂_same.mpr fun _ _ => rfl
  apply exists_between hactions
  rintro feed hfeed action rfl
  obtain ⟨names, data, hsame, hne, hfile⟩ := h.lists.feeds feed hfeed
  rw [← h.source] at hsame
  refine ⟨(names, encode (feed.fill scan.posts renderer.markdown now)), ⟨?_, rfl⟩, ?_,
    placed_of_get? h.proper hne hfile⟩
  · rw [h.root, hsame]
  · rw [h.root, ← h.target, hsame, placeOn_under]
    exact Puts.write names _

theorem Footing.exists_pages (h : Footing g settings scan node) {pages : List Action}
    (hpages : List.Forall₂ (WritesPage g.base settings scan renderer) scan.posts pages) :
    ∃ outputs, List.Forall₂ (IsPage g.base settings scan renderer) scan.posts outputs ∧
      List.Forall₂ (Places g node) pages outputs := by
  apply exists_between hpages
  rintro post hpost action ⟨text, htext, rfl⟩
  obtain ⟨⟨names, data, hsame, hne, hfile⟩, haddress⟩ := h.lists.posts post hpost
  obtain ⟨hnames, -⟩ := Node.isName_of_get? names node h.proper hfile
  rw [hsame] at haddress
  obtain ⟨hextension, hslash, -⟩ := address?_under haddress
  refine ⟨(pageNames names settings.pageExtension, encode text), ⟨?_, text, htext, rfl⟩, ?_,
    placed_pageNames h.proper hne hfile hextension hslash⟩
  · exact child_uri settings.targetRoot hne hnames haddress
  · rw [h.lists.root, hsame, pagePlace_under hne hextension hslash, ← h.target]
    exact Puts.write _ text

/-! ## What is written -/

theorem written_append (first rest : List Action) :
    written (first ++ rest) = written first ++ written rest := by
  rw [written, List.filterMap_append]
  rfl

/-- Actions that write no file write none. -/
theorem written_eq_nil {actions : List Action}
    (h : ∀ action ∈ actions, ∀ path text, action ≠ .writeFile path text) :
    written actions = [] := by
  rw [written, List.filterMap_eq_nil_iff]
  intro action haction
  cases action with
  | writeFile path text => exact absurd rfl (h _ haction path text)
  | copy source dest => rfl
  | deleteDirectory path absentOk all => rfl
  | createDirectory path existsOk => rfl

theorem written_targetActions (settings : Settings) : written (targetActions settings) = [] := by
  apply written_eq_nil
  intro action haction path text
  rcases List.mem_append.mp haction with hdelete | hcreate
  · by_cases hclean : settings.clean = true
    · rw [if_pos hclean, List.mem_singleton] at hdelete
      simp [hdelete]
    · rw [if_neg hclean] at hdelete
      cases hdelete
  · simp [List.mem_singleton.mp hcreate]

theorem written_directoryActions (settings : Settings) (scan : Scan) :
    written (directoryActions settings scan) = [] := by
  apply written_eq_nil
  intro action haction path text
  obtain ⟨directory, -, rfl⟩ := List.mem_map.mp haction
  simp

theorem written_copyActions (settings : Settings) (scan : Scan) :
    written (copyActions settings scan) = [] := by
  apply written_eq_nil
  intro action haction path text
  obtain ⟨copied, -, rfl⟩ := List.mem_map.mp haction
  simp

/-- Actions that write files at places write the files at these places. -/
theorem written_of_places {actions : List Action} {outputs : List Output}
    (h : List.Forall₂ (Places g node) actions outputs)
    (hwrite : ∀ action ∈ actions, ∃ path text, action = .writeFile path text) :
    written actions = outputs.map fun output => g.target.under output.1 := by
  induction h with
  | nil => rfl
  | @cons action output actions outputs hfirst _ ih =>
      have hrest := ih fun other hother => hwrite other (List.mem_cons_of_mem action hother)
      obtain ⟨path, text, rfl⟩ := hwrite action List.mem_cons_self
      obtain ⟨hputs, -⟩ := hfirst
      -- a written file is no copy
      cases hputs with
      | write place content => rw [List.map_cons, ← hrest]; rfl

/-- The last part of a plan puts the files of the site, each in a directory that the sources have,
and writes all but the copies. -/
theorem Footing.exists_files (h : Footing g settings scan node) (now : Moment)
    (hfault : ∀ path ∈ scan.copies, Store.pathFault? path = none) {pages : List Action}
    (hpages : List.Forall₂ (WritesPage g.base settings scan renderer) scan.posts pages) :
    ∃ files : Files, files.AreOf g.base settings scan renderer now ∧
      List.Forall₂ (Places g node)
        (copyActions settings scan ++ sheetActions settings renderer ++
          feedActions settings scan renderer now ++ pages) files.inOrder ∧
      written (copyActions settings scan ++ sheetActions settings renderer ++
          feedActions settings scan renderer now ++ pages)
        = (files.sheet ++ files.feeds ++ files.pages).map fun output => g.target.under output.1 := by
  obtain ⟨copies, hcopies, hcopyActions⟩ := h.exists_copies hfault
  obtain ⟨feeds, hfeeds, hfeedActions⟩ := h.exists_feeds renderer now
  obtain ⟨outputs, houtputs, hpageActions⟩ := h.exists_pages hpages
  have hsheetActions := h.places_sheet renderer
  refine ⟨⟨copies, sheetOutputs renderer, feeds, outputs⟩, ⟨hcopies, rfl, hfeeds, houtputs⟩, ?_, ?_⟩
  · exact List.rel_append (List.rel_append (List.rel_append hcopyActions hsheetActions)
      hfeedActions) hpageActions
  · have hsheet : written (sheetActions settings renderer)
        = (sheetOutputs renderer).map fun output => g.target.under output.1 := by
      apply written_of_places hsheetActions
      intro action haction
      rw [sheetActions] at haction
      by_cases hhighlights : renderer.highlights = true
      · rw [if_pos hhighlights, List.mem_singleton] at haction
        exact ⟨_, _, haction⟩
      · rw [if_neg hhighlights] at haction
        cases haction
    have hfeed : written (feedActions settings scan renderer now)
        = feeds.map fun output => g.target.under output.1 := by
      apply written_of_places hfeedActions
      intro action haction
      obtain ⟨feed, -, rfl⟩ := List.mem_map.mp haction
      exact ⟨_, _, rfl⟩
    have hpage : written pages = outputs.map fun output => g.target.under output.1 := by
      apply written_of_places hpageActions
      intro action haction
      obtain ⟨post, -, text, -, rfl⟩ := exists_of_mem_right hpages action haction
      exact ⟨_, _, rfl⟩
    rw [written_append, written_append, written_append, written_copyActions, hsheet, hfeed, hpage,
      List.nil_append, List.map_append, List.map_append]

end StaticSite.Site
