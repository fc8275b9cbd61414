import StaticSite.Proofs.Site.Planned

/-!
# Placing a site

The directories of the sources are mirrored in the target, and the files of the site are put into
them. Nothing stops this if the sources and the target lie apart, nothing is in the way of what is
planned, and the store takes the paths.

## What this module delivers

- `Layout.mirror`: a layout with the directories of another one.
- `Apart`, `NoClash`, `Feasible`: what a site needs.
- `Footing.run_directories`: the second part of a plan mirrors the directories of the sources.
- `Footing.run_files`: the last part puts the files into them.
-/

set_option autoImplicit false

namespace StaticSite

open StaticSite.Calendar StaticSite.File StaticSite.File.Ground StaticSite.Html

/-! ## Mirrored directories -/

namespace File.Layout

/-- A layout with a directory wherever another one has one. -/
def mirror (source layout : Layout) : Layout :=
  fun place =>
    match source place with
    | some .directory => some .directory
    | _ => layout place

theorem mirror_of_directory {source : Layout} {place : List String}
    (h : source place = some .directory) (layout : Layout) :
    mirror source layout place = some .directory := by
  rw [mirror, h]

theorem mirror_of_ne {source : Layout} {place : List String}
    (h : source place ≠ some .directory) (layout : Layout) :
    mirror source layout place = layout place := by
  rw [mirror]
  split
  · rename_i hsource
    exact absurd hsource h
  · rfl

/-- Things of one kind at places are at these places, and change nothing elsewhere. -/
theorem putAll_map (shape : Shape) (places : List (List String)) :
    ∀ (layout : Layout) (place : List String),
      layout.putAll (places.map fun place => (place, shape)) place
        = if place ∈ places then some shape else layout place := by
  induction places with
  | nil => intro layout place; rfl
  | cons first rest ih =>
      intro layout place
      rw [List.map_cons, putAll, List.foldl_cons]
      have hrest := ih (layout.put first shape) place
      rw [putAll] at hrest
      rw [hrest]
      by_cases hlater : place ∈ rest
      · rw [if_pos hlater, if_pos (List.mem_cons_of_mem first hlater)]
      · rw [if_neg hlater]
        by_cases hfirst : place = first
        · rw [hfirst, put_self, if_pos List.mem_cons_self]
        · rw [put_of_ne hfirst, if_neg]
          rw [List.mem_cons, not_or]
          exact ⟨hfirst, hlater⟩

end File.Layout

namespace Site

variable {store : Store} {settings : Settings} {now : Moment}

/-! ## What a site needs -/

/-- The sources and the target of a site are at places that lie apart. The target is a directory, or
has to be made in one. -/
structure Apart (store : Store) (settings : Settings) (source target : List String) : Prop where
  proper : store.tree.isProper
  source_found : store.locate settings.sourceRoot = .ok source
  target_found : store.placeOf settings.targetRoot = .ok target
  parent : store.tree.shape? target.dropLast = some .directory
  notFile : ∀ data, store.tree.shape? target ≠ some (.file data)
  target_not_above : ¬ target <+: source
  source_not_above : ¬ source <+: target

/-- Where actions make directories. -/
def directoryPaths (actions : List Action) : List Path :=
  actions.filterMap fun
    | .createDirectory path _ => some path
    | _ => none

/-- Where actions put files. -/
def filePaths (actions : List Action) : List Path :=
  actions.filterMap fun
    | .copy _ dest => some dest
    | .writeFile path _ => some path
    | _ => none

/-- Nothing is in the way of what is planned: no file is planned where a directory is, and what is
in the target already, if it stays, is of the right kind. -/
structure NoClash (store : Store) (settings : Settings) (actions : List Action) : Prop where
  planned : ∀ path ∈ filePaths actions, path ∉ directoryPaths actions
  directories : settings.clean = false → ∀ path ∈ directoryPaths actions, ∀ data,
    store.look path ≠ .ok (some (.file data))
  files : settings.clean = false → ∀ path ∈ filePaths actions, ∀ entries,
    store.look path ≠ .ok (some (.directory entries))

/-- A store takes a path if neither the path nor a name in it is too long, and none is impossible.
-/
def isTaken (path : Path) : Prop :=
  Store.pathFault? path = none ∧ ∀ name ∈ path.segments, name.utf8ByteSize ≤ Store.nameLimit

instance : DecidablePred isTaken :=
  fun path => inferInstanceAs (Decidable (Store.pathFault? path = none ∧
    ∀ name ∈ path.segments, name.utf8ByteSize ≤ Store.nameLimit))

/-- What is planned can be done with paths as they are: the store takes them, and if the target is
deleted first, its path names it and neither this path nor that of the sources leads through it. -/
structure Feasible (store : Store) (settings : Settings) (actions : List Action)
    (target : List String) : Prop where
  paths : ∀ action ∈ actions, isTaken action.path
  sources : ∀ path ∈ actions.filterMap Action.source?, isTaken path
  named : settings.clean = true →
    ∃ name, settings.targetRoot.segments.getLast? = some name ∧ name ≠ ".."
  besides : settings.clean = true → ∀ path ∈ [settings.targetRoot, settings.sourceRoot],
    ∀ visited ∈ store.leadsThrough path, ¬ target <+: visited

/-! ## The ground of a site -/

variable {source target : List String} {found : Scan} {actions : List Action}
  {node : Node}

/-- The ground on which a site is made. -/
def Apart.ground (h : Apart store settings source target) : Ground where
  base := store
  target := settings.targetRoot
  top := target
  source := settings.sourceRoot
  sourceTop := source
  target_not_above := h.target_not_above
  source_not_above := h.source_not_above

theorem Apart.located (h : Apart store settings source target) : h.ground.Located :=
  ⟨h.target_found, h.source_found, h.parent⟩

theorem Apart.exists_footing (h : Apart store settings source target)
    (hscan : (scan store settings).outcome = .ok found) :
    ∃ node, Footing h.ground settings found node := by
  obtain ⟨node, hfound, hdirectory, hproper, hlists⟩ := lists_of_scan h.proper hscan h.source_found
  exact ⟨node, rfl, rfl, h.located, hfound, hdirectory, hproper, hlists⟩

theorem Feasible.mayClear (h : Feasible store settings actions target)
    (hapart : Apart store settings source target) (hclean : settings.clean = true) :
    hapart.ground.MayClear :=
  ⟨h.named hclean, h.besides hclean _ List.mem_cons_self,
    h.besides hclean _ (List.mem_cons_of_mem _ List.mem_cons_self)⟩

/-! ## Why nothing is in the way -/

theorem path_of_puts {g : Ground} {action : Action} {output : Output} (h : g.Puts action output) :
    action.path = g.target.under output.1 := by
  cases h with
  | write place content => rfl
  | copy place names data hfault hnames hfile => rfl

theorem mem_filePaths_of_puts {g : Ground} {action : Action} {output : Output}
    (h : g.Puts action output) (hmem : action ∈ actions) :
    g.target.under output.1 ∈ filePaths actions := by
  rw [filePaths, List.mem_filterMap]
  refine ⟨action, hmem, ?_⟩
  cases h with
  | write place content => rfl
  | copy place names data hfault hnames hfile => rfl

/-- A path that the store takes, with names that lead from the target. -/
theorem takes_of_isTaken {g : Ground} {place : List String}
    (h : isTaken (g.target.under place)) (hback : ∀ name ∈ place, name ≠ "..") :
    g.Takes place := by
  obtain ⟨hfault, hshort⟩ := h
  refine ⟨hfault, ?_⟩
  intro name hname
  exact ⟨hback name hname, hshort name (List.mem_append_right _ hname)⟩

/-- What is in the target is seen under its path. -/
theorem look_of_takes {g : Ground} (hlocated : g.Located) {place : List String}
    (htakes : g.Takes place) {shape : Shape}
    (hshape : g.base.tree.shape? (g.top ++ place) = some shape) :
    ∃ node, g.base.look (g.target.under place) = .ok (some node) ∧ node.shape = shape := by
  have htop : (g.base.tree.shape? g.top).isSome := by
    cases place with
    | nil =>
        rw [List.append_nil] at hshape
        rw [hshape]
        rfl
    | cons name rest =>
        rw [Node.shape?_of_append (List.cons_ne_nil name rest) (by rw [hshape]; rfl)]
        rfl
  have hlook := Store.look_under (Store.locate_of_placeOf hlocated.target htop) htakes.fault
    htakes.names htop
  rw [Node.shape?, Option.map_eq_some_iff] at hshape
  obtain ⟨node, hnode, hsame⟩ := hshape
  exact ⟨node, by rw [hlook, hnode], hsame⟩

variable {g : Ground}

/-- What was in the target, if it stays, is no file where a directory is planned. -/
theorem old_ne_file (hlocated : g.Located) (hclash : NoClash g.base settings actions)
    {place : List String} (htakes : g.Takes place)
    (hmem : g.target.under place ∈ directoryPaths actions) (data : FileData) :
    g.old settings.clean place ≠ some (.file data) := by
  intro hold
  cases hclean : settings.clean with
  | true => simp [old, hclean] at hold
  | false =>
      rw [old, hclean, if_neg Bool.false_ne_true] at hold
      obtain ⟨node, hlook, hnode⟩ := look_of_takes hlocated htakes hold
      cases node with
      | file other => exact hclash.directories hclean _ hmem other hlook
      | directory entries => exact absurd hnode (by simp [Node.shape])

/-- What was in the target, if it stays, is no directory where a file is planned. -/
theorem old_ne_directory (hlocated : g.Located) (hclash : NoClash g.base settings actions)
    {place : List String} (htakes : g.Takes place)
    (hmem : g.target.under place ∈ filePaths actions) :
    g.old settings.clean place ≠ some .directory := by
  intro hold
  cases hclean : settings.clean with
  | true => simp [old, hclean] at hold
  | false =>
      rw [old, hclean, if_neg Bool.false_ne_true] at hold
      obtain ⟨node, hlook, hnode⟩ := look_of_takes hlocated htakes hold
      obtain ⟨entries, rfl⟩ := Node.shape_eq_directory.mp hnode
      exact hclash.files hclean _ hmem entries hlook

/-! ## The directories -/

/-- What is at the places below the sources. -/
def sourceLayout (g : Ground) : Layout :=
  fun place => g.base.tree.shape? (g.sourceTop ++ place)

namespace Footing

theorem shape?_node (h : Footing g settings found node) (place : List String) :
    sourceLayout g place = node.shape? place := by
  rw [sourceLayout, Node.shape?, Node.get?_append, h.found]
  rfl

theorem directoryActions_eq (h : Footing g settings found node) :
    directoryActions settings found = (directoryPlaces node).map fun place =>
      Action.createDirectory (g.target.under place) true := by
  rw [directoryActions, h.lists.directories, List.map_map]
  apply List.map_congr_left
  intro place _
  show Action.createDirectory (placeOn settings.targetRoot found.root _) true = _
  rw [h.lists.root, placeOn_under, h.target]

theorem mem_directoryPaths (h : Footing g settings found node) {place : List String}
    (hplace : place ∈ directoryPlaces node)
    (hactions : ∀ action ∈ directoryActions settings found, action ∈ actions) :
    Action.createDirectory (g.target.under place) true ∈ actions ∧
      g.target.under place ∈ directoryPaths actions := by
  have hmem : Action.createDirectory (g.target.under place) true ∈ actions := by
    apply hactions _
    rw [h.directoryActions_eq]
    exact List.mem_map.mpr ⟨place, hplace, rfl⟩
  refine ⟨hmem, ?_⟩
  rw [directoryPaths, List.mem_filterMap]
  exact ⟨_, hmem, rfl⟩

/-- With a directory at the top and all others, the directories of the sources are mirrored. -/
theorem putAll_directories (h : Footing g settings found node) (layout : Layout) :
    (layout.put [] .directory).putAll
        ((directoryPlaces node).map fun place => (place, Shape.directory))
      = Layout.mirror (sourceLayout g) layout := by
  funext place
  rw [Layout.putAll_map]
  by_cases hlisted : place ∈ directoryPlaces node
  · obtain ⟨-, hshape⟩ := (mem_directoryPlaces h.proper).mp hlisted
    rw [if_pos hlisted, Layout.mirror_of_directory]
    rw [h.shape?_node, hshape]
  · rw [if_neg hlisted]
    by_cases htop : place = []
    · subst htop
      rw [Layout.put_self, Layout.mirror_of_directory]
      rw [h.shape?_node, Node.shape?, Node.get?_nil, Option.map_some, h.directory]
    · rw [Layout.put_of_ne htop, Layout.mirror_of_ne]
      rw [h.shape?_node]
      exact fun hshape => hlisted ((mem_directoryPlaces h.proper).mpr ⟨htop, hshape⟩)

/-- The second part of a plan mirrors the directories of the sources. -/
theorem run_directories (h : Footing g settings found node)
    (hclash : NoClash g.base settings actions)
    (hfeasible : Feasible g.base settings actions target)
    (hactions : ∀ action ∈ directoryActions settings found, action ∈ actions)
    (hcarries : g.Carries ((g.old settings.clean).put [] .directory) store) :
    ∃ store', Action.runAll store (directoryActions settings found) = (store', none) ∧
      g.Carries (Layout.mirror (sourceLayout g) (g.old settings.clean)) store' := by
  have htakes : ∀ place ∈ directoryPlaces node, g.Takes place := by
    intro place hplace
    obtain ⟨-, hshape⟩ := (mem_directoryPlaces h.proper).mp hplace
    obtain ⟨entries, hget⟩ := Node.shape?_eq_directory.mp hshape
    obtain ⟨hnames, -⟩ := Node.isName_of_get? place node h.proper hget
    obtain ⟨hmem, -⟩ := h.mem_directoryPaths hplace hactions
    exact takes_of_isTaken (hfeasible.paths _ hmem)
      fun name hname => (isName_iff.mp (hnames name hname)).1.2
  -- below the top nothing is but what was there before
  have hfree : ∀ place ∈ directoryPlaces node, ∀ data,
      (g.old settings.clean).put [] .directory place ≠ some (.file data) := by
    intro place hplace data
    obtain ⟨hne, -⟩ := (mem_directoryPlaces h.proper).mp hplace
    obtain ⟨-, hpath⟩ := h.mem_directoryPaths hplace hactions
    rw [Layout.put_of_ne hne]
    exact old_ne_file h.located hclash (htakes place hplace) hpath data
  have hknown : ∀ place ∈ [([] : List String)],
      (g.old settings.clean).put [] .directory place = some .directory := by
    intro place hplace
    rw [List.mem_singleton.mp hplace, Layout.put_self]
  rw [h.directoryActions_eq, ← h.putAll_directories]
  exact hcarries.directories (directoryPlaces node) (Layout.put_self _ _ _) hknown
    (parentsFirst_directoryPlaces h.proper) htakes hfree

/-! ## The files -/

/-- The last part of a plan puts the files of the site into these directories. -/
theorem run_files (h : Footing g settings found node)
    (hclash : NoClash g.base settings actions)
    (hfeasible : Feasible g.base settings actions target)
    (hdirectories : ∀ action ∈ directoryActions settings found, action ∈ actions)
    {last : List Action} (hactions : ∀ action ∈ last, action ∈ actions) {outputs : List Output}
    (hplaces : List.Forall₂ (Places g node) last outputs)
    (hcarries : g.Carries (Layout.mirror (sourceLayout g) (g.old settings.clean)) store) :
    ∃ store', Action.runAll store last = (store', none) ∧
      g.Carries ((Layout.mirror (sourceLayout g) (g.old settings.clean)).putAll
        (outputs.map outputShape)) store' := by
  have hputs : ∀ output ∈ outputs, Placed node output.1 ∧ g.Takes output.1 ∧
      g.target.under output.1 ∈ filePaths actions := by
    intro output houtput
    obtain ⟨action, haction, hputs, hplaced⟩ := exists_of_mem_right hplaces output houtput
    have htaken := hfeasible.paths action (hactions action haction)
    rw [path_of_puts hputs] at htaken
    exact ⟨hplaced, takes_of_isTaken htaken hplaced.back,
      mem_filePaths_of_puts hputs (hactions action haction)⟩
  have htop : Layout.mirror (sourceLayout g) (g.old settings.clean) [] = some .directory := by
    rw [Layout.mirror_of_directory]
    rw [h.shape?_node, Node.shape?, Node.get?_nil, Option.map_some, h.directory]
  refine hcarries.outputs (hplaces.imp fun _ _ hboth => hboth.1) htop
    (fun output houtput => (hputs output houtput).2.1) ?_
  intro output houtput
  obtain ⟨hplaced, htakes, hpath⟩ := hputs output houtput
  refine ⟨hplaced.ne, ?_, ?_⟩
  · rw [Layout.mirror_of_directory]
    rw [h.shape?_node, hplaced.parent]
  · by_cases hsource : sourceLayout g output.1 = some .directory
    · -- then a directory would be planned there
      rw [h.shape?_node] at hsource
      have hlisted := (mem_directoryPlaces h.proper).mpr ⟨hplaced.ne, hsource⟩
      obtain ⟨-, hdirectory⟩ := h.mem_directoryPaths hlisted hdirectories
      exact absurd hdirectory (hclash.planned _ hpath)
    · rw [Layout.mirror_of_ne hsource]
      exact old_ne_directory h.located hclash htakes hpath

end Footing

end Site

end StaticSite
