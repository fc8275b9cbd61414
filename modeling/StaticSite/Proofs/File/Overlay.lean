import StaticSite.File.Action
import StaticSite.Proofs.File.Reach
import Mathlib.Data.List.Forall2

/-!
# Building on a store

Actions that make directories and write files below one directory change a store in a simple way:
outside of the directory nothing changes, and below it every action puts one thing at one place. So
the store after a list of actions is the store before, overlaid with what the actions put, later
ones over earlier ones.

## What this module delivers

- `Layout`, `Layout.put`, `Layout.putAll`: what is below a directory, and what is put there.
- `Ground`, `Ground.Carries`: a store that is built on, and the store with a layout built on it.
- `Carries.put`: the one step that all actions take.
- `Carries.create`, `Carries.write`, `Carries.copy`: a single action.
- `Carries.directories`, `Carries.outputs`: lists of actions, by induction.
-/

set_option autoImplicit false

namespace StaticSite.File

/-! ## Layouts -/

/-- What is at the places below a directory. -/
abbrev Layout := List String → Option Shape

/-- A file that is put below a directory: the names that lead to it there, and its bytes. -/
abbrev Output := List String × List UInt8

namespace Layout

/-- The layout with something at a place. -/
def put (place : List String) (shape : Shape) (layout : Layout) : Layout :=
  fun other => if other = place then some shape else layout other

/-- The layout with things at places, the later ones in the place of the earlier ones. -/
def putAll (items : List (List String × Shape)) (layout : Layout) : Layout :=
  items.foldl (fun layout item => layout.put item.1 item.2) layout

theorem put_self (place : List String) (shape : Shape) (layout : Layout) :
    layout.put place shape place = some shape :=
  if_pos rfl

theorem put_of_ne {place other : List String} (h : other ≠ place) (shape : Shape)
    (layout : Layout) : layout.put place shape other = layout other :=
  if_neg h

/-- Putting a thing where it is changes nothing. -/
theorem put_eq_self {place : List String} {shape : Shape} {layout : Layout}
    (h : layout place = some shape) : layout.put place shape = layout := by
  funext other
  by_cases hother : other = place
  · rw [hother, put_self, h]
  · rw [put_of_ne hother]

end Layout

/-! ## The ground -/

/-- A store in which a target is built from a source, which lie apart. -/
structure Ground where
  base : Store
  target : Path
  top : List String
  source : Path
  sourceTop : List String
  target_not_above : ¬ top <+: sourceTop
  source_not_above : ¬ sourceTop <+: top

/-- A store is the ground with a layout at the target: outside of the target all is as it was, and
the two paths still lead where they should. -/
structure Ground.Carries (g : Ground) (layout : Layout) (store : Store) : Prop where
  here : store.here = g.base.here
  outside : ∀ place, ¬ g.top <+: place → store.tree.shape? place = g.base.tree.shape? place
  inside : ∀ rest, store.tree.shape? (g.top ++ rest) = layout rest
  target : store.locate g.target = .ok g.top
  source : store.locate g.source = .ok g.sourceTop

namespace Ground

variable {g : Ground} {layout : Layout} {store : Store} {place : List String}

theorem not_prefix_source (g : Ground) (rest : List String) : ¬ g.top <+: g.sourceTop ++ rest := by
  intro hpre
  rcases List.prefix_or_prefix_of_prefix hpre (List.prefix_append g.sourceTop rest) with h | h
  · exact g.target_not_above h
  · exact g.source_not_above h

theorem Carries.top_isSome (h : g.Carries layout store) (htop : layout [] = some .directory) :
    (store.tree.shape? g.top).isSome := by
  have hinside := h.inside []
  rw [List.append_nil, htop] at hinside
  rw [hinside]
  rfl

/-- Putting something that holds nothing at a place below the target. The place has to be in a
directory, and must not be one. -/
theorem Carries.put (h : g.Carries layout store) (hplace : place ≠ [])
    (hparent : layout place.dropLast = some .directory) (hfree : layout place ≠ some .directory)
    (new : Node) (hnew : ∀ rest, rest ≠ [] → new.shape? rest = none) :
    g.Carries (layout.put place new.shape)
      { store with tree := Node.set new (g.top ++ place) store.tree } := by
  have hne : g.top ++ place ≠ [] := by simp [hplace]
  have hdrop : (g.top ++ place).dropLast = g.top ++ place.dropLast :=
    List.dropLast_append_of_ne_nil hplace
  have hparent' : store.tree.shape? (g.top ++ place).dropLast = some .directory := by
    rw [hdrop, h.inside, hparent]
  have hfree' : store.tree.shape? (g.top ++ place) ≠ some .directory := by
    rw [h.inside]
    exact hfree
  have hother : ∀ other, ¬ (g.top ++ place) <+: other →
      (Node.set new (g.top ++ place) store.tree).shape? other = store.tree.shape? other :=
    fun other => Node.shape?_set_of_not_prefix new (g.top ++ place) store.tree other hne hparent'
  -- directories stay, since the place is none and nothing is below it
  have hstays : ∀ other, store.tree.shape? other = some .directory →
      (Node.set new (g.top ++ place) store.tree).shape? other = some .directory := by
    intro other hdirectory
    rw [hother other, hdirectory]
    rintro ⟨rest, rfl⟩
    cases rest with
    | nil => exact hfree' (by simpa using hdirectory)
    | cons name rest =>
        rw [Node.shape?_append_eq_none (by simp) hfree'] at hdirectory
        exact absurd hdirectory (by simp)
  -- so a path that does not lead to the place or below it leads where it led
  have hkept : ∀ {path : Path} {found : List String}, store.locate path = .ok found →
      ¬ (g.top ++ place) <+: found →
        ({ store with tree := Node.set new (g.top ++ place) store.tree } : Store).locate path
          = .ok found := by
    intro path found hpath hfound
    refine Store.locate_transfer hpath rfl ?_ ?_
    · exact fun visited hvisited =>
        hstays visited (Store.shape?_of_mem_leadsThrough hpath visited hvisited)
    · intro hsome
      rwa [hother found hfound]
  refine ⟨h.here, ?_, ?_, ?_, ?_⟩
  · intro other houtside
    rw [hother other, h.outside other houtside]
    intro hpre
    exact houtside ((List.prefix_append g.top place).trans hpre)
  · intro rest
    by_cases hrest : place <+: rest
    · obtain ⟨more, rfl⟩ := hrest
      rw [← List.append_assoc, Node.shape?_set_append]
      cases more with
      | nil => rw [List.append_nil, Layout.put_self]; rfl
      | cons name more =>
          rw [hnew _ (by simp), Layout.put_of_ne (by simp), ← h.inside, ← List.append_assoc,
            Node.shape?_append_eq_none (by simp) hfree']
    · have hrest' : ¬ (g.top ++ place) <+: g.top ++ rest := by
        rwa [List.prefix_append_right_inj]
      have hne' : rest ≠ place := by
        rintro rfl
        exact hrest (List.prefix_refl rest)
      rw [hother _ hrest', h.inside, Layout.put_of_ne hne']
  · apply hkept h.target
    intro hpre
    have hlength := hpre.length_le
    rw [List.length_append] at hlength
    exact hplace (List.length_eq_zero_iff.mp (by omega))
  · apply hkept h.source
    intro hpre
    exact g.target_not_above ((List.prefix_append g.top place).trans hpre)

/-! ## Single actions -/

theorem Carries.look (h : g.Carries layout store)
    (hfault : Store.pathFault? (g.target.under place) = none) (hnames : areNames place)
    (htop : layout [] = some .directory) :
    ∃ found, store.look (g.target.under place) = .ok found ∧ found.map Node.shape = layout place := by
  refine ⟨store.tree.get? (g.top ++ place), ?_, h.inside place⟩
  exact Store.look_under h.target hfault hnames (h.top_isSome htop)

theorem Carries.placeOf (h : g.Carries layout store)
    (hfault : Store.pathFault? (g.target.under place) = none) (hnames : areNames place)
    (hplace : place ≠ []) (hparent : layout place.dropLast = some .directory) :
    store.placeOf (g.target.under place) = .ok (g.top ++ place) := by
  apply Store.placeOf_under h.target hfault hnames hplace
  rw [h.inside, hparent]

theorem shape?_empty (rest : List String) (hrest : rest ≠ []) :
    Node.empty.shape? rest = none := by
  cases rest with
  | nil => exact absurd rfl hrest
  | cons name rest => rfl

theorem shape?_file (data : FileData) (rest : List String) (hrest : rest ≠ []) :
    (Node.file data).shape? rest = none := by
  cases rest with
  | nil => exact absurd rfl hrest
  | cons name rest => rfl

/-- Making a directory puts a directory at its place, unless one is there. -/
theorem Carries.create (h : g.Carries layout store)
    (hfault : Store.pathFault? (g.target.under place) = none) (hnames : areNames place)
    (htop : layout [] = some .directory)
    (hparent : place = [] ∨ layout place.dropLast = some .directory)
    (hfree : ∀ data, layout place ≠ some (.file data)) :
    ∃ store', Action.run store (.createDirectory (g.target.under place) true) = (store', none) ∧
      g.Carries (layout.put place .directory) store' := by
  obtain ⟨found, hlook, hfound⟩ := h.look hfault hnames htop
  cases hlayout : layout place with
  | some shape =>
      cases shape with
      | file data => exact absurd hlayout (hfree data)
      | directory =>
          rw [hlayout, Option.map_eq_some_iff] at hfound
          obtain ⟨node, rfl, hnode⟩ := hfound
          obtain ⟨entries, rfl⟩ := Node.shape_eq_directory.mp hnode
          refine ⟨store, ?_, ?_⟩
          · simp only [Action.run, Action.runCreate, hlook, if_true]
          · rw [Layout.put_eq_self hlayout]
            exact h
  | none =>
      have hplace : place ≠ [] := by
        rintro rfl
        rw [htop] at hlayout
        exact absurd hlayout (by simp)
      have hparent' : layout place.dropLast = some .directory :=
        hparent.resolve_left hplace
      rw [hlayout, Option.map_eq_none_iff] at hfound
      subst hfound
      have hnone : store.tree.get? (g.top ++ place) = none := by
        rw [← Node.shape?_eq_none, h.inside, hlayout]
      refine ⟨{ store with tree := Node.set .empty (g.top ++ place) store.tree }, ?_, ?_⟩
      · simp only [Action.run, Action.runCreate, hlook, if_true, Store.makeDirectory,
          h.placeOf hfault hnames hplace hparent', hnone, Action.settle]
      · exact h.put hplace hparent' (by rw [hlayout]; simp) .empty shape?_empty

/-- Writing a file puts it at its place, unless a directory is there. -/
theorem Carries.store_write (h : g.Carries layout store)
    (hfault : Store.pathFault? (g.target.under place) = none) (hnames : areNames place)
    (hplace : place ≠ []) (hparent : layout place.dropLast = some .directory)
    (hfree : layout place ≠ some .directory) (bytes : List UInt8) :
    ∃ store', store.write (g.target.under place) bytes = .ok store' ∧
      g.Carries (layout.put place (.file { bytes := bytes })) store' := by
  refine ⟨{ store with tree := Node.set (.file { bytes := bytes }) (g.top ++ place) store.tree },
    ?_, h.put hplace hparent hfree _ (shape?_file _)⟩
  rw [Store.write, h.placeOf hfault hnames hplace hparent]
  cases hnode : store.tree.get? (g.top ++ place) with
  | none => simp only [hnode]
  | some node =>
      cases node with
      | file data => simp only [hnode]
      | directory entries =>
          rw [← h.inside, Node.shape?, hnode] at hfree
          exact absurd rfl hfree

theorem Carries.write (h : g.Carries layout store)
    (hfault : Store.pathFault? (g.target.under place) = none) (hnames : areNames place)
    (htop : layout [] = some .directory) (hplace : place ≠ [])
    (hparent : layout place.dropLast = some .directory)
    (hfree : layout place ≠ some .directory) (content : String) :
    ∃ store', Action.run store (.writeFile (g.target.under place) content) = (store', none) ∧
      g.Carries (layout.put place (.file { bytes := encode content })) store' := by
  obtain ⟨found, hlook, hfound⟩ := h.look hfault hnames htop
  obtain ⟨store', hwrite, hcarries⟩ := h.store_write hfault hnames hplace hparent hfree
    (encode content)
  refine ⟨store', ?_, hcarries⟩
  cases found with
  | none => simp only [Action.run, Action.runWrite, hlook, hwrite, Action.settle]
  | some node =>
      cases node with
      | file data => simp only [Action.run, Action.runWrite, hlook, hwrite, Action.settle]
      | directory entries =>
          rw [Option.map_some, Node.shape] at hfound
          exact absurd hfound.symm hfree

theorem hasNull_of_pathFault? {p : Path} (h : Store.pathFault? p = none) : p.hasNull = false := by
  rw [Store.pathFault?] at h
  cases hnull : p.hasNull with
  | false => rfl
  | true => simp [hnull] at h

/-- A path below the target never leads to a place below the source. -/
theorem Carries.locate_ne (h : g.Carries layout store) (hnames : areNames place)
    (htop : layout [] = some .directory) (rest : List String) :
    store.locate (g.target.under place) ≠ .ok (g.sourceTop ++ rest) := by
  intro hlocate
  obtain ⟨hfault, -⟩ := Store.locate_eq_ok.mp hlocate
  have happart : g.top ++ place ≠ g.sourceTop ++ rest := by
    intro hsame
    exact g.not_prefix_source rest (hsame ▸ List.prefix_append g.top place)
  by_cases hsome : (store.tree.shape? (g.top ++ place)).isSome
  · rw [Store.locate_under h.target hfault hnames hsome] at hlocate
    exact happart (Except.ok.inj hlocate)
  · -- a path to where nothing is leads nowhere
    obtain ⟨-, hfollow⟩ := Store.locate_eq_ok.mp h.target
    obtain ⟨fault, herror, -⟩ := Store.follow_names_error hnames
      (Option.not_isSome_iff_eq_none.mp hsome) (h.top_isSome htop)
    obtain ⟨-, hwhole⟩ := Store.locate_eq_ok.mp hlocate
    have hboth : Store.follow store.tree (store.start g.target.anchor) (g.target.segments ++ place)
        = .ok (g.sourceTop ++ rest) := hwhole
    rw [Store.follow_append _ _ hfollow, herror] at hboth
    exact absurd hboth (by simp)

/-- Copying a file of the source puts its bytes at a place. -/
theorem Carries.copy (h : g.Carries layout store)
    (hfault : Store.pathFault? (g.target.under place) = none) (hnames : areNames place)
    (htop : layout [] = some .directory) (hplace : place ≠ [])
    (hparent : layout place.dropLast = some .directory)
    (hfree : layout place ≠ some .directory) {names : List String} {data : FileData}
    (hfault' : Store.pathFault? (g.source.under names) = none) (hnames' : areNames names)
    (hfile : g.base.tree.shape? (g.sourceTop ++ names) = some (.file data)) :
    ∃ store', Action.run store (.copy (g.source.under names) (g.target.under place))
        = (store', none) ∧
      g.Carries (layout.put place (.file { bytes := data.bytes })) store' := by
  have hkept : store.tree.get? (g.sourceTop ++ names) = some (.file data) := by
    rw [← Node.shape?_eq_file, h.outside _ (g.not_prefix_source names), hfile]
  have hsource : store.locate (g.source.under names) = .ok (g.sourceTop ++ names) := by
    apply Store.locate_under h.source hfault' hnames'
    rw [Node.shape?, hkept]
    rfl
  have hread : store.read (g.source.under names) = .ok data :=
    Store.read_under h.source hfault' hnames' hkept
  -- a file is not copied onto itself, but here the two are apart
  have hother : ((store.locate (g.target.under place)).toOption == some (g.sourceTop ++ names))
      = false := by
    cases hlocate : store.locate (g.target.under place) with
    | error fault => rfl
    | ok found =>
        have hne : found ≠ g.sourceTop ++ names := by
          rintro rfl
          exact h.locate_ne hnames htop names hlocate
        simpa [Except.toOption] using hne
  obtain ⟨store', hwrite, hcarries⟩ := h.store_write hfault hnames hplace hparent hfree data.bytes
  refine ⟨store', ?_, hcarries⟩
  simp only [Action.run, Action.runCopy, hasNull_of_pathFault? hfault,
    hasNull_of_pathFault? hfault', Bool.or_self, Bool.false_eq_true, if_false, hsource, hother,
    hread, hwrite, Action.settle]

/-! ## Lists of actions -/

theorem runAll_cons {store store' : Store} {action : Action}
    (h : Action.run store action = (store', none)) (rest : List Action) :
    Action.runAll store (action :: rest) = Action.runAll store' rest := by
  rw [Action.runAll, h]

/-- What was done without a failure is followed by the rest. -/
theorem runAll_append (first rest : List Action) :
    ∀ {store store' : Store}, Action.runAll store first = (store', none) →
      Action.runAll store (first ++ rest) = Action.runAll store' rest := by
  induction first with
  | nil =>
      intro store store' h
      obtain rfl : store = store' := congrArg Prod.fst h
      rfl
  | cons action first ih =>
      intro store store' h
      rw [Action.runAll] at h
      rw [List.cons_append, Action.runAll]
      cases hrun : Action.run store action with
      | mk middle failure =>
          cases failure with
          | none =>
              rw [hrun] at h
              exact ih h
          | some failure =>
              rw [hrun] at h
              exact absurd (congrArg Prod.snd h) (by simp)

/-- Places of which each is in a known one or in one before it. -/
def ParentsFirst : List (List String) → List (List String) → Prop
  | _, [] => True
  | known, place :: rest => place.dropLast ∈ known ∧ ParentsFirst (place :: known) rest

/-- What all paths below the target need: that the store takes them. -/
structure Takes (g : Ground) (place : List String) : Prop where
  fault : Store.pathFault? (g.target.under place) = none
  names : areNames place

/-- Making directories, each after the one that it is in, puts a directory at every place. -/
theorem Carries.directories (places : List (List String)) :
    ∀ {layout : Layout} {store : Store} {known : List (List String)}, g.Carries layout store →
      layout [] = some .directory → (∀ place ∈ known, layout place = some .directory) →
      ParentsFirst known places → (∀ place ∈ places, g.Takes place) →
      (∀ place ∈ places, ∀ data, layout place ≠ some (.file data)) →
        ∃ store',
          Action.runAll store (places.map fun place =>
            .createDirectory (g.target.under place) true) = (store', none) ∧
          g.Carries (layout.putAll (places.map fun place => (place, .directory))) store' := by
  induction places with
  | nil => intro layout store known h _ _ _ _ _; exact ⟨store, rfl, h⟩
  | cons place rest ih =>
      intro layout store known h htop hknown hfirst htakes hfree
      obtain ⟨hparent, hlater⟩ := hfirst
      obtain ⟨hfault, hnames⟩ := htakes place List.mem_cons_self
      obtain ⟨middle, hrun, hmiddle⟩ := h.create hfault hnames htop
        (Or.inr (hknown _ hparent)) (hfree place List.mem_cons_self)
      -- one more directory is known, and the places of the others are as free as before
      have hkept : ∀ other, layout other = some .directory →
          layout.put place .directory other = some .directory := by
        intro other hother
        by_cases hsame : other = place
        · rw [hsame, Layout.put_self]
        · rw [Layout.put_of_ne hsame, hother]
      have hknown' : ∀ other ∈ place :: known,
          layout.put place .directory other = some .directory := by
        intro other hother
        rcases List.mem_cons.mp hother with rfl | hother
        · exact Layout.put_self _ _ _
        · exact hkept other (hknown other hother)
      have hfree' : ∀ other ∈ rest, ∀ data,
          layout.put place .directory other ≠ some (.file data) := by
        intro other hother data
        by_cases hsame : other = place
        · rw [hsame, Layout.put_self]
          simp
        · rw [Layout.put_of_ne hsame]
          exact hfree other (List.mem_cons_of_mem place hother) data
      obtain ⟨store', hrest, hcarries⟩ := ih hmiddle (hkept [] htop) hknown' hlater
        (fun other hother => htakes other (List.mem_cons_of_mem place hother)) hfree'
      refine ⟨store', ?_, hcarries⟩
      rw [List.map_cons, runAll_cons hrun, hrest]

/-- An action that puts a file with some bytes at a place below the target: a text, or a copy of a
file of the source. -/
inductive Puts (g : Ground) : Action → Output → Prop where
  | write (place : List String) (content : String) :
      Puts g (.writeFile (g.target.under place) content) (place, encode content)
  | copy (place names : List String) (data : FileData)
      (hfault : Store.pathFault? (g.source.under names) = none) (hnames : areNames names)
      (hfile : g.base.tree.shape? (g.sourceTop ++ names) = some (.file data)) :
      Puts g (.copy (g.source.under names) (g.target.under place)) (place, data.bytes)

/-- The file that is put. -/
def outputShape (output : Output) : List String × Shape :=
  (output.1, .file { bytes := output.2 })

theorem Carries.output (h : g.Carries layout store) {action : Action} {output : Output}
    (hputs : g.Puts action output) (htakes : g.Takes output.1)
    (htop : layout [] = some .directory) (hplace : output.1 ≠ [])
    (hparent : layout output.1.dropLast = some .directory)
    (hfree : layout output.1 ≠ some .directory) :
    ∃ store', Action.run store action = (store', none) ∧
      g.Carries (layout.put output.1 (.file { bytes := output.2 })) store' := by
  obtain ⟨hfault, hnames⟩ := htakes
  cases hputs with
  | write place content => exact h.write hfault hnames htop hplace hparent hfree content
  | copy place names data hfault' hnames' hfile =>
      exact h.copy hfault hnames htop hplace hparent hfree hfault' hnames' hfile

/-- Putting files into directories that are there puts each at its place, later ones over earlier
ones. -/
theorem Carries.outputs {actions : List Action} {outputs : List Output}
    (hputs : List.Forall₂ g.Puts actions outputs) :
    ∀ {layout : Layout} {store : Store}, g.Carries layout store →
      layout [] = some .directory → (∀ output ∈ outputs, g.Takes output.1) →
      (∀ output ∈ outputs, output.1 ≠ [] ∧ layout output.1.dropLast = some .directory ∧
        layout output.1 ≠ some .directory) →
        ∃ store', Action.runAll store actions = (store', none) ∧
          g.Carries (layout.putAll (outputs.map outputShape)) store' := by
  induction hputs with
  | nil => intro layout store h _ _ _; exact ⟨store, rfl, h⟩
  | @cons action output actions outputs hfirst _ ih =>
      intro layout store h htop htakes hplaces
      obtain ⟨hplace, hparent, hfree⟩ := hplaces output List.mem_cons_self
      obtain ⟨middle, hrun, hmiddle⟩ := h.output hfirst (htakes output List.mem_cons_self) htop
        hplace hparent hfree
      -- a file never takes the place of a directory, so directories stay and no new ones come
      have hsame : ∀ other, layout.put output.1 (.file { bytes := output.2 }) other
          = some .directory ↔ layout other = some .directory := by
        intro other
        by_cases hother : other = output.1
        · subst hother
          rw [Layout.put_self]
          simp [hfree]
        · rw [Layout.put_of_ne hother]
      have hplaces' : ∀ later ∈ outputs, later.1 ≠ [] ∧
          layout.put output.1 (.file { bytes := output.2 }) later.1.dropLast = some .directory ∧
          layout.put output.1 (.file { bytes := output.2 }) later.1 ≠ some .directory := by
        intro later hlater
        obtain ⟨hne, hdirectory, hother⟩ := hplaces later (List.mem_cons_of_mem output hlater)
        exact ⟨hne, (hsame _).mpr hdirectory, fun h => hother ((hsame _).mp h)⟩
      obtain ⟨store', hrest, hcarries⟩ := ih hmiddle ((hsame []).mpr htop)
        (fun later hlater => htakes later (List.mem_cons_of_mem output hlater)) hplaces'
      refine ⟨store', ?_, hcarries⟩
      rw [runAll_cons hrun, hrest]

end Ground

end StaticSite.File
