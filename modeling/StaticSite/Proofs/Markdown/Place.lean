import StaticSite.Proofs.Markdown.Nesting

/-!
# Places in a document

A place in a forest is reached by going down through constructs. On the way down one passes the
trees before each construct, and the trees behind it are left for later.

## What this module delivers

- `Level`, `plug`: trees put into a place.
- `opening`, `closing`, with `forestEvents_plug`: the events before the place and those behind it.
- `areInline_plug`, `areFlow_plug`: what may stand in a line, or in a flow, does so at every level.
- `openTags_opening`: the events before a place close nothing that they do not open.
- `definitionState`, with `definitionState_forest` and `definitionState_opening`: whether a
  footnote's definition is under way after events.
-/

set_option autoImplicit false

namespace StaticSite.Markdown

/-- A construct on the way to a place, with the trees before it and behind it. -/
structure Level where
  left : List EventTree
  tag : Tag
  right : List EventTree

/-- The forest that has these trees in a place. The outermost construct is named first. -/
def plug : List Level → List EventTree → List EventTree
  | [], trees => trees
  | level :: path, trees => level.left ++ .node level.tag (plug path trees) :: level.right

/-- The events before a place. -/
def opening : List Level → List Event
  | [] => []
  | level :: path => forestEvents level.left ++ .start level.tag :: opening path

/-- The events behind a place. -/
def closing : List Level → List Event
  | [] => []
  | level :: path => closing path ++ .stop level.tag :: forestEvents level.right

theorem forestEvents_plug (path : List Level) (trees : List EventTree) :
    forestEvents (plug path trees) = opening path ++ (forestEvents trees ++ closing path) := by
  induction path with
  | nil => simp [plug, opening, closing]
  | cons level path ih => simp [plug, opening, closing, ih]

/-! ## What may stand in a place -/

theorem areFlow_append (trees others : List EventTree) :
    areFlow (trees ++ others) = (areFlow trees && areFlow others) := by
  induction trees with
  | nil => rfl
  | cons tree rest ih => rw [List.cons_append, areFlow, areFlow, ih, Bool.and_assoc]

/-- In a line of text every level is one. -/
theorem areInline_plug {path : List Level} {trees : List EventTree}
    (h : areInline (plug path trees)) :
    (∀ level ∈ path, level.tag.isInline ∧ areInline level.left ∧ areInline level.right) ∧
      areInline trees := by
  induction path with
  | nil => exact ⟨by simp, h⟩
  | cons level path ih =>
      rw [plug, areInline_append, areInline, EventTree.isInline] at h
      simp only [Bool.and_eq_true] at h
      obtain ⟨hleft, ⟨htag, hinner⟩, hright⟩ := h
      obtain ⟨hpath, htrees⟩ := ih hinner
      exact ⟨List.forall_mem_cons.mpr ⟨⟨htag, hleft, hright⟩, hpath⟩, htrees⟩

/-- On the way to what may not stand in a line there is neither a heading nor an image. -/
theorem areFlow_plug {path : List Level} {trees : List EventTree} (h : areFlow (plug path trees))
    (hblock : areInline trees = false) :
    (∀ level ∈ path, level.tag.holdsLine = false ∧ areFlow level.left) ∧ areFlow trees := by
  induction path with
  | nil => exact ⟨by simp, h⟩
  | cons level path ih =>
      rw [plug, areFlow_append, areFlow, EventTree.isFlow] at h
      simp only [Bool.and_eq_true] at h
      obtain ⟨hleft, hinner, -⟩ := h
      cases hline : level.tag.holdsLine with
      | true =>
          rw [hline, if_pos rfl] at hinner
          rw [(areInline_plug hinner).2] at hblock
          exact Bool.noConfusion hblock
      | false =>
          rw [hline, if_neg Bool.false_ne_true] at hinner
          obtain ⟨hpath, htrees⟩ := ih hinner
          exact ⟨List.forall_mem_cons.mpr ⟨⟨hline, hleft⟩, hpath⟩, htrees⟩

/-- The events before a place close nothing that they do not open. -/
theorem openTags_opening (path : List Level) (stack : List Tag) :
    ∃ stack', ∀ rest, openTags stack (opening path ++ rest) = openTags stack' rest := by
  induction path generalizing stack with
  | nil => exact ⟨stack, fun _ => rfl⟩
  | cons level path ih =>
      obtain ⟨stack', hstack⟩ := ih (level.tag :: stack)
      refine ⟨stack', fun rest => ?_⟩
      rw [opening, List.append_assoc, List.cons_append, openTags_forestEvents, openTags, hstack]

/-! ## Definitions under way -/

/-- What an event says about definitions of footnotes: that one begins, or that one ends. -/
def Event.definition? : Event → Option Bool
  | .start (.footnoteDefinition _) => some true
  | .stop (.footnoteDefinition _) => some false
  | _ => none

/-- Whether a footnote's definition is under way after events, given whether one was before: what
the last event that says something about it said. -/
def definitionState (state : Bool) (events : List Event) : Bool :=
  events.foldl (fun state event => event.definition?.getD state) state

theorem definitionState_cons (state : Bool) (event : Event) (rest : List Event) :
    definitionState state (event :: rest)
      = definitionState (event.definition?.getD state) rest := rfl

theorem definitionState_append (state : Bool) (events more : List Event) :
    definitionState state (events ++ more) = definitionState (definitionState state events) more :=
  List.foldl_append

theorem definition?_leaf (leaf : Leaf) : leaf.event.definition? = none := by
  cases leaf <;> rfl

theorem definition?_of_inline {event : Event} (h : event.isInline) : event.definition? = none := by
  cases event with
  | start tag =>
      cases tag with
      | footnoteDefinition label => exact Bool.noConfusion h
      | _ => rfl
  | stop tag =>
      cases tag with
      | footnoteDefinition label => exact Bool.noConfusion h
      | _ => rfl
  | _ => rfl

/-- Events that say nothing about definitions leave the state as it was. -/
theorem definitionState_of_none {events : List Event}
    (h : ∀ event ∈ events, event.definition? = none) (state : Bool) :
    definitionState state events = state := by
  induction events with
  | nil => rfl
  | cons event rest ih =>
      obtain ⟨hevent, hrest⟩ := List.forall_mem_cons.mp h
      rw [definitionState_cons, hevent]
      exact ih hrest

mutual

theorem definitionState_events : ∀ (tree : EventTree) (state : Bool),
    definitionState state tree.events = true → state = true
  | .leaf leaf, state, h => by
      rw [events_leaf, definitionState_cons, definition?_leaf] at h
      exact h
  | .node tag children, state, h => by
      rw [events_node, definitionState_cons, definitionState_append, definitionState_cons] at h
      by_cases hdefinition : ∃ label, tag = .footnoteDefinition label
      · obtain ⟨label, rfl⟩ := hdefinition
        exact Bool.noConfusion h
      · have hstart : (Event.start tag).definition? = none ∧
            (Event.stop tag).definition? = none := by
          cases tag with
          | footnoteDefinition label => exact absurd ⟨label, rfl⟩ hdefinition
          | _ => exact ⟨rfl, rfl⟩
        rw [hstart.1, hstart.2] at h
        exact definitionState_forest children state h

/-- Definitions that begin in a forest end in it. -/
theorem definitionState_forest : ∀ (trees : List EventTree) (state : Bool),
    definitionState state (forestEvents trees) = true → state = true
  | [], _, h => h
  | tree :: rest, state, h => by
      rw [forestEvents_cons, definitionState_append] at h
      exact definitionState_events tree state (definitionState_forest rest _ h)

end

/-- In a place that no definition is on the way to, none is under way. -/
theorem definitionState_opening {path : List Level}
    (h : ∀ level ∈ path, ∀ label, level.tag ≠ .footnoteDefinition label) :
    definitionState false (opening path) = false := by
  induction path with
  | nil => rfl
  | cons level path ih =>
      obtain ⟨hlevel, hpath⟩ := List.forall_mem_cons.mp h
      have hleft : definitionState false (forestEvents level.left) = false :=
        eq_false_of_ne_true fun hopen =>
          Bool.noConfusion (definitionState_forest level.left false hopen)
      have hstart : (Event.start level.tag).definition? = none := by
        cases htag : level.tag with
        | footnoteDefinition label => exact absurd htag (hlevel label)
        | _ => rfl
      rw [opening, definitionState_append, hleft, definitionState_cons, hstart]
      exact ih hpath

end StaticSite.Markdown
