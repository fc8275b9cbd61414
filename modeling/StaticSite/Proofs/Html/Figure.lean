import StaticSite.Html.StandaloneImage
import StaticSite.Proofs.Markdown.Nesting

/-!
# Figures in a forest

In a well-nested stream of events the paragraphs that are taken for figures are trees of their own:
a paragraph with one child, an image, that has one child, a text. So the marking of standalone
images is a recursion on the forest.

## What this module delivers

- `treeMarked`, `forestMarked`: the events of a forest, with the standalone images marked.
- `paragraph_of_match`: five events in a row that look like a figure are a tree.
- `markStandalone_forestEvents`: what `markStandalone` makes of a forest, whatever follows it.
- `mem_treeMarked`: marking adds no event.
-/

set_option autoImplicit false

namespace StaticSite.Html

open StaticSite.Markdown

/-! ## Marked events -/

mutual

/-- The events of a tree, with the standalone images marked. -/
def treeMarked : EventTree → List (Event × Bool)
  | .leaf leaf => [(leaf.event, false)]
  | .node .paragraph [.node (.image dest title) [.leaf (.text alt)]] =>
      [(.start (.image dest title), true), (.text alt, false), (.stop (.image dest title), false)]
  | .node tag children => (.start tag, false) :: (forestMarked children ++ [(.stop tag, false)])

/-- The events of trees one after the other, with the standalone images marked. -/
def forestMarked : List EventTree → List (Event × Bool)
  | [] => []
  | tree :: rest => treeMarked tree ++ forestMarked rest

end

theorem treeMarked_node {tag : Tag} (htag : tag ≠ .paragraph) (children : List EventTree) :
    treeMarked (.node tag children)
      = (.start tag, false) :: (forestMarked children ++ [(.stop tag, false)]) := by
  rw [treeMarked]
  exact fun _ _ _ h _ => htag h

/-- A paragraph that is no figure keeps its two events. -/
theorem treeMarked_paragraph {children : List EventTree}
    (h : ∀ dest title alt, children ≠ [.node (.image dest title) [.leaf (.text alt)]]) :
    treeMarked (.node .paragraph children)
      = (.start .paragraph, false) :: (forestMarked children ++ [(.stop .paragraph, false)]) := by
  rw [treeMarked]
  exact fun dest title alt _ heq => h dest title alt heq

/-! ## Recognising a figure -/

/-- The events of a tree do not begin with the end of a construct. -/
theorem events_first (tree : EventTree) :
    ∃ event rest, tree.events = event :: rest ∧ ∀ tag, event ≠ .stop tag := by
  cases tree with
  | node tag children => exact ⟨_, _, rfl, by simp⟩
  | leaf leaf => cases leaf <;> exact ⟨_, _, rfl, by simp [Leaf.event]⟩

/-- A forest is over where a construct ends that did not begin in it. -/
theorem forest_over {trees : List EventTree} {tag tag' : Tag} {rest rest' : List Event}
    (h : forestEvents trees ++ .stop tag :: rest = .stop tag' :: rest') :
    trees = [] ∧ tag = tag' ∧ rest = rest' := by
  cases trees with
  | nil => simpa using h
  | cons first others =>
      obtain ⟨event, more, hevents, hnot⟩ := events_first first
      rw [forestEvents_cons, hevents] at h
      exact absurd (List.cons.inj h).1 (hnot tag')

/-- Where a single text comes before an end, it is all of a forest. -/
theorem single_text_of_match {trees : List EventTree} {tag tag' : Tag} {alt : String}
    {rest rest' : List Event}
    (h : forestEvents trees ++ .stop tag :: rest = .text alt :: .stop tag' :: rest') :
    trees = [.leaf (.text alt)] ∧ tag = tag' ∧ rest = rest' := by
  cases trees with
  | nil => simp at h
  | cons first others =>
      cases first with
      | node tag deeper => simp at h
      | leaf leaf =>
          simp only [forestEvents_cons, events_leaf, List.cons_append, List.nil_append,
            List.cons.injEq] at h
          obtain ⟨hleaf, htail⟩ := h
          obtain ⟨rfl, htag, hrest⟩ := forest_over htail
          cases leaf with
          | text content => exact ⟨by rw [Event.text.inj hleaf], htag, hrest⟩
          | _ => simp [Leaf.event] at hleaf

/-- A paragraph whose events look like a figure is one. -/
theorem paragraph_of_match {children : List EventTree} {dest title alt dest' title' : String}
    {rest rest' : List Event}
    (h : forestEvents children ++ .stop .paragraph :: rest
      = .start (.image dest title) :: .text alt :: .stop (.image dest' title') ::
          .stop .paragraph :: rest') :
    children = [.node (.image dest title) [.leaf (.text alt)]] := by
  cases children with
  | nil => simp at h
  | cons first others =>
      cases first with
      | leaf leaf => cases leaf <;> simp [Leaf.event] at h
      | node tag inner =>
          simp only [forestEvents_cons, events_node, List.cons_append, List.append_assoc,
            List.nil_append, List.cons.injEq, Event.start.injEq] at h
          obtain ⟨rfl, hinner⟩ := h
          -- the image holds a single text, and the paragraph ends right after the image
          obtain ⟨rfl, -, hafter⟩ := single_text_of_match hinner
          obtain ⟨rfl, -, -⟩ := forest_over hafter
          rfl

/-! ## Marking a forest -/

theorem markStandalone_event {event : Event} (h : event ≠ .start .paragraph) (rest : List Event) :
    markStandalone (event :: rest) = (event, false) :: markStandalone rest := by
  rw [markStandalone]
  exact fun _ _ _ _ _ _ hevent _ => h hevent

/-- A paragraph that is no figure keeps its start. -/
theorem markStandalone_paragraph {children : List EventTree} {rest : List Event}
    (h : ∀ dest title alt, children ≠ [.node (.image dest title) [.leaf (.text alt)]]) :
    markStandalone (.start .paragraph :: (forestEvents children ++ .stop .paragraph :: rest))
      = (.start .paragraph, false) ::
          markStandalone (forestEvents children ++ .stop .paragraph :: rest) := by
  rw [markStandalone]
  intro dest title alt dest' title' rest' _ hmatch
  exact h dest title alt (paragraph_of_match hmatch)

mutual

theorem markStandalone_events (rest : List Event) :
    ∀ tree : EventTree,
      markStandalone (tree.events ++ rest) = treeMarked tree ++ markStandalone rest
  | .leaf leaf => by
      rw [events_leaf, List.cons_append, List.nil_append, markStandalone_event, treeMarked]
      · rfl
      · cases leaf <;> simp [Leaf.event]
  | .node tag children => by
      have hinner := markStandalone_forestEvents (.stop tag :: rest) children
      have hstop : markStandalone (.stop tag :: rest) = (.stop tag, false) :: markStandalone rest :=
        markStandalone_event (by simp) rest
      rw [hstop] at hinner
      rw [events_node, List.cons_append, List.append_assoc, List.cons_append, List.nil_append]
      by_cases hparagraph : tag = .paragraph
      · subst hparagraph
        by_cases hfigure : ∃ dest title alt,
            children = [.node (.image dest title) [.leaf (.text alt)]]
        · obtain ⟨dest, title, alt, rfl⟩ := hfigure
          rfl
        · have hno : ∀ dest title alt,
              children ≠ [.node (.image dest title) [.leaf (.text alt)]] :=
            fun dest title alt heq => hfigure ⟨dest, title, alt, heq⟩
          rw [markStandalone_paragraph hno, hinner, treeMarked_paragraph hno]
          simp
      · rw [markStandalone_event (by simpa using hparagraph), hinner, treeMarked_node hparagraph]
        simp

/-- The standalone images of a forest are the figures among its trees. -/
theorem markStandalone_forestEvents (rest : List Event) :
    ∀ trees : List EventTree,
      markStandalone (forestEvents trees ++ rest) = forestMarked trees ++ markStandalone rest
  | [] => rfl
  | tree :: others => by
      rw [forestEvents_cons, List.append_assoc, markStandalone_events, markStandalone_forestEvents,
        forestMarked, List.append_assoc]

end

/-- A whole forest leaves nothing to be marked behind it. -/
theorem markStandalone_forest (trees : List EventTree) :
    markStandalone (forestEvents trees) = forestMarked trees := by
  have hall := markStandalone_forestEvents [] trees
  rwa [markStandalone, List.append_nil, List.append_nil] at hall

/-- Marking figures adds no event. -/
theorem mem_markStandalone {events : List Event} {marked : Event × Bool}
    (h : marked ∈ markStandalone events) : marked.1 ∈ events := by
  fun_induction markStandalone events with
  | case1 dest title alt dest' title' rest ih =>
      simp only [List.mem_cons] at h ⊢
      rcases h with rfl | rfl | rfl | h
      · simp
      · simp
      · simp
      · simp [ih h]
  | case2 event rest _ ih =>
      rcases List.mem_cons.mp h with rfl | h
      · exact List.mem_cons_self
      · exact List.mem_cons_of_mem event (ih h)
  | case3 => exact absurd h List.not_mem_nil

theorem mem_treeMarked {tree : EventTree} {marked : Event × Bool} (h : marked ∈ treeMarked tree) :
    marked.1 ∈ tree.events := by
  have hmarked := markStandalone_events [] tree
  rw [List.append_nil, markStandalone, List.append_nil] at hmarked
  rw [← hmarked] at h
  exact mem_markStandalone h

end StaticSite.Html
