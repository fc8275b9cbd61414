import StaticSite.Markdown.Event

/-!
# Nested events

The events of a document are a forest written down from front to back: a construct begins, what it
encloses follows, and the construct ends with the tag that it began with.

A well-nested stream of events may put any construct into any other. Some conditions say more: that
headings and images hold only what may stand in a line, and that there is no raw HTML.

## What this module delivers

- `EventTree`: a construct with what it encloses, or an event that encloses nothing.
- `EventTree.events`, `forestEvents`: the forest written down.
- `openTags`: the tags that are open after a list of events, if every construct that ends is the one
  that began last.
- `openTags_forestEvents`: in a forest that is written down every construct that ends is the one
  that began last, and nothing stays open.
- `EventTree.isInline`, `areInline`: trees that may stand in a line of text.
- `Event.isInline`, with `isInline_forestEvents`: the events of such trees.
- `EventTree.isFlow`, `areFlow`: trees in which every heading and every image holds only such.
- `EventTree.isWithoutHtml`, `areWithoutHtml`: trees without raw HTML.
-/

set_option autoImplicit false

namespace StaticSite.Markdown

/-! ## Forests -/

/-- An event that encloses nothing. -/
inductive Leaf where
  | text (content : String)
  | code (content : String)
  | html (content : String)
  | softBreak
  | hardBreak
  | rule
  | footnoteReference (label : String)
  | taskMarker (checked : Bool)
deriving DecidableEq, Repr

/-- The event that a leaf is. -/
def Leaf.event : Leaf → Event
  | text content => .text content
  | code content => .code content
  | html content => .html content
  | softBreak => .softBreak
  | hardBreak => .hardBreak
  | rule => .rule
  | footnoteReference label => .footnoteReference label
  | taskMarker checked => .taskMarker checked

/-- A construct with what it encloses, or an event that encloses nothing. -/
inductive EventTree where
  | node (tag : Tag) (children : List EventTree)
  | leaf (leaf : Leaf)
deriving Repr

mutual

/-- A tree written down. -/
def EventTree.events : EventTree → List Event
  | .node tag children => .start tag :: (forestEvents children ++ [.stop tag])
  | .leaf leaf => [leaf.event]

/-- Trees written down one after the other. -/
def forestEvents : List EventTree → List Event
  | [] => []
  | tree :: rest => tree.events ++ forestEvents rest

end

@[simp] theorem forestEvents_nil : forestEvents [] = [] := rfl

@[simp] theorem forestEvents_cons (tree : EventTree) (rest : List EventTree) :
    forestEvents (tree :: rest) = tree.events ++ forestEvents rest := rfl

@[simp] theorem events_node (tag : Tag) (children : List EventTree) :
    (EventTree.node tag children).events = .start tag :: (forestEvents children ++ [.stop tag]) :=
  rfl

@[simp] theorem events_leaf (leaf : Leaf) : (EventTree.leaf leaf).events = [leaf.event] := rfl

@[simp] theorem forestEvents_append (trees others : List EventTree) :
    forestEvents (trees ++ others) = forestEvents trees ++ forestEvents others := by
  induction trees with
  | nil => rfl
  | cons tree rest ih => simp [ih]

/-! ## Open tags -/

/-- The tags open after events, the latest first, if every construct that ends is the one that began
last. -/
def openTags : List Tag → List Event → Option (List Tag)
  | stack, [] => some stack
  | stack, .start tag :: rest => openTags (tag :: stack) rest
  | [], .stop _ :: _ => none
  | tag :: stack, .stop tag' :: rest => if tag' = tag then openTags stack rest else none
  | stack, _ :: rest => openTags stack rest

theorem openTags_leaf (stack : List Tag) (leaf : Leaf) (rest : List Event) :
    openTags stack (leaf.event :: rest) = openTags stack rest := by
  cases leaf <;> simp [Leaf.event, openTags]

mutual

theorem openTags_events (stack : List Tag) (rest : List Event) :
    ∀ tree : EventTree, openTags stack (tree.events ++ rest) = openTags stack rest
  | .leaf leaf => openTags_leaf stack leaf rest
  | .node tag children => by
      have hinner := openTags_forestEvents (tag :: stack) (.stop tag :: rest) children
      simp only [events_node, List.cons_append, List.append_assoc, List.nil_append, openTags,
        hinner, if_true]

/-- A forest that is written down leaves the open tags as they were. -/
theorem openTags_forestEvents (stack : List Tag) (rest : List Event) :
    ∀ trees : List EventTree, openTags stack (forestEvents trees ++ rest) = openTags stack rest
  | [] => rfl
  | tree :: trees => by
      rw [forestEvents_cons, List.append_assoc, openTags_events, openTags_forestEvents]

end

/-! ## Lines of text -/

/-- Whether a construct may stand in a line of text. -/
def Tag.isInline : Tag → Bool
  | .emphasis | .strong | .strikethrough | .link .. | .image .. => true
  | _ => false

/-- Whether an event that encloses nothing may stand in a line of text. -/
def Leaf.isInline : Leaf → Bool
  | .rule => false
  | _ => true

mutual

/-- Whether a tree may stand in a line of text. -/
def EventTree.isInline : EventTree → Bool
  | .leaf leaf => leaf.isInline
  | .node tag children => tag.isInline && areInline children

def areInline : List EventTree → Bool
  | [] => true
  | tree :: rest => tree.isInline && areInline rest

end

theorem areInline_append (trees others : List EventTree) :
    areInline (trees ++ others) = (areInline trees && areInline others) := by
  induction trees with
  | nil => rfl
  | cons tree rest ih => rw [List.cons_append, areInline, areInline, ih, Bool.and_assoc]

/-- Whether an event belongs to a line of text. -/
def Event.isInline : Event → Bool
  | .start tag | .stop tag => tag.isInline
  | .rule => false
  | _ => true

theorem isInline_leaf (leaf : Leaf) : leaf.event.isInline = leaf.isInline := by
  cases leaf <;> rfl

mutual

theorem isInline_events : ∀ tree : EventTree, tree.isInline →
    ∀ event ∈ tree.events, event.isInline
  | .leaf leaf, h, event, hevent => by
      rw [List.mem_singleton.mp hevent, isInline_leaf]
      exact h
  | .node tag children, h, event, hevent => by
      rw [EventTree.isInline, Bool.and_eq_true] at h
      rw [events_node, List.mem_cons, List.mem_append, List.mem_singleton] at hevent
      rcases hevent with rfl | hevent | rfl
      · exact h.1
      · exact isInline_forestEvents children h.2 event hevent
      · exact h.1

/-- The events of what may stand in a line belong to a line. -/
theorem isInline_forestEvents : ∀ trees : List EventTree, areInline trees →
    ∀ event ∈ forestEvents trees, event.isInline
  | [], _, event, hevent => absurd hevent List.not_mem_nil
  | tree :: rest, h, event, hevent => by
      rw [areInline, Bool.and_eq_true] at h
      rw [forestEvents_cons, List.mem_append] at hevent
      rcases hevent with hevent | hevent
      · exact isInline_events tree h.1 event hevent
      · exact isInline_forestEvents rest h.2 event hevent

end

/-! ## Flow -/

/-- Whether a construct is a heading or an image, which hold a line of text. -/
def Tag.holdsLine : Tag → Bool
  | .heading _ | .image .. => true
  | _ => false

mutual

/-- Whether every heading and every image of a tree holds only what may stand in a line of text. -/
def EventTree.isFlow : EventTree → Bool
  | .leaf _ => true
  | .node tag children => if tag.holdsLine then areInline children else areFlow children

def areFlow : List EventTree → Bool
  | [] => true
  | tree :: rest => tree.isFlow && areFlow rest

end

/-! ## Raw HTML -/

mutual

/-- Whether a tree is without raw HTML. -/
def EventTree.isWithoutHtml : EventTree → Bool
  | .leaf (.html _) => false
  | .leaf _ => true
  | .node _ children => areWithoutHtml children

def areWithoutHtml : List EventTree → Bool
  | [] => true
  | tree :: rest => tree.isWithoutHtml && areWithoutHtml rest

end

end StaticSite.Markdown
