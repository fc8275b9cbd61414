import StaticSite.Proofs.Markdown.Heading

/-!
# Code blocks of a document

A code block holds its code as texts, one after the other.

## What this module delivers

- `CodeBlock`, `forestCode`: the code blocks of a forest, in document order.
- `EventTree.isCodePlain`, `areCodePlain`: forests whose code blocks hold only texts.
- `Event.isCodeMark`: the events at which a code block begins or ends.
- `forestCode_inline`, `isCodeMark_line`: there is no code block in a line of text.
-/

set_option autoImplicit false

namespace StaticSite.Markdown

/-- A code block: its info string, and its code. -/
structure CodeBlock where
  info : Option String
  content : String
deriving DecidableEq, Repr

/-! ## Texts in a row -/

/-- Whether trees are texts. -/
def areTexts : List EventTree → Bool
  | [] => true
  | .leaf (.text _) :: rest => areTexts rest
  | _ :: _ => false

/-- The texts among trees, put together. -/
def joinedTexts : List EventTree → String
  | [] => ""
  | .leaf (.text content) :: rest => content ++ joinedTexts rest
  | _ :: rest => joinedTexts rest

/-- Texts come one by one. -/
theorem areTexts_cons {tree : EventTree} {rest : List EventTree} (h : areTexts (tree :: rest)) :
    ∃ content, tree = .leaf (.text content) ∧ areTexts rest := by
  cases tree with
  | node tag children => exact Bool.noConfusion h
  | leaf leaf =>
      cases leaf with
      | text content => exact ⟨content, rfl, h⟩
      | _ => exact Bool.noConfusion h

/-! ## Code blocks of a forest -/

mutual

/-- The code blocks of a tree. -/
def EventTree.codeBlocks : EventTree → List CodeBlock
  | .leaf _ => []
  | .node (.codeBlock info) children => [⟨info, joinedTexts children⟩]
  | .node _ children => forestCode children

/-- The code blocks of trees, in document order. -/
def forestCode : List EventTree → List CodeBlock
  | [] => []
  | tree :: rest => tree.codeBlocks ++ forestCode rest

end

mutual

/-- Whether the code blocks of a tree hold only texts. -/
def EventTree.isCodePlain : EventTree → Bool
  | .leaf _ => true
  | .node (.codeBlock _) children => areTexts children
  | .node _ children => areCodePlain children

def areCodePlain : List EventTree → Bool
  | [] => true
  | tree :: rest => tree.isCodePlain && areCodePlain rest

end

/-- Whether a code block begins or ends with an event. -/
def Event.isCodeMark : Event → Bool
  | .start tag | .stop tag => tag.isCode
  | _ => false

theorem isCodeMark_leaf (leaf : Leaf) : leaf.event.isCodeMark = false := by
  cases leaf <;> rfl

theorem Tag.ne_codeBlock {tag : Tag} (h : tag.isCode = false) : ∀ info, tag ≠ .codeBlock info := by
  rintro info rfl
  exact Bool.noConfusion h

/-- A construct other than a code block has the code blocks of its content. -/
theorem codeBlocks_node {tag : Tag} (h : tag.isCode = false) (children : List EventTree) :
    (EventTree.node tag children).codeBlocks = forestCode children := by
  rw [EventTree.codeBlocks]
  exact Tag.ne_codeBlock h

theorem isCodePlain_node {tag : Tag} (h : tag.isCode = false) (children : List EventTree) :
    (EventTree.node tag children).isCodePlain = areCodePlain children := by
  rw [EventTree.isCodePlain]
  exact Tag.ne_codeBlock h

/-! ## Lines of text -/

theorem Tag.isCode_of_inline {tag : Tag} (h : tag.isInline) : tag.isCode = false := by
  cases tag with
  | codeBlock info => exact Bool.noConfusion h
  | _ => rfl

mutual

theorem codeBlocks_inline : ∀ tree : EventTree, tree.isInline → tree.codeBlocks = []
  | .leaf _, _ => rfl
  | .node tag children, h => by
      rw [EventTree.isInline, Bool.and_eq_true] at h
      rw [codeBlocks_node (Tag.isCode_of_inline h.1), forestCode_inline children h.2]

/-- There is no code block in a line of text. -/
theorem forestCode_inline : ∀ trees : List EventTree, areInline trees → forestCode trees = []
  | [], _ => rfl
  | tree :: rest, h => by
      rw [areInline, Bool.and_eq_true] at h
      rw [forestCode, codeBlocks_inline tree h.1, forestCode_inline rest h.2]
      rfl

end

/-- No code block begins or ends in a line of text. -/
theorem isCodeMark_of_inline {event : Event} (h : event.isInline) : event.isCodeMark = false := by
  cases event with
  | start tag => exact Tag.isCode_of_inline h
  | stop tag => exact Tag.isCode_of_inline h
  | _ => rfl

/-- The same for a construct that holds a line of text. -/
theorem isCodeMark_line {tag : Tag} (htag : tag.isCode = false) {children : List EventTree}
    (h : areInline children) :
    ∀ event ∈ (EventTree.node tag children).events, event.isCodeMark = false := by
  intro event hevent
  rw [events_node, List.mem_cons, List.mem_append, List.mem_singleton] at hevent
  rcases hevent with rfl | hevent | rfl
  · exact htag
  · exact isCodeMark_of_inline (isInline_forestEvents children h event hevent)
  · exact htag

end StaticSite.Markdown
