import StaticSite.Markdown.Event
import StaticSite.Proofs.Markdown.Nesting

/-!
# Headings of a document

In a well-nested stream of events whose headings hold only what may stand in a line, a heading is a
tree that no other heading encloses. So the headings are listed by a recursion on the forest, and
the outline of the document is that list, told by the texts and the code in each heading.

## What this module delivers

- `Heading`, `forestHeadings`: the headings of a forest, in document order.
- `forestTitle`: the texts and the code of a forest, one after the other.
- `forestRaw`: the raw HTML of a forest, outside of images.
- `outline_forestEvents`: the outline of a document lists the titles and levels of its headings.
-/

set_option autoImplicit false

namespace StaticSite.Markdown

/-! ## What a forest holds -/

/-- A heading of a document: its level, what it encloses, and whether a code block encloses it. -/
structure Heading where
  level : Int
  children : List EventTree
  inCode : Bool

/-- Whether a construct is a code block. -/
def Tag.isCode : Tag → Bool
  | .codeBlock _ => true
  | _ => false

mutual

/-- The headings of a tree, given whether it stands in a code block. -/
def treeHeadings (inCode : Bool) : EventTree → List Heading
  | .leaf _ => []
  | .node (.heading level) children => [⟨level, children, inCode⟩]
  | .node (.image _ _) _ => []
  | .node tag children => forestHeadings (inCode || tag.isCode) children

def forestHeadings (inCode : Bool) : List EventTree → List Heading
  | [] => []
  | tree :: rest => treeHeadings inCode tree ++ forestHeadings inCode rest

end

/-- What an event that encloses nothing adds to a title. -/
def Leaf.title : Leaf → String
  | .text content => content
  | .code content => content
  | _ => ""

mutual

/-- The texts and the code of a tree, one after the other. -/
def treeTitle : EventTree → String
  | .leaf leaf => leaf.title
  | .node _ children => forestTitle children

def forestTitle : List EventTree → String
  | [] => ""
  | tree :: rest => treeTitle tree ++ forestTitle rest

end

mutual

/-- The raw HTML of a tree. The text in place of an image holds none. -/
def treeRaw : EventTree → List String
  | .leaf (.html content) => [content]
  | .leaf _ => []
  | .node (.image _ _) _ => []
  | .node _ children => forestRaw children

def forestRaw : List EventTree → List String
  | [] => []
  | tree :: rest => treeRaw tree ++ forestRaw rest

end

theorem treeHeadings_node {tag : Tag} (h : tag.holdsLine = false) (inCode : Bool)
    (children : List EventTree) :
    treeHeadings inCode (.node tag children) = forestHeadings (inCode || tag.isCode) children := by
  rw [treeHeadings]
  · rintro level rfl
    exact absurd h (by simp [Tag.holdsLine])
  · rintro dest title rfl
    exact absurd h (by simp [Tag.holdsLine])

theorem treeRaw_node {tag : Tag} (h : ∀ dest title, tag ≠ .image dest title)
    (children : List EventTree) : treeRaw (.node tag children) = forestRaw children := by
  rw [treeRaw]
  exact fun dest title heq => h dest title heq

mutual

theorem treeRaw_of_isWithoutHtml : ∀ tree : EventTree, tree.isWithoutHtml → treeRaw tree = []
  | .leaf leaf, h => by
      cases leaf with
      | html content => exact Bool.noConfusion h
      | _ => rfl
  | .node tag children, h => by
      by_cases himage : ∃ dest title, tag = .image dest title
      · obtain ⟨dest, title, rfl⟩ := himage
        rfl
      · rw [treeRaw_node fun dest title heq => himage ⟨dest, title, heq⟩]
        exact forestRaw_of_areWithoutHtml children h

/-- Without raw HTML there is none to be listed. -/
theorem forestRaw_of_areWithoutHtml :
    ∀ trees : List EventTree, areWithoutHtml trees → forestRaw trees = []
  | [], _ => rfl
  | tree :: rest, h => by
      rw [areWithoutHtml, Bool.and_eq_true] at h
      rw [forestRaw, treeRaw_of_isWithoutHtml tree h.1, forestRaw_of_areWithoutHtml rest h.2]
      rfl

end

/-! ## The outline -/

/-- A heading that is being read, after more of its text. -/
def OpenHeading.extend (heading : OpenHeading) (text : String) : OpenHeading :=
  ⟨heading.depth, heading.title ++ text⟩

theorem map_extend_empty (heading? : Option OpenHeading) :
    heading?.map (·.extend "") = heading? := by
  cases heading? <;> simp [OpenHeading.extend]

theorem map_extend_append (heading? : Option OpenHeading) (text more : String) :
    (heading?.map (·.extend text)).map (·.extend more) = heading?.map (·.extend (text ++ more)) := by
  cases heading? <;> simp [OpenHeading.extend, String.append_assoc]

theorem outlineFrom_leaf (heading? : Option OpenHeading) (leaf : Leaf) (rest : List Event) :
    outlineFrom heading? (leaf.event :: rest)
      = outlineFrom (heading?.map (·.extend leaf.title)) rest := by
  cases heading? <;> cases leaf <;>
    simp [Leaf.event, Leaf.title, outlineFrom, OpenHeading.extend]

/-- A construct other than a heading begins and ends without a trace. -/
theorem outlineFrom_start (heading? : Option OpenHeading) {tag : Tag}
    (htag : ∀ level, tag ≠ .heading level) (rest : List Event) :
    outlineFrom heading? (.start tag :: rest) = outlineFrom heading? rest := by
  cases tag with
  | heading level => exact absurd rfl (htag level)
  | _ => cases heading? <;> simp [outlineFrom]

theorem outlineFrom_stop (heading? : Option OpenHeading) {tag : Tag}
    (htag : ∀ level, tag ≠ .heading level) (rest : List Event) :
    outlineFrom heading? (.stop tag :: rest) = outlineFrom heading? rest := by
  cases tag with
  | heading level => exact absurd rfl (htag level)
  | _ => cases heading? <;> simp [outlineFrom]

mutual

/-- What may stand in a line adds its title to the heading that is open, if one is. -/
theorem outlineFrom_inline (rest : List Event) :
    ∀ (tree : EventTree) (heading? : Option OpenHeading), tree.isInline →
      outlineFrom heading? (tree.events ++ rest)
        = outlineFrom (heading?.map (·.extend (treeTitle tree))) rest
  | .leaf leaf, heading?, _ => outlineFrom_leaf heading? leaf rest
  | .node tag children, heading?, hinline => by
      -- no heading begins in a line, so the start and the end of the construct are passed over
      rw [EventTree.isInline, Bool.and_eq_true] at hinline
      have htag : ∀ level, tag ≠ .heading level := by
        rintro level rfl
        exact Bool.noConfusion hinline.1
      rw [events_node, List.cons_append, outlineFrom_start _ htag, List.append_assoc,
        outlineFrom_inlines _ children _ hinline.2, List.cons_append, List.nil_append,
        outlineFrom_stop _ htag]
      rfl

theorem outlineFrom_inlines (rest : List Event) :
    ∀ (trees : List EventTree) (heading? : Option OpenHeading), areInline trees →
      outlineFrom heading? (forestEvents trees ++ rest)
        = outlineFrom (heading?.map (·.extend (forestTitle trees))) rest
  | [], heading?, _ => by
      rw [forestTitle, map_extend_empty]
      rfl
  | tree :: others, heading?, hinline => by
      rw [areInline, Bool.and_eq_true] at hinline
      rw [forestEvents_cons, List.append_assoc, outlineFrom_inline _ tree _ hinline.1,
        outlineFrom_inlines _ others _ hinline.2, map_extend_append]
      rfl

end

/-- The entry of a heading in the outline. -/
def Heading.entry (heading : Heading) : String × Int :=
  (forestTitle heading.children, heading.level)

mutual

theorem outlineFrom_tree (rest : List Event) :
    ∀ (tree : EventTree) (inCode : Bool), tree.isFlow →
      outlineFrom none (tree.events ++ rest)
        = (treeHeadings inCode tree).map Heading.entry ++ outlineFrom none rest
  | .leaf leaf, _, _ => outlineFrom_leaf none leaf rest
  | .node tag children, inCode, hflow => by
      rw [EventTree.isFlow] at hflow
      rw [events_node, List.cons_append, List.append_assoc, List.cons_append, List.nil_append]
      cases hline : tag.holdsLine with
      | true =>
          rw [hline, if_pos rfl] at hflow
          cases tag with
          | heading level =>
              -- from its start to its end the heading collects the title of its line
              rw [outlineFrom, outlineFrom_inlines _ children _ hflow, Option.map_some,
                outlineFrom]
              simp [treeHeadings, Heading.entry, OpenHeading.extend]
          | image dest title =>
              -- no heading is open, so what is in place of the image goes nowhere
              rw [outlineFrom_start _ (by simp), outlineFrom_inlines _ children _ hflow,
                Option.map_none, outlineFrom_stop _ (by simp)]
              rfl
          | _ => exact Bool.noConfusion hline
      | false =>
          rw [hline, if_neg Bool.false_ne_true] at hflow
          have htag : ∀ level, tag ≠ .heading level := by
            rintro level rfl
            exact Bool.noConfusion hline
          rw [outlineFrom_start _ htag, outlineFrom_forest _ children _ hflow,
            outlineFrom_stop _ htag, treeHeadings_node hline]

/-- Outside of headings a forest adds the entries of its headings. -/
theorem outlineFrom_forest (rest : List Event) :
    ∀ (trees : List EventTree) (inCode : Bool), areFlow trees →
      outlineFrom none (forestEvents trees ++ rest)
        = (forestHeadings inCode trees).map Heading.entry ++ outlineFrom none rest
  | [], _, _ => rfl
  | tree :: others, inCode, hflow => by
      rw [areFlow, Bool.and_eq_true] at hflow
      rw [forestEvents_cons, List.append_assoc, outlineFrom_tree _ tree inCode hflow.1,
        outlineFrom_forest _ others inCode hflow.2, forestHeadings, List.map_append,
        List.append_assoc]

end

/-- The outline of a document lists the titles and levels of its headings. -/
theorem outline_forestEvents {trees : List EventTree} (hflow : areFlow trees) :
    outline (forestEvents trees) = (forestHeadings false trees).map Heading.entry := by
  have hall := outlineFrom_forest [] trees false hflow
  rwa [List.append_nil, outlineFrom, List.append_nil] at hall

end StaticSite.Markdown
