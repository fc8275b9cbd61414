import StaticSite.Html.StandaloneImage
import StaticSite.Proofs.Html.Reading
import StaticSite.Proofs.Markdown.Nesting

/-!
# Documents and the elements of their pages

A document is a list of block trees without raw HTML. Its page has an element for every construct,
so the tags of the page follow from the tree alone: no text, label, address or title has a say in
them.

## What this module delivers

- `Inline`, `Block`, `Part`: the trees of a document, and `documentEvents`, their events.
- `Inline.tags`, `Block.tags`, `documentTags`: the tags of the page of a document.
- `balanced_documentTags`: these tags are balanced.
- `Block.hasPicture`, `Part.hasPicture`: whether a paragraph is nothing but an image with one text.
- `markStandalone_documentEvents`: without such a paragraph no image is taken for a figure.
-/

set_option autoImplicit false

namespace StaticSite.Html

open StaticSite.Markdown

/-! ## Documents -/

/-- What may stand in a line of text. -/
inductive Inline where
  | text (content : String)
  | code (content : String)
  | softBreak
  | hardBreak
  | footnoteReference (label : String)
  | taskMarker (checked : Bool)
  | emphasis (content : List Inline)
  | strong (content : List Inline)
  | strikethrough (content : List Inline)
  | link (form : LinkForm) (dest title : String) (content : List Inline)
  | image (dest title : String) (content : List Inline)
deriving Repr

/-- What may stand in an item: a block, or an inline without a paragraph around it. The writer takes
either wherever a block may stand. -/
inductive Block where
  | inline (content : Inline)
  | paragraph (content : List Inline)
  /-- Levels count from 0 here, so `0` is the level that is written `1`. -/
  | heading (level : Fin 6) (content : List Inline)
  | blockQuote (content : List Block)
  | list (first : Option Int) (items : List (List Block))
  | codeBlock (info : Option String) (texts : List String)
  | rule
  | table (alignments : List ColumnAlignment) (head : List (List Inline))
      (rows : List (List (List Inline)))
deriving Repr

/-- What may stand at the top of a document. -/
inductive Part where
  | block (content : Block)
  | definition (label : String) (content : List Block)
deriving Repr

mutual

/-- The tree of events of an inline. -/
def Inline.tree : Inline → EventTree
  | .text content => .leaf (.text content)
  | .code content => .leaf (.code content)
  | .softBreak => .leaf .softBreak
  | .hardBreak => .leaf .hardBreak
  | .footnoteReference label => .leaf (.footnoteReference label)
  | .taskMarker checked => .leaf (.taskMarker checked)
  | .emphasis content => .node .emphasis (inlineTrees content)
  | .strong content => .node .strong (inlineTrees content)
  | .strikethrough content => .node .strikethrough (inlineTrees content)
  | .link form dest title content => .node (.link form dest title) (inlineTrees content)
  | .image dest title content => .node (.image dest title) (inlineTrees content)

def inlineTrees : List Inline → List EventTree
  | [] => []
  | inline :: rest => inline.tree :: inlineTrees rest

end

/-- The trees of the cells of a row. -/
def cellTrees (cells : List (List Inline)) : List EventTree :=
  cells.map fun cell => .node .tableCell (inlineTrees cell)

mutual

/-- The tree of events of a block. -/
def Block.tree : Block → EventTree
  | .inline content => content.tree
  | .paragraph content => .node .paragraph (inlineTrees content)
  | .heading level content => .node (.heading (level.val + 1 : Nat)) (inlineTrees content)
  | .blockQuote content => .node .blockQuote (blockTrees content)
  | .list first items => .node (.list first) (itemTrees items)
  | .codeBlock info texts => .node (.codeBlock info) (texts.map fun text => .leaf (.text text))
  | .rule => .leaf .rule
  | .table alignments head rows =>
      .node (.table alignments)
        (.node .tableHead (cellTrees head) :: rows.map fun row => .node .tableRow (cellTrees row))

def blockTrees : List Block → List EventTree
  | [] => []
  | block :: rest => block.tree :: blockTrees rest

def itemTrees : List (List Block) → List EventTree
  | [] => []
  | item :: rest => .node .item (blockTrees item) :: itemTrees rest

end

/-- The tree of events of a part. -/
def Part.tree : Part → EventTree
  | .block content => content.tree
  | .definition label content => .node (.footnoteDefinition label) (blockTrees content)

/-- The events of a document. -/
def documentEvents (document : List Part) : List Event :=
  forestEvents (document.map Part.tree)

/-! ## Tags -/

mutual

/-- The tags of an inline. An image's alternative text has none. -/
def Inline.tags : Inline → List Mark
  | .text _ | .softBreak => []
  | .code _ => enclosed "code" []
  | .hardBreak => [.stands "br"]
  | .footnoteReference _ => enclosed "sup" (enclosed "a" [])
  | .taskMarker _ => [.stands "input"]
  | .emphasis content => enclosed "em" (inlineTags content)
  | .strong content => enclosed "strong" (inlineTags content)
  | .strikethrough content => enclosed "del" (inlineTags content)
  | .link _ _ _ content => enclosed "a" (inlineTags content)
  | .image _ _ _ => [.stands "img"]

def inlineTags : List Inline → List Mark
  | [] => []
  | inline :: rest => inline.tags ++ inlineTags rest

end

/-- The tags of the cells of a row, which are elements of the given name. -/
def cellTags (name : String) (cells : List (List Inline)) : List Mark :=
  cells.flatMap fun cell => enclosed name (inlineTags cell)

/-- The tags of a table. -/
def tableTags (head : List (List Inline)) (rows : List (List (List Inline))) : List Mark :=
  enclosed "table"
    (enclosed "thead" (enclosed "tr" (cellTags "th" head)) ++
      enclosed "tbody" (rows.flatMap fun row => enclosed "tr" (cellTags "td" row)))

mutual

/-- The tags of a block. A footnote's definition is one paragraph on the page, so paragraphs inside
it have no tags of their own. -/
def Block.tags (inDefinition : Bool) : Block → List Mark
  | .inline content => content.tags
  | .paragraph content =>
      if inDefinition then inlineTags content else enclosed "p" (inlineTags content)
  | .heading level content => enclosed (headingName level) (enclosed "a" [] ++ inlineTags content)
  | .blockQuote content => enclosed "blockquote" (blockTags inDefinition content)
  | .list first items => enclosed (if first.isSome then "ol" else "ul") (itemTags inDefinition items)
  | .codeBlock _ _ => enclosed "pre" (enclosed "code" [])
  | .rule => [.stands "hr"]
  | .table _ head rows => tableTags head rows

def blockTags (inDefinition : Bool) : List Block → List Mark
  | [] => []
  | block :: rest => block.tags inDefinition ++ blockTags inDefinition rest

def itemTags (inDefinition : Bool) : List (List Block) → List Mark
  | [] => []
  | item :: rest => enclosed "li" (blockTags inDefinition item) ++ itemTags inDefinition rest

end

/-- The tags of a part. A definition begins with its number and ends with a link back. -/
def Part.tags : Part → List Mark
  | .block content => content.tags false
  | .definition _ content =>
      enclosed "p" (enclosed "sup" [] ++ blockTags true content ++ enclosed "a" [])

/-- The tags of the page of a document. -/
def documentTags (document : List Part) : List Mark :=
  document.flatMap Part.tags

/-! ## Balance -/

theorem Balanced.flatMap {α : Type} {f : α → List Mark} (items : List α)
    (hf : ∀ item, Balanced (f item)) : Balanced (items.flatMap f) := by
  induction items with
  | nil => exact Balanced.nil
  | cons item rest ih => exact (hf item).append ih

mutual

theorem balanced_inline : ∀ inline : Inline, Balanced inline.tags
  | .text _ | .softBreak => Balanced.nil
  | .code _ => Balanced.nil.enclosed "code"
  | .hardBreak => Balanced.stands "br"
  | .footnoteReference _ => (Balanced.nil.enclosed "a").enclosed "sup"
  | .taskMarker _ => Balanced.stands "input"
  | .emphasis content => (balanced_inlines content).enclosed "em"
  | .strong content => (balanced_inlines content).enclosed "strong"
  | .strikethrough content => (balanced_inlines content).enclosed "del"
  | .link _ _ _ content => (balanced_inlines content).enclosed "a"
  | .image _ _ _ => Balanced.stands "img"

theorem balanced_inlines : ∀ inlines : List Inline, Balanced (inlineTags inlines)
  | [] => Balanced.nil
  | inline :: rest => (balanced_inline inline).append (balanced_inlines rest)

end

theorem balanced_cells (name : String) (cells : List (List Inline)) :
    Balanced (cellTags name cells) :=
  Balanced.flatMap cells fun cell => (balanced_inlines cell).enclosed name

theorem balanced_table (head : List (List Inline)) (rows : List (List (List Inline))) :
    Balanced (tableTags head rows) := by
  have hhead := ((balanced_cells "th" head).enclosed "tr").enclosed "thead"
  have hrows : Balanced (rows.flatMap fun row => enclosed "tr" (cellTags "td" row)) :=
    Balanced.flatMap rows fun row => (balanced_cells "td" row).enclosed "tr"
  exact (hhead.append (hrows.enclosed "tbody")).enclosed "table"

mutual

theorem balanced_block (inDefinition : Bool) : ∀ block : Block, Balanced (block.tags inDefinition)
  | .inline content => balanced_inline content
  | .paragraph content => by
      rw [Block.tags]
      split
      · exact balanced_inlines content
      · exact (balanced_inlines content).enclosed "p"
  | .heading level content =>
      ((Balanced.nil.enclosed "a").append (balanced_inlines content)).enclosed (headingName level)
  | .blockQuote content => (balanced_blocks inDefinition content).enclosed "blockquote"
  | .list _ items => (balanced_items inDefinition items).enclosed _
  | .codeBlock _ _ => (Balanced.nil.enclosed "code").enclosed "pre"
  | .rule => Balanced.stands "hr"
  | .table _ head rows => balanced_table head rows

theorem balanced_blocks (inDefinition : Bool) :
    ∀ blocks : List Block, Balanced (blockTags inDefinition blocks)
  | [] => Balanced.nil
  | block :: rest =>
      (balanced_block inDefinition block).append (balanced_blocks inDefinition rest)

theorem balanced_items (inDefinition : Bool) :
    ∀ items : List (List Block), Balanced (itemTags inDefinition items)
  | [] => Balanced.nil
  | item :: rest =>
      ((balanced_blocks inDefinition item).enclosed "li").append (balanced_items inDefinition rest)

end

/-- The tags of a document's page are balanced. -/
theorem balanced_documentTags (document : List Part) : Balanced (documentTags document) := by
  refine Balanced.flatMap document fun part => ?_
  cases part with
  | block content => exact balanced_block false content
  | definition label content =>
      have hinner := ((Balanced.nil.enclosed "sup").append (balanced_blocks true content)).append
        (Balanced.nil.enclosed "a")
      exact hinner.enclosed "p"

/-! ## Figures -/

/-- Whether a paragraph is nothing but an image with one text. -/
def isPicture : List Inline → Bool
  | [.image _ _ [.text _]] => true
  | _ => false

mutual

/-- Whether some paragraph is nothing but an image with one text. -/
def Block.hasPicture : Block → Bool
  | .paragraph content => isPicture content
  | .blockQuote content => blocksHavePicture content
  | .list _ items => itemsHavePicture items
  | _ => false

def blocksHavePicture : List Block → Bool
  | [] => false
  | block :: rest => block.hasPicture || blocksHavePicture rest

def itemsHavePicture : List (List Block) → Bool
  | [] => false
  | item :: rest => blocksHavePicture item || itemsHavePicture rest

end

/-- Whether some paragraph of a part is nothing but an image with one text. -/
def Part.hasPicture : Part → Bool
  | .block content => content.hasPicture
  | .definition _ content => blocksHavePicture content

/-- Events none of which begins a standalone image. -/
def unflagged (events : List Event) : List (Event × Bool) :=
  events.map fun event => (event, false)

/-- Events that pass `markStandalone` as they are, whatever follows them. -/
def PassesUnflagged (events : List Event) : Prop :=
  ∀ rest, markStandalone (events ++ rest) = unflagged events ++ markStandalone rest

theorem PassesUnflagged.nil : PassesUnflagged [] :=
  fun _ => rfl

theorem PassesUnflagged.append {left right : List Event} (hleft : PassesUnflagged left)
    (hright : PassesUnflagged right) : PassesUnflagged (left ++ right) := by
  intro rest
  rw [List.append_assoc, hleft, hright, unflagged, unflagged, unflagged, List.map_append,
    List.append_assoc]

theorem PassesUnflagged.event {event : Event} (h : event ≠ .start .paragraph) :
    PassesUnflagged [event] := by
  intro rest
  rw [List.cons_append, List.nil_append, markStandalone]
  · rfl
  · exact fun _ _ _ _ _ _ hevent _ => h hevent

theorem PassesUnflagged.node {tag : Tag} {trees : List EventTree} (htag : tag ≠ .paragraph)
    (htrees : PassesUnflagged (forestEvents trees)) :
    PassesUnflagged (EventTree.node tag trees).events := by
  have hstart : PassesUnflagged [.start tag] := PassesUnflagged.event (by simpa using htag)
  have hstop : PassesUnflagged [.stop tag] := PassesUnflagged.event (by simp)
  exact hstart.append (htrees.append hstop)

mutual

theorem passes_inline : ∀ inline : Inline, PassesUnflagged inline.tree.events
  | .text _ | .code _ | .softBreak | .hardBreak | .footnoteReference _ | .taskMarker _ =>
      PassesUnflagged.event (by simp [Leaf.event])
  | .emphasis content | .strong content | .strikethrough content | .link _ _ _ content
  | .image _ _ content => PassesUnflagged.node (by simp) (passes_inlines content)

theorem passes_inlines :
    ∀ inlines : List Inline, PassesUnflagged (forestEvents (inlineTrees inlines))
  | [] => PassesUnflagged.nil
  | inline :: rest => (passes_inline inline).append (passes_inlines rest)

end

/-- The events of an inline do not begin with the end of a construct. -/
theorem inline_events_first (inline : Inline) :
    ∃ event rest, inline.tree.events = event :: rest ∧ ∀ tag, event ≠ .stop tag := by
  cases inline <;> exact ⟨_, _, rfl, by simp [Leaf.event]⟩

/-- Inlines are over where a construct ends that did not begin among them. -/
theorem inlines_over {inlines : List Inline} {tag tag' : Tag} {rest rest' : List Event}
    (h : forestEvents (inlineTrees inlines) ++ .stop tag :: rest = .stop tag' :: rest') :
    inlines = [] ∧ rest = rest' := by
  cases inlines with
  | nil =>
      rw [inlineTrees, forestEvents_nil, List.nil_append, List.cons.injEq] at h
      exact ⟨rfl, h.2⟩
  | cons first others =>
      obtain ⟨event, more, hevents, hnot⟩ := inline_events_first first
      rw [inlineTrees, forestEvents_cons, hevents] at h
      exact absurd (List.cons.inj h).1 (hnot tag')

/-- A paragraph that is taken for a figure is nothing but an image with one text. -/
theorem isPicture_of_match {content : List Inline} {dest title alt dest' title' : String}
    {rest rest' : List Event}
    (h : forestEvents (inlineTrees content) ++ .stop .paragraph :: rest
      = .start (.image dest title) :: .text alt :: .stop (.image dest' title') ::
          .stop .paragraph :: rest') :
    isPicture content := by
  cases content with
  | nil => simp [inlineTrees] at h
  | cons first others =>
      cases first with
      | image destination name inner =>
          cases inner with
          | nil => simp [inlineTrees, Inline.tree] at h
          | cons second more =>
              cases second with
              | text words =>
                  simp only [inlineTrees, Inline.tree, forestEvents_cons, events_node, events_leaf,
                    Leaf.event, List.cons_append, List.nil_append, List.append_assoc,
                    List.cons.injEq] at h
                  obtain ⟨-, -, htail⟩ := h
                  obtain ⟨rfl, hafter⟩ := inlines_over htail
                  obtain ⟨rfl, -⟩ := inlines_over hafter
                  rfl
              | _ => simp [inlineTrees, Inline.tree, Leaf.event] at h
      | _ => simp [inlineTrees, Inline.tree, Leaf.event] at h

theorem passes_paragraph {content : List Inline} (h : isPicture content = false) :
    PassesUnflagged (EventTree.node .paragraph (inlineTrees content)).events := by
  intro rest
  have hstart : markStandalone
        (.start .paragraph :: (forestEvents (inlineTrees content) ++ .stop .paragraph :: rest))
      = (.start .paragraph, false) ::
          markStandalone (forestEvents (inlineTrees content) ++ .stop .paragraph :: rest) := by
    rw [markStandalone]
    -- the paragraph would have to look like a figure, and then it would be a picture
    intro dest title alt dest' title' rest' _ hmatch
    rw [isPicture_of_match hmatch] at h
    exact Bool.noConfusion h
  have hstop : PassesUnflagged [.stop .paragraph] := PassesUnflagged.event (by simp)
  have hinner := (passes_inlines content).append hstop rest
  rw [List.append_assoc, List.cons_append, List.nil_append] at hinner
  rw [events_node, List.cons_append, List.append_assoc, List.cons_append, List.nil_append, hstart,
    hinner]
  rfl

theorem passes_cells (cells : List (List Inline)) :
    PassesUnflagged (forestEvents (cellTrees cells)) := by
  induction cells with
  | nil => exact PassesUnflagged.nil
  | cons cell rest ih => exact (PassesUnflagged.node (by simp) (passes_inlines cell)).append ih

theorem passes_rows (rows : List (List (List Inline))) :
    PassesUnflagged (forestEvents (rows.map fun row => .node .tableRow (cellTrees row))) := by
  induction rows with
  | nil => exact PassesUnflagged.nil
  | cons row rest ih => exact (PassesUnflagged.node (by simp) (passes_cells row)).append ih

theorem passes_texts (texts : List String) :
    PassesUnflagged (forestEvents (texts.map fun text => .leaf (.text text))) := by
  induction texts with
  | nil => exact PassesUnflagged.nil
  | cons text rest ih => exact (PassesUnflagged.event (by simp [Leaf.event])).append ih

mutual

theorem passes_block :
    ∀ block : Block, block.hasPicture = false → PassesUnflagged block.tree.events
  | .inline content, _ => passes_inline content
  | .paragraph content, h => passes_paragraph (by simpa [Block.hasPicture] using h)
  | .heading _ content, _ => PassesUnflagged.node (by simp) (passes_inlines content)
  | .blockQuote content, h =>
      PassesUnflagged.node (by simp) (passes_blocks content (by simpa [Block.hasPicture] using h))
  | .list _ items, h =>
      PassesUnflagged.node (by simp) (passes_items items (by simpa [Block.hasPicture] using h))
  | .codeBlock _ texts, _ => PassesUnflagged.node (by simp) (passes_texts texts)
  | .rule, _ => PassesUnflagged.event (by simp [Leaf.event])
  | .table _ head rows, _ => by
      have hhead : PassesUnflagged (EventTree.node .tableHead (cellTrees head)).events :=
        PassesUnflagged.node (by simp) (passes_cells head)
      exact PassesUnflagged.node (by simp) (hhead.append (passes_rows rows))

theorem passes_blocks : ∀ blocks : List Block, blocksHavePicture blocks = false →
    PassesUnflagged (forestEvents (blockTrees blocks))
  | [], _ => PassesUnflagged.nil
  | block :: rest, h => by
      rw [blocksHavePicture, Bool.or_eq_false_iff] at h
      exact (passes_block block h.1).append (passes_blocks rest h.2)

theorem passes_items : ∀ items : List (List Block), itemsHavePicture items = false →
    PassesUnflagged (forestEvents (itemTrees items))
  | [], _ => PassesUnflagged.nil
  | item :: rest, h => by
      rw [itemsHavePicture, Bool.or_eq_false_iff] at h
      exact (PassesUnflagged.node (by simp) (passes_blocks item h.1)).append
        (passes_items rest h.2)

end

theorem passes_parts (document : List Part) (h : document.all fun part => !part.hasPicture) :
    PassesUnflagged (documentEvents document) := by
  induction document with
  | nil => exact PassesUnflagged.nil
  | cons part rest ih =>
      rw [List.all_cons, Bool.and_eq_true, Bool.not_eq_true'] at h
      refine PassesUnflagged.append ?_ (ih h.2)
      cases part with
      | block content => exact passes_block content h.1
      | definition label content =>
          exact PassesUnflagged.node (by simp) (passes_blocks content h.1)

/-- In a document without a paragraph that is nothing but an image with one text, no image is taken
for a figure. -/
theorem markStandalone_documentEvents (document : List Part)
    (h : document.all fun part => !part.hasPicture) :
    markStandalone (documentEvents document) = unflagged (documentEvents document) := by
  have hall := passes_parts document h []
  simpa [markStandalone] using hall

end StaticSite.Html
