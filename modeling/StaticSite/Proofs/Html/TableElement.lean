import StaticSite.Proofs.Html.ImageElement
import StaticSite.Proofs.Html.LineStart
import StaticSite.Proofs.Markdown.TableStream

/-!
# Tables

A table is written cell by cell. The writer remembers three things for it: whether it is in the
table's head, what the columns declare, and the next column. A cell is written by these, and each is
set anew by every table before it is read: the declarations by the table's own tag, the column by
the head's tag and by every row's, and the part by the head's tag and its end.

## What this module delivers

- `tableMarkup`: the markup of a table, with one element for each cell.
- `Cursor`, `cursor_step`: what the writer remembers for tables, and that a line leaves it alone.
- `Writer.Fills`, `fills_tag`, `fills_line`: what a tag of a table and a line in a cell hand on.
- `fills_cells`, `fills_rows`, `fills_table`: cells, rows and tables, by induction on their lists.
- `Spot.plain_passage`: sound tokens leave no image and no code block open.
- `WritesTables`, `writesTables_stream`: the tables in a stream of tokens.
-/

set_option autoImplicit false

namespace StaticSite.Html

open StaticSite.Markdown

/-! ## The markup of a table -/

/-- The attribute of a cell whose column declares an alignment. -/
def alignAttribute : ColumnAlignment → String
  | .left => " align=\"left\""
  | .center => " align=\"center\""
  | .right => " align=\"right\""
  | .none => ""

/-- A cell: a column beyond the header cells declares nothing. -/
def cellMarkup (name : String) (alignments : List ColumnAlignment) (column : Nat)
    (text : String) : String :=
  "<" ++ name ++ alignAttribute (alignments[column]?.getD .none) ++ ">" ++ text ++
    "</" ++ name ++ ">"

/-- The cells of a row, the first one in the first column. -/
def cellsMarkup (name : String) (alignments : List ColumnAlignment) (texts : List String) :
    String :=
  String.join (texts.mapIdx (cellMarkup name alignments))

/-- The text of a line by itself if footnotes have these numbers, and the numbers behind it. -/
def lineText (highlighter : Option Highlighter) (numbers : FootnoteNumbers)
    (trees : List EventTree) : String × FootnoteNumbers :=
  let w := (markStandalone (forestEvents trees)).foldl (Writer.step highlighter)
    { footnotes := numbers }
  (w.page, w.footnotes)

/-- The texts of lines, one after the other. -/
def lineTexts (highlighter : Option Highlighter) :
    FootnoteNumbers → List (List InlineNode) → List String × FootnoteNumbers
  | numbers, [] => ([], numbers)
  | numbers, run :: rest =>
    let line := lineText highlighter numbers (lineTrees run)
    let others := lineTexts highlighter line.2 rest
    (line.1 :: others.1, others.2)

/-- The rows of a table's bodies, each with its cells from the first column on. -/
def rowsMarkup (highlighter : Option Highlighter) (alignments : List ColumnAlignment) :
    FootnoteNumbers → List (List (List InlineNode)) → String × FootnoteNumbers
  | numbers, [] => ("", numbers)
  | numbers, row :: rest =>
    let texts := lineTexts highlighter numbers row
    let others := rowsMarkup highlighter alignments texts.2 rest
    ("<tr>" ++ cellsMarkup "td" alignments texts.1 ++ "</tr>\n" ++ others.1, others.2)

/-- A table, if footnotes have these numbers before it, and the numbers behind it. -/
def tableMarkup (highlighter : Option Highlighter) (numbers : FootnoteNumbers)
    (table : TableNode) : String × FootnoteNumbers :=
  let head := lineTexts highlighter numbers (table.head.map (·.2))
  let body := rowsMarkup highlighter table.alignments head.2 table.rows
  ("<table>" ++ ("<thead><tr>" ++ cellsMarkup "th" table.alignments head.1 ++
    "</tr></thead><tbody>\n") ++ body.1 ++ "</tbody></table>\n", body.2)

/-! ## What the writer remembers for tables -/

/-- What a writer remembers for tables: whether it is in a table's head, what the columns declare,
and the next column. -/
structure Cursor where
  inTableHead : Bool
  alignments : List ColumnAlignment
  column : Nat

namespace Cursor

/-- The name of a cell. -/
def name (cursor : Cursor) : String :=
  if cursor.inTableHead then "th" else "td"

/-- The cursor behind an event of a table. -/
def next (cursor : Cursor) : Event → Cursor
  | .start (.table alignments) => { cursor with alignments := alignments }
  | .start .tableHead => { cursor with inTableHead := true, column := 0 }
  | .stop .tableHead => { cursor with inTableHead := false }
  | .start .tableRow => { cursor with column := 0 }
  | .stop .tableCell => { cursor with column := cursor.column + 1 }
  | _ => cursor

/-- The text that an event of a table hands on. -/
def tag? (cursor : Cursor) : Event → Option String
  | .start (.table _) => some "<table>"
  | .stop (.table _) => some "</tbody></table>\n"
  | .start .tableHead => some "<thead><tr>"
  | .stop .tableHead => some "</tr></thead><tbody>\n"
  | .start .tableRow => some "<tr>"
  | .stop .tableRow => some "</tr>\n"
  | .start .tableCell => some ("<" ++ cursor.name ++
      alignAttribute (cursor.alignments[cursor.column]?.getD .none) ++ ">")
  | .stop .tableCell => some ("</" ++ cursor.name ++ ">")
  | _ => none

end Cursor

namespace Writer

variable {w w' w'' : Writer} {text more : String} {highlighter : Option Highlighter}

def cursor (w : Writer) : Cursor :=
  ⟨w.inTableHead, w.alignments, w.column⟩

/-! ### What has no part in it -/

@[simp] theorem cursor_emit : (w.emit text).cursor = w.cursor := by
  unfold emit
  split <;> rfl

@[simp] theorem cursor_write : (w.write text).cursor = w.cursor := by
  unfold write
  split <;> exact cursor_emit

@[simp] theorem cursor_writeText : (w.writeText text).cursor = w.cursor :=
  cursor_emit

theorem cursor_settleHeading : (w.settleHeading text).cursor = w.cursor := by
  obtain ⟨written, hsame, -⟩ := settleHeading_spec w text
  rw [hsame]
  rfl

theorem cursor_prepareHeading (event : Event) : (w.prepareHeading event).cursor = w.cursor := by
  unfold prepareHeading
  split
  · split
    · rfl
    · exact cursor_settleHeading
    · split <;> rfl
  · rfl

theorem cursor_text (content : String) : (w.text content).cursor = w.cursor := by
  have hsettled : (if w.awaitingHeadingText then w.settleHeading content else w).cursor
      = w.cursor := by
    split
    · exact cursor_settleHeading
    · rfl
  unfold Writer.text
  dsimp only
  split
  · exact hsettled
  · exact cursor_writeText.trans hsettled

theorem cursor_footnoteReference (label : String) :
    (w.footnoteReference label).cursor = w.cursor := by
  unfold footnoteReference
  simp only [cursor_write, cursor_emit]
  rfl

theorem cursor_startImage (dest title : String) (standalone : Bool) :
    (w.startImage dest title standalone).cursor = w.cursor := by
  have hopen : ∀ (v : Writer) (image : OpenImage),
      ({ v with image := some image } : Writer).cursor = v.cursor := fun _ _ => rfl
  unfold startImage
  split <;> simp only [hopen, cursor_write, cursor_emit]

theorem cursor_finishImage (image : OpenImage) : (w.finishImage image).cursor = w.cursor := by
  have hclosed : ({ w with image := none } : Writer).cursor = w.cursor := rfl
  unfold finishImage
  dsimp only
  split <;> split <;> simp only [cursor_write, cursor_emit, hclosed]

theorem cursor_altStep (image : OpenImage) (event : Event) :
    (w.altStep image event).cursor = w.cursor := by
  cases event with
  | start tag => rfl
  | stop tag =>
      unfold altStep
      dsimp only
      split
      · exact cursor_finishImage image
      · rfl
  | footnoteReference label => exact cursor_write
  | html content => exact cursor_writeText
  | code content => exact cursor_writeText
  | text content => exact cursor_writeText
  | _ => exact cursor_write

theorem cursor_startTag (standalone : Bool) {tag : Tag} (h : tag.isInline) :
    (w.startTag highlighter standalone tag).cursor = w.cursor := by
  cases tag with
  | emphasis => exact cursor_write
  | strong => exact cursor_write
  | strikethrough => exact cursor_write
  | link form dest title =>
      unfold startTag
      dsimp only
      split <;> simp only [cursor_write, cursor_emit]
  | image dest title => exact cursor_startImage dest title standalone
  | _ => exact Bool.noConfusion h

theorem cursor_stopTag {tag : Tag} (h : tag.isInline) :
    (w.stopTag highlighter tag).cursor = w.cursor := by
  cases tag with
  | emphasis => exact cursor_write
  | strong => exact cursor_write
  | strikethrough => exact cursor_write
  | link form dest title => exact cursor_write
  | image dest title => rfl
  | _ => exact Bool.noConfusion h

/-- What may stand in a line has no part in what is remembered for tables. -/
theorem cursor_step {event : Event} (h : event.isInline) (standalone : Bool) :
    (w.step highlighter (event, standalone)).cursor = w.cursor := by
  cases himage : w.image with
  | some image =>
      rw [step_of_image highlighter himage]
      exact cursor_altStep image event
  | none =>
      rw [step_of_image_none highlighter himage]
      refine Eq.trans ?_ (cursor_prepareHeading event)
      cases event with
      | start tag => exact cursor_startTag standalone h
      | stop tag => exact cursor_stopTag h
      | text content => exact cursor_text content
      | footnoteReference label => exact cursor_footnoteReference label
      | taskMarker checked => cases checked <;> exact cursor_write
      | rule => exact Bool.noConfusion h
      | code content => simp only [perform, cursor_write, cursor_emit]
      | html content => exact cursor_write
      | softBreak => exact cursor_emit
      | hardBreak => exact cursor_write

theorem cursor_run {pairs : List (Event × Bool)} (h : ∀ pair ∈ pairs, pair.1.isInline) :
    (pairs.foldl (step highlighter) w).cursor = w.cursor := by
  induction pairs generalizing w with
  | nil => rfl
  | cons pair rest ih =>
      obtain ⟨hpair, hrest⟩ := List.forall_mem_cons.mp h
      exact (ih hrest).trans (cursor_step hpair pair.2)

/-! ## What the parts of a table hand on -/

/-- The writer `w'` is `w` after a part of a table, which leaves these numbers to footnotes and the
cursor at a cell. -/
structure Fills (w : Writer) (text : String) (numbers : FootnoteNumbers) (cursor : Cursor)
    (w' : Writer) : Prop where
  prints : ∃ name?, w.Prints text name? w'
  footnotes : w'.footnotes = numbers
  cursor : w'.cursor = cursor

variable {numbers numbers' : FootnoteNumbers} {cursor cursor' : Cursor}

theorem Fills.trans (h : w.Fills text numbers cursor w') (h' : w'.Fills more numbers' cursor' w'') :
    w.Fills (text ++ more) numbers' cursor' w'' := by
  obtain ⟨name?, hprints⟩ := h.prints
  obtain ⟨name?', hprints'⟩ := h'.prints
  exact ⟨⟨_, hprints.trans hprints'⟩, h'.footnotes, h'.cursor⟩

theorem Fills.congr (h : w.Fills text numbers cursor w') (htext : text = more) :
    w.Fills more numbers cursor w' :=
  htext ▸ h

theorem Fills.refl (hw : w.IsReady) (hcode : w.code = none) :
    w.Fills "" w.footnotes w.cursor w :=
  ⟨⟨none, Prints.refl hw hcode⟩, rfl, rfl⟩

theorem Fills.ready (h : w.Fills text numbers cursor w') : w'.IsReady ∧ w'.code = none := by
  obtain ⟨_, hprints⟩ := h.prints
  exact ⟨hprints.ready, hprints.code⟩

theorem cellAttribute_eq (w : Writer) :
    w.cellAttribute
      = alignAttribute (w.cursor.alignments[w.cursor.column]?.getD .none) ++ ">" := by
  have hsame : w.cursor.alignments[w.cursor.column]? = w.alignments[w.column]? := rfl
  unfold cellAttribute
  rw [hsame]
  cases w.alignments[w.column]? with
  | none => decide
  | some alignment => cases alignment <;> decide

/-- The tag of a table's part, once no heading is in its way. -/
theorem continues_tag (highlighter : Option Highlighter) {event : Event}
    (h : w.cursor.tag? event = some text) :
    w.Continues text (w.perform highlighter false event) ∧
      (w.perform highlighter false event).footnotes = w.footnotes ∧
      (w.perform highlighter false event).cursor = w.cursor.next event := by
  have hwrite : ∀ v : Writer, w.Continues "" v → v.footnotes = w.footnotes → ∀ text,
      w.Continues text (v.write text) ∧ (v.write text).footnotes = w.footnotes ∧
        (v.write text).cursor = v.cursor := fun v hv hnumbers text =>
    ⟨(hv.write text).congr String.empty_append, footnotes_write.trans hnumbers, cursor_write⟩
  have hsame := Continues.refl w
  cases event with
  | start tag =>
      cases tag with
      | table alignments =>
          cases h
          exact hwrite { w with alignments := alignments }
            (hsame.of_same rfl rfl rfl rfl rfl rfl rfl) rfl _
      | tableHead =>
          cases h
          exact hwrite { w with inTableHead := true, column := 0 }
            (hsame.of_same rfl rfl rfl rfl rfl rfl rfl) rfl _
      | tableRow =>
          cases h
          exact hwrite { w with column := 0 } (hsame.of_same rfl rfl rfl rfl rfl rfl rfl) rfl _
      | tableCell =>
          cases h
          obtain ⟨hcontinues, hnumbers, hcursor⟩ :=
            hwrite w hsame rfl (if w.inTableHead then "<th" else "<td")
          have hname : ∀ inTableHead : Bool, (if inTableHead then "<th" else "<td" : String)
              = "<" ++ (if inTableHead then "th" else "td") := by decide
          refine ⟨(hcontinues.write w.cellAttribute).congr ?_, footnotes_write.trans hnumbers,
            cursor_write.trans hcursor⟩
          rw [hname, cellAttribute_eq, ← String.append_assoc]
          rfl
      | _ => cases h
  | stop tag =>
      cases tag with
      | table alignments => cases h; exact hwrite w hsame rfl _
      | tableHead =>
          cases h
          obtain ⟨hcontinues, hnumbers, hcursor⟩ := hwrite w hsame rfl "</tr></thead><tbody>\n"
          refine ⟨hcontinues.of_same rfl rfl rfl rfl rfl rfl rfl, hnumbers, ?_⟩
          exact congrArg (fun cursor : Cursor => { cursor with inTableHead := false }) hcursor
      | tableRow => cases h; exact hwrite w hsame rfl _
      | tableCell =>
          cases h
          obtain ⟨hcontinues, hnumbers, hcursor⟩ :=
            hwrite w hsame rfl (if w.inTableHead then "</th>" else "</td>")
          have hname : ∀ inTableHead : Bool, (if inTableHead then "</th>" else "</td>" : String)
              = "</" ++ (if inTableHead then "th" else "td") ++ ">" := by decide
          refine ⟨(hcontinues.congr (hname _)).of_same rfl rfl rfl rfl rfl rfl rfl, hnumbers, ?_⟩
          exact congrArg (fun cursor : Cursor => { cursor with column := cursor.column + 1 }) hcursor
      | _ => cases h
  | _ => cases h

/-- The tag of a table's part is handed on wherever the table stands. -/
theorem fills_tag (hw : w.IsReady) (hcode : w.code = none) {event : Event}
    (h : w.cursor.tag? event = some text) :
    w.Fills text w.footnotes (w.cursor.next event) (w.step highlighter (event, false)) := by
  have hevent : ∀ content, event ≠ .text content := by
    rintro content rfl
    cases h
  have hcursor : (w.prepareHeading event).cursor = w.cursor := cursor_prepareHeading event
  rw [← hcursor] at h
  obtain ⟨hcontinues, hnumbers, hnext⟩ := continues_tag highlighter h
  have hstep := step_of_image_none highlighter hw.image event false
  refine ⟨⟨_, prints_step hw hcode hevent hcontinues⟩, ?_, ?_⟩
  · rw [hstep, hnumbers, footnotes_prepareHeading]
  · rw [hstep, hnext, hcursor]

/-- A line in a cell hands on what it would by itself. -/
theorem fills_line (hw : w.IsReady) (hcode : w.code = none) {trees : List EventTree}
    (hinline : areInline trees) :
    w.Fills (lineText highlighter w.footnotes trees).1
      (lineText highlighter w.footnotes trees).2 w.cursor
      ((forestMarked trees).foldl (step highlighter) w) := by
  have hline : PrintsLine highlighter (forestMarked trees) _ := printsLine_forest trees hinline
  obtain ⟨text, numbers, hall⟩ := hline w.footnotes
  obtain ⟨hprints, hnumbers⟩ := hall w hw hcode rfl
  obtain ⟨halone, hnumbers'⟩ := hall { footnotes := w.footnotes } ⟨rfl, fun _ => rfl⟩ rfl rfl
  rw [← markStandalone_forest] at halone hnumbers'
  have htext : (lineText highlighter w.footnotes trees).1 = text :=
    (halone.page rfl).2.1.trans String.empty_append
  refine ⟨⟨_, hprints.congr htext.symm⟩, ?_, cursor_run ?_⟩
  · rw [hnumbers, ← hnumbers']
    rfl
  · intro pair hpair
    rw [forestMarked_inline hinline] at hpair
    obtain ⟨event, hevent, rfl⟩ := List.mem_map.mp hpair
    exact isInline_forestEvents trees hinline event hevent

section Behind

variable (highlighter : Option Highlighter)

/-- A tag of a table behind what was handed on for it before. -/
theorem Fills.tag (h : w.Fills text numbers cursor w') (event : Event)
    (htag : cursor.tag? event = some more) :
    w.Fills (text ++ more) numbers (cursor.next event) (w'.step highlighter (event, false)) := by
  obtain ⟨hready, hcode⟩ := h.ready
  have hnext : w'.Fills _ _ _ (w'.step highlighter (event, false)) :=
    fills_tag hready hcode (by rw [h.cursor]; exact htag)
  rw [h.footnotes, h.cursor] at hnext
  exact h.trans hnext

/-- A line behind what was handed on for its table before. -/
theorem Fills.line (h : w.Fills text numbers cursor w') {trees : List EventTree}
    (hinline : areInline trees) :
    w.Fills (text ++ (lineText highlighter numbers trees).1) (lineText highlighter numbers trees).2
      cursor ((forestMarked trees).foldl (step highlighter) w') := by
  obtain ⟨hready, hcode⟩ := h.ready
  have hline : w'.Fills _ _ _ ((forestMarked trees).foldl (step highlighter) w') :=
    fills_line hready hcode hinline
  rw [h.footnotes, h.cursor] at hline
  exact h.trans hline

/-! ### Cells, rows and tables -/

/-- A cell is written by its part, its column and its own line, and moves to the next column. -/
theorem Fills.cell (h : w.Fills text numbers cursor w') (run : List InlineNode) :
    w.Fills
      (text ++ cellMarkup cursor.name cursor.alignments cursor.column
        (lineText highlighter numbers (lineTrees run)).1)
      (lineText highlighter numbers (lineTrees run)).2
      { cursor with column := cursor.column + 1 }
      ((treeMarked (TableNode.cellTree run)).foldl (step highlighter) w') := by
  have hopens := h.tag highlighter (.start .tableCell) rfl
  have hline := hopens.line highlighter (areInline_lineTrees run)
  have hcloses := hline.tag highlighter (.stop .tableCell) rfl
  rw [TableNode.cellTree, treeMarked_node (by simp), List.foldl_cons, List.foldl_append]
  refine hcloses.congr ?_
  simp only [cellMarkup, Cursor.next, String.append_assoc]

/-- Cells are written from the column of the first one on. -/
theorem Fills.cells (h : w.Fills text numbers cursor w') (runs : List (List InlineNode)) :
    w.Fills
      (text ++ String.join ((lineTexts highlighter numbers runs).1.mapIdx fun column text =>
        cellMarkup cursor.name cursor.alignments (cursor.column + column) text))
      (lineTexts highlighter numbers runs).2
      { cursor with column := cursor.column + runs.length }
      ((forestMarked (runs.map TableNode.cellTree)).foldl (step highlighter) w') := by
  induction runs generalizing w' text numbers cursor with
  | nil => exact h.congr String.append_empty.symm
  | cons run rest ih =>
      have hrest := ih (h.cell highlighter run)
      have hcolumn : ∀ column, cursor.column + 1 + column = cursor.column + (column + 1) :=
        fun column => by omega
      simp only [hcolumn] at hrest
      rw [List.map_cons, forestMarked, List.foldl_append, lineTexts, List.mapIdx_cons,
        String.join_cons, ← String.append_assoc]
      exact hrest

/-- The cells of a row begin in the first column. -/
theorem Fills.rowCells (h : w.Fills text numbers cursor w') (hcolumn : cursor.column = 0)
    (runs : List (List InlineNode)) :
    w.Fills (text ++ cellsMarkup cursor.name cursor.alignments (lineTexts highlighter numbers runs).1)
      (lineTexts highlighter numbers runs).2 { cursor with column := runs.length }
      ((forestMarked (runs.map TableNode.cellTree)).foldl (step highlighter) w') := by
  have hcells := h.cells highlighter runs
  simp only [hcolumn, Nat.zero_add] at hcells
  exact hcells

/-- The rows of a table's bodies are written one after the other. -/
theorem Fills.rows (h : w.Fills text numbers cursor w') (hbody : cursor.inTableHead = false)
    (rows : List (List (List InlineNode))) :
    ∃ column, w.Fills (text ++ (rowsMarkup highlighter cursor.alignments numbers rows).1)
      (rowsMarkup highlighter cursor.alignments numbers rows).2 { cursor with column := column }
      ((forestMarked (rows.map TableNode.rowTree)).foldl (step highlighter) w') := by
  induction rows generalizing w' text numbers cursor with
  | nil => exact ⟨cursor.column, h.congr String.append_empty.symm⟩
  | cons row rest ih =>
      have hopens := h.tag highlighter (.start .tableRow) rfl
      have hcells := hopens.rowCells highlighter rfl row
      have hcloses := hcells.tag highlighter (.stop .tableRow) rfl
      obtain ⟨column, hrest⟩ := ih hcloses hbody
      refine ⟨column, ?_⟩
      have hname : (cursor.next (.start .tableRow)).name = "td" := by
        show (if cursor.inTableHead then "th" else "td" : String) = "td"
        rw [hbody]
        rfl
      rw [List.map_cons, forestMarked, List.foldl_append, TableNode.rowTree,
        treeMarked_node (by simp), List.foldl_cons, List.foldl_append]
      refine hrest.congr ?_
      simp only [rowsMarkup, hname, String.append_assoc]
      rfl

/-- A table is written as its own cells say, wherever it stands and whatever the writer remembers of
other tables. -/
theorem fills_table (hw : w.IsReady) (hcode : w.code = none) (table : TableNode) :
    ∃ cursor, w.Fills (tableMarkup highlighter w.footnotes table).1
      (tableMarkup highlighter w.footnotes table).2 cursor
      ((treeMarked table.tree).foldl (step highlighter) w) := by
  have hopens := (Fills.refl hw hcode).tag highlighter (.start (.table table.alignments)) rfl
  have hhead : w.Fills _ _ ⟨true, table.alignments, 0⟩ _ :=
    hopens.tag highlighter (.start .tableHead) rfl
  have hcells := hhead.rowCells highlighter rfl (table.head.map (·.2))
  have hbody : w.Fills _ _ ⟨false, table.alignments, (table.head.map (·.2)).length⟩ _ :=
    hcells.tag highlighter (.stop .tableHead) rfl
  obtain ⟨column, hrows⟩ := hbody.rows highlighter rfl table.rows
  have hcloses := hrows.tag highlighter (.stop (.table table.alignments)) rfl
  have hsame : table.head.map (fun cell => TableNode.cellTree cell.2)
      = (table.head.map (·.2)).map TableNode.cellTree := by
    rw [List.map_map]
    rfl
  have hname : Cursor.name ⟨true, table.alignments, 0⟩ = "th" := rfl
  rw [TableNode.tree, treeMarked_node (by simp), forestMarked, treeMarked_node (by simp), hsame]
  simp only [List.foldl_cons, List.foldl_append, List.foldl_nil]
  refine ⟨_, hcloses.congr ?_⟩
  simp only [tableMarkup, hname, String.empty_append, String.append_assoc]

end Behind

end Writer

/-! ## Tables in a stream -/

namespace Spot

/-- Outside of images and code blocks. -/
structure IsPlain (spot : Spot) : Prop where
  image : spot.image? = none
  code : spot.inCode = false

variable {spot : Spot}

/-- Outside of images only a code block leads inside of one. -/
theorem inCode_start (h : spot.image? = none) {tag : Tag} (htag : tag.isCode = false) :
    (spot.start tag).inCode = spot.inCode := by
  cases tag with
  | codeBlock info => exact Bool.noConfusion htag
  | _ => simp only [start, h]

theorem IsPlain.start (h : spot.IsPlain) {tag : Tag} (himage : ∀ dest title, tag ≠ .image dest title)
    (hcode : tag.isCode = false) : (spot.start tag).IsPlain :=
  ⟨image?_start h.image himage, (inCode_start h.image hcode).trans h.code⟩

/-- Outside of images and code blocks nothing that ends leads inside of one. -/
theorem IsPlain.stop (h : spot.IsPlain) (tag : Tag) : (spot.stop tag).IsPlain := by
  refine ⟨image?_stop h.image tag, ?_⟩
  cases tag <;> simp only [Spot.stop, h.image, h.code]

mutual

/-- A code block in a tree ends in it, and so does an image. -/
theorem plain_tree : ∀ (tree : EventTree) {spot : Spot}, spot.IsPlain →
    (tree.events.foldl next spot).IsPlain
  | .leaf leaf, spot, h => by
      rw [events_leaf, List.foldl_cons, List.foldl_nil, next_leaf]
      exact h
  | .node tag children, spot, h => by
      by_cases himage : ∃ dest title, tag = .image dest title
      · obtain ⟨dest, title, rfl⟩ := himage
        rw [foldl_image h.image]
        exact h
      · have hother : ∀ dest title, tag ≠ .image dest title :=
          fun dest title heq => himage ⟨dest, title, heq⟩
        rw [events_node, List.foldl_cons, List.foldl_append, List.foldl_cons, List.foldl_nil]
        cases hcode : tag.isCode with
        | false => exact (plain_forest children (h.start hother hcode)).stop tag
        | true =>
            -- a code block leads outside of code blocks, whatever is in it
            have hout := image?_forest children (image?_start h.image hother)
            refine ⟨image?_stop hout tag, ?_⟩
            cases tag with
            | codeBlock info =>
                simp only [next, Spot.stop, hout]
            | _ => exact Bool.noConfusion hcode

theorem plain_forest : ∀ (trees : List EventTree) {spot : Spot}, spot.IsPlain →
    ((forestEvents trees).foldl next spot).IsPlain
  | [], _, h => h
  | tree :: rest, _, h => by
      rw [forestEvents_cons, List.foldl_append]
      exact plain_forest rest (plain_tree tree h)

end

/-- A passage leads from outside of images and code blocks back there. -/
theorem plain_passage {events : List Event} (h : IsPassage events) (hspot : spot.IsPlain) :
    (events.foldl next spot).IsPlain := by
  induction h generalizing spot with
  | forest trees => exact plain_forest trees hspot
  | start himage hcode => exact hspot.start himage hcode
  | stop tag => exact hspot.stop tag
  | append _ _ ihfront ihback =>
      rw [List.foldl_append]
      exact ihback (ihfront hspot)

end Spot

theorem plain_spotAfter {events : List Event} (h : IsPassage events) :
    (spotAfter events).IsPlain :=
  Spot.plain_passage h ⟨rfl, rfl⟩

/-- No figure reaches into a table or out of it. -/
theorem markStandalone_table (front : List Event) (table : TableNode) (behind : List Event) :
    markStandalone (front ++ (table.tree.events ++ behind))
      = markStandalone front ++ (treeMarked table.tree ++ markStandalone behind) := by
  have htable := markStandalone_forestEvents behind [table.tree]
  rw [forestEvents_cons, forestEvents_nil, List.append_nil, forestMarked, forestMarked,
    List.append_nil] at htable
  have hstart : isInsideFigure (.start (.table table.alignments)) = false := rfl
  rw [← htable]
  exact markStandalone_append hstart front _

/-- What a part of a page hands on comes behind the page, or behind the heading that waits. -/
theorem Writer.Prints.front {w w' : Writer} {text last : String} {name? : Option String}
    (h : w.Prints text name? w') (hlast : IsInsertion last) :
    ∃ first, IsInsertion first ∧ w'.view.front last = w.view.front first ++ text := by
  have hview := h.view
  cases hwaits : w.awaitingHeadingText with
  | false =>
      rw [Writer.settled?_of_settled hwaits, Option.map_none, View.settle_none] at hview
      exact ⟨last, hlast, by rw [hview, View.front_add]⟩
  | true =>
      cases name? with
      | none =>
          rw [Writer.settled?_none, Option.map_none, View.settle_none] at hview
          exact ⟨last, hlast, by rw [hview, View.front_add]⟩
      | some name =>
          -- the heading gets its identifier from the part
          rw [Writer.settled?_of_waiting hwaits, Option.map_some, Writer.view_of_waiting hwaits]
            at hview
          refine ⟨Writer.identifierText (w.anchors.allocate name).1,
            .inr ⟨_, plain_allocate w.anchors name, rfl⟩, ?_⟩
          rw [hview, Writer.view_of_waiting hwaits]
          simp only [View.add, View.settle, View.front, String.append_assoc]

/-- The tables are in a text, in order, if these events come behind those. All that was handed on
before a table stands in front of it, and the table is written with the numbers that footnotes have
there. -/
def WritesTables (highlighter : Option Highlighter) (text : String) :
    List TableNode → List Event → List Event → Prop
  | [], _, _ => True
  | table :: rest, before, events =>
    ∃ front behind inserted more, IsInsertion inserted ∧
      events = front ++ (table.tree.events ++ behind) ∧
      (let w := writerAfter highlighter (before ++ front)
       text = w.view.front inserted ++ (tableMarkup highlighter w.footnotes table).1 ++ more) ∧
      WritesTables highlighter text rest (before ++ front ++ table.tree.events) behind

section Stream

variable {highlighter : Option Highlighter} {before : List Event}

/-- A table behind any passage: what was handed on before it, its markup, and what comes behind it. -/
theorem emitted_table (hbefore : IsPassage before) (table : TableNode) (behind : List Event) :
    ∃ inserted more, IsInsertion inserted ∧
      let w := writerAfter highlighter before
      (Writer.ofEvents highlighter (before ++ (table.tree.events ++ behind))).emitted
        = w.view.front inserted ++ (tableMarkup highlighter w.footnotes table).1 ++ more := by
  have hat := isAt_writerAfter highlighter before
  have hplain := plain_spotAfter hbefore
  obtain ⟨_, hfills⟩ := Writer.fills_table highlighter (hat.ready hplain.image)
    (hat.code (.inr hplain.code)) table
  obtain ⟨_, hprints⟩ := hfills.prints
  -- the writer behind the table goes on with what comes behind it, and is ended
  have hline : ((treeMarked table.tree).foldl (Writer.step highlighter)
      (writerAfter highlighter before)).KeepsLine :=
    (Writer.grows_run highlighter _
      (Writer.grows_run highlighter _ Writer.keepsLine_empty).line).line
  have hrun := Writer.grows_run highlighter (markStandalone behind) hline
  obtain ⟨_, hfinish⟩ := Writer.takes_finish hrun.line
  have hgrows := hrun.trans hfinish.grows
  obtain ⟨first, more, hfirst, hlater⟩ := hgrows.later "" (.inl rfl)
  obtain ⟨inserted, hinserted, hfront⟩ := hprints.front hfirst
  refine ⟨inserted, more, hinserted, ?_⟩
  rw [Writer.ofEvents, markStandalone_table, List.foldl_append, List.foldl_append, ← writerAfter,
    hgrows.line.steady.emitted, hlater, hfront]

/-- All tables of a stream are written in order, by induction on them. -/
theorem writesTables_of_hasTables {tables : List TableNode} {events : List Event}
    (htables : HasTables tables events) (hbefore : IsPassage before) :
    WritesTables highlighter (Writer.ofEvents highlighter (before ++ events)).emitted tables before
      events := by
  induction tables generalizing before events with
  | nil => trivial
  | cons table rest ih =>
      obtain ⟨front, behind, hfront, rfl, hrest⟩ := htables
      have hpassage := hbefore.append hfront
      obtain ⟨inserted, more, hinserted, hemitted⟩ := emitted_table hpassage table behind
      have hlater := ih hrest (hpassage.append (passage_table table))
      rw [List.append_assoc] at hlater
      rw [← List.append_assoc]
      exact ⟨front, behind, inserted, more, hinserted, rfl, hemitted, hlater⟩

/-- Where all images have ended and no heading is open, everything is on the page. -/
theorem render_eq_emitted {events : List Event} (himage : (spotAfter events).image? = none)
    (hheading : (spotAfter events).inHeading = false) :
    render highlighter events = (Writer.ofEvents highlighter events).emitted := by
  have hat := isAt_writerAfter highlighter events
  have hfinish : Writer.ofEvents highlighter events = writerAfter highlighter events := by
    rw [Writer.ofEvents, ← writerAfter, Writer.finish, (hat.ready himage).image]
  rw [render, hfinish, Writer.emitted, hat.held (hat.heading hheading)]
  exact String.append_empty.symm

end Stream

/-- A stream of tokens with any number of tables is converted, whatever else opens and closes in it.
Each table is written in its place, with one element for each of its cells: the tables, their rows
and their cells come in order, and nothing in a table depends on another table. Only a heading that
never ends may keep any of that from the page. A column is aligned as its header cell declares. -/
theorem writesTables_stream (highlighter : Option Highlighter) (stream : TableStream)
    {after : List (Token (List InlineToken))} (hstream : stream.IsSound)
    (hafter : ∀ token ∈ after, token.IsSound) :
    ∃ events, eventsOfTokens (stream.tokens after) = .ok events ∧
      WritesTables highlighter (Writer.ofEvents highlighter events).emitted (stream.map (·.2)) []
        events ∧
      ((spotAfter events).inHeading = false →
        render highlighter events = (Writer.ofEvents highlighter events).emitted) ∧
      ∀ place ∈ stream, ∀ column alignment, alignment ≠ .none →
        (place.2.alignments[column]?.getD .none = alignment ↔
          place.2.Aligns column alignment) := by
  obtain ⟨events, hevents, htables⟩ := hasTables_stream stream hstream hafter
  have hwritten : WritesTables highlighter (Writer.ofEvents highlighter ([] ++ events)).emitted
      (stream.map (·.2)) [] events :=
    writesTables_of_hasTables htables (.forest [])
  have hplain := plain_spotAfter (passage_of_hasTables htables)
  exact ⟨events, hevents, hwritten, render_eq_emitted hplain.image,
    fun place _ column _ hnone => place.2.alignment_eq_iff column hnone⟩

/-! ## Tables with ragged rows -/

/-- A block quote that is never closed, and two tables in it. The first one has a row of one cell,
a row of none and a row that is longer than its head, and aligns its first column; it declares
nothing for the second, and an unknown value for the third. -/
def raggedTables : TableStream :=
  [([.opening .blockQuote],
      { head := [(.text "text-align:right", [.text "a"]), (.null, [.text "b"]),
          (.text "text-align:middle", [])]
        bodies := [[[[.text "1"]], [], [[.text "2"], [.code "3"], [.text "4"], [.text "5"]]]] }),
    ([.rule],
      { head := [(.text "text-align:left", [.text "c"])]
        bodies := [[[[.text "6"], [.text "7"]]]] })]

/-- The columns of each table are counted and aligned anew. -/
theorem writesTables_ragged :
    raggedTables.IsSound ∧
    (∀ token ∈ ([.noteAnchor] : List (Token (List InlineToken))), token.IsSound) ∧
    (∃ events, eventsOfTokens (raggedTables.tokens [.noteAnchor]) = .ok events ∧
      WritesTables none (Writer.ofEvents none events).emitted (raggedTables.map (·.2)) [] events ∧
      ((spotAfter events).inHeading = false →
        render none events = (Writer.ofEvents none events).emitted) ∧
      ∀ place ∈ raggedTables, ∀ column alignment, alignment ≠ .none →
        (place.2.alignments[column]?.getD .none = alignment ↔
          place.2.Aligns column alignment)) ∧
    ∃ events, eventsOfTokens (raggedTables.tokens [.noteAnchor]) = .ok events ∧
      render none events
        = "<blockquote>\n<table><thead><tr><th align=\"right\">a</th><th>b</th><th></th></tr>" ++
          "</thead><tbody>\n<tr><td align=\"right\">1</td></tr>\n<tr></tr>\n" ++
          "<tr><td align=\"right\">2</td><td><code>3</code></td><td>4</td><td>5</td></tr>\n" ++
          "</tbody></table>\n<hr />\n<table><thead><tr><th align=\"left\">c</th></tr></thead>" ++
          "<tbody>\n<tr><td align=\"left\">6</td><td>7</td></tr>\n</tbody></table>\n" := by
  have hstream : raggedTables.IsSound := by
    refine List.forall_mem_cons.mpr ⟨⟨?_, rfl⟩, List.forall_mem_singleton.mpr ⟨?_, rfl⟩⟩
    · exact List.forall_mem_singleton.mpr rfl
    · exact List.forall_mem_singleton.mpr trivial
  have hafter : ∀ token ∈ ([.noteAnchor] : List (Token (List InlineToken))), token.IsSound :=
    List.forall_mem_singleton.mpr trivial
  exact ⟨hstream, hafter, writesTables_stream none raggedTables hstream hafter, _, rfl,
    by decide +kernel⟩

end StaticSite.Html
