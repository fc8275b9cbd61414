import StaticSite.Proofs.Html.LineContent

/-!
# What a block writes

The constructs whose start and end do not mirror each other on the page: paragraphs, which write
nothing inside a footnote's definition, headings, whose first tag is completed later, code blocks,
and tables, whose body begins where the head ends.

## What this module delivers

- `Setting.flow`, `Setting.heading`, `Setting.table`: the settings of blocks, headings and rows.
- `writes_paragraph`, `writes_heading`, `writes_codeBlock`, `writes_table`: one contract for each
  construct.
- `Writes.block`, `writes_listStart`, `writes_listStop`: the constructs that are one element.
-/

set_option autoImplicit false

namespace StaticSite.Html

open StaticSite.Markdown

/-! ## Settings -/

namespace Setting

/-- Where blocks stand. -/
def flow (inDefinition : Bool) : Setting :=
  { inDefinition := inDefinition }

/-- Inside a heading. -/
def heading (inDefinition : Bool) : Setting :=
  { inDefinition := inDefinition, inHeading := true }

/-- Inside a table. -/
def table (inDefinition inHead : Bool) : Setting :=
  { inDefinition := inDefinition, inTableHead := some inHead }

end Setting

/-! ## Paragraphs, quotes and lists -/

section

variable {d : Bool}

theorem writes_paragraph (content : List Inline) :
    Writes (.flow d) (EventTree.node .paragraph (inlineTrees content)).events
      ((Block.paragraph content).tags d) (.flow d) := by
  have hinner : Writes (.flow d) (forestEvents (inlineTrees content)) (inlineTags content)
      (.flow d) := writes_inlines content
  cases d with
  | true =>
      -- inside a definition neither end of a paragraph writes anything
      have hstart : Writes (.flow true) [.start .paragraph] [] (.flow true) := by
        refine Writes.event (by simp) fun w before hw => ?_
        have hdefinition : w.inDefinition = true := hw.fits.definition
        simp only [Writer.handle, Writer.startTag, hdefinition, if_true, List.append_nil]
        exact hw.between
      have hstop : Writes (.flow true) [.stop .paragraph] [] (.flow true) := by
        refine Writes.event (by simp) fun w before hw => ?_
        have hdefinition : w.inDefinition = true := hw.fits.definition
        simp only [Writer.handle, Writer.stopTag, hdefinition, if_true, List.append_nil]
        exact hw.between
      have hall := hstart.node hinner hstop
      rwa [List.nil_append, List.append_nil] at hall
  | false =>
      have hopen : Reads .text "<p>" .text [.opens "p"] := ⟨_, rfl, rfl, rfl⟩
      have hclose : Reads .text "</p>\n" .text [.closes "p"] := ⟨_, rfl, rfl, rfl⟩
      have hstart : Writes (.flow false) [.start .paragraph] [.opens "p"] (.flow false) := by
        refine Writes.event (by simp) fun w before hw => ?_
        have hdefinition : w.inDefinition = false := hw.fits.definition
        simp only [Writer.handle, Writer.startTag, hdefinition, Bool.false_eq_true, if_false]
        exact (hw.writeBlock hopen).between
      have hstop : Writes (.flow false) [.stop .paragraph] [.closes "p"] (.flow false) := by
        refine Writes.event (by simp) fun w before hw => ?_
        have hdefinition : w.inDefinition = false := hw.fits.definition
        simp only [Writer.handle, Writer.stopTag, hdefinition, Bool.false_eq_true, if_false]
        exact (hw.write hclose).between
      exact hstart.element hinner hstop

/-- A construct that begins on a line of its own and whose start and end each write one tag. -/
theorem Writes.block {s : Setting} {tag : Tag} {trees : List EventTree} {inner : List Mark}
    {name : String} (front back : String)
    (hstart : ∀ w : Writer, w.startTag none false tag = w.writeBlock front)
    (hstop : ∀ w : Writer, w.stopTag none tag = w.write back)
    (hfront : Reads .text front .text [.opens name]) (hback : Reads .text back .text [.closes name])
    (hinner : Writes s (forestEvents trees) inner s) :
    Writes s (EventTree.node tag trees).events (enclosed name inner) s :=
  Writes.element (Writes.blockTag front (by simp) hstart hfront) hinner
    (Writes.tag back (by simp) hstop hback)

theorem writes_listStart {s : Setting} (first : Option Int) :
    Writes s [.start (.list first)] [.opens (if first.isSome then "ol" else "ul")] s := by
  cases first with
  | none => exact Writes.blockTag "<ul>\n" (by simp) (fun _ => rfl) ⟨_, rfl, rfl, rfl⟩
  | some number =>
      refine Writes.event (by simp) fun w before hw => ?_
      simp only [Writer.handle, Writer.startTag]
      split
      · have hopen : Reads .text "<ol>\n" .text [.opens "ol"] := ⟨_, rfl, rfl, rfl⟩
        exact (hw.writeBlock hopen).between
      · have hopen : Reads .text "<ol start=\"" (.value ⟨"ol", []⟩ "start" []) [] :=
          ⟨_, rfl, rfl, rfl⟩
        have hnumber := reads_quotable (quotable_of_plain (plain_int number)) ⟨"ol", []⟩ "start" []
        have hend : Reads (.value ⟨"ol", []⟩ "start" ([] ++ (toString number).toList)) "\">\n" .text
            [.opens "ol"] := ⟨_, rfl, rfl, rfl⟩
        have hall := ((hw.writeBlock hopen).emit hnumber).write hend
        simp only [List.append_nil] at hall
        exact hall.between

theorem writes_listStop {s : Setting} (first : Option Int) :
    Writes s [.stop (.list first)] [.closes (if first.isSome then "ol" else "ul")] s := by
  cases first with
  | none => exact Writes.tag "</ul>\n" (by simp) (fun _ => rfl) ⟨_, rfl, rfl, rfl⟩
  | some number => exact Writes.tag "</ol>\n" (by simp) (fun _ => rfl) ⟨_, rfl, rfl, rfl⟩

/-! ## Headings -/

theorem reads_headingStart (level : Fin 6) :
    Reads .text ("<h" ++ toString ((level.val + 1 : Nat) : Int))
      (.opening (headingLetters level)) [] := by
  have hlex : ∀ level : Fin 6, lexFrom .text ("<h" ++ toString ((level.val + 1 : Nat) : Int)).toList
      = some ([], .opening (headingLetters level)) := by decide
  exact ⟨[], hlex level, rfl, rfl⟩

theorem reads_headingStop (level : Fin 6) :
    Reads .text ("</h" ++ toString ((level.val + 1 : Nat) : Int) ++ ">\n") .text
      [.closes (headingName level)] := by
  have hlex : ∀ level : Fin 6,
      lexFrom .text ("</h" ++ toString ((level.val + 1 : Nat) : Int) ++ ">\n").toList
        = some ([.closing (headingName level), .char '\n'], .text) := by decide
  have hwritten : ∀ level : Fin 6,
      [.closing (headingName level), .char '\n'].all Lexeme.isWritten := by decide
  exact ⟨_, hlex level, hwritten level, rfl⟩

theorem precedesIdentifier_nil (level : Fin 6) : precedesIdentifier level [] := by
  intro identifier
  have hwritten : ∀ level : Fin 6, openingTags.contains (headingName level, ["id"]) := by decide
  exact hwritten level

theorem precedesIdentifier_title (level : Fin 6) :
    precedesIdentifier level [⟨"class", "title"⟩] := by
  intro identifier
  have hwritten : ∀ level : Fin 6, openingTags.contains (headingName level, ["class", "id"]) := by
    decide
  exact hwritten level

/-- A heading's first tag is left open at the quote of its identifier, which is how the page shows
the heading. -/
theorem Writer.At.beginHeading {w : Writer} {mode : LexMode} {tags : List Mark} {level : Fin 6}
    {attributes : List Attribute} (hw : w.At (.flow d) none mode tags)
    (hid : Reads mode " id=\"" (.value ⟨headingName level, attributes⟩ "id" []) [])
    (hattributes : precedesIdentifier level attributes) :
    ({ w with awaitingHeadingText := true }.emit " id=\"").Between (.heading d)
      (tags ++ headingTags level) := by
  cases hw.shows with
  -- headings do not nest, so none waits where one begins
  | awaiting hawaiting _ _ _ => exact absurd (hw.fits.heading hawaiting) (by simp [Setting.flow])
  | settled hawaiting hheld hpage =>
      have hemit : { w with awaitingHeadingText := true }.emit " id=\""
          = { w with awaitingHeadingText := true, written := w.written.push " id=\"" } :=
        emit_of_settled hheld
      have hopen : Reads .text (String.join (w.written.push " id=\"").toList)
          (.value ⟨headingName level, attributes⟩ "id" []) tags := by
        rw [page_push, ← List.append_nil tags]
        exact hpage.append hid
      have hnothing : Reads .text (String.join (w.held.getD [])) .text [] := by
        rw [hheld]
        exact Reads.empty .text
      rw [hemit, ← List.append_nil (headingTags level)]
      refine ⟨⟨hw.fits.definition, fun _ => rfl, ?_, hw.fits.image, hw.fits.code⟩,
        .awaiting rfl hattributes hopen hnothing⟩
      exact fun _ h => absurd h (by simp [Setting.heading])

/-- The first heading of a page has a class. -/
theorem Writer.At.titleClass {w : Writer} {tags : List Mark} {level : Fin 6}
    (hw : w.At (.flow d) none (.opening (headingLetters level)) tags) :
    ∃ mode attributes,
      (if w.titled then w else { w with titled := true }.emit " class=\"title\"").At (.flow d) none
        mode tags ∧
      Reads mode " id=\"" (.value ⟨headingName level, attributes⟩ "id" []) [] ∧
      precedesIdentifier level attributes := by
  split
  · exact ⟨_, [], hw, ⟨_, rfl, rfl, rfl⟩, precedesIdentifier_nil level⟩
  · have hclass : Reads (.opening (headingLetters level)) " class=\"title\""
        (.quoted ⟨headingName level, [⟨"class", "title"⟩]⟩) [] := ⟨_, rfl, rfl, rfl⟩
    have htitled : { w with titled := true }.At (.flow d) none (.opening (headingLetters level))
        tags := hw.remember w.atLineStart true w.footnotes w.alignments w.column
    have hemit := (htitled.emit hclass).congr (List.append_nil tags)
    exact ⟨_, _, hemit, ⟨_, rfl, rfl, rfl⟩, precedesIdentifier_title level⟩

theorem writes_headingStart (level : Fin 6) :
    Writes (.flow d) [.start (.heading (level.val + 1 : Nat))] (headingTags level)
      (.heading d) := by
  refine Writes.event (by simp) fun w before hw => ?_
  have hline : (if w.atLineStart then { w with atLineStart := false } else w.emit "\n").At (.flow d)
      none .text before := by
    split
    · exact hw.lineStart false
    · have hend : Reads .text "\n" .text [] := ⟨_, rfl, rfl, rfl⟩
      exact (hw.emit hend).congr (List.append_nil before)
  have hname := (hline.emit (reads_headingStart level)).congr (List.append_nil before)
  obtain ⟨mode, attributes, htitled, hid, hattributes⟩ := hname.titleClass
  exact htitled.beginHeading hid hattributes

/-- A heading that is still without a text when it ends gets the identifier of the empty text. -/
theorem writes_headingStop (level : Fin 6) :
    Writes (.heading d) [.stop (.heading (level.val + 1 : Nat))] [.closes (headingName level)]
      (.flow d) := by
  refine Writes.event (by simp) fun w before hw => ?_
  have hsettled : (if w.awaitingHeadingText then w.settleHeading "" else w).At (.flow d) none .text
      before := by
    split
    · rename_i hwaits
      obtain ⟨hat, hover⟩ := Writer.settle hw.fits hw.shows hwaits ""
      exact ⟨⟨hat.fits.definition, fun h => absurd h (by simp [hover]),
        fun _ h => absurd h (by simp [Setting.flow]), hat.fits.image, hat.fits.code⟩, hat.shows,
        hat.holds⟩
    · rename_i hover
      exact ⟨⟨hw.fits.definition, fun h => absurd h hover,
        fun _ h => absurd h (by simp [Setting.flow]), hw.fits.image, hw.fits.code⟩, hw.shows,
        hw.holds⟩
  exact (hsettled.write (reads_headingStop level)).between

theorem writes_heading (level : Fin 6) (content : List Inline) :
    Writes (.flow d)
      (EventTree.node (.heading (level.val + 1 : Nat)) (inlineTrees content)).events
      ((Block.heading level content).tags d) (.flow d) := by
  have hall := (writes_headingStart level).node (writes_inlines content)
    (writes_headingStop (d := d) level)
  have htags : (Block.heading level content).tags d
      = headingTags level ++ (inlineTags content ++ [Mark.closes (headingName level)]) := by
    simp [Block.tags, headingTags, enclosed]
  rw [htags]
  exact hall

/-! ## Code blocks -/

theorem writes_codeStart (info : Option String) :
    Writes (.flow d) [.start (.codeBlock info)] [.opens "pre", .opens "code"] (.flow d) := by
  refine Writes.event (by simp) fun w before hw => ?_
  have hline : (if w.atLineStart then w else { w with atLineStart := true }.emit "\n").At (.flow d)
      none .text before := by
    split
    · exact hw
    · have hend : Reads .text "\n" .text [] := ⟨_, rfl, rfl, rfl⟩
      exact ((hw.lineStart true).emit hend).congr (List.append_nil before)
  have hhandle : w.handle (.start (.codeBlock info)) = w.startCode none info := rfl
  rw [hhandle, Writer.startCode]
  -- whether a line had to be ended first has no part in what follows
  generalize (if w.atLineStart then w else { w with atLineStart := true }.emit "\n") = line at hline ⊢
  dsimp only
  split
  · have hopen : Reads .text "<pre><code>" .text [.opens "pre", .opens "code"] := ⟨_, rfl, rfl, rfl⟩
    exact (hline.write hopen).between
  · have hopen : Reads .text "<pre><code class=\"language-"
        (.value ⟨"code", []⟩ "class" "language-".toList) [.opens "pre"] := ⟨_, rfl, rfl, rfl⟩
    have hlanguage := reads_quotable (quotable_escape (Writer.codeLanguage info)) ⟨"code", []⟩ "class"
      "language-".toList
    have hend : Reads (.value ⟨"code", []⟩ "class"
        ("language-".toList ++ (escape (Writer.codeLanguage info)).toList)) "\">" .text [.opens "code"] :=
      ⟨_, rfl, rfl, rfl⟩
    have hall := ((hline.write hopen).emit hlanguage).write hend
    exact (hall.congr (by simp)).between

theorem writes_texts {s : Setting} (texts : List String) :
    Writes s (forestEvents (texts.map fun text => .leaf (.text text))) [] s := by
  induction texts with
  | nil => exact Writes.nil
  | cons text rest ih => exact (writes_text text).append ih

theorem writes_codeBlock (info : Option String) (texts : List String) :
    Writes (.flow d)
      (EventTree.node (.codeBlock info) (texts.map fun text => .leaf (.text text))).events
      (enclosed "pre" (enclosed "code" [])) (.flow d) := by
  have hstop : Writes (.flow d) [.stop (.codeBlock info)] [.closes "code", .closes "pre"]
      (.flow d) := by
    refine Writes.event (by simp) fun w before hw => ?_
    have hclose : Reads .text "</code></pre>\n" .text [.closes "code", .closes "pre"] :=
      ⟨_, rfl, rfl, rfl⟩
    have hflush : w.flushCode none = w := by simp only [Writer.flushCode, hw.fits.code]
    simp only [Writer.handle, Writer.stopTag, hflush]
    exact (hw.write hclose).between
  exact (writes_codeStart info).node (writes_texts texts) hstop

/-! ## Tables -/

/-- The name of a cell's element. -/
def cellName (inHead : Bool) : String :=
  if inHead then "th" else "td"

/-- Whatever alignment its column has, the first tag of a cell is completed. -/
theorem reads_cellAttribute (w : Writer) (inHead : Bool) :
    Reads (.opening (cellName inHead).toList) w.cellAttribute .text [.opens (cellName inHead)] := by
  unfold Writer.cellAttribute
  cases inHead with
  | true => split <;> exact ⟨_, rfl, rfl, rfl⟩
  | false => split <;> exact ⟨_, rfl, rfl, rfl⟩

theorem writes_cellStart (inHead : Bool) :
    Writes (.table d inHead) [.start .tableCell] [.opens (cellName inHead)] (.table d inHead) := by
  refine Writes.event (by simp) fun w before hw => ?_
  have hrow : w.inTableHead = inHead := hw.fits.tableHead inHead rfl
  have hopen : Reads .text (if inHead then "<th" else "<td") (.opening (cellName inHead).toList)
      [] := by
    cases inHead <;> exact ⟨_, rfl, rfl, rfl⟩
  simp only [Writer.handle, Writer.startTag, hrow]
  have hall := (hw.write hopen).write (reads_cellAttribute w inHead)
  exact (hall.congr (by simp)).between

theorem writes_cellStop (inHead : Bool) :
    Writes (.table d inHead) [.stop .tableCell] [.closes (cellName inHead)] (.table d inHead) := by
  refine Writes.event (by simp) fun w before hw => ?_
  have hrow : w.inTableHead = inHead := hw.fits.tableHead inHead rfl
  have hclose : Reads .text (if inHead then "</th>" else "</td>") .text
      [.closes (cellName inHead)] := by
    cases inHead <;> exact ⟨_, rfl, rfl, rfl⟩
  simp only [Writer.handle, Writer.stopTag, hrow]
  exact ((hw.write hclose).remember _ _ _ _ _).between

theorem writes_cells (inHead : Bool) (cells : List (List Inline)) :
    Writes (.table d inHead) (forestEvents (cellTrees cells)) (cellTags (cellName inHead) cells)
      (.table d inHead) := by
  induction cells with
  | nil => exact Writes.nil
  | cons cell rest ih =>
      exact ((writes_cellStart inHead).element (writes_inlines cell) (writes_cellStop inHead)).append
        ih

/-- Entering a row of a table: which section it belongs to is known from then on. -/
theorem Writer.At.enter {w : Writer} {mode : LexMode} {tags : List Mark}
    (hw : w.At (.flow d) none mode tags) (inHead : Bool) :
    { w with inTableHead := inHead, column := 0 }.At (.table d inHead) none mode tags :=
  ⟨⟨hw.fits.definition, hw.fits.heading, fun _ h => Option.some.inj h, hw.fits.image,
    hw.fits.code⟩, hw.shows.same rfl rfl rfl, hw.holds⟩

theorem writes_head (head : List (List Inline)) :
    Writes (.flow d) (EventTree.node .tableHead (cellTrees head)).events
      ([Mark.opens "thead", .opens "tr"] ++
        (cellTags "th" head ++ [Mark.closes "tr", .closes "thead", .opens "tbody"]))
      (.table d false) := by
  have hstart : Writes (.flow d) [.start .tableHead] [.opens "thead", .opens "tr"]
      (.table d true) := by
    refine Writes.event (by simp) fun w before hw => ?_
    have hopen : Reads .text "<thead><tr>" .text [.opens "thead", .opens "tr"] := ⟨_, rfl, rfl, rfl⟩
    exact ((hw.enter true).write hopen).between
  have hstop : Writes (.table d true) [.stop .tableHead]
      [.closes "tr", .closes "thead", .opens "tbody"] (.table d false) := by
    refine Writes.event (by simp) fun w before hw => ?_
    have hclose : Reads .text "</tr></thead><tbody>\n" .text
        [.closes "tr", .closes "thead", .opens "tbody"] := ⟨_, rfl, rfl, rfl⟩
    have hwrite := hw.write hclose
    exact ⟨⟨hwrite.fits.definition, hwrite.fits.heading, fun _ h => Option.some.inj h,
      hwrite.fits.image, hwrite.fits.code⟩, hwrite.shows.same rfl rfl rfl⟩
  exact hstart.node (writes_cells true head) hstop

theorem writes_rows (rows : List (List (List Inline))) :
    Writes (.table d false) (forestEvents (rows.map fun row => .node .tableRow (cellTrees row)))
      (rows.flatMap fun row => enclosed "tr" (cellTags "td" row)) (.table d false) := by
  induction rows with
  | nil => exact Writes.nil
  | cons row rest ih =>
      have hstart : Writes (.table d false) [.start .tableRow] [.opens "tr"] (.table d false) := by
        refine Writes.event (by simp) fun w before hw => ?_
        have hopen : Reads .text "<tr>" .text [.opens "tr"] := ⟨_, rfl, rfl, rfl⟩
        have hcolumn : { w with column := 0 }.At (.table d false) none .text before :=
          hw.remember w.atLineStart w.titled w.footnotes w.alignments 0
        exact (hcolumn.write hopen).between
      have hstop : Writes (.table d false) [.stop .tableRow] [.closes "tr"] (.table d false) :=
        Writes.tag "</tr>\n" (by simp) (fun _ => rfl) ⟨_, rfl, rfl, rfl⟩
      exact (hstart.element (writes_cells false row) hstop).append ih

theorem writes_table (alignments : List ColumnAlignment) (head : List (List Inline))
    (rows : List (List (List Inline))) :
    Writes (.flow d) (Block.table alignments head rows).tree.events (tableTags head rows)
      (.flow d) := by
  have hstart : Writes (.flow d) [.start (.table alignments)] [.opens "table"] (.flow d) := by
    refine Writes.event (by simp) fun w before hw => ?_
    have hopen : Reads .text "<table>" .text [.opens "table"] := ⟨_, rfl, rfl, rfl⟩
    have haligned : { w with alignments := alignments }.At (.flow d) none .text before :=
      hw.remember w.atLineStart w.titled w.footnotes alignments w.column
    exact (haligned.write hopen).between
  have hstop : Writes (.table d false) [.stop (.table alignments)] [.closes "tbody", .closes "table"]
      (.flow d) := by
    refine Writes.event (by simp) fun w before hw => ?_
    have hclose : Reads .text "</tbody></table>\n" .text [.closes "tbody", .closes "table"] :=
      ⟨_, rfl, rfl, rfl⟩
    have hwrite := hw.write hclose
    exact ⟨⟨hwrite.fits.definition, hwrite.fits.heading, fun _ h => absurd h (by simp [Setting.flow]),
      hwrite.fits.image, hwrite.fits.code⟩, hwrite.shows⟩
  have hsections : Writes (.flow d)
      (forestEvents (.node .tableHead (cellTrees head) ::
        rows.map fun row => .node .tableRow (cellTrees row))) _ (.table d false) :=
    (writes_head head).append (writes_rows rows)
  have hall := hstart.node hsections hstop
  have htags : tableTags head rows
      = [Mark.opens "table"] ++ (([Mark.opens "thead", .opens "tr"] ++
          (cellTags "th" head ++ [Mark.closes "tr", .closes "thead", .opens "tbody"]) ++
          (rows.flatMap fun row => enclosed "tr" (cellTags "td" row))) ++
          [Mark.closes "tbody", .closes "table"]) := by
    simp [tableTags, enclosed]
  rw [htags]
  exact hall

end

end StaticSite.Html
