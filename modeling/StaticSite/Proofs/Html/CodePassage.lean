import StaticSite.Html.Renderer
import StaticSite.Proofs.Html.Growth
import StaticSite.Proofs.Html.HeadingElement
import StaticSite.Proofs.Markdown.CodeBlock

/-!
# Highlighted code on a page

With a highlighter the code of a block is collected and handed over at the block's end, and without
one it is written as it comes. The two ways differ inside a code block, in what is written and in
what the writer remembers. They meet again at its end: what follows is the same, identifiers,
numbers and line ends included.

## What this module delivers

- `CodeBlock.markup`: a code block on a page, for a highlighter or none.
- `Passage`, `pageText`: a page as markup and code blocks by turns.
- `Shows`, with `Shows.append`: events that leave the writer in one state whatever the highlighter
  is, and what they add to the page.
- `shows_codeBlock`, `shows_forest`: a code block, and a forest by induction on its trees.
- `render_highlighted`: the main statement.
-/

set_option autoImplicit false

namespace StaticSite.Html

open StaticSite.Markdown

/-! ## Code blocks on a page -/

/-- What stands before the code of a block. -/
def codeFront (info : Option String) : String :=
  if (Writer.codeLanguage info).isEmpty then "<pre><code>"
  else "<pre><code class=\"language-" ++ escape (Writer.codeLanguage info) ++ "\">"

/-- The code of a block on a page: what the highlighter makes of it if the block names a language
and the highlighter knows it, and the escaped code otherwise. -/
def codeBody (highlighter : Option Highlighter) (block : CodeBlock) : String :=
  let language := Writer.codeLanguage block.info
  if language.isEmpty then escape block.content
  else (highlighter.bind fun highlight => highlight block.content language).getD
    (escape block.content)

/-- A passage of a page: markup that no highlighter has a part in, or a code block. -/
inductive Passage where
  | markup (text : String)
  | code (block : CodeBlock)

namespace Passage

/-- A passage as it stands on a page. -/
def text (highlighter : Option Highlighter) : Passage → String
  | markup text => text
  | code block => codeFront block.info ++ codeBody highlighter block ++ "</code></pre>\n"

/-- The code block that a passage is. -/
def block? : Passage → Option CodeBlock
  | markup _ => none
  | code block => some block

end Passage

/-- Passages one after the other. -/
def pageText (highlighter : Option Highlighter) (passages : List Passage) : String :=
  String.join (passages.map (Passage.text highlighter))

theorem pageText_append (highlighter : Option Highlighter) (passages more : List Passage) :
    pageText highlighter (passages ++ more)
      = pageText highlighter passages ++ pageText highlighter more := by
  rw [pageText, List.map_append, String.join_append, pageText, pageText]

/-! ## What events show -/

/-- Outside of headings, the events leave the writer in one state, whatever the highlighter is. What
they add to the page are passages with these code blocks, and the highlighter has a part in the code
blocks only. -/
def Shows (events : List (Event × Bool)) (blocks : List CodeBlock) : Prop :=
  ∀ w : Writer, w.IsOutside none false → ∃ (w' : Writer) (passages : List Passage),
    w'.IsOutside none false ∧ passages.filterMap Passage.block? = blocks ∧
      ∀ highlighter, ∃ pieces : Array String,
        events.foldl (Writer.step highlighter) w = { w' with written := w.written ++ pieces } ∧
          String.join pieces.toList = pageText highlighter passages

theorem Shows.nil : Shows [] [] := by
  intro w hw
  refine ⟨w, [], hw, rfl, fun _ => ⟨#[], ?_, rfl⟩⟩
  rw [Array.append_empty, List.foldl_nil]

/-- What events do does not depend on the page before, so it may depend on the highlighter. -/
theorem Shows.append {left right : List (Event × Bool)} {blocks more : List CodeBlock}
    (hleft : Shows left blocks) (hright : Shows right more) :
    Shows (left ++ right) (blocks ++ more) := by
  intro w hw
  obtain ⟨w', passages, hout, hblocks, hruns⟩ := hleft w hw
  have hempty : { w' with written := #[] }.IsOutside none false :=
    ⟨⟨hout.ready.image, hout.ready.held⟩, hout.settled, hout.code⟩
  obtain ⟨w'', passages', hout', hblocks', hruns'⟩ := hright _ hempty
  refine ⟨w'', passages ++ passages', hout', ?_, fun highlighter => ?_⟩
  · rw [List.filterMap_append, hblocks, hblocks']
  · obtain ⟨pieces, hrun, hjoin⟩ := hruns highlighter
    obtain ⟨pieces', hrun', hjoin'⟩ := hruns' highlighter
    refine ⟨pieces ++ pieces', ?_, ?_⟩
    · rw [List.foldl_append, hrun, Writer.run_eq_after]
      dsimp only
      rw [hrun', Writer.after]
      simp only [Array.empty_append, Array.append_assoc]
    · rw [Array.toList_append, String.join_append, hjoin, hjoin', pageText_append]

/-- The highlighter has a part only in where code blocks begin and end. -/
theorem Writer.step_highlighter (highlighter : Option Highlighter) (w : Writer)
    {marked : Event × Bool} (h : marked.1.isCodeMark = false) :
    w.step highlighter marked = w.step none marked := by
  obtain ⟨event, standalone⟩ := marked
  cases himage : w.image with
  | some image => rw [step_of_image highlighter himage, step_of_image none himage]
  | none =>
      rw [step_of_image_none highlighter himage, step_of_image_none none himage]
      cases event with
      | start tag =>
          cases tag with
          | codeBlock info => exact Bool.noConfusion h
          | list first => cases first <;> rfl
          | _ => rfl
      | stop tag =>
          cases tag with
          | codeBlock info => exact Bool.noConfusion h
          | list first => cases first <;> rfl
          | _ => rfl
      | taskMarker checked => cases checked <;> rfl
      | _ => rfl

theorem run_highlighter (highlighter : Option Highlighter) {events : List (Event × Bool)}
    (h : ∀ marked ∈ events, marked.1.isCodeMark = false) (w : Writer) :
    events.foldl (Writer.step highlighter) w = events.foldl (Writer.step none) w := by
  induction events generalizing w with
  | nil => rfl
  | cons marked rest ih =>
      rw [List.foldl_cons, List.foldl_cons,
        Writer.step_highlighter highlighter w (h marked List.mem_cons_self),
        ih fun other hother => h other (List.mem_cons_of_mem marked hother)]

/-- Events that have nothing to do with code blocks show markup. -/
theorem Shows.of_builds {events : List (Event × Bool)} {headings : List Heading}
    {raws : List String} (hmarks : ∀ marked ∈ events, marked.1.isCodeMark = false)
    (h : Builds none false events headings raws false) : Shows events [] := by
  intro w hw
  obtain ⟨hout, -⟩ := h w hw
  let added := (events.foldl (Writer.step none) { w with written := #[] }).written
  refine ⟨events.foldl (Writer.step none) w, [.markup (String.join added.toList)], hout, rfl,
    fun highlighter => ⟨added, ?_, ?_⟩⟩
  · rw [run_highlighter highlighter hmarks, Writer.run_eq_after]
    rfl
  · simp [pageText, Passage.text]

/-! ## Code blocks -/

namespace Writer

/-- The writer `w'` is `w` after a text went to the page. -/
def Wrote (w : Writer) (text : String) (w' : Writer) : Prop :=
  ∃ pieces line, w' = { w with written := w.written ++ pieces, atLineStart := line } ∧
    String.join pieces.toList = text

variable {w w' : Writer} {text more : String}

theorem Wrote.refl (w : Writer) : w.Wrote "" w :=
  ⟨#[], w.atLineStart, by rw [Array.append_empty], rfl⟩

theorem Wrote.congr (h : w.Wrote text w') (htext : text = more) : w.Wrote more w' :=
  htext ▸ h

theorem Wrote.setLine (h : w.Wrote text w') (line : Bool) :
    w.Wrote text { w' with atLineStart := line } := by
  obtain ⟨pieces, _, rfl, hjoin⟩ := h
  exact ⟨pieces, line, rfl, hjoin⟩

/-- What is handed on goes to the page where nothing is held back. -/
theorem Wrote.emit (h : w.Wrote text w') (hheld : w.held = none) (more : String) :
    w.Wrote (text ++ more) (w'.emit more) := by
  obtain ⟨pieces, line, rfl, hjoin⟩ := h
  refine ⟨pieces.push more, line, ?_, ?_⟩
  · rw [emit_of_settled (by exact hheld), Array.append_push]
  · rw [page_push, hjoin]

theorem Wrote.write (h : w.Wrote text w') (hheld : w.held = none) (more : String) :
    w.Wrote (text ++ more) (w'.write more) := by
  unfold Writer.write
  have hemit := h.emit hheld more
  dsimp only
  split
  · exact hemit
  · exact hemit.setLine (endsLine more)

theorem Wrote.writeText (h : w.Wrote text w') (hheld : w.held = none) (content : String) :
    w.Wrote (text ++ escape content) (w'.writeText content) :=
  (h.emit hheld (escape content)).setLine (endsLine content)

/-- The end of a code block ends a line. -/
theorem Wrote.writeEnd (h : w.Wrote text w') (hheld : w.held = none) :
    ∃ pieces, w'.write "</code></pre>\n"
        = { w with atLineStart := true, written := w.written ++ pieces } ∧
      String.join pieces.toList = text ++ "</code></pre>\n" := by
  obtain ⟨pieces, line, hsame, hjoin⟩ := h.emit hheld "</code></pre>\n"
  refine ⟨pieces, ?_, hjoin⟩
  have hline : w'.write "</code></pre>\n"
      = { w'.emit "</code></pre>\n" with atLineStart := true } := rfl
  rw [hline, hsame]

variable {highlighter : Option Highlighter} {info : Option String}

/-- The front of a code block goes to the page. From then on the code of a block that names a
language is collected if there is a highlighter. -/
theorem wrote_startCode (highlighter : Option Highlighter) (info : Option String)
    (hheld : w.held = none) :
    ∃ begun, w.Wrote (w.lineEnd ++ codeFront info) begun ∧
      w.startCode highlighter info
        = if (codeLanguage info).isEmpty = false ∧ highlighter.isSome then
            { begun with code := some ⟨codeLanguage info, ""⟩ }
          else begun := by
  have hline : w.Wrote w.lineEnd
      (if w.atLineStart then w else { w with atLineStart := true }.emit "\n") := by
    rw [lineEnd]
    split
    · exact Wrote.refl w
    · exact (((Wrote.refl w).setLine true).emit hheld "\n").congr String.empty_append
  unfold startCode
  generalize (if w.atLineStart then w else { w with atLineStart := true }.emit "\n") = line
    at hline ⊢
  dsimp only
  cases hempty : (codeLanguage info).isEmpty with
  | true =>
      refine ⟨line.write "<pre><code>", (hline.write hheld "<pre><code>").congr ?_, ?_⟩
      · rw [codeFront, if_pos hempty]
      · rw [if_pos rfl, if_neg (by simp)]
  | false =>
      have hall := ((hline.write hheld "<pre><code class=\"language-").emit hheld
        (escape (codeLanguage info))).write hheld "\">"
      refine ⟨_, hall.congr ?_, ?_⟩
      · rw [codeFront, if_neg (by simp [hempty])]
        simp only [String.append_assoc]
      · rw [if_neg Bool.false_ne_true]
        simp only [true_and]

/-- Text that nothing collects goes to the page. -/
theorem wrote_texts (highlighter : Option Highlighter) (hw : w.IsOutside none false) :
    ∀ {trees : List EventTree} {text : String} {w' : Writer}, areTexts trees → w.Wrote text w' →
      w.Wrote (text ++ escape (joinedTexts trees))
        ((forestMarked trees).foldl (step highlighter) w')
  | [], text, w', _, h => by
      refine h.congr ?_
      rw [joinedTexts]
      exact String.append_empty.symm
  | tree :: rest, text, w', htexts, h => by
      obtain ⟨content, rfl, hrest⟩ := areTexts_cons htexts
      have hstep : w'.step highlighter (.text content, false) = w'.writeText content := by
        obtain ⟨pieces, line, rfl, -⟩ := h
        simp only [step, prepareHeading, Writer.text, hw.ready.image, hw.settled,
          hw.code (.inl rfl), Bool.false_eq_true, if_false]
      have hmore := wrote_texts highlighter hw hrest (h.writeText hw.held content)
      rw [joinedTexts, escape_append, ← String.append_assoc]
      rw [forestMarked, treeMarked, List.cons_append, List.nil_append, List.foldl_cons, Leaf.event,
        hstep]
      exact hmore

/-- Text in a block whose code is collected joins the code. -/
theorem collects_texts (highlighter : Option Highlighter) (himage : w.image = none)
    (hsettled : w.awaitingHeadingText = false) (language : String) :
    ∀ {trees : List EventTree} (content : String), areTexts trees →
      (forestMarked trees).foldl (step highlighter) { w with code := some ⟨language, content⟩ }
        = { w with code := some ⟨language, content ++ joinedTexts trees⟩ }
  | [], content, _ => by
      rw [joinedTexts, String.append_empty]
      rfl
  | tree :: rest, content, htexts => by
      obtain ⟨more, rfl, hrest⟩ := areTexts_cons htexts
      have hstep : { w with code := some ⟨language, content⟩ }.step highlighter (.text more, false)
          = { w with code := some ⟨language, content ++ more⟩ } := by
        simp only [step, prepareHeading, Writer.text, himage, hsettled, Bool.false_eq_true,
          if_false]
      have hall := collects_texts highlighter himage hsettled language (content ++ more) hrest
      rw [joinedTexts, ← String.append_assoc, ← hall, ← hstep]
      rfl

/-- Collected code is handed over, and goes to the page. -/
theorem flushCode_collected (highlight : Highlighter) (hcode : w.code = none)
    (language content : String) :
    { w with code := some ⟨language, content⟩ }.flushCode (some highlight)
      = { w.emit ((highlight content language).getD (escape content)) with
          atLineStart := endsLine content } := by
  have hclosed : { w with code := none } = w := by rw [← hcode]
  unfold flushCode
  dsimp only at hclosed ⊢
  rw [hclosed]

/-- Where no code is collected, none is handed over. -/
theorem flushCode_none (hcode : w.code = none) : w.flushCode highlighter = w := by
  unfold flushCode
  rw [hcode]

theorem Wrote.same (h : w.Wrote text w') :
    w'.image = w.image ∧ w'.awaitingHeadingText = w.awaitingHeadingText ∧ w'.code = w.code := by
  obtain ⟨pieces, line, rfl, -⟩ := h
  exact ⟨rfl, rfl, rfl⟩

/-- The code of a block goes to the page before the block ends, as it comes or all at once. -/
theorem wrote_code (highlighter : Option Highlighter) (hw : w.IsOutside none false)
    (info : Option String) {trees : List EventTree} (htexts : areTexts trees) :
    ∃ inside,
      (forestMarked trees).foldl (step highlighter) (w.startCode highlighter info) = inside ∧
      inside.image = none ∧ inside.awaitingHeadingText = false ∧
      w.Wrote (w.lineEnd ++ codeFront info ++ codeBody highlighter ⟨info, joinedTexts trees⟩)
        (inside.flushCode highlighter) := by
  obtain ⟨begun, hbegun, hstart⟩ := wrote_startCode highlighter info hw.held
  obtain ⟨himage, hsettled, hcode⟩ := hbegun.same
  have himage' := himage.trans hw.ready.image
  have hsettled' := hsettled.trans hw.settled
  refine ⟨_, rfl, ?_⟩
  rw [hstart]
  by_cases hcollects : (codeLanguage info).isEmpty = false ∧ highlighter.isSome
  · obtain ⟨hlanguage, hsome⟩ := hcollects
    obtain ⟨highlight, rfl⟩ := Option.isSome_iff_exists.mp hsome
    rw [if_pos ⟨hlanguage, hsome⟩,
      collects_texts (some highlight) himage' hsettled' (codeLanguage info) "" htexts,
      String.empty_append]
    refine ⟨himage', hsettled', ?_⟩
    rw [flushCode_collected highlight (hcode.trans (hw.code (.inl rfl)))]
    refine ((hbegun.emit hw.held _).setLine _).congr ?_
    rw [codeBody]
    simp only [hlanguage, Bool.false_eq_true, if_false, Option.bind_some]
  · rw [if_neg hcollects]
    have htext := wrote_texts highlighter hw htexts hbegun
    generalize (forestMarked trees).foldl (step highlighter) begun = inside at htext ⊢
    refine ⟨htext.same.1.trans hw.ready.image, htext.same.2.1.trans hw.settled, ?_⟩
    rw [flushCode_none (htext.same.2.2.trans (hw.code (.inl rfl)))]
    refine htext.congr ?_
    rw [codeBody]
    dsimp only
    split
    · rfl
    · rename_i hlanguage
      have hnone : highlighter = none := by
        simpa [hlanguage] using hcollects
      rw [hnone]
      rfl

end Writer

/-- A code block shows itself, with a highlighter and without. -/
theorem shows_codeBlock (info : Option String) {trees : List EventTree} (htexts : areTexts trees) :
    Shows ((.start (.codeBlock info), false) ::
      (forestMarked trees ++ [(Event.stop (.codeBlock info), false)]))
      [⟨info, joinedTexts trees⟩] := by
  intro w hw
  refine ⟨{ w with atLineStart := true }, [.markup w.lineEnd, .code ⟨info, joinedTexts trees⟩],
    ⟨⟨hw.ready.image, hw.ready.held⟩, hw.settled, hw.code⟩, rfl, fun highlighter => ?_⟩
  obtain ⟨inside, hinside, himage, hsettled, hcode⟩ := Writer.wrote_code highlighter hw info htexts
  -- when the block ends the writer is at the start of a line, whatever it remembered inside
  obtain ⟨pieces, hend, hjoin⟩ := hcode.writeEnd hw.held
  refine ⟨pieces, ?_, ?_⟩
  · have hstart : w.step highlighter (.start (.codeBlock info), false)
        = w.startCode highlighter info := by
      rw [Writer.step_of_image_none highlighter hw.ready.image,
        Writer.prepareHeading_of_settled hw.settled]
      rfl
    rw [List.foldl_cons, List.foldl_append, List.foldl_cons, List.foldl_nil, hstart, hinside,
      Writer.step_of_image_none highlighter himage, Writer.prepareHeading_of_settled hsettled]
    exact hend
  · rw [hjoin]
    simp [pageText, Passage.text, String.append_assoc]

/-! ## Forests -/

/-- Markup of a construct that holds a line of text: there is no code block in it. -/
theorem shows_line {tag : Tag} {children : List EventTree} {headings : List Heading}
    {raws : List String} (hcode : tag.isCode = false) (hinline : areInline children)
    (hbuilds : Builds none false (treeMarked (.node tag children)) headings raws false) :
    Shows (treeMarked (.node tag children)) (EventTree.node tag children).codeBlocks := by
  rw [codeBlocks_node hcode, forestCode_inline children hinline]
  refine Shows.of_builds (fun marked hmarked => ?_) hbuilds
  exact isCodeMark_line hcode hinline _ (mem_treeMarked hmarked)

/-- A construct that holds no line shows the code blocks of its content. -/
theorem shows_node {tag : Tag} {children : List EventTree} (hcode : tag.isCode = false)
    (hline : tag.holdsLine = false) (hinner : Shows (forestMarked children) (forestCode children)) :
    Shows ((.start tag, false) :: (forestMarked children ++ [(Event.stop tag, false)]))
      (EventTree.node tag children).codeBlocks := by
  have hstart : Shows [(.start tag, false)] [] :=
    Shows.of_builds (by simpa [Event.isCodeMark] using hcode)
      (addsRow_startTag false hline hcode).builds
  have hstop : Shows [(.stop tag, false)] [] :=
    Shows.of_builds (by simpa [Event.isCodeMark] using hcode) (addsRow_stopTag hline hcode).builds
  have hnode := hstart.append (hinner.append hstop)
  rw [List.nil_append, List.append_nil] at hnode
  rw [codeBlocks_node hcode]
  exact hnode

mutual

/-- A tree outside of headings shows its code blocks. -/
theorem shows_tree : ∀ tree : EventTree, tree.isFlow → tree.isCodePlain →
    Shows (treeMarked tree) tree.codeBlocks
  | .leaf leaf, _, _ => by
      refine Shows.of_builds ?_ (addsRow_leaf leaf).builds
      intro marked hmarked
      rw [List.mem_singleton.mp hmarked]
      exact isCodeMark_leaf leaf
  | .node tag children, hflow, hplain => by
      have hbuilds : Builds none false _ _ _ false := builds_tree (.node tag children) false hflow
      rw [EventTree.isFlow] at hflow
      cases hcode : tag.isCode with
      | true =>
          cases tag with
          | codeBlock info =>
              rw [treeMarked_node (by simp)]
              exact shows_codeBlock info hplain
          | _ => exact Bool.noConfusion hcode
      | false =>
          rw [isCodePlain_node hcode] at hplain
          cases hline : tag.holdsLine with
          | true =>
              rw [hline, if_pos rfl] at hflow
              exact shows_line hcode hflow hbuilds
          | false =>
              rw [hline, if_neg Bool.false_ne_true] at hflow
              have hinner := shows_forest children hflow hplain
              by_cases hparagraph : tag = .paragraph
              · subst hparagraph
                by_cases hfigure : ∃ dest title alt,
                    children = [.node (.image dest title) [.leaf (.text alt)]]
                · obtain ⟨dest, title, alt, rfl⟩ := hfigure
                  exact shows_line hcode rfl hbuilds
                · have hno : ∀ dest title alt,
                      children ≠ [.node (.image dest title) [.leaf (.text alt)]] :=
                    fun dest title alt heq => hfigure ⟨dest, title, alt, heq⟩
                  rw [treeMarked_paragraph hno]
                  exact shows_node hcode hline hinner
              · rw [treeMarked_node hparagraph]
                exact shows_node hcode hline hinner

theorem shows_forest : ∀ trees : List EventTree, areFlow trees → areCodePlain trees →
    Shows (forestMarked trees) (forestCode trees)
  | [], _, _ => Shows.nil
  | tree :: rest, hflow, hplain => by
      rw [areFlow, Bool.and_eq_true] at hflow
      rw [areCodePlain, Bool.and_eq_true] at hplain
      exact (shows_tree tree hflow.1 hplain.1).append (shows_forest rest hflow.2 hplain.2)

end

/-! ## The page of a document -/

/-- Where a highlighter knows no language, its pages are those without one. -/
theorem pageText_of_none {highlight : Highlighter}
    (h : ∀ code language, highlight code language = none) (passages : List Passage) :
    pageText (some highlight) passages = pageText none passages := by
  have hbody : ∀ block, codeBody (some highlight) block = codeBody none block := by
    intro block
    rw [codeBody, codeBody, Option.bind_some, h]
    rfl
  have htext : Passage.text (some highlight) = Passage.text none := by
    funext passage
    cases passage with
    | markup text => rfl
    | code block => rw [Passage.text, Passage.text, hbody]
  rw [pageText, htext, pageText]

/-- A page is passages whose code blocks are those of the document, in order, and a highlighter has
a part in the bodies of these code blocks only: the code of a block that names a language is what
the highlighter makes of it, and escaped where it makes nothing. The rest of the page is the same
for every highlighter and without one, and so is everything that the writer knows at the end. A
highlighter that knows no language changes nothing. -/
theorem render_highlighted {trees : List EventTree} (hflow : areFlow trees)
    (hplain : areCodePlain trees) :
    ∃ (w : Writer) (passages : List Passage),
      passages.filterMap Passage.block? = forestCode trees ∧
      (∀ highlighter, render highlighter (forestEvents trees) = pageText highlighter passages ∧
        ∃ written,
          Writer.ofEvents highlighter (forestEvents trees) = { w with written := written }) ∧
      ∀ highlight : Highlighter, (∀ code language, highlight code language = none) →
        render (some highlight) (forestEvents trees) = render none (forestEvents trees) := by
  have hstart : ({} : Writer).IsOutside none false :=
    ⟨⟨rfl, fun _ => rfl⟩, rfl, fun _ => rfl⟩
  obtain ⟨w, passages, hout, hblocks, hruns⟩ := shows_forest trees hflow hplain {} hstart
  -- after the last event of a forest nothing is left to be marked or to be ended
  have hmarked : markStandalone (forestEvents trees) = forestMarked trees := by
    have hall := markStandalone_forestEvents [] trees
    simpa [markStandalone] using hall
  have hwritten : ∀ highlighter, ∃ pieces : Array String,
      Writer.ofEvents highlighter (forestEvents trees) = { w with written := pieces } ∧
        String.join pieces.toList = pageText highlighter passages := by
    intro highlighter
    obtain ⟨pieces, hrun, hjoin⟩ := hruns highlighter
    refine ⟨pieces, ?_, hjoin⟩
    rw [Writer.ofEvents, hmarked, hrun, Writer.finish, Array.empty_append]
    dsimp only
    rw [hout.ready.image]
  have hpages : ∀ highlighter,
      render highlighter (forestEvents trees) = pageText highlighter passages := by
    intro highlighter
    obtain ⟨pieces, hrun, hjoin⟩ := hwritten highlighter
    rw [render, hrun, Writer.page, hjoin]
  refine ⟨w, passages, hblocks, fun highlighter => ⟨hpages highlighter, ?_⟩, fun highlight h => ?_⟩
  · obtain ⟨pieces, hrun, -⟩ := hwritten highlighter
    exact ⟨pieces, hrun⟩
  · rw [hpages, hpages, pageText_of_none h]

/-- A heading, a block in a language that is known, and one in a language that is not, in a list. -/
def sampleCode : List EventTree :=
  [.node (.heading 1) [.leaf (.text "Code")],
    .node (.codeBlock (some "text wide")) [.leaf (.text "a < b\n"), .leaf (.text "c\n")],
    .node (.list none) [.node .item [.node (.codeBlock (some "lisp")) [.leaf (.text "(d)\n")]]]]

theorem render_highlighted_sample :
    areFlow sampleCode ∧ areCodePlain sampleCode ∧
      ∃ passages, passages.filterMap Passage.block?
          = [⟨some "text wide", "a < b\nc\n"⟩, ⟨some "lisp", "(d)\n"⟩] ∧
        render none (forestEvents sampleCode) = pageText none passages ∧
        render (some Highlight.highlight) (forestEvents sampleCode)
          = pageText (some Highlight.highlight) passages := by
  have hflow : areFlow sampleCode := by decide
  have hplain : areCodePlain sampleCode := by decide
  obtain ⟨_, passages, hblocks, hpages, _⟩ := render_highlighted hflow hplain
  exact ⟨hflow, hplain, passages, hblocks.trans (by decide), (hpages none).1,
    (hpages (some Highlight.highlight)).1⟩

end StaticSite.Html
