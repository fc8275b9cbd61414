import StaticSite.Html.Renderer
import StaticSite.Proofs.Html.WordBreak

/-!
# Paragraphs next to each other

Where one paragraph begins right after another one ends, the tags between the two keep their words
apart. Inside a footnote's definition there are no such tags, and nothing is put in their place: the
words on both sides run together unless the paragraphs themselves end or begin with a break.

## What this module delivers

- `TextPlace`: a text in a paragraph, outside of images.
- `pageSoFar`: the page when some of a document's events have been written.
- `markStandalone_opening`, `IsShown.mark_paragraph`: figures before a place, and in its paragraph.
- `eventsBefore`, `eventsBetween`: the events up to a text, and those up to the next paragraph's.
- `paragraphs_apart`: the main statement.
- `paragraphs_joined`: two paragraphs of a definition whose words run together.
-/

set_option autoImplicit false

namespace StaticSite.Html

open StaticSite.Markdown

/-! ## Texts of a paragraph -/

/-- A text in a paragraph: the constructs that it is in, and its neighbours in the innermost one. -/
structure TextPlace where
  path : List Level
  left : List EventTree
  content : String
  right : List EventTree

namespace TextPlace

/-- What the paragraph encloses. -/
def trees (place : TextPlace) : List EventTree :=
  plug place.path (place.left ++ .leaf (.text place.content) :: place.right)

/-- The events of the paragraph before the text. -/
def before (place : TextPlace) : List Event :=
  opening place.path ++ forestEvents place.left

/-- The events of the paragraph behind the text. -/
def behind (place : TextPlace) : List Event :=
  forestEvents place.right ++ closing place.path

/-- The paragraph is a line of text, and the text is not one in place of an image. -/
structure IsShown (place : TextPlace) : Prop where
  inline : areInline place.trees
  noImage : ∀ level ∈ place.path, ∀ dest title, level.tag ≠ .image dest title

variable {place : TextPlace}

theorem forestEvents_trees :
    forestEvents place.trees = place.before ++ .text place.content :: place.behind := by
  rw [trees, forestEvents_plug, forestEvents_append, forestEvents_cons, before, behind]
  simp [Leaf.event]

theorem IsShown.levels (h : place.IsShown) :
    AreShown place.path ∧ areInline place.left ∧ areInline place.right := by
  obtain ⟨hpath, htrees⟩ := areInline_plug h.inline
  rw [areInline_append, Bool.and_eq_true, areInline, Bool.and_eq_true] at htrees
  exact ⟨fun level hlevel => ⟨hpath level hlevel, h.noImage level hlevel⟩, htrees.1, htrees.2.2⟩

theorem isInline_opening {path : List Level} (h : AreShown path) :
    ∀ event ∈ opening path, event.isInline := by
  induction path with
  | nil => exact fun event hevent => absurd hevent List.not_mem_nil
  | cons level path ih =>
      obtain ⟨⟨⟨htag, hleft, -⟩, -⟩, hrest⟩ := List.forall_mem_cons.mp h
      intro event hevent
      rw [opening, List.mem_append, List.mem_cons] at hevent
      rcases hevent with hevent | rfl | hevent
      · exact isInline_forestEvents level.left hleft event hevent
      · exact htag
      · exact ih hrest event hevent

/-- What stands before the text in its paragraph belongs to a line. -/
theorem IsShown.isInline_before (h : place.IsShown) : ∀ event ∈ place.before, event.isInline := by
  intro event hevent
  rcases List.mem_append.mp hevent with hevent | hevent
  · exact isInline_opening h.levels.1 event hevent
  · exact isInline_forestEvents place.left h.levels.2.1 event hevent

/-- A paragraph with a text outside of images is no figure. -/
theorem IsShown.not_figure (h : place.IsShown) (dest title alt : String) :
    place.trees ≠ [.node (.image dest title) [.leaf (.text alt)]] := by
  intro heq
  cases hpath : place.path with
  | nil =>
      rw [trees, hpath, plug, List.append_eq_singleton_iff] at heq
      simp at heq
  | cons level path =>
      have hlevel : level ∈ place.path := by
        rw [hpath]
        exact List.mem_cons_self
      rw [trees, hpath, plug, List.append_eq_singleton_iff] at heq
      rcases heq with ⟨-, heq⟩ | ⟨-, heq⟩
      · simp only [List.cons.injEq, EventTree.node.injEq] at heq
        exact h.noImage level hlevel dest title heq.1.1
      · exact absurd heq (by simp)

end TextPlace

/-! ## Figures before a place -/

/-- A paragraph in which another one begins is no figure. -/
theorem markStandalone_enclosing {events : List Event} (h : openTags [] events ≠ none)
    (rest : List Event) :
    markStandalone (.start .paragraph :: (events ++ .start .paragraph :: rest))
      = (.start .paragraph, false) :: markStandalone (events ++ .start .paragraph :: rest) := by
  rw [markStandalone]
  intro dest title alt dest' title' others _ hmatch
  -- the second start would have to be one of the four events behind the first
  rcases events with _ | ⟨first, _ | ⟨second, _ | ⟨third, _ | ⟨fourth, more⟩⟩⟩⟩
  · simp at hmatch
  · simp at hmatch
  · simp at hmatch
  · simp at hmatch
  · simp only [List.cons_append, List.cons.injEq] at hmatch
    obtain ⟨rfl, rfl, rfl, rfl, -⟩ := hmatch
    apply h
    by_cases hsame : Tag.image dest' title' = Tag.image dest title
    · simp [openTags, hsame]
    · simp [openTags, hsame]

/-- Before a place with a paragraph the figures are those of the trees to the left. -/
theorem markStandalone_opening (path : List Level) (left : List EventTree) (rest : List Event) :
    markStandalone (opening path ++ (forestEvents left ++ .start .paragraph :: rest))
      = openingMarked path ++
          (forestMarked left ++ markStandalone (.start .paragraph :: rest)) := by
  induction path with
  | nil => exact markStandalone_forestEvents _ left
  | cons level path ih =>
      rw [opening, List.append_assoc, List.cons_append, markStandalone_forestEvents, openingMarked,
        List.append_assoc, List.cons_append]
      by_cases hparagraph : level.tag = .paragraph
      · obtain ⟨stack, hstack⟩ := openTags_opening path []
        have hopen : openTags [] (opening path ++ forestEvents left) ≠ none := by
          have hleft := openTags_forestEvents stack [] left
          rw [List.append_nil] at hleft
          rw [hstack, hleft]
          exact Option.some_ne_none stack
        have hmarked := markStandalone_enclosing hopen rest
        rw [List.append_assoc] at hmarked
        rw [hparagraph, hmarked, ih]
      · rw [markStandalone_event (by simpa using hparagraph), ih]

/-- In a line of text nothing is marked but what its trees mark. -/
theorem markStandalone_lineOpening {path : List Level} (h : AreShown path) (rest : List Event) :
    markStandalone (opening path ++ rest) = openingMarked path ++ markStandalone rest := by
  induction path with
  | nil => rfl
  | cons level path ih =>
      obtain ⟨⟨⟨htag, -⟩, -⟩, hrest⟩ := List.forall_mem_cons.mp h
      have hparagraph : Event.start level.tag ≠ .start .paragraph := by
        intro heq
        rw [Event.start.inj heq] at htag
        exact Bool.noConfusion htag
      rw [opening, List.append_assoc, List.cons_append, markStandalone_forestEvents,
        markStandalone_event hparagraph, ih hrest, openingMarked, List.append_assoc,
        List.cons_append]

theorem markStandalone_lineClosing (path : List Level) (rest : List Event) :
    markStandalone (closing path ++ rest) = closingMarked path ++ markStandalone rest := by
  induction path generalizing rest with
  | nil => rfl
  | cons level path ih =>
      rw [closing, List.append_assoc, List.cons_append, ih, markStandalone_event (by simp),
        markStandalone_forestEvents, closingMarked, List.append_assoc, List.cons_append]

namespace TextPlace

/-- The events of the paragraph before the text, with what they mark. -/
def beforeMarked (place : TextPlace) : List (Event × Bool) :=
  openingMarked place.path ++ forestMarked place.left

/-- The events of the paragraph behind the text, with what they mark. -/
def behindMarked (place : TextPlace) : List (Event × Bool) :=
  forestMarked place.right ++ closingMarked place.path

variable {place : TextPlace}

theorem IsShown.mark_before (h : place.IsShown) (rest : List Event) :
    markStandalone (place.before ++ rest) = place.beforeMarked ++ markStandalone rest := by
  rw [before, List.append_assoc, markStandalone_lineOpening h.levels.1,
    markStandalone_forestEvents, beforeMarked, List.append_assoc]

theorem mark_behind (place : TextPlace) (rest : List Event) :
    markStandalone (place.behind ++ rest) = place.behindMarked ++ markStandalone rest := by
  rw [behind, List.append_assoc, markStandalone_forestEvents, markStandalone_lineClosing,
    behindMarked, List.append_assoc]

/-- The front of a paragraph, as far as the text, marks nothing but what its trees mark. -/
theorem IsShown.mark_front (h : place.IsShown) :
    markStandalone (.start .paragraph :: place.before)
      = (.start .paragraph, false) :: place.beforeMarked := by
  have hbefore := h.mark_before []
  rw [List.append_nil, markStandalone, List.append_nil] at hbefore
  rw [markStandalone, hbefore]
  intro dest title alt dest' title' rest _ hmatch
  -- a figure would end before the text does
  have hstop := h.isInline_before (.stop .paragraph) (by simp [hmatch])
  exact Bool.noConfusion hstop

/-- The paragraph marks nothing but what its trees mark. -/
theorem IsShown.mark_paragraph (h : place.IsShown) (rest : List Event) :
    markStandalone (.start .paragraph ::
        (place.before ++ .text place.content :: (place.behind ++ .stop .paragraph :: rest)))
      = (.start .paragraph, false) :: (place.beforeMarked ++ (.text place.content, false) ::
          (place.behindMarked ++ (.stop .paragraph, false) :: markStandalone rest)) := by
  have hevents : place.before ++ .text place.content :: (place.behind ++ .stop .paragraph :: rest)
      = forestEvents place.trees ++ .stop .paragraph :: rest := by
    rw [forestEvents_trees, List.append_assoc, List.cons_append]
  have hkept : markStandalone (.start .paragraph ::
      (forestEvents place.trees ++ .stop .paragraph :: rest)) = _ :=
    markStandalone_paragraph h.not_figure
  rw [← hevents] at hkept
  rw [hkept, h.mark_before, markStandalone_event (by simp), mark_behind,
    markStandalone_event (by simp)]

end TextPlace

/-! ## Two paragraphs -/

/-- The page when some of a document's events have been written. -/
def pageSoFar (highlighter : Option Highlighter) (events : List Event) : String :=
  ((markStandalone events).foldl (Writer.step highlighter) {}).page

/-- A text outside of headings and images is all that its event adds to the page. -/
theorem page_text {w : Writer} (highlighter : Option Highlighter) (hw : w.IsOutside none false)
    (content : String) :
    (w.step highlighter (.text content, false)).IsOutside none false ∧
      (w.step highlighter (.text content, false)).inDefinition = w.inDefinition ∧
      (w.step highlighter (.text content, false)).page = w.page ++ escape content := by
  have hfills : Fills highlighter _ _ := fills_text content
  obtain ⟨hout, hstate, -⟩ := hfills w hw
  refine ⟨hout, hstate, ?_⟩
  have htext := Writer.continues_text content hw.settled (hw.code (.inl rfl))
  rw [Writer.step_of_image_none highlighter hw.ready.image,
    Writer.prepareHeading_of_settled hw.settled]
  exact (htext.grows.page hw.held).2

section

variable {highlighter : Option Highlighter} {path : List Level} {left : List EventTree}
  {place first second : TextPlace}

theorem fills_beforeMarked (h : place.IsShown) :
    Fills highlighter place.beforeMarked fun _ => SomeBreak place.before := by
  apply ((fills_opening h.levels.1).append (fills_forest place.left h.levels.2.1)).congr
  intro _
  rw [TextPlace.before, someBreak_append]

theorem fills_behindMarked (h : place.IsShown) :
    Fills highlighter place.behindMarked fun _ => SomeBreak place.behind := by
  apply ((fills_forest place.right h.levels.2.2).append (fills_closing h.levels.1)).congr
  intro _
  rw [TextPlace.behind, someBreak_append]

/-- The writer in a place of a document between two paragraphs. -/
theorem outside_place (hpath : ∀ level ∈ path, level.tag.holdsLine = false ∧ areFlow level.left)
    (hleft : areFlow left) (hquiet : IsQuiet highlighter (path.any fun level => level.tag.isCode)) :
    ((openingMarked path ++ forestMarked left).foldl (Writer.step highlighter) {}).IsOutside
        none false ∧
      ((openingMarked path ++ forestMarked left).foldl (Writer.step highlighter) {}).inDefinition
        = definitionState false (opening path ++ forestEvents left) := by
  have hstart : ({} : Writer).IsOutside highlighter false :=
    ⟨⟨rfl, fun _ => rfl⟩, rfl, fun _ => rfl⟩
  obtain ⟨hplace, hstate⟩ := outside_opening hpath false {} hstart
  rw [Bool.false_or] at hplace
  obtain ⟨hout, -⟩ := builds_forest left _ hleft _ hplace
  rw [List.foldl_append]
  refine ⟨⟨hout.ready, hout.settled, fun _ => hout.code hquiet⟩, ?_⟩
  rw [inDefinition_forest left _ _ hleft hplace, hstate, definitionState_append]

/-- After a document the page is finished. -/
theorem render_forest {trees : List EventTree} (hflow : areFlow trees) :
    render highlighter (forestEvents trees) = pageSoFar highlighter (forestEvents trees) := by
  have hstart : ({} : Writer).IsOutside highlighter false :=
    ⟨⟨rfl, fun _ => rfl⟩, rfl, fun _ => rfl⟩
  obtain ⟨hend, -⟩ := builds_forest trees false hflow {} hstart
  rw [render, Writer.ofEvents, pageSoFar, markStandalone_forest, Writer.finish, hend.ready.image]

/-- The events of a document up to a text of a paragraph, which has these trees to its left. -/
def eventsBefore (path : List Level) (left : List EventTree) (first : TextPlace) : List Event :=
  opening path ++ (forestEvents left ++ .start .paragraph :: first.before)

/-- The events between a text of a paragraph and a text of the next paragraph. -/
def eventsBetween (first second : TextPlace) : List Event :=
  first.behind ++ .stop .paragraph :: .start .paragraph :: second.before

/-- The events up to a text, with what they mark. -/
def beforeMarked (path : List Level) (left : List EventTree) (first : TextPlace) :
    List (Event × Bool) :=
  openingMarked path ++ forestMarked left ++ (.start .paragraph, false) :: first.beforeMarked

/-- The events between two texts, with what they mark. -/
def betweenMarked (first second : TextPlace) : List (Event × Bool) :=
  first.behindMarked ++ (.stop .paragraph, false) :: (.start .paragraph, false) ::
    second.beforeMarked

theorem mark_eventsBefore (hfirst : first.IsShown) :
    markStandalone (eventsBefore path left first) = beforeMarked path left first := by
  rw [eventsBefore, markStandalone_opening, hfirst.mark_front, beforeMarked, List.append_assoc]

theorem mark_eventsBetween (hfirst : first.IsShown) (hsecond : second.IsShown) :
    markStandalone (eventsBefore path left first ++
        .text first.content :: eventsBetween first second)
      = beforeMarked path left first ++ (Event.text first.content, false) ::
          betweenMarked first second := by
  simp only [eventsBefore, eventsBetween, List.append_assoc, List.cons_append]
  rw [markStandalone_opening, hfirst.mark_paragraph, hsecond.mark_front, beforeMarked,
    betweenMarked]
  simp only [List.append_assoc, List.cons_append]

/-- In the whole document nothing else is marked up to the second text. -/
theorem mark_document (right : List EventTree) (hfirst : first.IsShown)
    (hsecond : second.IsShown) :
    ∃ rest, markStandalone (forestEvents (plug path
        (left ++ .node .paragraph first.trees :: .node .paragraph second.trees :: right)))
      = beforeMarked path left first ++ (Event.text first.content, false) ::
          (betweenMarked first second ++ (Event.text second.content, false) :: rest) := by
  simp only [forestEvents_plug, forestEvents_append, forestEvents_cons, events_node,
    TextPlace.forestEvents_trees, List.append_assoc, List.cons_append, List.nil_append]
  rw [markStandalone_opening, hfirst.mark_paragraph, hsecond.mark_paragraph, beforeMarked,
    betweenMarked]
  simp only [List.append_assoc, List.cons_append]
  exact ⟨_, rfl⟩

/-- Between a text of a paragraph and one of the next paragraph there is a break, in a definition
only if the paragraphs themselves put one. -/
theorem fills_between (hfirst : first.IsShown) (hsecond : second.IsShown) :
    Fills highlighter (betweenMarked first second)
      fun state => state = false ∨ SomeBreak (first.behind ++ second.before) := by
  have htags : Fills highlighter _ _ :=
    fills_stopParagraph.append (fills_startParagraph.append (fills_beforeMarked hsecond))
  apply ((fills_behindMarked hfirst).append htags).congr
  intro state
  rw [someBreak_append]
  tauto

/-- The writer before a text of a paragraph. -/
theorem outside_before (hpath : ∀ level ∈ path, level.tag.holdsLine = false ∧ areFlow level.left)
    (hleft : areFlow left) (hquiet : IsQuiet highlighter (path.any fun level => level.tag.isCode))
    (hfirst : first.IsShown) :
    ((beforeMarked path left first).foldl (Writer.step highlighter) {}).IsOutside none false ∧
      ((beforeMarked path left first).foldl (Writer.step highlighter) {}).inDefinition
        = definitionState false (opening path ++ forestEvents left) := by
  have hfront : Fills highlighter _ _ := fills_startParagraph.append (fills_beforeMarked hfirst)
  obtain ⟨hplace, hstate⟩ := outside_place hpath hleft hquiet
  obtain ⟨hbefore, hbeforeState, -⟩ := hfront _ hplace
  rw [beforeMarked, List.foldl_append]
  exact ⟨hbefore, hbeforeState.trans hstate⟩

/-- Take two paragraphs of a document, one right after the other, anywhere but in a code block whose
code is collected, and a text of each. The page goes on from the first text with some markup and
the second text. The markup keeps the words of the texts apart exactly if no footnote's definition
is under way at the paragraphs, or an event between the texts but within the paragraphs does; so it
always does where no definition encloses the paragraphs. -/
theorem paragraphs_apart (right : List EventTree)
    (hflow : areFlow (plug path
      (left ++ .node .paragraph first.trees :: .node .paragraph second.trees :: right)))
    (hquiet : IsQuiet highlighter (path.any fun level => level.tag.isCode))
    (hfirst : first.IsShown) (hsecond : second.IsShown) :
    ∃ between behind,
      pageSoFar highlighter
          (eventsBefore path left first ++ .text first.content :: eventsBetween first second)
        = pageSoFar highlighter (eventsBefore path left first)
            ++ escape first.content ++ between ∧
      render highlighter (forestEvents (plug path
          (left ++ .node .paragraph first.trees :: .node .paragraph second.trees :: right)))
        = pageSoFar highlighter (eventsBefore path left first)
            ++ escape first.content ++ between ++ escape second.content ++ behind ∧
      (HasBreak between ↔ definitionState false (opening path ++ forestEvents left) = false ∨
        SomeBreak (first.behind ++ second.before)) ∧
      ((∀ level ∈ path, ∀ label, level.tag ≠ .footnoteDefinition label) → HasBreak between) := by
  have hblock : areInline
      (left ++ .node .paragraph first.trees :: .node .paragraph second.trees :: right) = false := by
    have hparagraph : (EventTree.node .paragraph first.trees).isInline = false := rfl
    rw [areInline_append, areInline, hparagraph, Bool.false_and, Bool.and_false]
  obtain ⟨hpath, htrees⟩ := areFlow_plug hflow hblock
  rw [areFlow_append, Bool.and_eq_true] at htrees
  -- the writer before the first text, behind it, before the second text, behind that
  obtain ⟨hbefore, hstate⟩ := outside_before hpath htrees.1 hquiet hfirst
  obtain ⟨htext, htextState, htextPage⟩ := page_text highlighter hbefore first.content
  have hjoint : Fills highlighter _ _ := fills_between hfirst hsecond
  obtain ⟨hnext, -, between, hbetweenPage, hbetween⟩ := hjoint _ htext
  obtain ⟨-, -, hsecondPage⟩ := page_text highlighter hnext second.content
  rw [htextState, hstate] at hbetween
  obtain ⟨rest, hdocument⟩ := mark_document right hfirst hsecond
  obtain ⟨behind, hbehind⟩ := Writer.page_run _ highlighter rest
  rw [hsecondPage, hbetweenPage, htextPage] at hbehind
  refine ⟨between, behind, ?_, ?_, hbetween, ?_⟩
  · rw [pageSoFar, pageSoFar, mark_eventsBetween hfirst hsecond, mark_eventsBefore hfirst,
      List.foldl_append, List.foldl_cons, hbetweenPage, htextPage]
  · rw [render_forest hflow, pageSoFar, pageSoFar, hdocument, mark_eventsBefore hfirst,
      List.foldl_append, List.foldl_cons, List.foldl_append, List.foldl_cons, hbehind]
  · intro hnone
    refine hbetween.mpr (.inl ?_)
    rw [definitionState_append, definitionState_opening hnone]
    apply eq_false_of_ne_true
    intro hopen
    exact Bool.noConfusion (definitionState_forest left false hopen)

end

/-! ## Paragraphs of a definition -/

/-- A paragraph with one text and nothing else. -/
def plainPlace (content : String) : TextPlace :=
  ⟨[], [], content, []⟩

theorem isShown_plainPlace (content : String) : (plainPlace content).IsShown :=
  ⟨rfl, fun _ hlevel => absurd hlevel List.not_mem_nil⟩

/-- The paragraphs "one" and "two", right after the other trees in a place. -/
def onePlusTwo (path : List Level) (left : List EventTree) : List EventTree :=
  plug path (left ++ [.node .paragraph (plainPlace "one").trees,
    .node .paragraph (plainPlace "two").trees])

/-- A quote in a footnote's definition. -/
def quotedInDefinition : List Level :=
  [⟨[], .footnoteDefinition "a", []⟩, ⟨[], .blockQuote, []⟩]

/-- In a quote of a definition nothing keeps the words of two paragraphs apart, and below a rule
something does. -/
theorem paragraphs_apart_samples :
    areFlow (onePlusTwo quotedInDefinition []) ∧ areFlow (onePlusTwo [] [.leaf .rule]) ∧
    (∃ between behind, render none (forestEvents (onePlusTwo quotedInDefinition []))
        = pageSoFar none (eventsBefore quotedInDefinition [] (plainPlace "one"))
            ++ "one" ++ between ++ "two" ++ behind ∧ ¬ HasBreak between) ∧
    ∃ between behind, render (some Highlight.highlight) (forestEvents (onePlusTwo [] [.leaf .rule]))
        = pageSoFar (some Highlight.highlight) (eventsBefore [] [.leaf .rule] (plainPlace "one"))
            ++ "one" ++ between ++ "two" ++ behind ∧ HasBreak between := by
  have hone : escape (plainPlace "one").content = "one" := by decide
  have htwo : escape (plainPlace "two").content = "two" := by decide
  have hquoted : areFlow (onePlusTwo quotedInDefinition []) := by decide
  have hplain : areFlow (onePlusTwo [] [.leaf .rule]) := by decide
  refine ⟨hquoted, hplain, ?_, ?_⟩
  · obtain ⟨between, behind, -, hpage, hbreak, -⟩ :=
      paragraphs_apart [] hquoted (.inl rfl) (isShown_plainPlace "one") (isShown_plainPlace "two")
    rw [hone, htwo] at hpage
    refine ⟨between, behind, hpage, fun hbetween => ?_⟩
    rcases hbreak.mp hbetween with hclosed | ⟨event, hevent, -⟩
    · exact absurd hclosed (by decide)
    · exact absurd hevent List.not_mem_nil
  · obtain ⟨between, behind, -, hpage, -, hapart⟩ :=
      paragraphs_apart [] hplain (.inr rfl) (isShown_plainPlace "one") (isShown_plainPlace "two")
    rw [hone, htwo] at hpage
    exact ⟨between, behind, hpage, hapart fun _ hlevel => absurd hlevel List.not_mem_nil⟩

/-- The note on a word. -/
def notedWord : List Level :=
  [⟨[.node .paragraph [.leaf (.text "x"), .leaf (.footnoteReference "a")]],
    .footnoteDefinition "a", []⟩]

/-- The words of a note's two paragraphs make one word on the page. -/
theorem paragraphs_joined :
    areFlow (onePlusTwo notedWord []) ∧
    render none (forestEvents (onePlusTwo notedWord []))
      = "<p>x<sup class=\"footnote-reference\" id=\"r.a\"><a href=\"#f.a\">1</a></sup></p>\n" ++
        "<p class=\"footnote\" id=\"f.a\"><sup>1</sup> onetwo <a href=\"#r.a\">↩</a></p>\n" ∧
    pageSoFar none (eventsBefore notedWord [] (plainPlace "one") ++
        .text "one" :: eventsBetween (plainPlace "one") (plainPlace "two"))
      = pageSoFar none (eventsBefore notedWord [] (plainPlace "one")) ++ "one" ++ "" ∧
    ¬ HasBreak "" := by
  exact ⟨by decide, by decide +kernel, by decide +kernel, by decide⟩

end StaticSite.Html
