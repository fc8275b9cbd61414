import StaticSite.Proofs.Html.BlockTag
import StaticSite.Proofs.Html.Growth

/-!
# Blocks on lines of their own

The writer never reads what it has written. It remembers whether a line begins, and a block begins
one by that alone. Whatever the events are, it is never mistaken: neither by what it holds back for
a heading, nor by the code it collects, nor by what a highlighter returns.

## What this module delivers

- `Writer.emitted`, `View.front`: all that was handed on, before and after a heading is settled.
- `Writer.poised`, `step_eq_act`: an event as it is once a heading that waits holds back.
- `Writer.KeepsLine`, `takes_step`: the writer is not mistaken, and what one event hands on.
- `grows_run`: what a whole run hands on, by induction on its events.
- `KeepsLines`, `keepsLines_ofEvents`: every event of every stream.
-/

set_option autoImplicit false

namespace StaticSite.Html

open StaticSite.Markdown

/-! ## What was handed on -/

/-- The text of a view, with a text put in where the identifier of a heading that waits belongs. -/
def View.front (inserted : String) (v : View) : String :=
  match v.held with
  | none => v.page
  | some held => v.page ++ inserted ++ held

theorem View.front_add (inserted text : String) (v : View) :
    (v.add text).front inserted = v.front inserted ++ text := by
  obtain ⟨page, _ | held⟩ := v <;> simp [View.add, View.front, String.append_assoc]

/-- A text that is put in: nothing, or an identifier with the link to its heading. -/
def IsInsertion (inserted : String) : Prop :=
  inserted = "" ∨
    ∃ identifier, isPlain identifier.toList ∧ inserted = Writer.identifierText identifier

/-- No identifier brings a block's tag with it. -/
theorem IsInsertion.blocksBeginLines {inserted : String} (h : IsInsertion inserted)
    (front : String) : BlocksBeginLines front inserted := by
  have hnever : (false = true) → IsFresh front := fun hfalse => Bool.noConfusion hfalse
  refine blocksBeginLines_of_keepsLines hnever ?_
  rcases h with rfl | ⟨identifier, hplain, rfl⟩
  · rfl
  · have hidentifier := keepsLines_of_quotable (quotable_of_plain hplain)
    simp only [Writer.identifierText, String.toList_append]
    exact keepsLines_row (keepsLines_row hidentifier (by decide))
      (keepsLines_row (keepsLines_row (by decide) hidentifier) (by decide))

namespace Writer

/-- All that was handed on: the page, and what is held back. -/
def emitted (w : Writer) : String :=
  w.page ++ String.join (w.held.getD [])

/-- What an event puts in: the identifier of a heading that waits, if it settles the heading. -/
def inserted (event : Event) (w : Writer) : String :=
  match w.image, w.awaitingHeadingText, headingText? event with
  | none, true, some text => identifierText (w.anchors.allocate text).1
  | _, _, _ => ""

theorem isInsertion_inserted (event : Event) (w : Writer) : IsInsertion (w.inserted event) := by
  unfold inserted
  split
  · exact .inr ⟨_, plain_allocate w.anchors _, rfl⟩
  · exact .inl rfl

/-- Markup is held back only while a heading waits, and within an image it is from the start. -/
structure IsSteady (w : Writer) : Prop where
  held : w.awaitingHeadingText = false → w.held = none
  image : w.image.isSome = true → w.awaitingHeadingText = true → w.held.isSome = true

/-- The writer is not mistaken when it takes it that a line begins, however the heading that waits
is settled. -/
structure KeepsLine (w : Writer) : Prop where
  steady : w.IsSteady
  fresh : w.atLineStart = true → ∀ inserted, IsFresh (w.view.front inserted)

/-- The writer once a heading that waits holds back. -/
def poised (w : Writer) : Writer :=
  { w with held := if w.awaitingHeadingText then some (w.held.getD []) else none }

/-- The writer `w'` is `w` after a text was put in, and a foreign text and one of its own were handed
on. Later texts are put in before these two, and come behind them. -/
structure Takes (w : Writer) (inserted foreign own : String) (w' : Writer) : Prop where
  line : w'.KeepsLine
  emitted : w'.emitted = w.view.front inserted ++ foreign ++ own
  lines : keepsLines (freshAfter w.atLineStart foreign.toList) own.toList = true
  later : ∀ last, IsInsertion last → ∃ first rest, IsInsertion first ∧
    w'.view.front last = w.view.front first ++ foreign ++ own ++ rest

variable {w w' v : Writer} {foreign own text : String}

theorem IsSteady.emitted (h : w.IsSteady) : w.emitted = w.view.front "" := by
  unfold Writer.emitted view View.front
  cases hwaits : w.awaitingHeadingText with
  | true => simp
  | false => simp [h.held hwaits]

theorem KeepsLine.isFresh (h : w.KeepsLine) (hline : w.atLineStart = true) : IsFresh w.emitted := by
  rw [h.steady.emitted]
  exact h.fresh hline ""

/-! ## Holding back -/

/-- What a heading begins to hold back is nothing yet. -/
theorem view_poised (w : Writer) : w.poised.view = w.view := by
  unfold poised view
  cases w.awaitingHeadingText <;> rfl

theorem steady_poised (w : Writer) : w.poised.IsSteady := by
  refine ⟨fun hsettled => ?_, fun _ hwaits => ?_⟩
  · have hsettled' : w.awaitingHeadingText = false := hsettled
    exact if_neg (by simp [hsettled'])
  · exact Option.isSome_iff_exists.mpr ⟨_, if_pos hwaits⟩

/-- Outside of headings, and within images, a heading holds back what it should. -/
theorem IsSteady.poised_eq (h : w.IsSteady)
    (hheld : w.awaitingHeadingText = true → w.held.isSome = true) : w.poised = w := by
  unfold poised
  cases hwaits : w.awaitingHeadingText with
  | false => rw [if_neg Bool.false_ne_true, ← h.held hwaits, ← hwaits]
  | true =>
      obtain ⟨pieces, hpieces⟩ := Option.isSome_iff_exists.mp (hheld hwaits)
      rw [if_pos rfl, hpieces, Option.getD_some, ← hpieces, ← hwaits]

/-- An event that does not settle a heading is held back by one that waits. -/
theorem step_eq_act (highlighter : Option Highlighter) (hw : w.IsSteady) {event : Event}
    (standalone : Bool)
    (hevent : w.image = none → w.awaitingHeadingText = true → headingText? event = none) :
    w.step highlighter (event, standalone) = w.poised.act highlighter standalone event := by
  cases himage : w.image with
  | some image =>
      have hsame := hw.poised_eq (hw.image (by rw [himage]; rfl))
      rw [hsame, step_of_image highlighter himage, act, himage]
  | none =>
      have hprepared : w.prepareHeading event = w.poised := by
        cases hwaits : w.awaitingHeadingText with
        | false =>
            rw [prepareHeading_of_settled hwaits, hw.poised_eq (by simp [hwaits])]
        | true =>
            have htext := hevent himage hwaits
            unfold prepareHeading poised
            rw [if_pos hwaits, if_pos hwaits]
            split
            · exact absurd htext (by simp [headingText?])
            · exact absurd htext (by simp [headingText?])
            · cases hheld : w.held with
              | none => rfl
              | some pieces =>
                  rw [Option.isNone_some, if_neg Bool.false_ne_true, Option.getD_some, ← hheld]
      have himage' : w.poised.image = none := himage
      rw [step_of_image_none highlighter himage, hprepared, act, himage']

/-! ## One event -/

/-- What is handed on is added to the view, if markup is held back exactly while a heading waits. -/
theorem view_grows (hw : w.IsSteady) (hheld : w.awaitingHeadingText = true → w.held.isSome = true)
    (hgrows : w.Extends text w') : w'.IsSteady ∧ w'.view = w.view.add text := by
  have hclosed : ({ w with image := none } : Writer).IsReady := ⟨rfl, hw.held⟩
  obtain ⟨hready, hview⟩ := view_extends hclosed hheld (hgrows.setImage none)
  refine ⟨⟨hready.held, fun _ hwaits => ?_⟩, hview⟩
  obtain ⟨pieces, hpieces⟩ :=
    Option.isSome_iff_exists.mp (hheld (hgrows.awaiting.symm.trans hwaits))
  obtain ⟨-, more, hmore, -⟩ := hgrows.held pieces hpieces
  rw [hmore]
  rfl

/-- What an event delivers where a heading holds back is taken. -/
theorem Delivers.takes (h : w.Delivers foreign own w') (hw : w.KeepsLine)
    (hheld : w.awaitingHeadingText = true → w.held.isSome = true) :
    w.Takes "" foreign own w' := by
  by_cases hsame : w'.awaitingHeadingText = w.awaitingHeadingText
  · have hplace : ({ w with awaitingHeadingText := w'.awaitingHeadingText, image := w'.image } :
        Writer).IsSteady := by
      rw [hsame]
      exact ⟨hw.steady.held, fun _ => hheld⟩
    have hview : ({ w with awaitingHeadingText := w'.awaitingHeadingText, image := w'.image } :
        Writer).view = w.view := by
      rw [hsame]
      rfl
    obtain ⟨hsteady, hgrown⟩ := view_grows hplace (by rw [hsame]; exact hheld) h.lays.puts.grows
    rw [hview] at hgrown
    have hfront : ∀ inserted, w'.view.front inserted
        = w.view.front inserted ++ foreign ++ own := by
      intro inserted
      rw [hgrown, View.front_add, String.append_assoc]
    refine ⟨⟨hsteady, fun hfresh inserted => ?_⟩, ?_, h.lays.puts.lines,
      fun last hlast => ⟨last, "", hlast, ?_⟩⟩
    · rw [hfront, String.append_assoc]
      exact IsFresh.append (fun hold => hw.fresh hold inserted) (h.lays.fresh hfresh)
    · rw [hsteady.emitted]
      exact hfront ""
    · rw [String.append_empty]
      exact hfront last
  · -- a heading begins: its line is open, and what is put in comes behind its front
    obtain ⟨hwaits, hline, himage⟩ := h.heading.resolve_left hsame
    have hsettled : w.awaitingHeadingText = false := by
      cases hold : w.awaitingHeadingText with
      | false => rfl
      | true => exact absurd (hwaits.trans hold.symm) hsame
    obtain ⟨hnone, hpage⟩ := h.lays.puts.grows.page (hw.steady.held hsettled)
    have hpage' : w'.page = w.page ++ (foreign ++ own) := hpage
    refine ⟨⟨⟨fun hover => ?_, fun hsome => ?_⟩, fun hfresh => ?_⟩, ?_, h.lays.puts.lines,
      fun last hlast => ⟨"", last, .inl rfl, ?_⟩⟩
    · rw [hwaits] at hover
      exact Bool.noConfusion hover
    · rw [himage] at hsome
      exact Bool.noConfusion hsome
    · rw [hline] at hfresh
      exact Bool.noConfusion hfresh
    · rw [Writer.emitted, hnone, hpage', view_of_settled hsettled]
      simp [View.front, String.append_assoc]
    · rw [view_of_waiting hwaits, hnone, hpage', view_of_settled hsettled]
      simp [View.front, String.append_assoc]

/-- The writer that has settled a heading, or has begun to hold back, takes an event in the place of
the one before. -/
theorem Takes.of_prepared {inserted : String} (h : v.Takes "" foreign own w')
    (hline : v.atLineStart = w.atLineStart) (hfront : v.view.front "" = w.view.front inserted)
    (hlater : ∀ last, IsInsertion last → ∃ first, IsInsertion first ∧
      v.view.front last = w.view.front first) : w.Takes inserted foreign own w' := by
  refine ⟨h.line, ?_, hline ▸ h.lines, fun last hlast => ?_⟩
  · rw [h.emitted, hfront]
  · obtain ⟨first, rest, hfirst, hall⟩ := h.later last hlast
    obtain ⟨before, hbefore, hsame⟩ := hlater first hfirst
    exact ⟨before, rest, hbefore, by rw [hall, hsame]⟩

theorem takes_unsettled (highlighter : Option Highlighter) (hw : w.KeepsLine) {event : Event}
    (standalone : Bool)
    (hevent : w.image = none → w.awaitingHeadingText = true → headingText? event = none) :
    ∃ own, w.Takes "" (w.foreign highlighter event) own
      (w.step highlighter (event, standalone)) := by
  have hline : w.poised.KeepsLine := by
    refine ⟨steady_poised w, fun hfresh => ?_⟩
    rw [view_poised]
    exact hw.fresh hfresh
  have hforeign : w.poised.foreign highlighter event = w.foreign highlighter event := rfl
  have hevent' : w.poised.image = none → w.poised.awaitingHeadingText = true →
      headingText? event = none := hevent
  obtain ⟨own, hdelivers⟩ := delivers_act highlighter standalone event hevent'
  have htakes := hdelivers.takes hline fun hwaits =>
    Option.isSome_iff_exists.mpr ⟨_, if_pos hwaits⟩
  rw [hforeign] at htakes
  rw [step_eq_act highlighter hw.steady standalone hevent]
  exact ⟨own, htakes.of_prepared rfl (by rw [view_poised])
    fun last hlast => ⟨last, hlast, by rw [view_poised]⟩⟩

/-- Settling a heading puts its identifier in. -/
theorem front_settleHeading (hwaits : w.awaitingHeadingText = true) (text last : String) :
    (w.settleHeading text).view.front last
      = w.view.front (identifierText (w.anchors.allocate text).1) := by
  obtain ⟨written, hsettled, hjoin⟩ := settleHeading_spec w text
  rw [hsettled, view_of_settled rfl, view_of_waiting hwaits]
  exact hjoin

theorem steady_settleHeading (w : Writer) (text : String) : (w.settleHeading text).IsSteady := by
  obtain ⟨written, hsettled, -⟩ := settleHeading_spec w text
  rw [hsettled]
  exact ⟨fun _ => rfl, fun _ hstill => Bool.noConfusion hstill⟩

/-- A heading that is settled has its identifier put in, and the event is taken behind it. -/
theorem takes_settled (highlighter : Option Highlighter) (hw : w.KeepsLine)
    (himage : w.image = none) (hwaits : w.awaitingHeadingText = true) {event : Event}
    (htext : headingText? event = some text) (standalone : Bool) :
    ∃ own, w.Takes (identifierText (w.anchors.allocate text).1) (w.foreign highlighter event) own
      (w.step highlighter (event, standalone)) := by
  have hfront := front_settleHeading hwaits text
  obtain ⟨written, hsettled, -⟩ := settleHeading_spec w text
  have hflag : (w.settleHeading text).atLineStart = w.atLineStart := by rw [hsettled]
  have hforeign : (w.settleHeading text).foreign highlighter event
      = w.foreign highlighter event := by
    rw [hsettled]
    rfl
  have hline : (w.settleHeading text).KeepsLine := by
    refine ⟨steady_settleHeading w text, fun hfresh last => ?_⟩
    rw [hfront]
    exact hw.fresh (hflag ▸ hfresh) _
  obtain ⟨own, htakes⟩ := takes_unsettled highlighter hline standalone
    fun _ hstill => absurd hstill (by simp [settleHeading_awaiting])
  rw [step_settleHeading highlighter standalone himage hwaits htext, ← hforeign]
  exact ⟨own, htakes.of_prepared hflag (hfront "") fun last _ =>
    ⟨_, .inr ⟨_, plain_allocate w.anchors text, rfl⟩, hfront last⟩⟩

/-- Whatever the event is and wherever it comes, the writer takes it. -/
theorem takes_step (highlighter : Option Highlighter) (hw : w.KeepsLine) (event : Event)
    (standalone : Bool) : ∃ own, w.Takes (w.inserted event) (w.foreign highlighter event) own
      (w.step highlighter (event, standalone)) := by
  by_cases hevent : w.image = none → w.awaitingHeadingText = true → headingText? event = none
  · have hinserted : w.inserted event = "" := by
      unfold inserted
      split <;> simp_all
    rw [hinserted]
    exact takes_unsettled highlighter hw standalone hevent
  · push Not at hevent
    obtain ⟨himage, hwaits, htext⟩ := hevent
    obtain ⟨text, htext⟩ := Option.ne_none_iff_exists'.mp htext
    have hinserted : w.inserted event = identifierText (w.anchors.allocate text).1 := by
      simp only [inserted, himage, hwaits, htext]
    rw [hinserted]
    exact takes_settled highlighter hw himage hwaits htext standalone

/-- An image that never ends is ended with the document. -/
theorem takes_finish (hw : w.KeepsLine) : ∃ own, w.Takes "" "" own w.finish := by
  unfold finish
  split
  · rename_i image himage
    obtain ⟨own, hdelivers⟩ := delivers_finishImage image w
    exact ⟨own, hdelivers.takes hw (hw.steady.image (by rw [himage]; rfl))⟩
  · refine ⟨"", hw, ?_, rfl, fun last hlast => ⟨last, "", hlast, ?_⟩⟩
    · rw [hw.steady.emitted, String.append_empty, String.append_empty]
    · simp only [String.append_empty]

/-! ## Runs -/

/-- The writer `w'` is `w` after a run that was never mistaken. What is put in later comes before
what the run handed on, or in its midst. -/
structure Grows (w w' : Writer) : Prop where
  line : w'.KeepsLine
  later : ∀ last, IsInsertion last → ∃ first rest, IsInsertion first ∧
    w'.view.front last = w.view.front first ++ rest

theorem Takes.grows {inserted : String} (h : w.Takes inserted foreign own w') : w.Grows w' := by
  refine ⟨h.line, fun last hlast => ?_⟩
  obtain ⟨first, rest, hfirst, hall⟩ := h.later last hlast
  exact ⟨first, foreign ++ own ++ rest, hfirst, by rw [hall]; simp only [String.append_assoc]⟩

theorem Grows.refl (hw : w.KeepsLine) : w.Grows w :=
  ⟨hw, fun last hlast => ⟨last, "", hlast, String.append_empty.symm⟩⟩

theorem Grows.trans (h : w.Grows v) (h' : v.Grows w') : w.Grows w' := by
  refine ⟨h'.line, fun last hlast => ?_⟩
  obtain ⟨middle, rest', hmiddle, hall'⟩ := h'.later last hlast
  obtain ⟨first, rest, hfirst, hall⟩ := h.later middle hmiddle
  exact ⟨first, rest ++ rest', hfirst, by rw [hall', hall, String.append_assoc]⟩

/-- Step by step a run is taken, whatever its events are. -/
theorem grows_run (highlighter : Option Highlighter) (pairs : List (Event × Bool))
    (hw : w.KeepsLine) : w.Grows (pairs.foldl (step highlighter) w) := by
  induction pairs generalizing w with
  | nil => exact Grows.refl hw
  | cons pair rest ih =>
      obtain ⟨own, htakes⟩ := takes_step highlighter hw pair.1 pair.2
      exact htakes.grows.trans (ih htakes.line)

theorem keepsLine_empty : ({} : Writer).KeepsLine :=
  ⟨⟨fun _ => rfl, fun hsome => Bool.noConfusion hsome⟩, fun _ _ => .inl rfl⟩

end Writer

/-! ## Documents -/

/-- The writer of a document is never mistaken about its line, and all tags of blocks that it writes
begin lines. -/
structure KeepsLines (highlighter : Option Highlighter) (events : List Event) : Prop where
  /-- Between any two events, where the writer takes it that a line begins, one does. -/
  boundary : ∀ before later, markStandalone events = before ++ later →
    let w := before.foldl (Writer.step highlighter) {}
    w.atLineStart = true → IsFresh w.emitted
  ended : let w := Writer.ofEvents highlighter events
    w.atLineStart = true → IsFresh w.emitted
  /-- What an event hands on is the identifier that it settles, something foreign, and something of
  the writer's own. In all that was handed on in the end, the tags of blocks in this begin lines. -/
  event : ∀ before event standalone later,
    markStandalone events = before ++ (event, standalone) :: later →
    let w := before.foldl (Writer.step highlighter) {}
    ∃ own inserted behind,
      (w.step highlighter (event, standalone)).emitted
        = w.view.front (w.inserted event) ++ w.foreign highlighter event ++ own ∧
      (Writer.ofEvents highlighter events).emitted
        = w.view.front inserted ++ w.foreign highlighter event ++ own ++ behind ∧
      BlocksBeginLines (w.view.front inserted ++ w.foreign highlighter event) own ∧
      ∀ front, BlocksBeginLines front (w.inserted event)
  /-- An image that never ends is ended with the document. -/
  finish : let w := (markStandalone events).foldl (Writer.step highlighter) {}
    ∃ own, (Writer.ofEvents highlighter events).emitted = w.emitted ++ own ∧
      BlocksBeginLines w.emitted own

/-- What passes the check has its tags at the beginnings of lines, whatever is put in before. -/
theorem Writer.Takes.blocksBeginLines {w w' : Writer} {inserted foreign own : String}
    (h : w.Takes inserted foreign own w') (hw : w.KeepsLine) (first : String) :
    BlocksBeginLines (w.view.front first ++ foreign) own :=
  blocksBeginLines_of_keepsLines (fun hforeign => IsFresh.append (hw.fresh · first) hforeign)
    h.lines

/-- Whatever the events and the highlighter are, blocks begin on lines of their own. -/
theorem keepsLines_ofEvents (highlighter : Option Highlighter) (events : List Event) :
    KeepsLines highlighter events := by
  have hrun : ∀ before : List (Event × Bool),
      (before.foldl (Writer.step highlighter) {}).KeepsLine := fun before =>
    (Writer.grows_run highlighter before Writer.keepsLine_empty).line
  obtain ⟨last, hfinish⟩ := Writer.takes_finish (hrun (markStandalone events))
  refine ⟨fun before later _ => (hrun before).isFresh, hfinish.line.isFresh, ?_, last, ?_, ?_⟩
  · intro before event standalone later hevents w
    obtain ⟨own, htakes⟩ := Writer.takes_step highlighter (hrun before) event standalone
    have hlater := Writer.grows_run highlighter later htakes.line
    obtain ⟨_, hend⟩ := Writer.takes_finish hlater.line
    have hdocument : Writer.ofEvents highlighter events
        = (later.foldl (Writer.step highlighter) (w.step highlighter (event, standalone))).finish := by
      rw [Writer.ofEvents, hevents, List.foldl_append, List.foldl_cons]
    -- what comes later puts its text in before what this event handed on
    obtain ⟨middle, more, hmiddle, hall⟩ := (hlater.trans hend.grows).later "" (.inl rfl)
    obtain ⟨first, rest, -, hfront⟩ := htakes.later middle hmiddle
    refine ⟨own, first, rest ++ more, htakes.emitted, ?_, htakes.blocksBeginLines (hrun before) first,
      (Writer.isInsertion_inserted event w).blocksBeginLines⟩
    rw [hdocument, hend.line.steady.emitted, hall, hfront]
    simp only [w, String.append_assoc]
  · have hemitted := hfinish.emitted
    rw [String.append_empty, ← (hrun _).steady.emitted] at hemitted
    exact hemitted
  · have hblocks := hfinish.blocksBeginLines (hrun _) ""
    rw [String.append_empty, ← (hrun _).steady.emitted] at hblocks
    exact hblocks

end StaticSite.Html
