import StaticSite.Proofs.Html.LineStart

/-!
# What comes later

What an event adds to a page depends on what the writer remembers, and not on what it has written or
holds back. So two writers that remember the same go on in the same way: later events add the same
text behind what each of them has handed on, with the same identifier put in.

## What this module delivers

- `Writer.blank`: what a writer remembers besides what it has handed on.
- `blank_step`, `blank_run`: writers that remember the same still do after the same events.
- `view_step`: what an event adds behind a heading that waits.
- `emitted_run`, `emitted_finish`: what a run adds, by induction on its events, and the end.
-/

set_option autoImplicit false

namespace StaticSite.Html

open StaticSite.Markdown

namespace Writer

/-- What a writer remembers besides the pieces that it has handed on. -/
def blank (w : Writer) : Writer :=
  { w with written := #[], held := w.held.map fun _ => [] }

variable {u w : Writer} {event : Event} {highlighter : Option Highlighter}

/-- A writer is what it remembers, behind what it has handed on. -/
theorem eq_behind (w : Writer) : w = w.blank.behind w.written (w.held.getD []) := by
  obtain ⟨written, held⟩ := w
  cases held <;> simp [blank, behind]

theorem blank_behind (front : Array String) (pieces : List String) (w : Writer) :
    (w.behind front pieces).blank = w.blank := by
  unfold blank behind
  cases w.held <;> simp

theorem blank_poised (w : Writer) :
    w.poised.blank = { w.blank with held := if w.awaitingHeadingText then some [] else none } := by
  unfold poised blank
  cases w.awaitingHeadingText <;> rfl

/-- What is settled by a text is remembered, whatever is held back. -/
theorem blank_settleHeading (w : Writer) (text : String) :
    (w.settleHeading text).blank = { w.blank with
      awaitingHeadingText := false, held := none, anchors := (w.anchors.allocate text).2 } := by
  obtain ⟨written, hsettled, -⟩ := settleHeading_spec w text
  rw [hsettled]
  rfl

theorem awaiting_of_blank (h : u.blank = w.blank) :
    u.awaitingHeadingText = w.awaitingHeadingText := by
  have hblank : u.blank.awaitingHeadingText = w.blank.awaitingHeadingText := by rw [h]
  exact hblank

theorem image_of_blank (h : u.blank = w.blank) : u.image = w.image := by
  have hblank : u.blank.image = w.blank.image := by rw [h]
  exact hblank

theorem anchors_of_blank (h : u.blank = w.blank) : u.anchors = w.anchors := by
  have hblank : u.blank.anchors = w.blank.anchors := by rw [h]
  exact hblank

/-- Behind any pieces an event does the same, once no heading is in its way. -/
theorem act_behind (front : Array String) (pieces : List String) (standalone : Bool)
    (hevent : w.image = none → w.awaitingHeadingText = true → headingText? event = none) :
    (w.behind front pieces).act highlighter standalone event
      = (w.act highlighter standalone event).behind front pieces := by
  have himage : (w.behind front pieces).image = w.image := rfl
  unfold act
  rw [himage]
  split
  · exact altStep_behind front pieces w _ event
  · rename_i hnone
    exact perform_behind front pieces w highlighter standalone event (hevent hnone)

/-! ## One event -/

/-- An event that settles nothing is remembered alike by writers that remember the same. -/
theorem blank_step_unsettled (hu : u.IsSteady) (hw : w.IsSteady) (hsame : u.blank = w.blank)
    (standalone : Bool)
    (hevent : w.image = none → w.awaitingHeadingText = true → headingText? event = none) :
    (u.step highlighter (event, standalone)).blank
      = (w.step highlighter (event, standalone)).blank := by
  have himage := image_of_blank hsame
  have hwaits := awaiting_of_blank hsame
  have hevent' : u.image = none → u.awaitingHeadingText = true → headingText? event = none := by
    rwa [himage, hwaits]
  have hpoised : u.poised.blank = w.poised.blank := by
    rw [blank_poised, blank_poised, hsame, hwaits]
  rw [step_eq_act highlighter hu standalone hevent', step_eq_act highlighter hw standalone hevent,
    eq_behind u.poised, eq_behind w.poised, hpoised,
    act_behind _ _ standalone (by exact hevent), act_behind _ _ standalone (by exact hevent),
    blank_behind, blank_behind]

theorem blank_step (hu : u.IsSteady) (hw : w.IsSteady) (hsame : u.blank = w.blank)
    (pair : Event × Bool) : (u.step highlighter pair).blank = (w.step highlighter pair).blank := by
  obtain ⟨event, standalone⟩ := pair
  by_cases hevent : w.image = none → w.awaitingHeadingText = true → headingText? event = none
  · exact blank_step_unsettled hu hw hsame standalone hevent
  · push Not at hevent
    obtain ⟨himage, hwaits, htext⟩ := hevent
    obtain ⟨text, htext⟩ := Option.ne_none_iff_exists'.mp htext
    have himage' := (image_of_blank hsame).trans himage
    have hwaits' := (awaiting_of_blank hsame).trans hwaits
    rw [step_settleHeading highlighter standalone himage hwaits htext,
      step_settleHeading highlighter standalone himage' hwaits' htext]
    refine blank_step_unsettled (steady_settleHeading u text) (steady_settleHeading w text) ?_
      standalone fun _ hstill => absurd hstill (by simp [settleHeading_awaiting])
    rw [blank_settleHeading, blank_settleHeading, hsame, anchors_of_blank hsame]

theorem blank_run (pairs : List (Event × Bool)) (hu : u.KeepsLine) (hw : w.KeepsLine)
    (hsame : u.blank = w.blank) :
    (pairs.foldl (step highlighter) u).blank = (pairs.foldl (step highlighter) w).blank := by
  induction pairs generalizing u w with
  | nil => exact hsame
  | cons pair rest ih =>
      obtain ⟨_, hu'⟩ := takes_step highlighter hu pair.1 pair.2
      obtain ⟨_, hw'⟩ := takes_step highlighter hw pair.1 pair.2
      exact ih hu'.line hw'.line (blank_step hu.steady hw.steady hsame pair)

/-- What is in front of a view that holds back. -/
theorem view_behind (front : Array String) (pieces : List String) {w : Writer}
    (hwaits : w.awaitingHeadingText = true) {held : List String} (hheld : w.held = some held) :
    (w.behind front pieces).view = ⟨String.join front.toList ++ w.page,
      some (String.join pieces ++ String.join held)⟩ := by
  have hwaits' : (w.behind front pieces).awaitingHeadingText = true := hwaits
  rw [view_of_waiting hwaits']
  simp [behind, Writer.page, hheld, String.join_append]

/-- Behind a heading that waits, an event that does not settle it adds the same to whatever was
handed on, and leaves it waiting. -/
theorem view_step (highlighter : Option Highlighter) (w : Writer)
    (hwaits : w.awaitingHeadingText = true) (event : Event) (standalone : Bool)
    (hevent : w.image = none → headingText? event = none) :
    ∃ text, ∀ u : Writer, u.IsSteady → u.blank = w.blank →
      (u.step highlighter (event, standalone)).view = u.view.add text ∧
        (u.step highlighter (event, standalone)).awaitingHeadingText = true := by
  have hbase : w.poised.blank.awaitingHeadingText = true := hwaits
  have hnothing : w.poised.blank.held = some [] := by
    rw [blank_poised, hwaits]
    rfl
  have hevent' : w.poised.blank.image = none → w.poised.blank.awaitingHeadingText = true →
      headingText? event = none := fun himage _ => hevent himage
  obtain ⟨own, hdelivers⟩ := delivers_act highlighter standalone event hevent'
  have hstill : (w.poised.blank.act highlighter standalone event).awaitingHeadingText = true := by
    rcases hdelivers.heading with hsame | ⟨hbegins, -⟩
    · exact hsame.trans hbase
    · exact hbegins
  -- what is handed on joins what is held back, which is nothing in front of the event
  obtain ⟨hpage, held, hheld, hjoin⟩ := hdelivers.lays.puts.grows.held [] hnothing
  refine ⟨w.poised.blank.foreign highlighter event ++ own, fun u hu hsame => ?_⟩
  have hpoised : u.poised.blank = w.poised.blank := by
    rw [blank_poised, blank_poised, hsame, awaiting_of_blank hsame]
  have hstep : u.step highlighter (event, standalone)
      = (w.poised.blank.act highlighter standalone event).behind u.poised.written
          (u.poised.held.getD []) := by
    have hevent'' : u.image = none → u.awaitingHeadingText = true → headingText? event = none := by
      rw [image_of_blank hsame]
      exact fun himage _ => hevent himage
    rw [step_eq_act highlighter hu standalone hevent'', ← act_behind _ _ standalone hevent',
      ← hpoised, ← eq_behind]
  have hview : u.view = (w.poised.blank.behind u.poised.written (u.poised.held.getD [])).view := by
    rw [← hpoised, ← eq_behind, view_poised]
  have hempty : (w.poised.blank.act highlighter standalone event).page = "" := hpage
  have hempty' : w.poised.blank.page = "" := rfl
  rw [hstep, hview, view_behind _ _ hstill hheld, view_behind _ _ hbase hnothing, hjoin, hempty,
    hempty']
  refine ⟨?_, hstill⟩
  simp only [View.add, String.join_nil, String.empty_append, String.append_empty]

/-! ## Runs -/

/-- Outside of headings all that is handed on later comes behind the page. -/
theorem emitted_after (front : Array String) (w : Writer) :
    (w.after front).emitted = String.join front.toList ++ w.emitted := by
  rw [emitted, emitted, page_after, String.append_assoc]
  rfl

theorem emitted_run_settled (highlighter : Option Highlighter) (pairs : List (Event × Bool))
    (hheld : u.held = none) : (pairs.foldl (step highlighter) u).emitted
      = u.page ++ (pairs.foldl (step highlighter) u.blank).emitted := by
  have hblank : u.blank = { u with written := #[] } := by
    unfold blank
    rw [hheld, Option.map_none, ← hheld]
  rw [run_eq_after, emitted_after, hblank]
  rfl

/-- Writers that remember the same add the same text in a run, with the same text put in. -/
theorem emitted_run (highlighter : Option Highlighter) (pairs : List (Event × Bool))
    (hw : w.KeepsLine) : ∃ inserted more, IsInsertion inserted ∧
      ∀ u : Writer, u.KeepsLine → u.blank = w.blank →
        (pairs.foldl (step highlighter) u).emitted = u.view.front inserted ++ more := by
  induction pairs generalizing w with
  | nil =>
      refine ⟨"", "", .inl rfl, fun u hu _ => ?_⟩
      rw [List.foldl_nil, hu.steady.emitted, String.append_empty]
  | cons pair rest ih =>
      obtain ⟨event, standalone⟩ := pair
      cases hwaits : w.awaitingHeadingText with
      | false =>
          refine ⟨"", (((event, standalone) :: rest).foldl (step highlighter) w.blank).emitted,
            .inl rfl, fun u hu hsame => ?_⟩
          have hsettled := (awaiting_of_blank hsame).trans hwaits
          rw [emitted_run_settled highlighter _ (hu.steady.held hsettled), hsame,
            view_of_settled hsettled]
          rfl
      | true =>
          by_cases hevent : w.image = none → headingText? event = none
          · -- the heading waits on, and the text of the event is held back
            obtain ⟨text, hstep⟩ := view_step highlighter w hwaits event standalone hevent
            obtain ⟨_, htakes⟩ := takes_step highlighter hw event standalone
            obtain ⟨inserted, more, hinserted, hrest⟩ := ih htakes.line
            refine ⟨inserted, text ++ more, hinserted, fun u hu hsame => ?_⟩
            obtain ⟨_, htakes'⟩ := takes_step highlighter hu event standalone
            rw [List.foldl_cons, hrest _ htakes'.line (blank_step hu.steady hw.steady hsame _),
              (hstep u hu.steady hsame).1, View.front_add, String.append_assoc]
          · -- the event settles the heading, and from then on all comes behind the page
            push Not at hevent
            obtain ⟨himage, htext⟩ := hevent
            obtain ⟨text, htext⟩ := Option.ne_none_iff_exists'.mp htext
            refine ⟨identifierText (w.anchors.allocate text).1,
              (((event, standalone) :: rest).foldl (step highlighter)
                (w.settleHeading text).blank).emitted,
              .inr ⟨_, plain_allocate w.anchors text, rfl⟩, fun u hu hsame => ?_⟩
            have hwaits' := (awaiting_of_blank hsame).trans hwaits
            have hpage : (u.settleHeading text).page
                = u.view.front (identifierText (w.anchors.allocate text).1) := by
              have hfront := front_settleHeading hwaits' text ""
              rw [view_of_settled (settleHeading_awaiting u text), anchors_of_blank hsame] at hfront
              exact hfront
            have hblank : (u.settleHeading text).blank = (w.settleHeading text).blank := by
              rw [blank_settleHeading, blank_settleHeading, hsame, anchors_of_blank hsame]
            rw [List.foldl_cons, step_settleHeading highlighter standalone
              ((image_of_blank hsame).trans himage) hwaits' htext, ← List.foldl_cons,
              emitted_run_settled highlighter _
                ((steady_settleHeading u text).held (settleHeading_awaiting u text)), hpage, hblank]

/-- The end of the document ends an image as the end of the image would. -/
theorem finish_eq_step {image : OpenImage} (himage : w.image = some image) :
    w.finish = ({ w with image := some { image with depth := 0 } } : Writer).step none
      (.stop .paragraph, false) := by
  simp only [finish, himage, step, altStep]
  rfl

/-- And the end of the document adds the same to them. -/
theorem emitted_finish (w : Writer) : ∃ more, ∀ u : Writer, u.KeepsLine → u.blank = w.blank →
    u.finish.emitted = u.emitted ++ more := by
  cases himage : w.image with
  | none =>
      refine ⟨"", fun u _ hsame => ?_⟩
      have himage' := (image_of_blank hsame).trans himage
      rw [finish, himage', String.append_empty]
  | some image =>
      -- an image that is not deeper than its own start ends with the next construct
      have hlast : ∀ u : Writer, u.KeepsLine → u.blank = w.blank →
          ({ u with image := some { image with depth := 0 } } : Writer).KeepsLine ∧
          ({ u with image := some { image with depth := 0 } } : Writer).blank
            = ({ w with image := some { image with depth := 0 } } : Writer).blank := by
        intro u hu hsame
        have hsome : u.image.isSome = true := by rw [image_of_blank hsame, himage]; rfl
        refine ⟨⟨⟨hu.steady.held, fun _ => hu.steady.image hsome⟩, hu.fresh⟩, ?_⟩
        exact congrArg (fun v : Writer => { v with image := some { image with depth := 0 } }) hsame
      have himage' : ∀ u : Writer, u.blank = w.blank → u.image = some image :=
        fun u hsame => (image_of_blank hsame).trans himage
      cases hwaits : w.awaitingHeadingText with
      | false =>
          refine ⟨([(Event.stop .paragraph, false)].foldl (step none)
            ({ w with image := some { image with depth := 0 } } : Writer).blank).emitted,
            fun u hu hsame => ?_⟩
          have hsettled := (awaiting_of_blank hsame).trans hwaits
          have hrun := emitted_run_settled none [(Event.stop .paragraph, false)]
            (u := { u with image := some { image with depth := 0 } }) (hu.steady.held hsettled)
          rw [(hlast u hu hsame).2] at hrun
          rw [finish_eq_step (himage' u hsame), hu.steady.emitted, view_of_settled hsettled]
          exact hrun
      | true =>
          obtain ⟨text, hstep⟩ := view_step none
            ({ w with image := some { image with depth := 0 } } : Writer) hwaits
            (.stop .paragraph) false fun hnone => absurd hnone (by simp)
          refine ⟨text, fun u hu hsame => ?_⟩
          obtain ⟨hline, hblank⟩ := hlast u hu hsame
          obtain ⟨_, htakes⟩ := takes_step none hline (.stop .paragraph) false
          rw [finish_eq_step (himage' u hsame), htakes.line.steady.emitted,
            (hstep _ hline.steady hblank).1, View.front_add, hu.steady.emitted]
          rfl

end Writer

end StaticSite.Html
