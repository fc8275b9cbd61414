import StaticSite.Html.StandaloneImage
import StaticSite.Html.Writer
import StaticSite.Proofs.Html.Figure

/-!
# Figures that leave a queue

The queue before the writer takes the paragraph away from every figure and changes nothing else. A
figure is told by its five events alone, so what is on its way is rewritten from left to right:
where a figure stands next its three inner events leave, and elsewhere the next event does.

## What this module delivers

- `figure`, `StartsFigure`: the five events, and events that begin with them.
- `isFigure_iff`: the queue is searched for exactly these.
- `markStandalone_append`: the rewriting does not look across an event that stands in no figure, or
  only first.
- `next?_cases`: what one step can do.
- `pairs_eq_markStandalone`: a run is the rewriting of all that is on its way.
- `ofEvents_pairs`: the page is written from what leaves the queue.
- `unwraps_pairs`: what becomes of figures, of other events and of their number.
-/

set_option autoImplicit false

namespace StaticSite.Html

open StaticSite.Markdown

/-! ## Figures -/

/-- The events of a paragraph that is exactly an image with one text. The image may end under
another name than it began with. -/
def figure (dest title alt dest' title' : String) : List Event :=
  [.start .paragraph, .start (.image dest title), .text alt, .stop (.image dest' title'),
    .stop .paragraph]

/-- What leaves the queue for a figure. -/
def unwrappedFigure (dest title alt dest' title' : String) : List (Event × Bool) :=
  [(.start (.image dest title), true), (.text alt, false), (.stop (.image dest' title'), false)]

/-- The next five events are a figure. -/
def StartsFigure (events : List Event) : Prop :=
  ∃ dest title alt dest' title' rest, events = figure dest title alt dest' title' ++ rest

variable {dest title alt dest' title' : String} {event : Event}
  {events front back rest : List Event}

theorem StartsFigure.append (h : StartsFigure events) (rest : List Event) :
    StartsFigure (events ++ rest) := by
  obtain ⟨dest, title, alt, dest', title', behind, rfl⟩ := h
  exact ⟨dest, title, alt, dest', title', behind ++ rest, List.append_assoc _ _ _⟩

/-- Behind the first event of a figure there is no place where a figure begins. -/
theorem StartsFigure.head (h : StartsFigure (event :: rest)) : event = .start .paragraph := by
  obtain ⟨dest, title, alt, dest', title', behind, heq⟩ := h
  exact (List.cons.inj heq).1

/-- Five events or more that begin a longer list with a figure hold the figure. -/
theorem StartsFigure.of_append (h : StartsFigure (events ++ rest))
    (hlength : Lookahead.width ≤ events.length) : StartsFigure events := by
  obtain ⟨dest, title, alt, dest', title', behind, heq⟩ := h
  have hshort : (figure dest title alt dest' title').length ≤ events.length := hlength
  obtain ⟨more, hmore⟩ := List.prefix_of_prefix_length_le
    (List.prefix_append (figure dest title alt dest' title') behind)
    (heq ▸ List.prefix_append events rest) hshort
  exact ⟨dest, title, alt, dest', title', more, hmore.symm⟩

/-! ## The rewriting -/

theorem markStandalone_figure (rest : List Event) :
    markStandalone (figure dest title alt dest' title' ++ rest)
      = unwrappedFigure dest title alt dest' title' ++ markStandalone rest := rfl

theorem markStandalone_of_not_starts (h : ¬ StartsFigure (event :: rest)) :
    markStandalone (event :: rest) = (event, false) :: markStandalone rest := by
  rw [markStandalone]
  rintro dest title alt dest' title' behind rfl rfl
  exact h ⟨dest, title, alt, dest', title', behind, rfl⟩

/-- Whether an event can stand in a figure behind its first event. -/
def isInsideFigure : Event → Bool
  | .start (.image _ _) | .text _ | .stop (.image _ _) | .stop .paragraph => true
  | _ => false

/-- What stands before an event that is in no figure, or begins one, is rewritten by itself. -/
theorem markStandalone_append (hevent : isInsideFigure event = false) (front rest : List Event) :
    markStandalone (front ++ event :: rest)
      = markStandalone front ++ markStandalone (event :: rest) := by
  fun_induction markStandalone front with
  | case1 dest title alt dest' title' behind ih =>
      exact congrArg (unwrappedFigure dest title alt dest' title' ++ ·) ih
  | case2 first behind hno ih =>
      -- a figure that begins here would have to reach over the event
      have hnot : ¬ StartsFigure (first :: (behind ++ event :: rest)) := by
        rintro ⟨dest, title, alt, dest', title', more, heq⟩
        simp only [figure, List.cons_append, List.nil_append, List.cons.injEq] at heq
        obtain ⟨rfl, heq⟩ := heq
        rcases behind with _ | ⟨image, _ | ⟨text, _ | ⟨stop, _ | ⟨last, others⟩⟩⟩⟩
        · simp_all [isInsideFigure]
        · simp_all [isInsideFigure]
        · simp_all [isInsideFigure]
        · simp_all [isInsideFigure]
        · simp only [List.cons_append, List.cons.injEq] at heq
          obtain ⟨rfl, rfl, rfl, rfl, -⟩ := heq
          exact hno dest title alt dest' title' others rfl rfl
      rw [List.cons_append, markStandalone_of_not_starts hnot, ih, List.cons_append]
  | case3 => rfl

/-- A figure is rewritten wherever it stands. -/
theorem markStandalone_occurrence (front rest : List Event) :
    markStandalone (front ++ (figure dest title alt dest' title' ++ rest))
      = markStandalone front ++
          (unwrappedFigure dest title alt dest' title' ++ markStandalone rest) := by
  have hparagraph : isInsideFigure (.start .paragraph) = false := rfl
  exact markStandalone_append hparagraph front
    ((figure dest title alt dest' title').tail ++ rest)

/-- Events among which no figure stands pass as they are. -/
theorem markStandalone_of_no_figure
    (h : ∀ front back, events = front ++ back → ¬ StartsFigure back) :
    markStandalone events = events.map fun event => (event, false) := by
  induction events with
  | nil => rfl
  | cons event rest ih =>
      have hrest : ∀ front back, rest = front ++ back → ¬ StartsFigure back := by
        rintro front back rfl
        exact h (event :: front) back rfl
      rw [markStandalone_of_not_starts (h [] (event :: rest) rfl), ih hrest, List.map_cons]

/-- Two events are lost for each figure, and none else. -/
theorem length_markStandalone (events : List Event) :
    events.length
      = (markStandalone events).length + 2 * (markStandalone events).countP (·.2) := by
  fun_induction markStandalone events with
  | case1 dest title alt dest' title' rest ih =>
      simp only [List.length_cons, List.countP_cons, if_true, if_false, Bool.false_eq_true]
      omega
  | case2 event rest _ ih =>
      simp only [List.length_cons, List.countP_cons, if_false, Bool.false_eq_true]
      omega
  | case3 => rfl

/-- What passes was there, in the same order. -/
theorem sublist_markStandalone (events : List Event) :
    ((markStandalone events).map (·.1)).Sublist events := by
  fun_induction markStandalone events with
  | case1 dest title alt dest' title' rest ih =>
      exact (((((ih.cons _).cons_cons _).cons_cons _).cons_cons _).cons _)
  | case2 event rest _ ih => exact ih.cons_cons _
  | case3 => exact List.Sublist.refl []

namespace Lookahead

/-! ## The queue -/

variable {ahead : Lookahead}

/-- A queue has as many events as it should, or there is nothing left to read. -/
theorem width_le_fill (count : Nat) (queue source : List Event) :
    count ≤ (fill count queue source).queue.length ∨ (fill count queue source).source = [] := by
  fun_induction fill count queue source with
  | case1 queue => exact .inr rfl
  | case2 queue event rest _ ih => exact ih
  | case3 queue event rest hfull => exact .inl (Nat.le_of_not_lt hfull)

theorem eq_startParagraph {event : Event} (h : (event matches .start .paragraph) = true) :
    event = .start .paragraph := by
  split at h
  · rfl
  · exact absurd h Bool.false_ne_true

theorem exists_startImage {event : Event} (h : (event matches .start (.image ..)) = true) :
    ∃ dest title, event = .start (.image dest title) := by
  split at h
  · exact ⟨_, _, rfl⟩
  · exact absurd h Bool.false_ne_true

theorem exists_text {event : Event} (h : (event matches .text _) = true) :
    ∃ text, event = .text text := by
  split at h
  · exact ⟨_, rfl⟩
  · exact absurd h Bool.false_ne_true

theorem exists_stopImage {event : Event} (h : (event matches .stop (.image ..)) = true) :
    ∃ dest title, event = .stop (.image dest title) := by
  split at h
  · exact ⟨_, _, rfl⟩
  · exact absurd h Bool.false_ne_true

theorem eq_stopParagraph {event : Event} (h : (event matches .stop .paragraph) = true) :
    event = .stop .paragraph := by
  split at h
  · rfl
  · exact absurd h Bool.false_ne_true

/-- The queue is searched for a figure at its front. -/
theorem isFigure_iff (queue : List Event) : isFigure queue = true ↔ StartsFigure queue := by
  constructor
  · intro h
    rw [isFigure, Bool.and_eq_true, decide_eq_true_eq] at h
    obtain ⟨hlength, hall⟩ := h
    rcases queue with _ | ⟨first, _ | ⟨second, _ | ⟨third, _ | ⟨fourth, _ | ⟨fifth, rest⟩⟩⟩⟩⟩
    · exact absurd hlength (by simp [width])
    · exact absurd hlength (by simp [width])
    · exact absurd hlength (by simp [width])
    · exact absurd hlength (by simp [width])
    · exact absurd hlength (by simp [width])
    · simp only [figureShape, List.zip_cons_cons, List.zip_nil_right, List.all_cons, List.all_nil,
        Bool.and_eq_true, Bool.and_true] at hall
      obtain ⟨hfirst, hsecond, hthird, hfourth, hfifth⟩ := hall
      obtain rfl := eq_startParagraph hfirst
      obtain ⟨dest, title, rfl⟩ := exists_startImage hsecond
      obtain ⟨alt, rfl⟩ := exists_text hthird
      obtain ⟨dest', title', rfl⟩ := exists_stopImage hfourth
      obtain rfl := eq_stopParagraph hfifth
      exact ⟨dest, title, alt, dest', title', rest, rfl⟩
  · rintro ⟨dest, title, alt, dest', title', rest, rfl⟩
    simp [isFigure, figure, figureShape, width]

/-- A queue that is as full as it can be begins with a figure exactly if all that is on its way
does. -/
theorem isFigure_queue (h : width ≤ ahead.queue.length ∨ ahead.source = []) :
    isFigure ahead.queue = true ↔ StartsFigure ahead.remaining := by
  rw [isFigure_iff, remaining]
  refine ⟨fun hstarts => hstarts.append _, fun hstarts => ?_⟩
  rcases h with hlong | hempty
  · exact hstarts.of_append hlong
  · rwa [hempty, List.append_nil] at hstarts

/-- What one step can do: nothing at the end; else unwrap the figure that stands next, whose text
and end stay on the way; else pass the next event. -/
theorem next?_cases (ahead : Lookahead) :
    (ahead.remaining = [] ∧ ahead.next? = none) ∨
    (∃ dest title alt dest' title' behind rest,
      ahead.remaining = figure dest title alt dest' title' ++ behind ∧
      ahead.next? = some ((.start (.image dest title), true), rest) ∧
      rest.remaining = .text alt :: .stop (.image dest' title') :: behind) ∨
    (∃ event behind rest, ahead.remaining = event :: behind ∧ ¬ StartsFigure (event :: behind) ∧
      ahead.next? = some ((event, false), rest) ∧ rest.remaining = behind) := by
  have hall : ahead.remaining = (fill width ahead.queue ahead.source).remaining :=
    (remaining_fill width ahead.queue ahead.source).symm
  have hfull := width_le_fill width ahead.queue ahead.source
  rw [hall, next?]
  generalize fill width ahead.queue ahead.source = filled at hfull ⊢
  have hfigure := isFigure_queue hfull
  obtain ⟨queue, source⟩ := filled
  dsimp only [remaining] at hfull hfigure ⊢
  by_cases hstarts : StartsFigure (queue ++ source)
  · rw [hfigure.mpr hstarts]
    obtain ⟨dest, title, alt, dest', title', behind, rfl⟩ :=
      (isFigure_iff queue).mp (hfigure.mpr hstarts)
    exact .inr (.inl ⟨dest, title, alt, dest', title', behind ++ source, _,
      List.append_assoc _ _ _, rfl, rfl⟩)
  · have hqueue : isFigure queue = false := by
      rw [← Bool.not_eq_true, hfigure]
      exact hstarts
    rw [hqueue]
    cases queue with
    | nil =>
        -- a queue that should have had events has none, so there was none to read
        rcases hfull with hlong | hempty
        · exact absurd hlong (by decide)
        · exact .inl ⟨hempty, rfl⟩
    | cons event behind =>
        refine .inr (.inr ⟨event, behind ++ source, ⟨behind, source⟩, rfl, hstarts, ?_, rfl⟩)
        cases behind <;> rfl

/-! ## A run -/

/-- The events leave as the rewriting of all that is on its way. -/
theorem pairs_eq_markStandalone (ahead : Lookahead) :
    ahead.pairs = markStandalone ahead.remaining := by
  fun_induction pairs ahead with
  | case1 ahead hover =>
      rcases next?_cases ahead with ⟨hnone, -⟩ | ⟨_, _, _, _, _, _, _, -, hnext, -⟩ |
        ⟨_, _, _, -, -, hnext, -⟩
      · rw [hnone, markStandalone]
      · rw [hover] at hnext
        exact absurd hnext (by simp)
      · rw [hover] at hnext
        exact absurd hnext (by simp)
  | case2 ahead pair rest hsome _ ih =>
      rw [ih]
      rcases next?_cases ahead with ⟨-, hnext⟩ |
        ⟨dest, title, alt, dest', title', behind, rest', hall, hnext, hrest⟩ |
        ⟨event, behind, rest', hall, hnot, hnext, hrest⟩
      · rw [hsome] at hnext
        exact absurd hnext (by simp)
      · rw [hsome, Option.some.injEq, Prod.mk.injEq] at hnext
        obtain ⟨rfl, rfl⟩ := hnext
        -- the text and the end of the image begin no figure, so they leave next
        rw [hall, hrest, markStandalone_figure, unwrappedFigure, markStandalone, markStandalone]
        · rfl
        · simp
        · simp
      · rw [hsome, Option.some.injEq, Prod.mk.injEq] at hnext
        obtain ⟨rfl, rfl⟩ := hnext
        rw [hall, hrest, markStandalone_of_not_starts hnot]

/-- The page is written from what leaves the queue. -/
theorem ofEvents_pairs (highlighter : Option Highlighter) (events : List Event) :
    Writer.ofEvents highlighter events
      = ((ofEvents events).pairs.foldl (Writer.step highlighter) {}).finish := by
  rw [pairs_eq_markStandalone]
  rfl

/-! ## What becomes of a document -/

/-- Figures are unwrapped: their paragraphs go, their images are flagged, and nothing else changes.
-/
structure Unwraps (filtered : List Event → List (Event × Bool)) (events : List Event) : Prop where
  /-- The events are rewritten from left to right. -/
  rewriting : filtered events = markStandalone events
  /-- Wherever a figure stands, its three inner events are left of it, and what stands before it and
  behind it becomes what it would become by itself. -/
  figures : ∀ front dest title alt dest' title' back,
    events = front ++ (figure dest title alt dest' title' ++ back) →
      filtered events
        = filtered front ++ (unwrappedFigure dest title alt dest' title' ++ filtered back)
  /-- Without figures everything passes, also what is a figure in part. -/
  unchanged : (∀ front back, events = front ++ back → ¬ StartsFigure back) →
    filtered events = events.map fun event => (event, false)
  /-- No event is added, doubled or moved. -/
  kept : ((filtered events).map (·.1)).Sublist events
  /-- For each flag two events are dropped. -/
  dropped : events.length - (filtered events).length = 2 * (filtered events).countP (·.2)
  /-- The page is written from what is left. -/
  written : ∀ highlighter, Writer.ofEvents highlighter events
    = ((filtered events).foldl (Writer.step highlighter) {}).finish

/-- A queue that is filled from a document unwraps the figures of the document. -/
theorem unwraps_pairs (events : List Event) :
    Unwraps (fun events => (ofEvents events).pairs) events := by
  have hpairs : ∀ events, (ofEvents events).pairs = markStandalone events :=
    fun events => pairs_eq_markStandalone (ofEvents events)
  refine ⟨hpairs events, ?_, ?_, ?_, ?_, fun highlighter => ofEvents_pairs highlighter events⟩
  · rintro front dest title alt dest' title' back rfl
    simp only [hpairs]
    exact markStandalone_occurrence front back
  · intro hno
    rw [hpairs]
    exact markStandalone_of_no_figure hno
  · rw [hpairs]
    exact sublist_markStandalone events
  · have hlength := length_markStandalone events
    rw [hpairs]
    omega

/-- Three paragraphs, of which the second one is a figure. The first one and the third one begin
like a figure; the third one is cut off. -/
def sampleParagraphs : List Event :=
  [.start .paragraph, .start (.image "a" ""), .text "x", .stop (.image "a" ""), .softBreak,
    .stop .paragraph] ++
  (figure "b" "" "y" "b" "" ++ [.start .paragraph, .start (.image "c" ""), .text "z"])

/-- Only the second paragraph is unwrapped. -/
theorem unwraps_pairs_sample :
    Unwraps (fun events => (ofEvents events).pairs) sampleParagraphs ∧
    (ofEvents sampleParagraphs).pairs
      = [(.start .paragraph, false), (.start (.image "a" ""), false), (.text "x", false),
          (.stop (.image "a" ""), false), (.softBreak, false), (.stop .paragraph, false)] ++
        (unwrappedFigure "b" "" "y" "b" "" ++
          [(.start .paragraph, false), (.start (.image "c" ""), false), (.text "z", false)]) := by
  refine ⟨unwraps_pairs sampleParagraphs, ?_⟩
  rw [pairs_eq_markStandalone]
  rfl

end Lookahead

end StaticSite.Html
