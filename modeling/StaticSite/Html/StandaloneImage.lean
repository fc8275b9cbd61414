import StaticSite.Markdown.Event

/-!
# Standalone images

A paragraph that holds nothing but one image with one text is not a paragraph on the page: it is a
figure. `markStandalone` takes the paragraph away and flags the image.

Events reach the writer one at a time, and whether a paragraph is a figure is known only five events
after it began. So the events pass through a queue, a `Lookahead`: it is filled up from the source
as far as needed, and the next event leaves it at the front. The two events of a figure's paragraph
never leave it. What was looked at and is no part of a figure stays in the queue until its turn
comes.
-/

set_option autoImplicit false

namespace StaticSite.Html

open StaticSite.Markdown

/-- Pairs each event with whether it begins a standalone image. The five events of a paragraph that
is exactly an image with one text lose the paragraph's two; every other event passes unflagged. -/
def markStandalone : List Event → List (Event × Bool)
  | .start .paragraph :: .start (.image dest title) :: .text alt :: .stop (.image dest' title') ::
      .stop .paragraph :: rest =>
    (.start (.image dest title), true) :: (.text alt, false) ::
      (.stop (.image dest' title'), false) :: markStandalone rest
  | event :: rest => (event, false) :: markStandalone rest
  | [] => []

/-- Events on their way to the writer: those that were looked at, the next one first, and those that
were not read yet. -/
structure Lookahead where
  queue : List Event := []
  source : List Event
deriving DecidableEq, Repr

namespace Lookahead

/-- How many events are looked at. -/
def width : Nat := 5

/-- Nothing was looked at yet. -/
def ofEvents (events : List Event) : Lookahead :=
  { source := events }

/-- All events that are still on their way. -/
def remaining (ahead : Lookahead) : List Event :=
  ahead.queue ++ ahead.source

/-- Reads events onto a queue until it has so many or none is left. -/
def fill (count : Nat) (queue : List Event) : List Event → Lookahead
  | [] => { queue := queue, source := [] }
  | event :: rest =>
    if queue.length < count then fill count (queue ++ [event]) rest
    else { queue := queue, source := event :: rest }

/-- What the events of a figure are, one after the other. -/
def figureShape : List (Event → Bool) :=
  [(· matches .start .paragraph), (· matches .start (.image ..)), (· matches .text _),
    (· matches .stop (.image ..)), (· matches .stop .paragraph)]

/-- Whether a queue begins with a figure. -/
def isFigure (queue : List Event) : Bool :=
  decide (width ≤ queue.length) && (queue.zip figureShape).all fun (event, fits) => fits event

/-- The next event, whether it begins a standalone image, and what is on its way behind it. -/
def next? (ahead : Lookahead) : Option ((Event × Bool) × Lookahead) :=
  let ahead := fill width ahead.queue ahead.source
  match ahead.queue, isFigure ahead.queue with
  | [], _ => none
  | _ :: image :: behind, true =>
    -- behind the image stand its text, its end, and the end of the paragraph
    some ((image, true), { ahead with queue := behind.eraseIdx 2 })
  | event :: behind, _ => some ((event, false), { ahead with queue := behind })

theorem remaining_fill (count : Nat) (queue source : List Event) :
    (fill count queue source).remaining = queue ++ source := by
  fun_induction fill count queue source with
  | case1 queue => rfl
  | case2 queue event rest _ ih => rw [ih, List.append_assoc, List.singleton_append]
  | case3 queue event rest _ => rfl

/-- An event that has left is not on its way any more. -/
theorem length_remaining_lt {ahead rest : Lookahead} {pair : Event × Bool}
    (h : ahead.next? = some (pair, rest)) : rest.remaining.length < ahead.remaining.length := by
  have hfill := congrArg List.length (remaining_fill width ahead.queue ahead.source)
  rw [remaining, List.length_append] at hfill
  simp only [next?] at h
  split at h
  · exact absurd h (by simp)
  · rename_i paragraph image behind hqueue _
    rw [hqueue] at hfill
    simp only [Option.some.injEq, Prod.mk.injEq] at h
    have herased := (List.eraseIdx_sublist behind 2).length_le
    rw [← h.2, remaining, remaining, ← hfill]
    simp only [List.length_append, List.length_cons]
    omega
  · rename_i event behind hqueue _
    rw [hqueue] at hfill
    simp only [Option.some.injEq, Prod.mk.injEq] at h
    rw [← h.2, remaining, remaining, ← hfill]
    simp only [List.length_append, List.length_cons]
    omega

/-- The events in the order in which they leave, each with whether it begins a standalone image. -/
def pairs (ahead : Lookahead) : List (Event × Bool) :=
  match h : ahead.next? with
  | none => []
  | some (pair, rest) =>
    have := length_remaining_lt h
    pair :: rest.pairs
termination_by ahead.remaining.length

end Lookahead

end StaticSite.Html
