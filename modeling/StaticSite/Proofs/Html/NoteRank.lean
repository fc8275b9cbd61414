import Mathlib.Data.Finset.Card
import Mathlib.Data.Finset.Dedup
import StaticSite.Proofs.Html.HeldHeading
import StaticSite.Proofs.Html.ShownNote

/-!
# Numbers of footnotes in order

A footnote gets its number where its label comes first, whether that is a reference, a reference in
the text in place of an image, or its definition. So the numbers can be told from the events of a
document, without writing it: the number of a label is one more than that of the different labels
which come first before it does.

## What this module delivers

- `askedLabels`, `footnotes_run`: the labels that a run asks for, in order, by induction on its
  events.
- `askedLabels_forest`: where headings and images hold only what may stand in a line, these are all
  labels of references and definitions.
- `noteRank`, `idxOf_numberAll`: the number of a label, and its place in the table of labels.
- `NumbersInOrder`, `numbersInOrder_forest`: the numbers that a page shows.
-/

set_option autoImplicit false

namespace StaticSite.Html

open StaticSite.Markdown

variable {highlighter : Option Highlighter}

/-! ## The table of labels -/

namespace FootnoteNumbers

variable {numbers : FootnoteNumbers} {label : String} {labels : List String}

/-- The table after labels were asked for one after the other. -/
def numberAll (numbers : FootnoteNumbers) (labels : List String) : FootnoteNumbers :=
  labels.foldl (fun numbers label => (numbers.number label).2) numbers

theorem mem_number (numbers : FootnoteNumbers) (label other : String) :
    other ∈ (numbers.number label).2.labels ↔ other ∈ numbers.labels ∨ other = label := by
  unfold number
  cases hfound : numbers.labels.idxOf? label with
  | some i =>
      have hmem : label ∈ numbers.labels := by
        rw [← List.isSome_idxOf?, hfound]
        rfl
      exact ⟨.inl, fun h => h.elim id fun heq => heq ▸ hmem⟩
  | none => simp

theorem nodup_number (h : numbers.labels.Nodup) (label : String) :
    (numbers.number label).2.labels.Nodup := by
  unfold number
  cases hfound : numbers.labels.idxOf? label with
  | some i => exact h
  | none =>
      have hnew : label ∉ numbers.labels := List.idxOf?_eq_none_iff.mp hfound
      refine List.nodup_append.mpr ⟨h, List.nodup_singleton label, fun other hother last hlast => ?_⟩
      rintro rfl
      exact hnew (List.mem_singleton.mp hlast ▸ hother)

/-- A label is in the table exactly if it was asked for. -/
theorem mem_numberAll (labels : List String) (numbers : FootnoteNumbers) (other : String) :
    other ∈ (numbers.numberAll labels).labels ↔ other ∈ numbers.labels ∨ other ∈ labels := by
  induction labels generalizing numbers with
  | nil => simp [numberAll]
  | cons label rest ih =>
      rw [numberAll, List.foldl_cons, ← numberAll, ih, mem_number, List.mem_cons, or_assoc]

/-- No label is in the table twice. -/
theorem nodup_numberAll (labels : List String) {numbers : FootnoteNumbers}
    (h : numbers.labels.Nodup) : (numbers.numberAll labels).labels.Nodup := by
  induction labels generalizing numbers with
  | nil => exact h
  | cons label rest ih => exact ih (nodup_number h label)

theorem labels_numberAll (labels : List String) (numbers : FootnoteNumbers) :
    numbers.labels <+: (numbers.numberAll labels).labels := by
  induction labels generalizing numbers with
  | nil => exact List.prefix_rfl
  | cons label rest ih => exact (labels_number numbers label).trans (ih _)

theorem numberAll_append (labels more : List String) (numbers : FootnoteNumbers) :
    numbers.numberAll (labels ++ more) = (numbers.numberAll labels).numberAll more :=
  List.foldl_append

/-- The table has as many labels as different ones were asked for. -/
theorem length_numberAll (labels : List String) :
    (numberAll {} labels).labels.length = labels.toFinset.card := by
  have hnodup : (numberAll {} labels).labels.Nodup := nodup_numberAll labels List.nodup_nil
  rw [← List.toFinset_card_of_nodup hnodup]
  congr 1
  ext other
  simp [mem_numberAll]

end FootnoteNumbers

/-! ## Numbers by the order of labels -/

/-- One more than the number of different labels whose first place in a list is before that of a
label. -/
def noteRank (labels : List String) (label : String) : Nat :=
  (labels.toFinset.filter fun other => labels.idxOf other < labels.idxOf label).card + 1

/-- The labels that come first before a label are those in front of its first place. -/
theorem noteRank_append {front back : List String} {label : String} (h : label ∉ front) :
    noteRank (front ++ label :: back) label = front.toFinset.card + 1 := by
  have hplace : (front ++ label :: back).idxOf label = front.length := by
    rw [List.idxOf_append_of_notMem h, List.idxOf_cons_self, Nat.add_zero]
  have hearlier : ∀ other, other ∈ front ++ label :: back ∧
      (front ++ label :: back).idxOf other < front.length ↔ other ∈ front := by
    intro other
    constructor
    · rintro ⟨-, hlt⟩
      by_contra hnot
      rw [List.idxOf_append_of_notMem hnot] at hlt
      omega
    · intro hmem
      refine ⟨List.mem_append_left _ hmem, ?_⟩
      rw [List.idxOf_append_of_mem hmem]
      exact List.idxOf_lt_length_of_mem hmem
  unfold noteRank
  congr 2
  ext other
  rw [Finset.mem_filter, List.mem_toFinset, List.mem_toFinset, hplace, hearlier]

/-- The place of a label in the table tells how many others came first before it. -/
theorem idxOf_numberAll {labels : List String} {label : String} (h : label ∈ labels) :
    (FootnoteNumbers.numberAll {} labels).labels.idxOf label + 1 = noteRank labels label := by
  obtain ⟨front, back, rfl, hnot⟩ := List.eq_append_cons_of_mem h
  have hnew : label ∉ (FootnoteNumbers.numberAll {} front).labels := by
    rw [FootnoteNumbers.mem_numberAll]
    simpa using hnot
  have hnumber : ((FootnoteNumbers.numberAll {} front).number label).1
      = (FootnoteNumbers.numberAll {} front).labels.length + 1 := by
    rw [FootnoteNumbers.number, List.idxOf?_eq_none_iff.mpr hnew]
  have hprefix : ((FootnoteNumbers.numberAll {} front).number label).2.labels
      <+: (FootnoteNumbers.numberAll {} (front ++ label :: back)).labels := by
    rw [FootnoteNumbers.numberAll_append]
    exact FootnoteNumbers.labels_numberAll back _
  rw [← FootnoteNumbers.number_fst hprefix, hnumber, FootnoteNumbers.length_numberAll,
    noteRank_append hnot]

/-- Different labels have different numbers. -/
theorem noteRank_inj {labels : List String} {label other : String} (h : label ∈ labels)
    (hother : other ∈ labels) : noteRank labels label = noteRank labels other ↔ label = other := by
  rw [← idxOf_numberAll h, ← idxOf_numberAll hother, Nat.add_right_cancel_iff]
  exact List.idxOf_inj ((FootnoteNumbers.mem_numberAll _ _ _).mpr (.inr h))

/-- The numbers of labels are those from one to the number of different labels. -/
theorem exists_noteRank_iff (labels : List String) (n : Nat) :
    (∃ label ∈ labels, noteRank labels label = n) ↔ 1 ≤ n ∧ n ≤ labels.toFinset.card := by
  rw [← FootnoteNumbers.length_numberAll]
  constructor
  · rintro ⟨label, hlabel, rfl⟩
    have hmem := (FootnoteNumbers.mem_numberAll labels {} label).mpr (.inr hlabel)
    have hplace := List.idxOf_lt_length_of_mem hmem
    rw [← idxOf_numberAll hlabel]
    omega
  · rintro ⟨hpos, hle⟩
    have hplace : n - 1 < (FootnoteNumbers.numberAll {} labels).labels.length := by omega
    have hmem := List.getElem_mem hplace
    have hlabel : (FootnoteNumbers.numberAll {} labels).labels[n - 1] ∈ labels := by
      rw [FootnoteNumbers.mem_numberAll] at hmem
      exact hmem.resolve_left List.not_mem_nil
    have hnodup : (FootnoteNumbers.numberAll {} labels).labels.Nodup :=
      FootnoteNumbers.nodup_numberAll labels List.nodup_nil
    refine ⟨_, hlabel, ?_⟩
    rw [← idxOf_numberAll hlabel, hnodup.idxOf_getElem (n - 1) hplace]
    omega

/-! ## The labels that a run asks for -/

/-- The label that an event at a spot asks a number for. -/
def askedLabel? (spot : Spot) : Event → Option String
  | .footnoteReference label => some label
  | .start (.footnoteDefinition label) => if spot.image?.isNone then some label else none
  | _ => none

/-- The labels that events from a spot on ask numbers for. -/
def askedLabels : Spot → List Event → List String
  | _, [] => []
  | spot, event :: rest => (askedLabel? spot event).toList ++ askedLabels (spot.next event) rest

theorem askedLabels_append (events more : List Event) (spot : Spot) :
    askedLabels spot (events ++ more)
      = askedLabels spot events ++ askedLabels (events.foldl Spot.next spot) more := by
  induction events generalizing spot with
  | nil => rfl
  | cons event rest ih =>
      rw [List.cons_append, askedLabels, askedLabels, ih, List.append_assoc, List.foldl_cons]

/-- Unwrapping figures has no part in what labels are asked for. -/
theorem askedLabels_markStandalone (events : List Event) (spot : Spot) :
    askedLabels spot ((markStandalone events).map (·.1)) = askedLabels spot events := by
  fun_induction markStandalone events generalizing spot with
  | case1 dest title alt dest' title' rest ih =>
      have hfigure := Spot.foldl_figure spot dest title alt dest' title'
      have hevents : askedLabels spot (figure dest title alt dest' title' ++ rest)
          = askedLabels spot ((unwrappedFigure dest title alt dest' title').map (·.1) ++
              (markStandalone rest).map (·.1)) := by
        rw [askedLabels_append, askedLabels_append, hfigure, ih]
        rfl
      exact hevents.symm
  | case2 event rest _ ih => rw [List.map_cons, askedLabels, askedLabels, ih]
  | case3 => rfl

namespace Writer

variable {w : Writer} {spot : Spot}

theorem IsAt.asked? (h : w.IsAt highlighter spot) (event : Event) :
    w.asked? event = askedLabel? spot event := by
  have himage : w.image.isNone = spot.image?.isNone := by
    rw [← h.image, Option.isNone_map]
  unfold Writer.asked? askedLabel?
  rewrite [himage]
  rfl

/-- Step by step a run numbers the labels that it asks for. -/
theorem footnotes_run (h : w.IsAt highlighter spot) (pairs : List (Event × Bool)) :
    (pairs.foldl (step highlighter) w).footnotes
      = w.footnotes.numberAll (askedLabels spot (pairs.map (·.1))) := by
  induction pairs generalizing w spot with
  | nil => rfl
  | cons pair rest ih =>
      have hstep : (w.step highlighter pair).footnotes
          = w.footnotes.numberAll (askedLabel? spot pair.1).toList := by
        rw [footnotes_step w pair.1 pair.2, h.asked?]
        cases askedLabel? spot pair.1 <;> rfl
      rw [List.foldl_cons, ih (h.step pair.1 pair.2), hstep, ← FootnoteNumbers.numberAll_append,
        List.map_cons, askedLabels]

end Writer

/-! ## Labels of flow -/

theorem noteLabels_cons (event : Event) (rest : List Event) :
    noteLabels (event :: rest) = event.noteLabel?.toList ++ noteLabels rest := by
  rw [noteLabels, noteLabels, List.filterMap_cons]
  cases event.noteLabel? <;> rfl

theorem noteLabels_append (events more : List Event) :
    noteLabels (events ++ more) = noteLabels events ++ noteLabels more :=
  List.filterMap_append

/-- Where no definition begins, all labels are asked for. -/
theorem askedLabels_of_no_definition (events : List Event)
    (h : ∀ event ∈ events, ∀ label, event ≠ .start (.footnoteDefinition label)) (spot : Spot) :
    askedLabels spot events = noteLabels events := by
  induction events generalizing spot with
  | nil => rfl
  | cons event rest ih =>
      obtain ⟨hevent, hrest⟩ := List.forall_mem_cons.mp h
      have hlabel : askedLabel? spot event = event.noteLabel? := by
        cases event with
        | start tag =>
            cases tag with
            | footnoteDefinition label => exact absurd rfl (hevent label)
            | _ => rfl
        | _ => rfl
      rw [askedLabels, ih hrest, hlabel, noteLabels_cons]

/-- No definition begins where a line is held. -/
theorem not_definition_holdsLine {tag : Tag} (htag : tag.holdsLine) {children : List EventTree}
    (hinline : areInline children) :
    ∀ event ∈ (EventTree.node tag children).events, ∀ label,
      event ≠ .start (.footnoteDefinition label) := by
  rintro event hevent label rfl
  rw [events_node, List.mem_cons, List.mem_append, List.mem_singleton] at hevent
  rcases hevent with hstart | hinner | hstop
  · obtain rfl := Event.start.inj hstart
    exact Bool.noConfusion htag
  · exact Bool.noConfusion (isInline_forestEvents children hinline _ hinner)
  · cases hstop

mutual

/-- Where headings and images hold only what may stand in a line, all labels are asked for. -/
theorem askedLabels_tree : ∀ (tree : EventTree) {spot : Spot}, tree.isFlow →
    spot.image? = none → askedLabels spot tree.events = noteLabels tree.events
  | .leaf leaf, spot, _, _ => by
      refine askedLabels_of_no_definition _ ?_ spot
      rintro event hevent label rfl
      rw [events_leaf, List.mem_singleton] at hevent
      cases leaf <;> cases hevent
  | .node tag children, spot, hflow, h => by
      rw [EventTree.isFlow] at hflow
      split at hflow
      · rename_i hline
        exact askedLabels_of_no_definition _ (not_definition_holdsLine hline hflow) spot
      · rename_i hline
        have hother : ∀ dest title, tag ≠ .image dest title := by
          rintro dest title rfl
          exact hline rfl
        have hstart : askedLabel? spot (.start tag) = Event.noteLabel? (.start tag) := by
          cases tag with
          | footnoteDefinition label => rw [askedLabel?, h]; rfl
          | _ => rfl
        have hinner := askedLabels_forest children hflow (Spot.image?_start h hother)
        rw [events_node, askedLabels, askedLabels_append, hstart, Spot.next, hinner, noteLabels_cons,
          noteLabels_append]
        rfl

theorem askedLabels_forest : ∀ (trees : List EventTree) {spot : Spot}, areFlow trees →
    spot.image? = none → askedLabels spot (forestEvents trees) = noteLabels (forestEvents trees)
  | [], _, _, _ => rfl
  | tree :: rest, _, hflow, h => by
      rw [areFlow, Bool.and_eq_true] at hflow
      rw [forestEvents_cons, askedLabels_append, noteLabels_append, askedLabels_tree tree hflow.1 h,
        askedLabels_forest rest hflow.2 (Spot.image?_tree tree h)]

end

/-- No more labels are asked for than there are. -/
theorem length_askedLabels_le (events : List Event) (spot : Spot) :
    (askedLabels spot events).length ≤ (noteLabels events).length := by
  induction events generalizing spot with
  | nil => exact Nat.le_refl 0
  | cons event rest ih =>
      have hfirst : (askedLabel? spot event).toList.length ≤ event.noteLabel?.toList.length := by
        unfold askedLabel?
        split
        · exact Nat.le_refl 1
        · split
          · exact Nat.le_refl 1
          · exact Nat.zero_le 1
        · exact Nat.zero_le _
      rw [askedLabels, noteLabels_cons, List.length_append, List.length_append]
      exact Nat.add_le_add hfirst (ih _)

/-- There no definition begins in an image, since its label would not be asked for. -/
theorem image?_definition {trees : List EventTree} (hflow : areFlow trees)
    {before after : List Event} {label : String}
    (h : forestEvents trees = before ++ .start (.footnoteDefinition label) :: after) :
    (spotAfter before).image? = none := by
  by_contra hinside
  have hunasked : askedLabel? (spotAfter before) (.start (.footnoteDefinition label)) = none := by
    rw [askedLabel?, Option.isNone_eq_false_iff.mpr (Option.isSome_iff_ne_none.mpr hinside)]
    rfl
  have hall : askedLabels {} (forestEvents trees) = noteLabels (forestEvents trees) :=
    askedLabels_forest trees hflow rfl
  have hlength := congrArg List.length hall
  rw [h, askedLabels_append, askedLabels, ← spotAfter, hunasked, noteLabels_append,
    noteLabels_cons] at hlength
  have hbefore := length_askedLabels_le before {}
  have hafter := length_askedLabels_le after
    ((spotAfter before).next (.start (.footnoteDefinition label)))
  simp only [List.length_append, Option.toList_none, List.length_nil, Event.noteLabel?,
    Option.toList_some, List.length_singleton] at hlength
  omega

/-! ## Numbers on a page -/

theorem isAt_empty (highlighter : Option Highlighter) : ({} : Writer).IsAt highlighter {} :=
  ⟨rfl, fun _ => rfl, fun _ => rfl, fun _ => rfl, rfl⟩

/-- The number of a label in a document is told by the labels in its events. -/
theorem noteNumber_eq {trees : List EventTree} (hflow : areFlow trees) {label : String}
    (h : label ∈ noteLabels (forestEvents trees)) :
    noteNumber highlighter (forestEvents trees) label
      = noteRank (noteLabels (forestEvents trees)) label := by
  have hrun := Writer.footnotes_run (isAt_empty highlighter) (markStandalone (forestEvents trees))
  rw [askedLabels_markStandalone, askedLabels_forest trees hflow rfl] at hrun
  have hmem : label ∈ (FootnoteNumbers.numberAll {} (noteLabels (forestEvents trees))).labels :=
    (FootnoteNumbers.mem_numberAll _ _ _).mpr (.inr h)
  rw [noteNumber, numberedLabels, hrun, ← idxOf_numberAll h]
  exact congrArg (· + 1) (List.idxOf_append_of_mem hmem)

/-- An event that has a label is met by the writer after the events before it. -/
theorem meets_writerAfter (highlighter : Option Highlighter) {event : Event} {label : String}
    (h : event.noteLabel? = some label) (before after : List Event) :
    Meets highlighter (before ++ event :: after) (writerAfter highlighter before) event
      (writerAfter highlighter (before ++ [event])) := by
  -- such an event is in no figure
  have hapart : isInsideFigure event = false ∧ event ≠ .start .paragraph := by
    cases event with
    | footnoteReference label => exact ⟨rfl, by simp⟩
    | start tag =>
        cases tag with
        | footnoteDefinition label => exact ⟨rfl, by simp⟩
        | _ => exact absurd h (by simp [Event.noteLabel?])
    | _ => exact absurd h (by simp [Event.noteLabel?])
  refine ⟨markStandalone before, false, markStandalone after, ?_, rfl, ?_⟩
  · rw [markStandalone_append hapart.1, markStandalone_event hapart.2]
  · rw [writerAfter, writerAfter, markStandalone_append hapart.1, markStandalone_event hapart.2,
      markStandalone, List.foldl_append, List.foldl_cons, List.foldl_nil]

/-- The numbers of footnotes that a page shows are those of this numbering, wherever in the events a
label is. They tell labels apart, and they begin with one and leave none out. -/
structure NumbersInOrder (highlighter : Option Highlighter) (events : List Event)
    (number : String → Nat) : Prop where
  /-- A reference in the text is a landmark with the number of its label. -/
  reference : ∀ before label after, events = before ++ .footnoteReference label :: after →
    (spotAfter before).image? = none →
      ((writerAfter highlighter before).prepareHeading (.footnoteReference label)).Extends
        (PageSpan.reference label (number label)).text
        (writerAfter highlighter (before ++ [.footnoteReference label]))
  /-- A reference in the text in place of an image is the number in brackets. -/
  mention : ∀ before label after, events = before ++ .footnoteReference label :: after →
    (spotAfter before).image?.isSome →
      (writerAfter highlighter before).Extends ("[" ++ toString (number label) ++ "]")
        (writerAfter highlighter (before ++ [.footnoteReference label]))
  /-- A definition is a landmark with the number of its label, at most a line end behind what was
  there. -/
  definition : ∀ before label after,
    events = before ++ .start (.footnoteDefinition label) :: after →
      ∃ line, Scans .text line .text [] ∧
        ((writerAfter highlighter before).prepareHeading
          (.start (.footnoteDefinition label))).Extends
            (line ++ (PageSpan.definition label (number label)).text)
            (writerAfter highlighter (before ++ [.start (.footnoteDefinition label)]))
  distinct : ∀ label ∈ noteLabels events, ∀ other ∈ noteLabels events,
    number label = number other ↔ label = other
  used : ∀ n, (∃ label ∈ noteLabels events, number label = n) ↔
    1 ≤ n ∧ n ≤ (noteLabels events).toFinset.card

/-- Where headings and images hold only what may stand in a line, the number of a label is one more
than that of the different labels which come first before it. -/
theorem numbersInOrder_forest (highlighter : Option Highlighter) {trees : List EventTree}
    (hflow : areFlow trees) :
    NumbersInOrder highlighter (forestEvents trees)
      (noteRank (noteLabels (forestEvents trees))) := by
  have hnotes := numbersNotes_noteNumber highlighter (forestEvents trees)
  -- the writer is inside an image where the events are
  have himage : ∀ before, (writerAfter highlighter before).image.isNone
      = (spotAfter before).image?.isNone := by
    intro before
    rw [← (isAt_writerAfter highlighter before).image, Option.isNone_map]
  have hmeets : ∀ {before after : List Event} {event : Event} {label : String},
      forestEvents trees = before ++ event :: after → event.noteLabel? = some label →
        Meets highlighter (forestEvents trees) (writerAfter highlighter before) event
          (writerAfter highlighter (before ++ [event])) := by
    intro before after event label hevents hevent
    rw [hevents]
    exact meets_writerAfter highlighter hevent before after
  have hnumber : ∀ {before after : List Event} {event : Event} {label : String},
      forestEvents trees = before ++ event :: after → event.noteLabel? = some label →
        noteNumber highlighter (forestEvents trees) label
          = noteRank (noteLabels (forestEvents trees)) label := by
    intro before after event label hevents hevent
    refine noteNumber_eq hflow ?_
    rw [hevents, noteLabels_append, noteLabels_cons, hevent]
    simp
  refine ⟨?_, ?_, ?_, fun label hmem other hother => noteRank_inj hmem hother,
    exists_noteRank_iff (noteLabels (forestEvents trees))⟩
  · intro before label after hevents hspot
    rw [← hnumber hevents rfl]
    refine hnotes.reference _ label _ (hmeets hevents rfl) (Option.isNone_iff_eq_none.mp ?_)
    rw [himage, hspot, Option.isNone_none]
  · intro before label after hevents hspot
    rw [← hnumber hevents rfl]
    refine hnotes.mention _ label _ (hmeets hevents rfl) ?_
    rw [← Option.isNone_eq_false_iff, himage, Option.isNone_eq_false_iff]
    exact hspot
  · intro before label after hevents
    rw [← hnumber hevents rfl]
    refine hnotes.definition _ label _ (hmeets hevents rfl) (Option.isNone_iff_eq_none.mp ?_)
    rw [himage, image?_definition hflow hevents, Option.isNone_none]

/-- References in a paragraph, in the text in place of an image and in a heading, and definitions
one of which refers to another footnote. -/
def notedTrees : List EventTree :=
  [.node .paragraph [.leaf (.footnoteReference "b"),
     .node (.image "i.png" "") [.leaf (.text "x"), .leaf (.footnoteReference "c")],
     .leaf (.footnoteReference "b")],
   .node (.heading 1) [.leaf (.footnoteReference "a"), .leaf (.text "T")],
   .node (.footnoteDefinition "d") [.node .paragraph [.leaf (.footnoteReference "c")]],
   .node (.footnoteDefinition "a") []]

/-- The labels come first in the order `b`, `c`, `a`, `d`. -/
theorem numbersInOrder_noted :
    areFlow notedTrees ∧
    NumbersInOrder none (forestEvents notedTrees) (noteRank (noteLabels (forestEvents notedTrees))) ∧
    ["a", "b", "c", "d"].map (noteRank (noteLabels (forestEvents notedTrees))) = [3, 1, 2, 4] :=
  ⟨by decide, numbersInOrder_forest none (by decide), by decide +kernel⟩

end StaticSite.Html
