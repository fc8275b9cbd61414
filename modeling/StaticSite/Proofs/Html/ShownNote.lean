import StaticSite.Proofs.Html.ImageText
import StaticSite.Proofs.Markdown.NoteLabel

/-!
# Footnotes as readers see them

A reference shows the number of its label and links to the definition of its label, so all that a
reader sees of a footnote follows from the label. Labels are numbered once and for all, in the order
in which they are met, also in the text in place of an image: footnotes with different labels look
different, and a reader takes two footnotes for one exactly where their labels are the same.

## What this module delivers

- `Writer.asked?`, `footnotes_step`: the label that an event asks a number for.
- `Writer.labels_step`, `labels_foldl`: events add labels at the end and change none.
- `Meets`: a writer that meets an event of a document, and the writer after it.
- `NumbersNotes`, `numbersNotes_noteNumber`: one numbering for all references and definitions.
- `shownNotes_eq_iff`: which footnotes have one label, one number and one definition to link to.
-/

set_option autoImplicit false

namespace StaticSite.Html

open StaticSite.Markdown

variable {highlighter : Option Highlighter}

/-! ## The labels met so far -/

namespace Writer

/-- The label that an event asks a number for. A definition in an image is no more than its text.
-/
def asked? (w : Writer) : Event → Option String
  | .footnoteReference label => some label
  | .start (.footnoteDefinition label) => if w.image.isNone then some label else none
  | _ => none

theorem footnotes_altStep {w : Writer} {image : OpenImage} (himage : w.image = some image)
    (event : Event) : (w.altStep image event).footnotes
      = (w.asked? event).elim w.footnotes fun label => (w.footnotes.number label).2 := by
  cases event with
  | footnoteReference label => exact footnotes_write
  | start tag => cases tag <;> simp [asked?, altStep, himage]
  | stop tag =>
      unfold altStep
      dsimp only
      split
      · exact footnotes_finishImage image
      · rfl
  | _ => simp [asked?, altStep]

theorem footnotes_perform {w : Writer} (himage : w.image = none) (standalone : Bool)
    (event : Event) : (w.perform highlighter standalone event).footnotes
      = (w.asked? event).elim w.footnotes fun label => (w.footnotes.number label).2 := by
  cases event with
  | footnoteReference label => exact footnotes_footnoteReference label
  | start tag =>
      -- among constructs only a definition asks for a number
      by_cases hdefinition : ∃ label, tag = .footnoteDefinition label
      · obtain ⟨label, rfl⟩ := hdefinition
        rw [asked?, himage]
        exact footnotes_startDefinition label
      · have hother : ∀ label, tag ≠ .footnoteDefinition label :=
          fun label heq => hdefinition ⟨label, heq⟩
        have hnone : w.asked? (.start tag) = none := by
          cases tag with
          | footnoteDefinition label => exact absurd rfl (hother label)
          | _ => rfl
        rw [perform, footnotes_startTag highlighter standalone hother, hnone, Option.elim_none]
  | stop tag => exact footnotes_stopTag highlighter tag
  | taskMarker checked => cases checked <;> simp [asked?, perform]
  | _ => simp [asked?, perform]

theorem image_prepareHeading (event : Event) (w : Writer) :
    (w.prepareHeading event).image = w.image := by
  unfold prepareHeading
  split
  · split
    · rfl
    · rename_i content
      obtain ⟨written, hsettled, -⟩ := settleHeading_spec w content
      rw [hsettled]
    · split <;> rfl
  · rfl

/-- An event numbers the label that it asks a number for, and no other. -/
theorem footnotes_step (w : Writer) (event : Event) (standalone : Bool) :
    (w.step highlighter (event, standalone)).footnotes
      = (w.asked? event).elim w.footnotes fun label => (w.footnotes.number label).2 := by
  cases himage : w.image with
  | some image =>
      rw [step_of_image highlighter himage]
      exact footnotes_altStep himage event
  | none =>
      have himage' : (w.prepareHeading event).image = none :=
        (image_prepareHeading event w).trans himage
      have hasked : (w.prepareHeading event).asked? event = w.asked? event := by
        unfold asked?
        rw [himage, himage']
      -- preparing a heading has no part in the labels
      rw [step_of_image_none highlighter himage, footnotes_perform himage', hasked,
        footnotes_prepareHeading]

/-- An event changes no label that was met before, and puts a new one at the end. -/
theorem labels_step (w : Writer) (entry : Event × Bool) :
    w.footnotes.labels <+: (w.step highlighter entry).footnotes.labels := by
  rw [footnotes_step w entry.1 entry.2]
  cases w.asked? entry.1 with
  | none => exact List.prefix_rfl
  | some label => exact FootnoteNumbers.labels_number w.footnotes label

theorem labels_foldl (entries : List (Event × Bool)) :
    ∀ w : Writer, w.footnotes.labels <+: (entries.foldl (step highlighter) w).footnotes.labels := by
  induction entries with
  | nil => exact fun _ => List.prefix_rfl
  | cons entry rest ih => exact fun w => (labels_step w entry).trans (ih _)

end Writer

/-! ## One numbering for a document -/

/-- While a document is written, the writer `w` meets an event and goes on as `w'`. -/
def Meets (highlighter : Option Highlighter) (events : List Event) (w : Writer) (event : Event)
    (w' : Writer) : Prop :=
  ∃ before standalone later, markStandalone events = before ++ (event, standalone) :: later ∧
    before.foldl (Writer.step highlighter) {} = w ∧ w.step highlighter (event, standalone) = w'

/-- All references and definitions of a document are shown by the numbers of their labels. Outside
of images they are handed on as landmarks, once no heading is in their way; in the text in place of
an image a reference is its number in brackets. -/
structure NumbersNotes (highlighter : Option Highlighter) (events : List Event)
    (number : String → Nat) : Prop where
  reference : ∀ w label w', Meets highlighter events w (.footnoteReference label) w' →
    w.image = none → (w.prepareHeading (.footnoteReference label)).Extends
      (PageSpan.reference label (number label)).text w'
  mention : ∀ w label w', Meets highlighter events w (.footnoteReference label) w' →
    w.image.isSome → w.Extends ("[" ++ toString (number label) ++ "]") w'
  definition : ∀ w label w', Meets highlighter events w (.start (.footnoteDefinition label)) w' →
    w.image = none → ∃ line, Scans .text line .text [] ∧
      (w.prepareHeading (.start (.footnoteDefinition label))).Extends
        (line ++ (PageSpan.definition label (number label)).text) w'

/-- The labels of a document in the order of their numbers. Labels that are never numbered, of
definitions in images, follow in any order. -/
def numberedLabels (highlighter : Option Highlighter) (events : List Event) : List String :=
  ((markStandalone events).foldl (Writer.step highlighter) {}).footnotes.labels ++ noteLabels events

/-- The number of a label in a document. -/
def noteNumber (highlighter : Option Highlighter) (events : List Event) (label : String) : Nat :=
  (numberedLabels highlighter events).idxOf label + 1

/-- Different labels of a document have different numbers. -/
theorem noteNumber_eq_iff {events : List Event} {label : String} (h : label ∈ noteLabels events)
    (other : String) :
    noteNumber highlighter events label = noteNumber highlighter events other ↔ label = other := by
  rw [noteNumber, noteNumber, Nat.add_right_cancel_iff]
  exact List.idxOf_inj (List.mem_append_right _ h)

/-- The number that an event asks for is that of the label in the whole document. -/
theorem number_of_meets {events : List Event} {w w' : Writer} {event : Event} {label : String}
    (h : Meets highlighter events w event w')
    (hnext : w'.footnotes = (w.footnotes.number label).2) :
    (w.footnotes.number label).1 = noteNumber highlighter events label := by
  refine FootnoteNumbers.number_fst ?_
  rw [← hnext]
  obtain ⟨before, standalone, later, hevents, rfl, rfl⟩ := h
  -- the labels met until the event is over begin those of the document
  refine List.IsPrefix.trans ?_ (List.prefix_append _ _)
  rw [hevents, List.foldl_append, List.foldl_cons]
  exact Writer.labels_foldl later _

/-- All references and definitions of a document are shown by the numbers of their labels. -/
theorem numbersNotes_noteNumber (highlighter : Option Highlighter) (events : List Event) :
    NumbersNotes highlighter events (noteNumber highlighter events) := by
  constructor
  · intro w label w' hmeets himage
    have hstep : w' = (w.prepareHeading (.footnoteReference label)).footnoteReference label := by
      obtain ⟨before, standalone, later, -, -, rfl⟩ := hmeets
      rw [Writer.step_of_image_none highlighter himage, Writer.perform]
    have hnext : w'.footnotes = (w.footnotes.number label).2 := by
      rw [hstep, Writer.footnotes_footnoteReference, Writer.footnotes_prepareHeading]
    have hextends := Writer.extends_footnoteReference label
      (w.prepareHeading (.footnoteReference label))
    rwa [Writer.footnotes_prepareHeading, number_of_meets hmeets hnext, ← hstep] at hextends
  · intro w label w' hmeets himage
    -- in an image a number is asked for as well, and shown in brackets
    have hstep : w' = (w.footnoteNumber label).2.write
        ("[" ++ toString (w.footnotes.number label).1 ++ "]") := by
      obtain ⟨before, standalone, later, -, -, rfl⟩ := hmeets
      obtain ⟨image, himage⟩ := Option.isSome_iff_exists.mp himage
      rw [Writer.step_of_image highlighter himage]
      rfl
    have hnext : w'.footnotes = (w.footnotes.number label).2 := by
      rw [hstep, Writer.footnotes_write]
      rfl
    have hextends := ((Writer.Extends.refl w).footnote label).write
      ("[" ++ toString (w.footnotes.number label).1 ++ "]")
    rwa [← hstep, String.empty_append, number_of_meets hmeets hnext] at hextends
  · intro w label w' hmeets himage
    have hstep : w' = (w.prepareHeading (.start (.footnoteDefinition label))).startDefinition
        label := by
      obtain ⟨before, standalone, later, -, -, rfl⟩ := hmeets
      rw [Writer.step_of_image_none highlighter himage, Writer.perform, Writer.startTag]
    have hnext : w'.footnotes = (w.footnotes.number label).2 := by
      rw [hstep, Writer.footnotes_startDefinition, Writer.footnotes_prepareHeading]
    obtain ⟨line, hscans, hextends⟩ := Writer.extends_startDefinition label
      (w.prepareHeading (.start (.footnoteDefinition label)))
    rw [Writer.footnotes_prepareHeading, number_of_meets hmeets hnext, ← hstep] at hextends
    exact ⟨line, hscans, hextends⟩

/-! ## What is taken for one footnote -/

/-- In the page of tokens two references or definitions have the same label, show the same number
and link to the same definition where their footnotes are the same, and where one footnote without a
label has the number that is the label of the other. -/
theorem shownNotes_eq_iff {tokens : List (Token (List InlineToken))} {events : List Event}
    (hevents : eventsOfTokens tokens = .ok events) (h : KeysFit (tokenKeys tokens))
    (highlighter : Option Highlighter) :
    NumbersNotes highlighter events (noteNumber highlighter events) ∧
      ∀ (i j : Nat) (key other : NoteKey), (tokenKeys tokens)[i]? = some key →
        (tokenKeys tokens)[j]? = some other →
          ∃ label label', (noteLabels events)[i]? = some label ∧
            (noteLabels events)[j]? = some label' ∧ (label = label' ↔ key.Alike other) ∧
            (noteNumber highlighter events label = noteNumber highlighter events label' ↔
              key.Alike other) ∧
            (definitionIdentifier label = definitionIdentifier label' ↔ key.Alike other) := by
  refine ⟨numbersNotes_noteNumber highlighter events, ?_⟩
  intro i j key other hi hj
  obtain ⟨label, label', hlabel, hlabel', halike⟩ := noteLabels_eq_iff hevents h hi hj
  refine ⟨label, label', hlabel, hlabel', halike, ?_, ?_⟩
  · rw [noteNumber_eq_iff (List.mem_of_getElem? hlabel), halike]
  · rw [definitionIdentifier_inj, halike]

theorem shownNotes_numberedByHand :
    ∃ events, eventsOfTokens numberedByHand = .ok events ∧ KeysFit (tokenKeys numberedByHand) ∧
      NumbersNotes none events (noteNumber none events) ∧
      ∀ (i j : Nat) (key other : NoteKey), (tokenKeys numberedByHand)[i]? = some key →
        (tokenKeys numberedByHand)[j]? = some other →
          ∃ label label', (noteLabels events)[i]? = some label ∧
            (noteLabels events)[j]? = some label' ∧ (label = label' ↔ key.Alike other) ∧
            (noteNumber none events label = noteNumber none events label' ↔ key.Alike other) ∧
            (definitionIdentifier label = definitionIdentifier label' ↔ key.Alike other) :=
  ⟨_, rfl, keysFit_numberedByHand, shownNotes_eq_iff rfl keysFit_numberedByHand none⟩

end StaticSite.Html
