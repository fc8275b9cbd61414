import StaticSite.Markdown.EventStream
import StaticSite.Proofs.Outcome

/-!
# References and definitions of footnotes

Tokens refer to footnotes and begin to define them, and so do events. What the events of a document
refer to and define is what its tokens do, in order, with a label in place of each key.

## What this module delivers

- `NoteMark`, `tokenMarks`, `noteMarks`: references and beginnings of definitions, in order.
- `MarksOf`: marks of tokens and marks of events that belong together.
- `marksOf_eventsOfTokens`: the marks of events are those of their tokens.
- `Reading.exists_of_events_append`: the events of tokens that go on with further tokens.
-/

set_option autoImplicit false

namespace StaticSite.Markdown

open StaticSite.Number

/-! ## Keys and marks -/

mutual

/-- The footnotes that an inline token refers to; an image refers to those in its text. -/
def InlineToken.keys : InlineToken → List NoteKey
  | .noteReference key => [key]
  | .image _ _ children => runKeys children
  | _ => []

def runKeys : List InlineToken → List NoteKey
  | [] => []
  | token :: rest => token.keys ++ runKeys rest

end

/-- A footnote where it is referred to, or where its definition begins. -/
inductive NoteMark (α : Type) where
  | reference (name : α)
  | definition (name : α)
deriving DecidableEq, Repr

/-- The footnote that a mark is about. -/
def NoteMark.name {α : Type} : NoteMark α → α
  | reference name => name
  | definition name => name

/-- The references of an inline token. -/
def InlineToken.marks (token : InlineToken) : List (NoteMark NoteKey) :=
  token.keys.map NoteMark.reference

/-- The references of a run. -/
def runMarks (run : List InlineToken) : List (NoteMark NoteKey) :=
  (runKeys run).map NoteMark.reference

/-- The references of a token, and the definition that begins with it. -/
def Token.marks : Token (List InlineToken) → List (NoteMark NoteKey)
  | .inline run => runMarks run
  | .opening (.note key) => [.definition key]
  | _ => []

/-- The references of tokens and the definitions that begin, in order. -/
def tokenMarks (tokens : List (Token (List InlineToken))) : List (NoteMark NoteKey) :=
  tokens.flatMap Token.marks

theorem tokenMarks_append (tokens more : List (Token (List InlineToken))) :
    tokenMarks (tokens ++ more) = tokenMarks tokens ++ tokenMarks more :=
  List.flatMap_append

/-- An event that is a reference, or that begins a definition. -/
def Event.noteMark? : Event → Option (NoteMark String)
  | .footnoteReference label => some (.reference label)
  | .start (.footnoteDefinition label) => some (.definition label)
  | _ => none

/-- The references of events and the definitions that begin, in order. -/
def noteMarks (events : List Event) : List (NoteMark String) :=
  events.filterMap Event.noteMark?

theorem noteMarks_append (events more : List Event) :
    noteMarks (events ++ more) = noteMarks events ++ noteMarks more :=
  List.filterMap_append

/-- A mark of an event belongs to a mark of a token: both are references or both are definitions,
and the label is the name of the key. -/
inductive NoteMark.Named : NoteMark NoteKey → NoteMark String → Prop where
  | reference {key : NoteKey} {label : String} (name : key.name = .ok label) :
      Named (.reference key) (.reference label)
  | definition {key : NoteKey} {label : String} (name : key.name = .ok label) :
      Named (.definition key) (.definition label)

/-- Each mark of events belongs to the mark of tokens at its place. -/
def MarksOf (marks : List (NoteMark NoteKey)) (labels : List (NoteMark String)) : Prop :=
  List.Forall₂ NoteMark.Named marks labels

theorem MarksOf.nil : MarksOf [] [] :=
  List.Forall₂.nil

theorem MarksOf.single {mark : NoteMark NoteKey} {label : NoteMark String} (h : mark.Named label) :
    MarksOf [mark] [label] :=
  List.Forall₂.cons h List.Forall₂.nil

theorem MarksOf.append {marks more : List (NoteMark NoteKey)}
    {labels others : List (NoteMark String)} (h : MarksOf marks labels) (h' : MarksOf more others) :
    MarksOf (marks ++ more) (labels ++ others) :=
  List.rel_append h h'

/-! ## From tokens to events -/

theorem noteMarks_start_span (span : Span) : noteMarks [.start span.tag] = [] := by
  cases span with
  | link bare dest title =>
      simp only [Span.tag]
      split_ifs <;> rfl
  | _ => rfl

theorem noteMarks_text (content : String) :
    noteMarks (if content.isEmpty then [] else [.text content]) = [] := by
  split <;> rfl

mutual

theorem marksOf_token : ∀ (token : InlineToken) (stack stack' : List Tag) (events : List Event),
    token.events stack = .ok (events, stack') → MarksOf token.marks (noteMarks events)
  | .noteReference key, stack, stack', events, h => by
      rw [InlineToken.events, bind_eq_ok_iff] at h
      obtain ⟨label, hname, hevents⟩ := h
      cases hevents
      exact MarksOf.single (.reference hname)
  | .image dest title children, stack, stack', events, h => by
      rw [InlineToken.events] at h
      obtain ⟨inner, hinner, hevents⟩ := bind_eq_ok_iff.mp h
      cases hevents
      have hnames := marksOf_run children [] inner hinner
      -- the image's own two events are no marks
      have hlabels : noteMarks ((.start (.image dest.textOrEmpty title.textOrEmpty) :: inner) ++
          [.stop (.image dest.textOrEmpty title.textOrEmpty)]) = noteMarks inner := by
        rw [noteMarks_append]
        exact List.append_nil _
      rw [hlabels]
      exact hnames
  | .text content, stack, stack', events, h => by
      cases h
      rw [noteMarks_text]
      exact MarksOf.nil
  | .special content, stack, stack', events, h => by
      cases h
      rw [noteMarks_text]
      exact MarksOf.nil
  | .opening span, _, _, _, h => by
      cases h
      rw [noteMarks_start_span]
      exact MarksOf.nil
  | .closing _, stack, _, _, h => by
      cases stack with
      | nil => cases h; exact MarksOf.nil
      | cons tag rest => cases h; exact MarksOf.nil
  | .softBreak, _, _, _, h => by cases h; exact MarksOf.nil
  | .hardBreak, _, _, _, h => by cases h; exact MarksOf.nil
  | .code _, _, _, _, h => by cases h; exact MarksOf.nil
  | .html _, _, _, _, h => by cases h; exact MarksOf.nil
  | .unknown, _, _, _, h => by cases h; exact MarksOf.nil

/-- The marks of a run's events are those of the run. -/
theorem marksOf_run : ∀ (run : List InlineToken) (stack : List Tag) (events : List Event),
    runEvents stack run = .ok events → MarksOf (runMarks run) (noteMarks events)
  | [], _, _, h => by
      cases h
      exact MarksOf.nil
  | token :: rest, stack, events, h => by
      rw [runEvents] at h
      obtain ⟨⟨first, stack'⟩, hfirst, hrest⟩ := bind_eq_ok_iff.mp h
      obtain ⟨others, hothers, hevents⟩ := bind_eq_ok_iff.mp hrest
      cases hevents
      rw [noteMarks_append, runMarks, runKeys, List.map_append]
      exact (marksOf_token token stack stack' first hfirst).append
        (marksOf_run rest stack' others hothers)

end

theorem noteMarks_taskTextEvents (content : String) :
    noteMarks (taskTextEvents content) = [] := by
  unfold taskTextEvents
  split
  · split <;> rfl
  · exact noteMarks_text content

/-- Text at the front of a list item has no marks, nor has the task marker that it may become. -/
theorem marksOf_taskText {content : String} {rest : List InlineToken} {events : List Event}
    (h : (do return taskTextEvents content ++ (← runEvents [] rest)) = Except.ok events) :
    MarksOf (runMarks rest) (noteMarks events) := by
  obtain ⟨others, hothers, hevents⟩ := bind_eq_ok_iff.mp h
  cases hevents
  rw [noteMarks_append, noteMarks_taskTextEvents]
  exact marksOf_run rest [] others hothers

theorem marksOf_inlineEvents (frontOfItem : Bool) (run : List InlineToken) (events : List Event)
    (h : inlineEvents frontOfItem run = .ok events) :
    MarksOf (runMarks run) (noteMarks events) := by
  unfold inlineEvents at h
  -- text at the front of an item may turn into a task marker, and what follows it is read as ever
  split at h
  · split at h
    · have hnames := marksOf_taskText h
      exact hnames
    · exact marksOf_run _ [] events h
  · split at h
    · have hnames := marksOf_taskText h
      exact hnames
    · exact marksOf_run _ [] events h
  · exact marksOf_run run [] events h

namespace Reading

variable {reading next : Reading} {events : List Event}

theorem noteMarks_pop (reading : Reading) : noteMarks reading.pop.1 = [] := by
  unfold pop
  split <;> rfl

/-- The end of a construct has no mark. -/
theorem noteMarks_closeConstruct (name : ConstructName) (reading : Reading) :
    noteMarks (reading.closeConstruct name).1 = [] := by
  unfold closeConstruct
  split
  · rfl
  · rfl
  · split
    · rfl
    · exact noteMarks_pop reading
  · rfl
  · split
    · rfl
    · exact noteMarks_pop _
  · exact noteMarks_pop reading

/-- The start of a construct has a mark if it begins a definition. -/
theorem marksOf_openConstruct (construct : Construct) (rest : List (Token (List InlineToken)))
    (h : reading.openConstruct construct rest = .ok (events, next)) :
    MarksOf (Token.opening construct).marks (noteMarks events) := by
  cases construct with
  | note key =>
      obtain ⟨label, hname, hevents⟩ := bind_eq_ok_iff.mp h
      cases hevents
      exact MarksOf.single (.definition hname)
  | heading tag =>
      obtain ⟨level, -, hevents⟩ := bind_eq_ok_iff.mp h
      cases hevents
      exact MarksOf.nil
  | orderedList first =>
      obtain ⟨number, -, hevents⟩ := bind_eq_ok_iff.mp h
      cases hevents
      exact MarksOf.nil
  | paragraph hidden =>
      cases hidden <;> cases h <;> exact MarksOf.nil
  | tableRow =>
      cases hhead : reading.inTableHead with
      | true =>
          simp only [openConstruct, hhead, if_true] at h
          cases h
          exact MarksOf.nil
      | false =>
          simp only [openConstruct, hhead, Bool.false_eq_true, if_false] at h
          cases h
          exact MarksOf.nil
  | _ => cases h; exact MarksOf.nil

/-- Code has no marks. -/
theorem marksOf_code (info : Option String) (content : String) :
    MarksOf [] (noteMarks (Event.start (.codeBlock info) ::
      (if content.isEmpty then [] else [.text content]) ++ [Event.stop (.codeBlock info)])) := by
  have hlabels : noteMarks ((Event.start (.codeBlock info) ::
      (if content.isEmpty then [] else [.text content])) ++ [Event.stop (.codeBlock info)])
      = [] := by
    rw [noteMarks_append, List.append_eq_nil_iff]
    exact ⟨noteMarks_text content, rfl⟩
  rw [hlabels]
  exact MarksOf.nil

/-- The marks of a token's events are those of the token. -/
theorem marksOf_step {token : Token (List InlineToken)} {rest : List (Token (List InlineToken))}
    (h : reading.step token rest = .ok (events, next)) :
    MarksOf token.marks (noteMarks events) := by
  cases token with
  | inline run =>
      obtain ⟨found, hfound, hevents⟩ := bind_eq_ok_iff.mp h
      cases hevents
      exact marksOf_inlineEvents _ run _ hfound
  | opening construct => exact marksOf_openConstruct construct rest h
  | closing name =>
      -- the events of an end are those that it finds open, none of which begins a definition
      have hlabels : noteMarks events = [] := by
        have hclose : closeConstruct name _ = (events, next) := Except.ok.inj h
        rw [show events = (closeConstruct name _).1 from (congrArg Prod.fst hclose).symm]
        exact noteMarks_closeConstruct name _
      rw [hlabels]
      exact MarksOf.nil
  | fence info content =>
      cases h
      exact marksOf_code (some (StaticSite.Text.strip info)) content
  | codeBlock content =>
      cases h
      exact marksOf_code none content
  | _ => cases h; exact MarksOf.nil

/-- Events of tokens that go on with further tokens: first those of the tokens, and then those of
what follows, read with what is open by then. -/
theorem exists_of_events_append {more : List (Token (List InlineToken))} :
    ∀ (tokens : List (Token (List InlineToken))) {reading : Reading} {events : List Event},
      reading.events (tokens ++ more) = .ok events →
        ∃ (first second : List Event) (next : Reading), events = first ++ second ∧
          MarksOf (tokenMarks tokens) (noteMarks first) ∧ next.events more = .ok second
  | [], reading, events, h => ⟨[], events, reading, rfl, MarksOf.nil, h⟩
  | token :: rest, reading, events, h => by
      rw [List.cons_append, Reading.events] at h
      obtain ⟨⟨now, next⟩, hnow, hrest⟩ := bind_eq_ok_iff.mp h
      -- what is open has no part in the marks, so the induction is over every reading
      obtain ⟨others, hothers, hevents⟩ := bind_eq_ok_iff.mp hrest
      cases hevents
      obtain ⟨first, second, last, rfl, hmarks, hsecond⟩ := exists_of_events_append rest hothers
      refine ⟨now ++ first, second, last, (List.append_assoc _ _ _).symm, ?_, hsecond⟩
      rw [noteMarks_append, tokenMarks, List.flatMap_cons]
      exact (marksOf_step hnow).append hmarks

end Reading

/-- The marks of a document's events are those of its tokens, in order. -/
theorem marksOf_eventsOfTokens {tokens : List (Token (List InlineToken))} {events : List Event}
    (h : eventsOfTokens tokens = .ok events) : MarksOf (tokenMarks tokens) (noteMarks events) := by
  have happend : ({} : Reading).events (tokens ++ []) = .ok events := by
    rw [List.append_nil]
    exact h
  obtain ⟨first, second, next, rfl, hmarks, hsecond⟩ :=
    Reading.exists_of_events_append tokens happend
  cases hsecond
  rw [List.append_nil]
  exact hmarks

end StaticSite.Markdown
