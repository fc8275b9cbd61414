import Mathlib.Data.Int.CharZero
import StaticSite.Proofs.Html.Identifier
import StaticSite.Proofs.Markdown.NoteMark

/-!
# Labels of footnotes

A footnote is known by its position, and events know it by its label: the one that its author chose,
or the number after its position where there is none. The labels of events are those of the tokens
they come from, in order. Two of them are equal where the footnotes are the same, and in one case
more: where an author chose the number of a footnote without a label.

## What this module delivers

- `tokenKeys`, `noteLabels`: the footnotes that tokens and events speak of, in document order.
- `namesOf_eventsOfTokens`: the labels of events are the names of the keys of their tokens.
- `KeysFit`: keys as a reader of footnotes gives them.
- `NoteKey.Alike`, `noteLabels_eq_iff`: when two events have the same label.
- `noteLabels_collide`: tokens of two footnotes whose events have the same label.
-/

set_option autoImplicit false

namespace StaticSite.Markdown

open StaticSite.Number

/-! ## Keys and labels -/

/-- The footnotes that a token refers to or begins to define. -/
def Token.keys : Token (List InlineToken) → List NoteKey
  | .inline run => runKeys run
  | .opening (.note key) => [key]
  | _ => []

/-- The footnotes that tokens refer to or begin to define, in order. -/
def tokenKeys (tokens : List (Token (List InlineToken))) : List NoteKey :=
  tokens.flatMap Token.keys

/-- The label of a reference, or of a definition that begins. -/
def Event.noteLabel? : Event → Option String
  | .footnoteReference label => some label
  | .start (.footnoteDefinition label) => some label
  | _ => none

/-- The labels of references and of definitions that begin, in order. -/
def noteLabels (events : List Event) : List String :=
  events.filterMap Event.noteLabel?

/-- The keys of tokens are those of their marks. -/
theorem tokenKeys_eq (tokens : List (Token (List InlineToken))) :
    tokenKeys tokens = (tokenMarks tokens).map NoteMark.name := by
  have htoken (token : Token (List InlineToken)) :
      token.keys = token.marks.map NoteMark.name := by
    cases token with
    | inline run =>
        rw [Token.keys, Token.marks, runMarks, List.map_map]
        exact (List.map_id _).symm
    | opening construct => cases construct <;> rfl
    | _ => rfl
  rw [tokenKeys, tokenMarks, List.map_flatMap]
  exact List.flatMap_congr fun token _ => htoken token

/-- The labels of events are those of their marks. -/
theorem noteLabels_eq (events : List Event) :
    noteLabels events = (noteMarks events).map NoteMark.name := by
  have hevent (event : Event) : event.noteLabel? = event.noteMark?.map NoteMark.name := by
    cases event with
    | start tag => cases tag <;> rfl
    | _ => rfl
  rw [noteLabels, noteMarks, List.map_filterMap]
  exact List.filterMap_congr fun event _ => hevent event

/-- Each label is the name of the key at its place. -/
def NamesOf (keys : List NoteKey) (labels : List String) : Prop :=
  List.Forall₂ (fun key label => key.name = .ok label) keys labels

theorem NamesOf.label_at {keys : List NoteKey} {labels : List String} (h : NamesOf keys labels)
    {i : Nat} {key : NoteKey} (hi : keys[i]? = some key) :
    ∃ label, labels[i]? = some label ∧ key.name = .ok label := by
  induction h generalizing i with
  | nil => simp at hi
  | cons hname _ ih =>
      cases i with
      | zero =>
          obtain rfl := Option.some.inj hi
          exact ⟨_, rfl, hname⟩
      | succ i => exact ih hi

/-- The labels of a document's events are the names of the keys of its tokens, in order. -/
theorem namesOf_eventsOfTokens {tokens : List (Token (List InlineToken))} {events : List Event}
    (h : eventsOfTokens tokens = .ok events) : NamesOf (tokenKeys tokens) (noteLabels events) := by
  rw [tokenKeys_eq, noteLabels_eq, NamesOf, List.forall₂_map_left_iff, List.forall₂_map_right_iff]
  apply (marksOf_eventsOfTokens h).imp
  intro mark label hname
  cases hname with
  | reference name => exact name
  | definition name => exact name

/-! ## Equal labels -/

/-- Keys as a reader of footnotes gives them: every footnote has a position, a label is a text or
absent, a footnote has one label, and no two footnotes have the same. -/
structure KeysFit (keys : List NoteKey) : Prop where
  position : ∀ key ∈ keys, ∃ n : Nat, key.id = some (.whole n)
  label : ∀ key ∈ keys, key.label = .null ∨ ∃ text, text ≠ "" ∧ key.label = .text text
  one : ∀ key ∈ keys, ∀ other ∈ keys, key.id = other.id → key.label = other.label
  distinct : ∀ key ∈ keys, ∀ other ∈ keys, key.label ≠ .null → key.label = other.label →
    key.id = other.id

/-- A footnote without a label has the number that an author chose as the label of another. -/
def NoteKey.Numbers (key other : NoteKey) : Prop :=
  key.label = .null ∧ ∃ n : Nat, key.id = some (.whole n) ∧ other.label = .text (toString (n + 1))

/-- Two footnotes are named alike: they are the same, or one has the number that is the label of the
other. -/
def NoteKey.Alike (key other : NoteKey) : Prop :=
  key.id = other.id ∨ key.Numbers other ∨ other.Numbers key

theorem name_of_text {key : NoteKey} {text : String} (htext : text ≠ "")
    (h : key.label = .text text) : key.name = .ok text := by
  have hset : key.label.isSet := by
    rw [h]
    simpa [Scalar.isSet] using htext
  rw [NoteKey.name, if_pos hset, h]
  rfl

theorem name_of_position {key : NoteKey} {n : Nat} (hlabel : key.label = .null)
    (hid : key.id = some (.whole n)) : key.name = .ok (toString (n + 1)) := by
  rw [NoteKey.name, hlabel, hid]
  rfl

theorem natToString_succ_inj {m n : Nat} : toString (m + 1) = toString (n + 1) ↔ m = n := by
  rw [Html.natToString_injective.eq_iff]
  exact Nat.add_right_cancel_iff

/-- A footnote without a label and one with a label have the same name if the label is the number of
the first. -/
theorem name_eq_iff_of_null {key other : NoteKey} {n : Nat} {text : String}
    (hlabel : key.label = .null) (hid : key.id = some (.whole n)) (htext : text ≠ "")
    (hother : other.label = .text text) : key.name = other.name ↔ key.Numbers other := by
  rw [name_of_position hlabel hid, name_of_text htext hother]
  constructor
  · intro h
    refine ⟨hlabel, n, hid, ?_⟩
    rw [hother, Except.ok.inj h]
  · rintro ⟨-, m, hm, hnumber⟩
    obtain rfl : n = m := by
      rw [hid] at hm
      exact Int.ofNat.inj (Scalar.whole.inj (Option.some.inj hm))
    rw [hother] at hnumber
    rw [Scalar.text.inj hnumber]

/-- Two footnotes have the same name if they are the same, and where one without a label has the
number that is the label of the other. -/
theorem name_eq_iff {keys : List NoteKey} (h : KeysFit keys) {key other : NoteKey}
    (hkey : key ∈ keys) (hother : other ∈ keys) :
    key.name = other.name ↔ key.Alike other := by
  rw [NoteKey.Alike]
  obtain ⟨n, hn⟩ := h.position key hkey
  obtain ⟨m, hm⟩ := h.position other hother
  rcases h.label key hkey with hnull | ⟨text, htext, hlabel⟩
  · rcases h.label other hother with hnull' | ⟨text', htext', hlabel'⟩
    · -- neither has a label: both are named by their positions
      have hnot : ¬key.Numbers other ∧ ¬other.Numbers key := by
        constructor
        · rintro ⟨-, k, -, hnumber⟩
          rw [hnull'] at hnumber
          cases hnumber
        · rintro ⟨-, k, -, hnumber⟩
          rw [hnull] at hnumber
          cases hnumber
      rw [name_of_position hnull hn, name_of_position hnull' hm, hn, hm, Except.ok.injEq,
        natToString_succ_inj]
      simp [hnot]
    · -- only the second has one, and then the two are different footnotes
      have hne : key.id ≠ other.id := by
        intro hid
        have hsame := h.one key hkey other hother hid
        rw [hnull, hlabel'] at hsame
        cases hsame
      have hnot : ¬other.Numbers key := by
        rintro ⟨hnone, -⟩
        rw [hlabel'] at hnone
        cases hnone
      rw [name_eq_iff_of_null hnull hn htext' hlabel']
      simp [hne, hnot]
  · rcases h.label other hother with hnull' | ⟨text', htext', hlabel'⟩
    · have hne : key.id ≠ other.id := by
        intro hid
        have hsame := h.one key hkey other hother hid
        rw [hnull', hlabel] at hsame
        cases hsame
      have hnot : ¬key.Numbers other := by
        rintro ⟨hnone, -⟩
        rw [hlabel] at hnone
        cases hnone
      rw [eq_comm, name_eq_iff_of_null hnull' hm htext hlabel]
      simp [hne, hnot]
    · -- both have labels, which are different for different footnotes
      have hnot : ¬key.Numbers other ∧ ¬other.Numbers key := by
        constructor
        · rintro ⟨hnone, -⟩
          rw [hlabel] at hnone
          cases hnone
        · rintro ⟨hnone, -⟩
          rw [hlabel'] at hnone
          cases hnone
      rw [name_of_text htext hlabel, name_of_text htext' hlabel', Except.ok.injEq]
      simp only [hnot, or_self, or_false]
      constructor
      · rintro rfl
        exact h.distinct key hkey other hother (by simp [hlabel]) (hlabel.trans hlabel'.symm)
      · intro hid
        have hsame := h.one key hkey other hother hid
        rw [hlabel, hlabel'] at hsame
        exact Scalar.text.inj hsame

/-- Two references or definitions have labels, and the same one where their footnotes are the same,
and where one footnote without a label has the number that is the label of the other. -/
theorem noteLabels_eq_iff {tokens : List (Token (List InlineToken))} {events : List Event}
    (hevents : eventsOfTokens tokens = .ok events) (h : KeysFit (tokenKeys tokens)) {i j : Nat}
    {key other : NoteKey} (hi : (tokenKeys tokens)[i]? = some key)
    (hj : (tokenKeys tokens)[j]? = some other) :
    ∃ label label', (noteLabels events)[i]? = some label ∧ (noteLabels events)[j]? = some label' ∧
      (label = label' ↔ key.Alike other) := by
  have hnames := namesOf_eventsOfTokens hevents
  obtain ⟨label, hlabel, hname⟩ := hnames.label_at hi
  obtain ⟨label', hlabel', hname'⟩ := hnames.label_at hj
  refine ⟨label, label', hlabel, hlabel', ?_⟩
  rw [← name_eq_iff h (List.mem_of_getElem? hi) (List.mem_of_getElem? hj), hname, hname',
    Except.ok.injEq]

/-- A footnote without a label, and one whose author chose the label `1`, with their definitions. -/
def numberedByHand : List (Token (List InlineToken)) :=
  [.opening (.paragraph false),
   .inline [.text "a", .noteReference ⟨.null, some (.whole 0)⟩, .text "b",
     .noteReference ⟨.text "1", some (.whole 1)⟩],
   .closing (.paragraph false),
   .opening .notes,
   .opening (.note ⟨.null, some (.whole 0)⟩), .inline [.text "x"], .closing .note,
   .opening (.note ⟨.text "1", some (.whole 1)⟩), .inline [.text "y"], .closing .note,
   .closing .notes]

theorem keysFit_numberedByHand : KeysFit (tokenKeys numberedByHand) := by
  have hkeys : tokenKeys numberedByHand
      = [⟨.null, some (.whole (0 : Nat))⟩, ⟨.text "1", some (.whole (1 : Nat))⟩,
         ⟨.null, some (.whole (0 : Nat))⟩, ⟨.text "1", some (.whole (1 : Nat))⟩] := rfl
  rw [hkeys]
  refine ⟨?_, ?_, ?_, ?_⟩
  · simp only [List.forall_mem_cons, List.not_mem_nil, false_imp_iff, implies_true, and_true]
    exact ⟨⟨0, rfl⟩, ⟨1, rfl⟩, ⟨0, rfl⟩, ⟨1, rfl⟩⟩
  · simp
  · simp
  · simp

/-- The two footnotes are different, and the events of their references and of their definitions
have the same label. -/
theorem noteLabels_collide :
    ∃ events, eventsOfTokens numberedByHand = .ok events ∧
      KeysFit (tokenKeys numberedByHand) ∧
      (tokenKeys numberedByHand).map NoteKey.id
        = [some (.whole 0), some (.whole 1), some (.whole 0), some (.whole 1)] ∧
      noteLabels events = ["1", "1", "1", "1"] := by
  refine ⟨_, rfl, keysFit_numberedByHand, ?_, ?_⟩
  · decide
  · decide

end StaticSite.Markdown
