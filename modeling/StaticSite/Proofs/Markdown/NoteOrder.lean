import StaticSite.Markdown.Document
import StaticSite.Proofs.Markdown.NoteLabel

/-!
# References before definitions

The footnotes of a document follow its body, in the order of their first reference. So a reference
in the body stands before all definitions. A reference in a footnote stands within that footnote's
definition, and so after the definitions of all footnotes before it, and after the beginning of its
own.

## What this module delivers

- `GatheredNote`, `withNotes`: a body with footnotes at its end.
- `gatherNotes_eq_withNotes`: this is what a document with footnotes is.
- `ReferencesFirst`: every reference stands before the definitions of its label.
- `EndsWithNotes`, `endsWithNotes_of_events`: which parts the events have, and exactly when
  references come first in them.
- `references_follow`: a reference after its definition, in a footnote that refers to the one before
  it.
-/

set_option autoImplicit false

namespace StaticSite.Markdown

open StaticSite.Number

/-! ## Documents with footnotes -/

/-- A footnote at the end of a document. -/
structure GatheredNote where
  key : NoteKey
  content : List (Token (List InlineToken))

/-- The tokens of a footnote at the end of a document. -/
def GatheredNote.tokens (note : GatheredNote) : List (Token (List InlineToken)) :=
  .opening (.note note.key) :: (note.content ++ [.closing .note])

/-- A body with footnotes at its end. -/
def withNotes (body : List (Token (List InlineToken))) (notes : List GatheredNote) :
    List (Token (List InlineToken)) :=
  body ++ .opening .notes :: (notes.flatMap GatheredNote.tokens ++ [.closing .notes])

/-- Tokens in which no footnote at the end begins. -/
def WithoutNotes (tokens : List (Token (List InlineToken))) : Prop :=
  ∀ key, Token.opening (.note key) ∉ tokens

/-- A footnote refers to a footnote: its content has a reference under the name of the other. -/
def GatheredNote.RefersTo (note other : GatheredNote) : Prop :=
  ∃ key ∈ tokenKeys note.content, key.name = other.key.name

/-- Every reference stands before the definitions of its label. -/
def ReferencesFirst (events : List Event) : Prop :=
  ∀ (i j : Nat) (label : String), events[i]? = some (.footnoteReference label) →
    events[j]? = some (.start (.footnoteDefinition label)) → i < j

/-! ## What a reader of footnotes leaves -/

section

variable {tokens more : List (Token (List InlineToken))}

theorem WithoutNotes.append (h : WithoutNotes tokens) (h' : WithoutNotes more) :
    WithoutNotes (tokens ++ more) := by
  intro key hkey
  rcases List.mem_append.mp hkey with hfirst | hlast
  · exact h key hfirst
  · exact h' key hlast

/-- What is found in a document so far holds no footnote at the end of one. -/
structure Separated.Plain (s : Separated) : Prop where
  body : WithoutNotes s.body
  content : WithoutNotes s.content
  definitions : ∀ entry ∈ s.definitions, WithoutNotes entry.2

theorem Separated.Plain.add {s : Separated} (h : s.Plain) {token : Token (List InlineToken)}
    (htoken : WithoutNotes [token]) : (s.add token).Plain := by
  unfold Separated.add
  split
  · exact ⟨h.body, fun key hkey => absurd hkey List.not_mem_nil, h.definitions⟩
  · refine ⟨h.body, h.content, ?_⟩
    exact List.forall_mem_cons.mpr ⟨h.content, h.definitions⟩
  · split
    · exact ⟨h.body, h.content.append htoken, h.definitions⟩
    · exact ⟨h.body.append htoken, h.content, h.definitions⟩

theorem plain_foldl : ∀ (tokens : List (Token (List InlineToken))) {s : Separated}, s.Plain →
    WithoutNotes tokens → (tokens.foldl Separated.add s).Plain
  | [], _, hs, _ => hs
  | token :: rest, s, hs, h => by
      have htoken : WithoutNotes [token] := by
        intro key hkey
        exact h key (List.mem_singleton.mp hkey ▸ List.mem_cons_self)
      have hrest : WithoutNotes rest := fun key hkey => h key (List.mem_cons_of_mem token hkey)
      exact plain_foldl rest (hs.add htoken) hrest

theorem withoutNotes_withAnchor (h : WithoutNotes tokens) : WithoutNotes (withAnchor tokens) := by
  have hanchor : WithoutNotes [.noteAnchor] := by
    intro key hkey
    cases List.mem_singleton.mp hkey
  unfold withAnchor
  split
  · rename_i hidden _
    have hends : WithoutNotes [.noteAnchor, .closing (.paragraph hidden)] := by
      intro key hkey
      simp at hkey
    exact WithoutNotes.append (fun key hkey => h key (List.dropLast_subset tokens hkey)) hends
  · exact h.append hanchor

/-- The footnote of an entry, given its position. -/
def gatheredNote (definitions : List (String × List (Token (List InlineToken)))) (position : Nat)
    (entry : NoteEntry) : GatheredNote :=
  let id := some (Scalar.whole (Int.ofNat position))
  match entry with
  | .inline content =>
    { key := { id := id }
      content := withAnchor
        [.opening (.paragraph false), .inline content, .closing (.paragraph false)] }
  | .labelled label =>
    { key := { label := .text label, id := id }
      content := withAnchor ((definitions.lookup label).getD []) }

theorem noteTokens_eq (definitions : List (String × List (Token (List InlineToken))))
    (position : Nat) (entry : NoteEntry) :
    noteTokens definitions position entry = (gatheredNote definitions position entry).tokens := by
  cases entry <;> rfl

theorem withoutNotes_gatheredNote
    {definitions : List (String × List (Token (List InlineToken)))}
    (h : ∀ entry ∈ definitions, WithoutNotes entry.2) (position : Nat) (entry : NoteEntry) :
    WithoutNotes (gatheredNote definitions position entry).content := by
  cases entry with
  | inline content =>
      have hplain : WithoutNotes [.opening (.paragraph false), .inline content,
          .closing (.paragraph false)] := by
        intro key hkey
        simp at hkey
      exact withoutNotes_withAnchor hplain
  | labelled label =>
      refine withoutNotes_withAnchor ?_
      cases hlookup : definitions.lookup label with
      | none => exact fun key hkey => absurd hkey List.not_mem_nil
      | some content =>
          obtain ⟨before, after, rfl, -⟩ := List.lookup_eq_some_iff.mp hlookup
          exact h (label, content) (List.mem_append_right before List.mem_cons_self)

/-- A document of which the footnotes are gathered is its body with the footnotes at the end. -/
theorem gatherNotes_eq_withNotes {notes : Notes} (h : WithoutNotes tokens)
    (hentries : notes.entries ≠ []) :
    ∃ body gathered, gatherNotes tokens notes = withNotes body gathered ∧ WithoutNotes body ∧
      ∀ note ∈ gathered, WithoutNotes note.content := by
  have hplain : (separate tokens).Plain :=
    plain_foldl tokens ⟨fun _ => List.not_mem_nil, fun _ => List.not_mem_nil, by simp⟩ h
  refine ⟨(separate tokens).body, (List.range notes.entries.length).filterMap fun i =>
    notes.entries[i]?.map (gatheredNote (separate tokens).definitions i), ?_, hplain.body, ?_⟩
  · rw [gatherNotes, if_neg (by simpa using hentries), withNotes, List.append_assoc,
      List.append_assoc, List.filterMap_eq_flatMap_toList, List.flatMap_assoc]
    -- before and behind the footnotes the two are the same
    refine congrArg (fun gathered => (separate tokens).body ++
      .opening .notes :: (gathered ++ [.closing .notes])) (List.flatMap_congr fun i _ => ?_)
    cases notes.entries[i]? with
    | none => rfl
    | some entry =>
        show noteTokens (separate tokens).definitions i entry
          = [gatheredNote (separate tokens).definitions i entry].flatMap GatheredNote.tokens
        rw [List.flatMap_singleton, noteTokens_eq]
  · intro note hnote
    obtain ⟨i, -, hsome⟩ := List.mem_filterMap.mp hnote
    obtain ⟨entry, -, rfl⟩ := Option.map_eq_some_iff.mp hsome
    exact withoutNotes_gatheredNote hplain.definitions i entry

end

/-! ## The order of marks -/

/-- One mark begins a definition, and the later one refers to it. -/
def NoteMark.Crosses {α : Type} (earlier later : NoteMark α) (same : α → α → Prop) : Prop :=
  ∃ name other, earlier = .definition name ∧ later = .reference other ∧ same name other

section

variable {α : Type} {same : α → α → Prop}

theorem NoteMark.not_crosses_of_reference (name : α) (later : NoteMark α) :
    ¬ (NoteMark.reference name).Crosses later same := by
  rintro ⟨first, second, hmark, -, -⟩
  cases hmark

theorem NoteMark.crosses_iff {name other : α} :
    (NoteMark.definition name).Crosses (.reference other) same ↔ same name other := by
  constructor
  · rintro ⟨first, second, hfirst, hsecond, hsame⟩
    cases hfirst
    cases hsecond
    exact hsame
  · intro hsame
    exact ⟨name, other, rfl, rfl, hsame⟩

end

/-- Marks that belong together cross together. -/
theorem NoteMark.Named.crosses_iff {first second : NoteMark NoteKey} {label other : NoteMark String}
    (h : first.Named label) (h' : second.Named other) :
    first.Crosses second (fun key key' => key.name = key'.name) ↔ label.Crosses other Eq := by
  cases h with
  | reference name =>
      exact iff_of_false (not_crosses_of_reference _ _) (not_crosses_of_reference _ _)
  | definition name =>
      cases h' with
      | reference name' =>
          rw [NoteMark.crosses_iff, NoteMark.crosses_iff, name, name', Except.ok.injEq]
      | definition name' =>
          constructor
          · rintro ⟨key, key', -, hmark, -⟩
            cases hmark
          · rintro ⟨text, text', -, hmark, -⟩
            cases hmark

theorem Event.noteMark?_eq_reference {event : Event} {label : String} :
    event.noteMark? = some (.reference label) ↔ event = .footnoteReference label := by
  cases event with
  | footnoteReference text => simp [noteMark?]
  | start tag => cases tag <;> simp [noteMark?]
  | _ => simp [noteMark?]

theorem Event.noteMark?_eq_definition {event : Event} {label : String} :
    event.noteMark? = some (.definition label) ↔ event = .start (.footnoteDefinition label) := by
  cases event with
  | footnoteReference text => simp [noteMark?]
  | start tag => cases tag <;> simp [noteMark?]
  | _ => simp [noteMark?]

/-- References come first if no mark of a definition stands before a reference to it. -/
theorem referencesFirst_iff_noteMarks (events : List Event) :
    ReferencesFirst events ↔
      (noteMarks events).Pairwise fun earlier later => ¬ earlier.Crosses later Eq := by
  rw [noteMarks, List.pairwise_filterMap, List.pairwise_iff_getElem]
  constructor
  · rintro h i j hi hj hlt mark hmark later hlater ⟨label, other, rfl, rfl, rfl⟩
    have hdefinition := Event.noteMark?_eq_definition.mp hmark
    have hreference := Event.noteMark?_eq_reference.mp hlater
    have hfirst := h j i label (by rw [List.getElem?_eq_getElem hj, hreference])
      (by rw [List.getElem?_eq_getElem hi, hdefinition])
    omega
  · intro h i j label hreference hdefinition
    obtain ⟨hi, hreference⟩ := List.getElem?_eq_some_iff.mp hreference
    obtain ⟨hj, hdefinition⟩ := List.getElem?_eq_some_iff.mp hdefinition
    by_contra hnot
    rcases Nat.lt_or_eq_of_le (Nat.le_of_not_lt hnot) with hlt | rfl
    · exact h j i hj hi hlt _ (Event.noteMark?_eq_definition.mpr hdefinition) _
        (Event.noteMark?_eq_reference.mpr hreference) (NoteMark.crosses_iff.mpr rfl)
    · -- no event is a reference and begins a definition
      rw [hreference] at hdefinition
      cases hdefinition

/-- What holds of items in pairs holds of related items, if the relation carries it over. -/
theorem pairwise_iff_of_forall₂ {α β : Type} {R : α → β → Prop} {P : α → α → Prop}
    {Q : β → β → Prop} {items : List α} {others : List β} (h : List.Forall₂ R items others)
    (hcarry : ∀ item other, R item other → ∀ item' other', R item' other' →
      (P item item' ↔ Q other other')) :
    items.Pairwise P ↔ others.Pairwise Q := by
  obtain ⟨hlength, hget⟩ := List.forall₂_iff_get.mp h
  rw [List.pairwise_iff_getElem, List.pairwise_iff_getElem]
  constructor
  · intro hitems i j hi hj hlt
    have hi' : i < items.length := hlength ▸ hi
    have hj' : j < items.length := hlength ▸ hj
    exact (hcarry _ _ (hget i hi' hi) _ _ (hget j hj' hj)).mp (hitems i j hi' hj' hlt)
  · intro hothers i j hi hj hlt
    have hi' : i < others.length := hlength ▸ hi
    have hj' : j < others.length := hlength ▸ hj
    exact (hcarry _ _ (hget i hi hi') _ _ (hget j hj hj')).mpr (hothers i j hi' hj' hlt)

/-- References come first in the events of tokens if no definition stands before a reference under
the same name in the tokens. -/
theorem referencesFirst_iff_tokenMarks {tokens : List (Token (List InlineToken))}
    {events : List Event} (h : eventsOfTokens tokens = .ok events) :
    ReferencesFirst events ↔ (tokenMarks tokens).Pairwise fun earlier later =>
      ¬ earlier.Crosses later fun key key' => key.name = key'.name := by
  rw [referencesFirst_iff_noteMarks]
  apply Iff.symm
  apply pairwise_iff_of_forall₂ (marksOf_eventsOfTokens h)
  intro mark label hnamed mark' label' hnamed'
  exact not_congr (hnamed.crosses_iff hnamed')

/-! ## The marks of a document -/

/-- Without definitions, all marks are references. -/
theorem tokenMarks_of_withoutNotes {tokens : List (Token (List InlineToken))}
    (h : WithoutNotes tokens) : tokenMarks tokens = (tokenKeys tokens).map NoteMark.reference := by
  rw [tokenMarks, tokenKeys, List.map_flatMap]
  apply List.flatMap_congr
  intro token htoken
  cases token with
  | inline run => rfl
  | opening construct =>
      cases construct with
      | note key => exact absurd htoken (h key)
      | _ => rfl
  | _ => rfl

/-- The marks of a footnote: its definition, and then the references of its content. -/
theorem tokenMarks_note {note : GatheredNote} (h : WithoutNotes note.content) :
    tokenMarks note.tokens
      = .definition note.key :: (tokenKeys note.content).map NoteMark.reference := by
  have hend : tokenMarks [.closing .note] = [] := rfl
  rw [GatheredNote.tokens, tokenMarks, List.flatMap_cons]
  show [NoteMark.definition note.key] ++ tokenMarks (note.content ++ [Token.closing .note]) = _
  rw [tokenMarks_append, hend, List.append_nil, tokenMarks_of_withoutNotes h]
  rfl

theorem tokenMarks_withNotes {body : List (Token (List InlineToken))} {notes : List GatheredNote}
    (hbody : WithoutNotes body) :
    tokenMarks (withNotes body notes) = (tokenKeys body).map NoteMark.reference ++
      notes.flatMap fun note => tokenMarks note.tokens := by
  have hrest : tokenMarks (.opening .notes :: (notes.flatMap GatheredNote.tokens ++
      [Token.closing .notes])) = notes.flatMap fun note => tokenMarks note.tokens := by
    show tokenMarks (notes.flatMap GatheredNote.tokens ++ [Token.closing .notes]) = _
    rw [tokenMarks_append]
    show tokenMarks (notes.flatMap GatheredNote.tokens) ++ [] = _
    rw [List.append_nil, tokenMarks, List.flatMap_assoc]
    rfl
  rw [withNotes, tokenMarks_append, tokenMarks_of_withoutNotes hbody, hrest]

/-- A reference of a footnote to an earlier one, or to itself, crosses the definition. -/
theorem exists_crosses_iff {note other : GatheredNote} :
    (∃ later ∈ (tokenKeys other.content).map NoteMark.reference,
        (NoteMark.definition note.key).Crosses later fun key key' => key.name = key'.name) ↔
      other.RefersTo note := by
  simp only [List.mem_map, exists_exists_and_eq_and, NoteMark.crosses_iff]
  constructor
  · rintro ⟨key, hkey, hname⟩
    exact ⟨key, hkey, hname.symm⟩
  · rintro ⟨key, hkey, hname⟩
    exact ⟨key, hkey, hname.symm⟩

/-- References of a run do not cross each other. -/
theorem pairwise_references (keys : List NoteKey) :
    (keys.map NoteMark.reference).Pairwise fun earlier later =>
      ¬ earlier.Crosses later fun key key' => key.name = key'.name := by
  rw [List.pairwise_map]
  exact List.pairwise_of_forall fun key _ => NoteMark.not_crosses_of_reference key _

/-- Within a footnote, a definition is crossed if the footnote refers to itself. -/
theorem pairwise_note {note : GatheredNote} (h : WithoutNotes note.content) :
    ((tokenMarks note.tokens).Pairwise fun earlier later =>
      ¬ earlier.Crosses later fun key key' => key.name = key'.name) ↔ ¬ note.RefersTo note := by
  rw [tokenMarks_note h, List.pairwise_cons, ← exists_crosses_iff]
  constructor
  · rintro ⟨hnone, -⟩ ⟨later, hlater, hcross⟩
    exact hnone later hlater hcross
  · intro hnone
    refine ⟨fun later hlater hcross => hnone ⟨later, hlater, hcross⟩, ?_⟩
    exact pairwise_references (tokenKeys note.content)

/-- Between two footnotes, a definition is crossed if the later one refers to the earlier one. -/
theorem across_notes {note other : GatheredNote} (h : WithoutNotes note.content)
    (h' : WithoutNotes other.content) :
    (∀ earlier ∈ tokenMarks note.tokens, ∀ later ∈ tokenMarks other.tokens,
        ¬ earlier.Crosses later fun key key' => key.name = key'.name) ↔ ¬ other.RefersTo note := by
  rw [tokenMarks_note h, tokenMarks_note h', ← exists_crosses_iff]
  constructor
  · rintro hnone ⟨later, hlater, hcross⟩
    exact hnone _ List.mem_cons_self later (List.mem_cons_of_mem _ hlater) hcross
  · intro hnone earlier hearlier later hlater hcross
    rcases List.mem_cons.mp hearlier with rfl | hreference
    · rcases List.mem_cons.mp hlater with rfl | hlater
      · -- a definition is no reference, so nothing is crossed
        obtain ⟨name, third, -, hmark, -⟩ := hcross
        cases hmark
      · exact hnone ⟨later, hlater, hcross⟩
    · obtain ⟨key, -, rfl⟩ := List.mem_map.mp hreference
      exact NoteMark.not_crosses_of_reference key later hcross

/-- No reference follows its definition in a document if no footnote refers to itself or to one
before it. -/
theorem pairwise_withNotes {body : List (Token (List InlineToken))} {notes : List GatheredNote}
    (hbody : WithoutNotes body) (hnotes : ∀ note ∈ notes, WithoutNotes note.content) :
    ((tokenMarks (withNotes body notes)).Pairwise fun earlier later =>
        ¬ earlier.Crosses later fun key key' => key.name = key'.name) ↔
      (∀ note ∈ notes, ¬ note.RefersTo note) ∧
        notes.Pairwise fun earlier later => ¬ later.RefersTo earlier := by
  rw [tokenMarks_withNotes hbody, List.pairwise_append, List.pairwise_flatMap,
    and_iff_right (pairwise_references (tokenKeys body))]
  have hown : (∀ note ∈ notes, (tokenMarks note.tokens).Pairwise fun earlier later =>
      ¬ earlier.Crosses later fun key key' => key.name = key'.name) ↔
      ∀ note ∈ notes, ¬ note.RefersTo note :=
    forall₂_congr fun note hnote => pairwise_note (hnotes note hnote)
  have hacross := List.Pairwise.iff_of_mem fun {note other} hnote hother =>
    across_notes (hnotes note hnote) (hnotes other hother)
  rw [hown, hacross, and_iff_left]
  -- the references of the body cross nothing
  intro mark hmark later _
  obtain ⟨key, -, rfl⟩ := List.mem_map.mp hmark
  exact NoteMark.not_crosses_of_reference key later

/-! ## The parts of the events -/

/-- The events of a footnote: its definition begins, and what is said in it refers to what the
content of the footnote refers to, and defines nothing. -/
def IsPart (note : GatheredNote) (part : List Event) : Prop :=
  ∃ label inner, note.key.name = .ok label ∧ part = .start (.footnoteDefinition label) :: inner ∧
    MarksOf ((tokenKeys note.content).map NoteMark.reference) (noteMarks inner)

theorem exists_parts {notes : List GatheredNote}
    (hnotes : ∀ note ∈ notes, WithoutNotes note.content) :
    ∀ {reading : Reading} {events : List Event},
      reading.events (notes.flatMap GatheredNote.tokens ++ [Token.closing .notes]) = .ok events →
        ∃ parts, events = parts.flatten ∧ List.Forall₂ IsPart notes parts := by
  induction notes with
  | nil =>
      intro reading events h
      cases h
      exact ⟨[], rfl, List.Forall₂.nil⟩
  | cons note rest ih =>
      intro reading events h
      obtain ⟨hnote, hrest⟩ := List.forall_mem_cons.mp hnotes
      rw [List.flatMap_cons, GatheredNote.tokens, List.cons_append, List.cons_append,
        List.append_assoc, Reading.events] at h
      obtain ⟨⟨now, next⟩, hopen, h⟩ := bind_eq_ok_iff.mp h
      obtain ⟨others, hothers, hevents⟩ := bind_eq_ok_iff.mp h
      cases hevents
      obtain ⟨label, hname, hpush⟩ := bind_eq_ok_iff.mp hopen
      cases hpush
      -- the content and the end of the footnote, and then the other footnotes
      obtain ⟨inner, later, last, rfl, hmarks, hlater⟩ :=
        Reading.exists_of_events_append (note.content ++ [Token.closing .note]) hothers
      obtain ⟨parts, rfl, hparts⟩ := ih hrest hlater
      refine ⟨(.start (.footnoteDefinition label) :: inner) :: parts, rfl,
        List.Forall₂.cons ⟨label, inner, hname, rfl, ?_⟩ hparts⟩
      rw [tokenMarks_append, tokenMarks_of_withoutNotes hnote] at hmarks
      have hend : tokenMarks [.closing .note] = [] := rfl
      rw [hend, List.append_nil] at hmarks
      exact hmarks

/-- What the events of a document with footnotes are. -/
structure EndsWithNotes (body : List (Token (List InlineToken))) (notes : List GatheredNote)
    (events : List Event) : Prop where
  /-- First come the events of the body, with its references and no definition, and then a part for
  each footnote. -/
  parts : ∃ front parts, events = front ++ parts.flatten ∧
    MarksOf ((tokenKeys body).map NoteMark.reference) (noteMarks front) ∧
      List.Forall₂ IsPart notes parts
  /-- References stand before definitions unless a footnote refers to itself or to one before it. -/
  ordered : ReferencesFirst events ↔ (∀ note ∈ notes, ¬ note.RefersTo note) ∧
    notes.Pairwise fun earlier later => ¬ later.RefersTo earlier

/-- The events of a document with footnotes are those of its body and of one footnote after the
other. Every reference stands before the definitions of its label exactly if no footnote refers to
itself or to one before it. -/
theorem endsWithNotes_of_events {body : List (Token (List InlineToken))}
    {notes : List GatheredNote} {events : List Event} (hbody : WithoutNotes body)
    (hnotes : ∀ note ∈ notes, WithoutNotes note.content)
    (h : eventsOfTokens (withNotes body notes) = .ok events) :
    EndsWithNotes body notes events := by
  refine ⟨?_, ?_⟩
  · obtain ⟨front, others, next, rfl, hmarks, hothers⟩ :=
      Reading.exists_of_events_append body h
    rw [tokenMarks_of_withoutNotes hbody] at hmarks
    -- the opening of the block that gathers the footnotes has no events
    obtain ⟨⟨now, begun⟩, hopen, hothers⟩ := bind_eq_ok_iff.mp hothers
    cases hopen
    obtain ⟨rest, hrest, hevents⟩ := bind_eq_ok_iff.mp hothers
    cases hevents
    obtain ⟨parts, rfl, hparts⟩ := exists_parts hnotes hrest
    exact ⟨front, parts, rfl, hmarks, hparts⟩
  · rw [referencesFirst_iff_tokenMarks h, pairwise_withNotes hbody hnotes]

/-! ## Two footnotes -/

def sampleKey (label : String) (position : Nat) : NoteKey where
  label := .text label
  id := some (.whole position)

/-- A paragraph with references to two footnotes. -/
def referringBody : List (Token (List InlineToken)) :=
  [.opening (.paragraph false),
   .inline [.text "x", .noteReference (sampleKey "a" 0), .text " y",
     .noteReference (sampleKey "b" 1)],
   .closing (.paragraph false)]

/-- A footnote that is a paragraph. -/
def sampleNote (key : NoteKey) (run : List InlineToken) : GatheredNote where
  key := key
  content := [.opening (.paragraph false), .inline run, .noteAnchor, .closing (.paragraph false)]

/-- Two footnotes that are paragraphs. -/
def sampleNotes (first second : List InlineToken) : List GatheredNote :=
  [sampleNote (sampleKey "a" 0) first, sampleNote (sampleKey "b" 1) second]

/-- Two footnotes, of which the first refers to the second. -/
def forwardNotes : List GatheredNote :=
  sampleNotes [.text "one", .noteReference (sampleKey "b" 1)] [.text "two"]

/-- Two footnotes, of which the second refers to the first. -/
def backwardNotes : List GatheredNote :=
  sampleNotes [.text "one"] [.text "two", .noteReference (sampleKey "a" 0)]

theorem withoutNotes_referringBody : WithoutNotes referringBody := by
  intro key hkey
  simp [referringBody] at hkey

theorem withoutNotes_sampleNotes {first second : List InlineToken} :
    ∀ note ∈ sampleNotes first second, WithoutNotes note.content := by
  intro note hnote key hkey
  simp only [sampleNotes, List.mem_cons, List.not_mem_nil, or_false] at hnote
  rcases hnote with rfl | rfl
  · simp [sampleNote] at hkey
  · simp [sampleNote] at hkey

theorem endsWithNotes_forward :
    ∃ events, eventsOfTokens (withNotes referringBody forwardNotes) = .ok events ∧
      EndsWithNotes referringBody forwardNotes events :=
  ⟨_, rfl, endsWithNotes_of_events withoutNotes_referringBody withoutNotes_sampleNotes rfl⟩

/-- The reference in the second footnote stands after the definition of the first one. -/
theorem references_follow :
    ∃ events, eventsOfTokens (withNotes referringBody backwardNotes) = .ok events ∧
      WithoutNotes referringBody ∧ (∀ note ∈ backwardNotes, WithoutNotes note.content) ∧
      events[6]? = some (.start (.footnoteDefinition "a")) ∧
      events[14]? = some (.footnoteReference "a") ∧ ¬ ReferencesFirst events := by
  refine ⟨_, rfl, withoutNotes_referringBody, withoutNotes_sampleNotes, rfl, rfl, ?_⟩
  intro hfirst
  have hlt := hfirst 14 6 "a" rfl rfl
  omega

end StaticSite.Markdown
