import StaticSite.Proofs.Markdown.PartialReading

/-!
# Task markers

Text at the front of a list item may begin with a box. The box becomes a marker, which stands right
behind the start of its item, and the box is all that is taken out of the text of a document.

What is known while tokens are read is a flag. Here it is told from the tokens that were passed
whether the next run stands at the front of an item, so that nothing that is said of markers is said
about the flag.

## What this module delivers

- `BeginsWithBox`, `taskMarker?_eq_some_iff`: the texts that begin with a box.
- `BoxedItem`: an item whose first run begins with a box.
- `Reading.emits_step`: what one token does.
- `Reading.Reached`, `Reading.Reached.step`, `Reading.Reached.run`: what holds of the events so far.
- `marksTasks_run`: the markers and the text of the events of tokens.
- `converted`: every list of tokens is read up to its end, or up to a number that has no value.
-/

set_option autoImplicit false

namespace StaticSite.Markdown

open StaticSite.Number StaticSite.Text

/-! ## Boxes -/

/-- The text is a box and what follows it: blanks and then `rest`, or nothing at all. -/
def BeginsWithBox (content : List Char) (checked : Bool) (rest : List Char) : Prop :=
  ∃ (mark : Char) (blanks : List Char), content = '[' :: mark :: ']' :: (blanks ++ rest) ∧
    (mark = ' ' ∨ mark = 'x' ∨ mark = 'X') ∧ checked = (mark != ' ') ∧
    (∀ c ∈ blanks, isBlank c = true) ∧ (blanks = [] → rest = []) ∧
    ∀ c ∈ rest.head?, isBlank c = false

theorem dropWhile_blanks {blanks rest : List Char} (hblanks : ∀ c ∈ blanks, isBlank c = true)
    (hrest : ∀ c ∈ rest.head?, isBlank c = false) : (blanks ++ rest).dropWhile isBlank = rest := by
  rw [List.dropWhile_append_of_pos hblanks]
  cases rest with
  | nil => rfl
  | cons c more =>
      have hc : isBlank c = false := hrest c rfl
      rw [List.dropWhile_cons_of_neg (by simp [hc])]

/-- A marker is split off exactly the texts that begin with a box. -/
theorem taskMarker?_eq_some_iff {content rest : List Char} {checked : Bool} :
    taskMarker? content = some (checked, rest) ↔ BeginsWithBox content checked rest := by
  constructor
  · intro h
    unfold taskMarker? at h
    split at h
    · rename_i mark more
      split at h
      · rename_i hbox
        simp only [Bool.and_eq_true, Bool.or_eq_true, decide_eq_true_eq, or_assoc] at hbox
        obtain ⟨hmark, hmore⟩ := hbox
        cases h
        refine ⟨mark, more.takeWhile isBlank, ?_, hmark, rfl, ?_, ?_, ?_⟩
        · rw [List.takeWhile_append_dropWhile]
        · intro c hc
          exact List.mem_takeWhile_imp hc
        · -- a box without blanks behind it ends the text
          intro hnone
          cases more with
          | nil => rfl
          | cons c later =>
              have hc : isBlank c = true := by simpa using hmore
              simp [hc] at hnone
        · intro c hc
          have hfirst := List.head?_dropWhile_not isBlank more
          rw [Option.mem_def.mp hc] at hfirst
          simpa using hfirst
      · cases h
    · cases h
  · rintro ⟨mark, blanks, rfl, hmark, rfl, hblanks, hnone, hrest⟩
    have hbehind : (blanks ++ rest).head?.all isBlank = true := by
      cases blanks with
      | nil =>
          rw [hnone rfl]
          rfl
      | cons c more => simpa using hblanks c List.mem_cons_self
    have hmarks : (mark = ' ' || mark = 'x' || mark = 'X') = true := by
      simpa [or_assoc] using hmark
    rw [taskMarker?, if_pos (by rw [hmarks, hbehind]; rfl), dropWhile_blanks hblanks hrest]

/-- A text without the box that it may begin with. -/
def withoutBox (content : List Char) : List Char :=
  ((taskMarker? content).map Prod.snd).getD content

/-! ## The front of an item -/

/-- Whether a run stands at the front of a list item, given the tokens before it, last one first:
an item has opened, and nothing but paragraphs since. -/
def standsAtFront : List (Token (List InlineToken)) → Bool
  | .opening .item :: _ => true
  | .opening (.paragraph _) :: passed => standsAtFront passed
  | _ => false

theorem standsAtFront_cons (token : Token (List InlineToken))
    (passed : List (Token (List InlineToken))) :
    standsAtFront (token :: passed) = Reading.fronts (standsAtFront passed) token := by
  cases token with
  | opening construct => cases construct <;> rfl
  | _ => rfl

/-! ## Text -/

/-- The text that an event carries. -/
def Event.shownText : Event → List Char
  | .text content => content.toList
  | _ => []

/-- The text of events. -/
def eventText (events : List Event) : List Char :=
  events.flatMap Event.shownText

theorem eventText_append (events more : List Event) :
    eventText (events ++ more) = eventText events ++ eventText more :=
  List.flatMap_append

mutual

/-- The text written in an inline token; the text of an image is written in it. -/
def InlineToken.writtenText : InlineToken → List Char
  | .text content => content.toList
  | .special content => content.toList
  | .image _ _ children => runText children
  | _ => []

/-- The text written in a run. -/
def runText : List InlineToken → List Char
  | [] => []
  | token :: rest => token.writtenText ++ runText rest

end

/-- The content of a text, written plainly or with an escape. -/
def InlineToken.textContent? : InlineToken → Option String
  | .text content => some content
  | .special content => some content
  | _ => none

/-- The text of a run at the front of an item: the run's, without a box at its beginning. -/
def frontText : List InlineToken → List Char
  | [] => []
  | child :: rest =>
    match child.textContent? with
    | some content => withoutBox content.toList ++ runText rest
    | none => child.writtenText ++ runText rest

/-- The text of a token, given whether a run would stand at the front of an item. -/
def Token.writtenText (atFront : Bool) : Token (List InlineToken) → List Char
  | .inline run => if atFront then frontText run else runText run
  | .fence _ content => content.toList
  | .codeBlock content => content.toList
  | _ => []

/-- The text of tokens, given the tokens passed before them, last one first. -/
def textBehind (passed : List (Token (List InlineToken))) :
    List (Token (List InlineToken)) → List Char
  | [] => []
  | token :: rest => token.writtenText (standsAtFront passed) ++ textBehind (token :: passed) rest

/-- The event of a text that is not empty. -/
theorem eventText_text (content : String) :
    eventText (if content.isEmpty then [] else [.text content]) = content.toList := by
  split
  · rename_i h
    rw [String.isEmpty_iff.mp h]
    rfl
  · exact List.append_nil content.toList

/-! ## Markers -/

/-- Whether an event is the marker of a task. -/
def Event.isTaskMarker : Event → Bool
  | .taskMarker _ => true
  | _ => false

/-- No event is a marker. -/
def Unmarked (events : List Event) : Prop :=
  ∀ event ∈ events, event.isTaskMarker = false

theorem Unmarked.nil : Unmarked [] := by
  intro event h
  cases h

theorem Unmarked.single {event : Event} (h : event.isTaskMarker = false) : Unmarked [event] := by
  intro other hother
  rw [List.mem_singleton.mp hother]
  exact h

theorem Unmarked.append {events more : List Event} (h : Unmarked events) (h' : Unmarked more) :
    Unmarked (events ++ more) := by
  intro event hevent
  rcases List.mem_append.mp hevent with hfirst | hsecond
  · exact h event hfirst
  · exact h' event hsecond

theorem unmarked_text (content : String) :
    Unmarked (if content.isEmpty then [] else [.text content]) := by
  split
  · exact Unmarked.nil
  · exact Unmarked.single rfl

/-! ## Inline content -/

/-- Events carry a text and no marker. -/
structure Carries (text : List Char) (events : List Event) : Prop where
  text_eq : eventText events = text
  unmarked : Unmarked events

theorem Carries.nil : Carries [] [] :=
  ⟨rfl, Unmarked.nil⟩

theorem Carries.append {text more : List Char} {events others : List Event}
    (h : Carries text events) (h' : Carries more others) :
    Carries (text ++ more) (events ++ others) :=
  ⟨by rw [eventText_append, h.text_eq, h'.text_eq], h.unmarked.append h'.unmarked⟩

theorem carries_text (content : String) :
    Carries content.toList (if content.isEmpty then [] else [.text content]) :=
  ⟨eventText_text content, unmarked_text content⟩

/-- An event without text that is no marker. -/
theorem Carries.single {event : Event} (htext : event.shownText = [])
    (hmarker : event.isTaskMarker = false) : Carries [] [event] :=
  ⟨by rw [eventText, List.flatMap_singleton, htext], Unmarked.single hmarker⟩

/-- Events between the start and the end of a tag. -/
theorem Carries.tagged {text : List Char} {events : List Event} (tag : Tag)
    (h : Carries text events) : Carries text (.start tag :: events ++ [.stop tag]) := by
  have hstart : Carries [] [Event.start tag] := Carries.single rfl rfl
  have hstop : Carries [] [Event.stop tag] := Carries.single rfl rfl
  have hwhole := (hstart.append h).append hstop
  rw [List.append_nil, List.nil_append] at hwhole
  exact hwhole

mutual

theorem carries_token : ∀ (token : InlineToken) (stack stack' : List Tag) (events : List Event),
    token.events stack = .ok (events, stack') → Carries token.writtenText events
  | .text content, _, _, _, h => by
      cases h
      exact carries_text content
  | .special content, _, _, _, h => by
      cases h
      exact carries_text content
  | .noteReference key, stack, stack', events, h => by
      rw [InlineToken.events, bind_eq_ok_iff] at h
      obtain ⟨label, -, hevents⟩ := h
      cases hevents
      exact Carries.single rfl rfl
  | .image dest title children, stack, stack', events, h => by
      rw [InlineToken.events] at h
      obtain ⟨inner, hinner, hevents⟩ := bind_eq_ok_iff.mp h
      cases hevents
      exact (carries_run children [] inner hinner).tagged _
  | .opening _, _, _, _, h => by
      cases h
      exact Carries.single rfl rfl
  | .closing _, stack, _, _, h => by
      cases stack with
      | nil => cases h; exact Carries.nil
      | cons tag rest => cases h; exact Carries.single rfl rfl
  | .softBreak, _, _, _, h => by cases h; exact Carries.single rfl rfl
  | .hardBreak, _, _, _, h => by cases h; exact Carries.single rfl rfl
  | .code _, _, _, _, h => by cases h; exact Carries.single rfl rfl
  | .html _, _, _, _, h => by cases h; exact Carries.single rfl rfl
  | .unknown, _, _, _, h => by cases h; exact Carries.nil

/-- The events of a run carry its text, and none of them is a marker. -/
theorem carries_run : ∀ (run : List InlineToken) (stack : List Tag) (events : List Event),
    runEvents stack run = .ok events → Carries (runText run) events
  | [], _, _, h => by
      cases h
      exact Carries.nil
  | token :: rest, stack, events, h => by
      rw [runEvents] at h
      obtain ⟨⟨first, stack'⟩, hfirst, hrest⟩ := bind_eq_ok_iff.mp h
      obtain ⟨others, hothers, hevents⟩ := bind_eq_ok_iff.mp hrest
      cases hevents
      rw [runText]
      exact (carries_token token stack stack' first hfirst).append
        (carries_run rest stack' others hothers)

end

/-- The marker at the front of a run, if there is one. -/
def markerOf : Option Bool → List Event
  | some checked => [.taskMarker checked]
  | none => []

theorem taskTextEvents_eq (content : String) : ∃ events,
    taskTextEvents content = markerOf ((taskMarker? content.toList).map Prod.fst) ++ events ∧
      Carries (withoutBox content.toList) events := by
  unfold taskTextEvents withoutBox
  cases taskMarker? content.toList with
  | none => exact ⟨_, rfl, carries_text content⟩
  | some found =>
      obtain ⟨checked, rest⟩ := found
      refine ⟨_, rfl, ?_⟩
      cases rest with
      | nil => exact Carries.nil
      | cons c more =>
          constructor
          · show (String.ofList (c :: more)).toList ++ [] = c :: more
            rw [String.toList_ofList, List.append_nil]
          · exact Unmarked.single rfl

/-- The box that a run begins with. -/
def runBox? : List InlineToken → Option Bool
  | [] => none
  | child :: _ => child.textContent?.bind fun content =>
    (taskMarker? content.toList).map Prod.fst

/-- A run at the front of an item gives the marker of its box, and then the rest of its text. -/
theorem inlineEvents_front {run : List InlineToken} {events : List Event}
    (h : inlineEvents true run = .ok events) : ∃ others,
      events = markerOf (runBox? run) ++ others ∧ Carries (frontText run) others := by
  -- text and text with an escape are the children that a box may begin
  have htask : ∀ (content : String) (rest : List InlineToken),
      (do return taskTextEvents content ++ (← runEvents [] rest)) = Except.ok events →
        ∃ others, events = markerOf ((taskMarker? content.toList).map Prod.fst) ++ others ∧
          Carries (withoutBox content.toList ++ runText rest) others := by
    intro content rest hread
    obtain ⟨later, hlater, hevents⟩ := bind_eq_ok_iff.mp hread
    cases hevents
    obtain ⟨first, hfirst, hcarries⟩ := taskTextEvents_eq content
    refine ⟨first ++ later, ?_, hcarries.append (carries_run rest [] later hlater)⟩
    rw [hfirst, List.append_assoc]
  unfold inlineEvents at h
  split at h
  · rename_i content rest
    exact htask content rest h
  · rename_i content rest
    exact htask content rest h
  · rename_i htext hspecial
    have hcarries := carries_run run [] events h
    cases run with
    | nil => exact ⟨events, rfl, hcarries⟩
    | cons child rest =>
        have hnone : child.textContent? = none := by
          cases child with
          | text content => exact absurd rfl (htext content rest)
          | special content => exact absurd rfl (hspecial content rest)
          | _ => rfl
        refine ⟨events, by rw [runBox?, hnone]; rfl, ?_⟩
        rw [frontText, hnone]
        exact hcarries

/-! ## Events behind the start of an item -/

/-- Events that end with the start of an item and nothing but starts of paragraphs behind it. -/
def EndsAtItem (events : List Event) : Prop :=
  ∃ earlier paragraphs, events = earlier ++ .start .item :: paragraphs ∧
    ∀ event ∈ paragraphs, event = .start .paragraph

theorem endsAtItem_item (events : List Event) : EndsAtItem (events ++ [.start .item]) := by
  refine ⟨events, [], rfl, ?_⟩
  intro event h
  cases h

theorem EndsAtItem.paragraph {events : List Event} (h : EndsAtItem events) :
    EndsAtItem (events ++ [.start .paragraph]) := by
  obtain ⟨earlier, paragraphs, rfl, hparagraphs⟩ := h
  refine ⟨earlier, paragraphs ++ [.start .paragraph], by simp, ?_⟩
  intro event hevent
  rcases List.mem_append.mp hevent with hfirst | hlast
  · exact hparagraphs event hfirst
  · exact List.mem_singleton.mp hlast

/-- The last event is the start of the item, or a start of a paragraph behind it. -/
theorem endsAtItem_concat {events : List Event} {event : Event}
    (h : EndsAtItem (events ++ [event])) :
    event = .start .item ∨ event = .start .paragraph ∧ EndsAtItem events := by
  obtain ⟨earlier, paragraphs, hevents, hparagraphs⟩ := h
  rcases List.eq_nil_or_concat paragraphs with rfl | ⟨others, last, rfl⟩
  · left
    exact (List.append_inj' hevents rfl).2 |> List.singleton_inj.mp
  · right
    have hsplit : events ++ [event] = (earlier ++ .start .item :: others) ++ [last] := by
      rw [hevents]
      simp
    obtain ⟨hfirst, hlast⟩ := List.append_inj' hsplit rfl
    have hevent : event = last := List.singleton_inj.mp hlast
    refine ⟨?_, earlier, others, hfirst, ?_⟩
    · rw [hevent]
      exact hparagraphs last (by simp)
    · intro other hother
      exact hparagraphs other (by simp [hother])

/-- The item that some events end at stands behind every event that is no start of an item or a
paragraph. -/
theorem EndsAtItem.behind {front : List Event} {event : Event} (hitem : event ≠ .start .item)
    (hparagraph : event ≠ .start .paragraph) (between : List Event) :
    EndsAtItem (front ++ event :: between) → EndsAtItem between := by
  induction between using List.reverseRecOn with
  | nil =>
      intro h
      rcases endsAtItem_concat h with hevent | ⟨hevent, -⟩
      · exact absurd hevent hitem
      · exact absurd hevent hparagraph
  | append_singleton between last ih =>
      intro h
      rw [← List.cons_append, ← List.append_assoc] at h
      rcases endsAtItem_concat h with rfl | ⟨rfl, hbefore⟩
      · exact endsAtItem_item between
      · exact (ih hbefore).paragraph

/-- Every marker stands behind the start of an item. -/
def MarkedBehindItems (events : List Event) : Prop :=
  ∀ front checked behind, events = front ++ .taskMarker checked :: behind → EndsAtItem front

theorem MarkedBehindItems.nil : MarkedBehindItems [] := by
  intro front checked behind h
  simp at h

theorem MarkedBehindItems.concat {events : List Event} {event : Event}
    (h : MarkedBehindItems events) (hevent : event.isTaskMarker = true → EndsAtItem events) :
    MarkedBehindItems (events ++ [event]) := by
  intro front checked behind hsplit
  rcases List.eq_nil_or_concat behind with rfl | ⟨others, last, rfl⟩
  · obtain ⟨hfront, hlast⟩ := List.append_inj' hsplit rfl
    have hmarker : event = .taskMarker checked := List.singleton_inj.mp hlast
    rw [← hfront]
    exact hevent (by rw [hmarker]; rfl)
  · have hshorter : events ++ [event] = (front ++ .taskMarker checked :: others) ++ [last] := by
      rw [hsplit]
      simp
    exact h front checked others (List.append_inj' hshorter rfl).1

theorem MarkedBehindItems.append {events more : List Event} (h : MarkedBehindItems events)
    (hmore : Unmarked more) : MarkedBehindItems (events ++ more) := by
  induction more generalizing events with
  | nil =>
      rw [List.append_nil]
      exact h
  | cons event rest ih =>
      have hevent : event.isTaskMarker = false := hmore event List.mem_cons_self
      have hfirst : MarkedBehindItems (events ++ [event]) := by
        apply h.concat
        intro hmarker
        rw [hevent] at hmarker
        cases hmarker
      rw [List.append_cons]
      exact ih hfirst fun other hother => hmore other (List.mem_cons_of_mem event hother)

/-! ## Tokens -/

/-- The box that a token begins with, given whether a run would stand at the front of an item. -/
def Token.box? (atFront : Bool) : Token (List InlineToken) → Option Bool
  | .inline run => if atFront then runBox? run else none
  | _ => none

namespace Reading

variable {reading next : Reading} {events : List Event}

/-- What one token does: the flag tells where the next run stands, and the events are the marker of
the token's box and then the rest of its text. -/
structure Emits (reading : Reading) (token : Token (List InlineToken)) (events : List Event)
    (next : Reading) : Prop where
  flag : next.frontOfItem = fronts reading.frontOfItem token
  events_eq : ∃ others, events = markerOf (token.box? reading.frontOfItem) ++ others ∧
    Carries (token.writtenText reading.frontOfItem) others

theorem emits_pop (reading : Reading) :
    reading.pop.2.frontOfItem = reading.frontOfItem ∧ Carries [] reading.pop.1 := by
  unfold pop
  split
  · exact ⟨rfl, Carries.nil⟩
  · exact ⟨rfl, Carries.single rfl rfl⟩

theorem emits_closeConstruct (name : ConstructName) (reading : Reading) :
    (reading.closeConstruct name).2.frontOfItem = reading.frontOfItem ∧
      Carries [] (reading.closeConstruct name).1 := by
  unfold closeConstruct
  split
  · exact ⟨rfl, Carries.nil⟩
  · exact ⟨rfl, Carries.nil⟩
  · split
    · exact ⟨rfl, Carries.nil⟩
    · exact emits_pop reading
  · exact ⟨rfl, Carries.nil⟩
  · split
    · exact ⟨rfl, Carries.nil⟩
    · exact emits_pop { reading with inTableHead := false }
  · exact emits_pop reading

theorem emits_openConstruct {construct : Construct} {rest : List (Token (List InlineToken))}
    (h : reading.openConstruct construct rest = .ok (events, next)) :
    next.frontOfItem = reading.frontOfItem ∧ Carries [] events := by
  cases construct with
  | heading tag =>
      obtain ⟨level, -, hevents⟩ := bind_eq_ok_iff.mp h
      cases hevents
      exact ⟨rfl, Carries.single rfl rfl⟩
  | orderedList first =>
      obtain ⟨number, -, hevents⟩ := bind_eq_ok_iff.mp h
      cases hevents
      exact ⟨rfl, Carries.single rfl rfl⟩
  | note key =>
      obtain ⟨label, -, hevents⟩ := bind_eq_ok_iff.mp h
      cases hevents
      exact ⟨rfl, Carries.single rfl rfl⟩
  | paragraph hidden =>
      cases hidden with
      | true => cases h; exact ⟨rfl, Carries.nil⟩
      | false => cases h; exact ⟨rfl, Carries.single rfl rfl⟩
  | tableRow =>
      have hrow := Except.ok.inj h
      split at hrow
      · cases hrow; exact ⟨rfl, Carries.nil⟩
      · cases hrow; exact ⟨rfl, Carries.single rfl rfl⟩
  | tableBody => cases h; exact ⟨rfl, Carries.nil⟩
  | notes => cases h; exact ⟨rfl, Carries.nil⟩
  | definition label => cases h; exact ⟨rfl, Carries.nil⟩
  | _ => cases h; exact ⟨rfl, Carries.single rfl rfl⟩

theorem Emits.of_carries {token : Token (List InlineToken)}
    (hflag : next.frontOfItem = fronts reading.frontOfItem token)
    (hbox : token.box? reading.frontOfItem = none)
    (hcarries : Carries (token.writtenText reading.frontOfItem) events) :
    reading.Emits token events next :=
  ⟨hflag, events, by rw [hbox]; rfl, hcarries⟩

theorem emits_step {token : Token (List InlineToken)} {rest : List (Token (List InlineToken))}
    (h : reading.step token rest = .ok (events, next)) : reading.Emits token events next := by
  cases token with
  | inline run =>
      obtain ⟨found, hfound, hevents⟩ := bind_eq_ok_iff.mp h
      cases hevents
      cases hfront : reading.frontOfItem with
      | true =>
          rw [hfront] at hfound
          refine ⟨rfl, ?_⟩
          rw [Token.box?, Token.writtenText, hfront]
          exact inlineEvents_front hfound
      | false =>
          rw [hfront, inlineEvents_behind] at hfound
          refine Emits.of_carries rfl ?_ ?_
          · rw [Token.box?, hfront]
            rfl
          · rw [Token.writtenText, hfront]
            exact carries_run run [] _ hfound
  | opening construct =>
      obtain ⟨hflag, hcarries⟩ := emits_openConstruct h
      exact Emits.of_carries hflag rfl hcarries
  | closing name =>
      have hclosed := emits_closeConstruct name
        { reading with frontOfItem := fronts reading.frontOfItem (.closing name) }
      rw [Except.ok.inj h] at hclosed
      exact Emits.of_carries hclosed.1 rfl hclosed.2
  | fence info content =>
      cases h
      exact Emits.of_carries rfl rfl ((carries_text content).tagged _)
  | codeBlock content =>
      cases h
      exact Emits.of_carries rfl rfl ((carries_text content).tagged _)
  | rule => cases h; exact Emits.of_carries rfl rfl (Carries.single rfl rfl)
  | html content => cases h; exact Emits.of_carries rfl rfl (Carries.single rfl rfl)
  | noteAnchor => cases h; exact Emits.of_carries rfl rfl Carries.nil
  | stray name => cases h; exact Emits.of_carries rfl rfl Carries.nil

/-! ## What holds of the events -/

/-- What holds of the events of the tokens that were passed, last one first. -/
structure Reached (passed : List (Token (List InlineToken))) (events : List Event)
    (reading : Reading) : Prop where
  flag : reading.frontOfItem = standsAtFront passed
  front : standsAtFront passed = true → EndsAtItem events
  marked : MarkedBehindItems events

theorem reached_nil : Reached [] [] {} where
  flag := rfl
  front := by
    intro h
    cases h
  marked := MarkedBehindItems.nil

/-- At the front of an item, the events still end at its start. -/
theorem endsAtItem_step {passed rest : List (Token (List InlineToken))}
    {token : Token (List InlineToken)} {now : List Event}
    (hpassed : standsAtFront passed = true → EndsAtItem events)
    (h : reading.step token rest = .ok (now, next))
    (hfront : standsAtFront (token :: passed) = true) : EndsAtItem (events ++ now) := by
  cases token with
  | opening construct =>
      cases construct with
      | item =>
          cases h
          exact endsAtItem_item events
      | paragraph hidden =>
          have hends : EndsAtItem events := hpassed hfront
          cases hidden with
          | true =>
              cases h
              rw [List.append_nil]
              exact hends
          | false =>
              cases h
              exact hends.paragraph
      | _ => cases hfront
  | _ => cases hfront

/-- A token keeps every marker behind the start of an item. -/
theorem Reached.step {passed rest : List (Token (List InlineToken))}
    {token : Token (List InlineToken)} {now : List Event} (hreached : Reached passed events reading)
    (h : reading.step token rest = .ok (now, next)) :
    Reached (token :: passed) (events ++ now) next := by
  obtain ⟨hflag, others, hothers, hcarries⟩ := emits_step h
  refine ⟨?_, endsAtItem_step hreached.front h, ?_⟩
  · rw [hflag, hreached.flag, standsAtFront_cons]
  · rw [hothers, ← List.append_assoc]
    apply MarkedBehindItems.append _ hcarries.unmarked
    cases hbox : token.box? reading.frontOfItem with
    | none =>
        rw [markerOf, List.append_nil]
        exact hreached.marked
    | some checked =>
        -- only a run at the front of an item has a box
        have hfront : standsAtFront passed = true := by
          rw [← hreached.flag]
          cases token with
          | inline run =>
              cases hflag : reading.frontOfItem with
              | true => rfl
              | false => rw [Token.box?, hflag] at hbox; cases hbox
          | _ => cases hbox
        exact hreached.marked.concat fun _ => hreached.front hfront

theorem Reached.run {rest : List (Token (List InlineToken))} {last : Reading} :
    ∀ (tokens : List (Token (List InlineToken))) {passed : List (Token (List InlineToken))}
      {reading : Reading} {events more : List Event}, Reached passed events reading →
        reading.run rest tokens = .ok (more, last) →
          Reached (tokens.reverse ++ passed) (events ++ more) last
  | [], passed, reading, events, more, hreached, h => by
      cases h
      rw [List.append_nil]
      exact hreached
  | token :: tokens, passed, reading, events, more, hreached, h => by
      obtain ⟨now, next, later, hnow, hlater, rfl⟩ := run_cons_eq_ok_iff.mp h
      have hrest := Reached.run tokens (hreached.step hnow) hlater
      rw [List.reverse_cons, List.append_assoc, List.singleton_append, ← List.append_assoc events]
      exact hrest

/-- The events of tokens carry the text of the tokens. -/
theorem eventText_run {rest : List (Token (List InlineToken))} {last : Reading} :
    ∀ (tokens : List (Token (List InlineToken))) {passed : List (Token (List InlineToken))}
      {reading : Reading} {events : List Event}, reading.frontOfItem = standsAtFront passed →
        reading.run rest tokens = .ok (events, last) → eventText events = textBehind passed tokens
  | [], _, _, _, _, h => by
      cases h
      rfl
  | token :: tokens, passed, reading, events, hflag, h => by
      obtain ⟨now, next, later, hnow, hlater, rfl⟩ := run_cons_eq_ok_iff.mp h
      obtain ⟨hnext, others, rfl, hcarries⟩ := emits_step hnow
      have hmarker : eventText (markerOf (token.box? reading.frontOfItem)) = [] := by
        cases token.box? reading.frontOfItem <;> rfl
      have hlaterText : eventText later = textBehind (token :: passed) tokens := by
        apply eventText_run tokens _ hlater
        rw [hnext, hflag, standsAtFront_cons]
      rw [eventText_append, eventText_append, hmarker, hcarries.text_eq, hlaterText, textBehind,
        hflag]
      rfl

end Reading

/-! ## Items that begin with a box -/

/-- An item, the paragraphs that open behind it, each hidden or not, and a run whose first child is
a text that begins with a box. -/
structure BoxedItem where
  paragraphs : List Bool
  child : InlineToken
  children : List InlineToken
  content : String
  checked : Bool
  rest : List Char
  hasContent : child.textContent? = some content
  hasBox : BeginsWithBox content.toList checked rest

namespace BoxedItem

/-- The tokens of the item, up to the run. -/
def tokens (item : BoxedItem) : List (Token (List InlineToken)) :=
  .opening .item :: (item.paragraphs.map fun hidden => .opening (.paragraph hidden)) ++
    [.inline (item.child :: item.children)]

/-- The events of the item, up to its marker. -/
def events (item : BoxedItem) : List Event :=
  .start .item :: List.replicate (item.paragraphs.count false) (.start .paragraph) ++
    [.taskMarker item.checked]

end BoxedItem

theorem run_paragraphs {rest : List (Token (List InlineToken))} {next : Reading} :
    ∀ (paragraphs : List Bool) {reading : Reading} {events : List Event},
      reading.frontOfItem = true →
        reading.run rest (paragraphs.map fun hidden => .opening (.paragraph hidden))
          = .ok (events, next) →
        next.frontOfItem = true ∧
          events = List.replicate (paragraphs.count false) (.start .paragraph)
  | [], reading, events, hfront, h => by
      cases h
      exact ⟨hfront, rfl⟩
  | hidden :: paragraphs, reading, events, hfront, h => by
      rw [List.map_cons] at h
      obtain ⟨now, middle, later, hnow, hlater, rfl⟩ := Reading.run_cons_eq_ok_iff.mp h
      have hmiddle : middle.frontOfItem = true := by
        rw [(Reading.emits_step hnow).flag, Reading.fronts, hfront]
      obtain ⟨hnext, rfl⟩ := run_paragraphs paragraphs hmiddle hlater
      refine ⟨hnext, ?_⟩
      cases hidden with
      | true =>
          cases hnow
          rfl
      | false =>
          cases hnow
          rw [List.count_cons_self, List.replicate_succ]
          rfl

theorem runBox?_of_boxedItem (item : BoxedItem) :
    runBox? (item.child :: item.children) = some item.checked := by
  rw [runBox?, item.hasContent, Option.bind_some, taskMarker?_eq_some_iff.mpr item.hasBox]
  rfl

/-- An item that begins with a box gives its marker. -/
theorem run_boxedItem (item : BoxedItem) {rest : List (Token (List InlineToken))}
    {reading next : Reading} {events : List Event}
    (h : reading.run rest item.tokens = .ok (events, next)) :
    ∃ behind, events = item.events ++ behind := by
  rw [BoxedItem.tokens, List.cons_append] at h
  obtain ⟨now, afterItem, later, hnow, hlater, rfl⟩ := Reading.run_cons_eq_ok_iff.mp h
  obtain ⟨starts, afterStarts, second, hstarts, hsecond, rfl⟩ :=
    Reading.run_append (item.paragraphs.map fun hidden => .opening (.paragraph hidden)) hlater
  have hitem : afterItem.frontOfItem = true := (Reading.emits_step hnow).flag
  obtain ⟨hfront, rfl⟩ := run_paragraphs item.paragraphs hitem hstarts
  cases hnow
  obtain ⟨found, last, others, hfound, hothers, rfl⟩ := Reading.run_cons_eq_ok_iff.mp hsecond
  obtain ⟨-, text, rfl, -⟩ := Reading.emits_step hfound
  refine ⟨text ++ others, ?_⟩
  rw [Token.box?, if_pos hfront, runBox?_of_boxedItem, BoxedItem.events, markerOf]
  simp

/-! ## Markers and text of documents -/

/-- What holds of the events of tokens, which `following` follows. -/
structure MarksTasks (tokens following : List (Token (List InlineToken))) (events : List Event) :
    Prop where
  /-- A marker stands behind the start of an item, with nothing between but starts of
  paragraphs. -/
  behindItem : ∀ front checked behind, events = front ++ .taskMarker checked :: behind →
    EndsAtItem front
  /-- The item of a second marker has begun behind the first. -/
  once : ∀ front checked between checked' behind,
    events = front ++ .taskMarker checked :: (between ++ .taskMarker checked' :: behind) →
      EndsAtItem between
  /-- An item that begins with a box has its marker. -/
  marked : ∀ before (item : BoxedItem) after, tokens = before ++ (item.tokens ++ after) →
    ∃ front reading behind,
      ({} : Reading).run (item.tokens ++ after ++ following) before = .ok (front, reading) ∧
        events = front ++ (item.events ++ behind)
  /-- The text is that of the tokens, without the boxes at the front of items. -/
  text : eventText events = textBehind [] tokens

theorem marksTasks_run {tokens following : List (Token (List InlineToken))} {events : List Event}
    {last : Reading} (h : ({} : Reading).run following tokens = .ok (events, last)) :
    MarksTasks tokens following events where
  behindItem := by
    have hreached := Reading.Reached.run tokens Reading.reached_nil h
    exact hreached.marked
  once := by
    intro front checked between checked' behind hsplit
    have hreached := Reading.Reached.run tokens Reading.reached_nil h
    have hends : EndsAtItem (front ++ .taskMarker checked :: between) := by
      apply hreached.marked _ checked' behind
      rw [List.nil_append, hsplit]
      simp
    apply EndsAtItem.behind _ _ between hends
    · intro hevent
      cases hevent
    · intro hevent
      cases hevent
  marked := by
    intro before item after hsplit
    rw [hsplit] at h
    obtain ⟨front, reading, second, hfront, hsecond, rfl⟩ := Reading.run_append before h
    obtain ⟨first, middle, others, hfirst, -, rfl⟩ := Reading.run_append item.tokens hsecond
    obtain ⟨behind, rfl⟩ := run_boxedItem item hfirst
    exact ⟨front, reading, behind ++ others, hfront, by rw [List.append_assoc]⟩
  text := Reading.eventText_run tokens rfl h

/-- How the events of a list of tokens come out. -/
inductive Converted (tokens : List (Token (List InlineToken))) : Prop where
  /-- All numbers have values, and all tokens are read. -/
  | whole {events : List Event} (readable : ∀ token ∈ tokens, token.isReadable = true)
      (read : eventsOfTokens tokens = .ok events) (marks : MarksTasks tokens [] events)
  /-- The tokens are read up to the first one with a number that has no value. -/
  | upTo {front rest : List (Token (List InlineToken))} {token : Token (List InlineToken)}
      {events : List Event} {reading : Reading} {error : NumberError}
      (split : tokens = front ++ token :: rest) (unreadable : token.isReadable = false)
      (stops : eventsOfTokens tokens = .error error)
      (read : ({} : Reading).run (token :: rest) front = .ok (events, reading))
      (marks : MarksTasks front (token :: rest) events)

/-- Of every list of tokens, what is read has its markers at the items that begin with a box, and
all of the text but the boxes. -/
theorem converted (tokens : List (Token (List InlineToken))) : Converted tokens := by
  have hsplit := List.takeWhile_append_dropWhile (p := Token.isReadable) (l := tokens)
  have hreadable : ∀ token ∈ tokens.takeWhile Token.isReadable, token.isReadable = true := by
    intro token htoken
    exact List.mem_takeWhile_imp htoken
  have hfirst := List.head?_dropWhile_not Token.isReadable tokens
  obtain ⟨events, reading, hread⟩ := Reading.exists_run_eq_ok (tokens.dropWhile Token.isReadable)
    (tokens.takeWhile Token.isReadable) {} hreadable
  have hevents := Reading.events_append _ hread
  rw [hsplit] at hevents
  cases hrest : tokens.dropWhile Token.isReadable with
  | nil =>
      rw [hrest, List.append_nil] at hsplit
      rw [hrest] at hread hevents
      rw [hsplit] at hread hreadable
      refine Converted.whole hreadable ?_ (marksTasks_run hread)
      rw [eventsOfTokens, hevents]
      exact congrArg Except.ok (List.append_nil events)
  | cons token rest =>
      rw [hrest] at hsplit hread hevents hfirst
      have htoken : token.isReadable = false := by simpa using hfirst
      cases hstep : reading.step token rest with
      | ok found =>
          have hok : (reading.step token rest).isOk = token.isReadable :=
            Reading.isOk_step reading token rest
          rw [hstep, htoken] at hok
          cases hok
      | error error =>
          have hstops : eventsOfTokens tokens = .error error := by
            rw [eventsOfTokens, hevents, Reading.events_cons_of_error hstep]
            rfl
          exact Converted.upTo hsplit.symm htoken hstops hread (marksTasks_run hread)

/-- A box is no marker where a quote has opened between the item and the box. -/
example : eventsOfTokens [.opening .item, .opening (.paragraph false), .inline [.text "[x] a"],
    .opening .item, .opening .blockQuote, .opening (.paragraph true), .inline [.text "[x] b"]] =
      .ok [.start .item, .start .paragraph, .taskMarker true, .text "a",
        .start .item, .start .blockQuote, .text "[x] b"] := by
  rfl

end StaticSite.Markdown
