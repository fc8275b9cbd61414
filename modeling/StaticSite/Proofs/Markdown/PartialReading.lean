import StaticSite.Proofs.Markdown.NoteMark
import StaticSite.Proofs.Markdown.TokenForest

/-!
# Tokens read in parts

A list of tokens is read in parts: what the first tokens give, given the tokens that follow them,
and then what the others give, with what is known by then. A token is read exactly if the numbers in
it have values, whatever is known before it and whatever follows it.

## What this module delivers

- `Token.isReadable`, `Reading.isOk_step`: the tokens that are read.
- `Reading.run`, `Reading.run_cons_eq_ok_iff`, `Reading.run_append`: the events of tokens that
  further tokens follow, and what is known behind them.
- `Reading.events_append`, `Reading.exists_run_eq_ok`: tokens whose numbers have values, before
  others.
-/

set_option autoImplicit false

namespace StaticSite.Markdown

open StaticSite.Number

/-! ## Numbers -/

/-- Whether the numbers in a token have values. -/
def Token.isReadable : Token (List InlineToken) → Bool
  | .inline run => (runKeys run).all fun key => key.name.isOk
  | .opening construct => construct.isReadable
  | _ => true

mutual

theorem isOk_events : ∀ (token : InlineToken) (stack : List Tag),
    (token.events stack).isOk = token.keys.all fun key => key.name.isOk
  | .noteReference key, stack => by
      rw [InlineToken.events, InlineToken.keys]
      show _ = (key.name.isOk && true)
      cases key.name <;> rfl
  | .image dest title children, stack => by
      have hchildren := isOk_runEvents children []
      rw [InlineToken.events, InlineToken.keys, ← hchildren]
      cases runEvents [] children <;> rfl
  | .closing _, stack => by cases stack <;> rfl
  | .text _, _ => rfl
  | .special _, _ => rfl
  | .opening _, _ => rfl
  | .softBreak, _ => rfl
  | .hardBreak, _ => rfl
  | .code _, _ => rfl
  | .html _, _ => rfl
  | .unknown, _ => rfl

/-- A run can be read if the positions of the footnotes can that it refers to. -/
theorem isOk_runEvents : ∀ (run : List InlineToken) (stack : List Tag),
    (runEvents stack run).isOk = (runKeys run).all fun key => key.name.isOk
  | [], _ => rfl
  | token :: rest, stack => by
      have htoken := isOk_events token stack
      rw [runEvents, runKeys, List.all_append, ← htoken]
      cases token.events stack with
      | error error => rfl
      | ok read =>
          rw [← isOk_runEvents rest read.2]
          show (runEvents read.2 rest >>= _).isOk = _
          cases runEvents read.2 rest <;> rfl

end

theorem inlineEvents_behind (run : List InlineToken) :
    inlineEvents false run = runEvents [] run := by
  unfold inlineEvents
  split <;> rfl

theorem isOk_inlineEvents (frontOfItem : Bool) (run : List InlineToken) :
    (inlineEvents frontOfItem run).isOk = (runKeys run).all fun key => key.name.isOk := by
  -- a text has no keys, so the keys of the run are those of what follows it
  have htask : ∀ (content : String) (rest : List InlineToken),
      (do return taskTextEvents content ++ (← runEvents [] rest) :
        Except NumberError (List Event)).isOk = (runKeys rest).all fun key => key.name.isOk := by
    intro content rest
    rw [← isOk_runEvents rest []]
    cases runEvents [] rest <;> rfl
  cases frontOfItem with
  | false =>
      rw [inlineEvents_behind]
      exact isOk_runEvents run []
  | true =>
      unfold inlineEvents
      split
      · exact htask _ _
      · exact htask _ _
      · exact isOk_runEvents run []

namespace Reading

variable {reading next : Reading} {events : List Event}

/-- A token is read exactly if its numbers have values. -/
theorem isOk_step (reading : Reading) (token : Token (List InlineToken))
    (rest : List (Token (List InlineToken))) :
    (reading.step token rest).isOk = token.isReadable := by
  cases token with
  | inline run =>
      rw [Token.isReadable, ← isOk_inlineEvents reading.frontOfItem run, step]
      cases inlineEvents reading.frontOfItem run <;> rfl
  | opening construct =>
      cases construct with
      | heading tag =>
          show (headingLevel tag >>= _).isOk = (headingLevel tag).isOk
          cases headingLevel tag <;> rfl
      | orderedList first =>
          show (firstNumber first >>= _).isOk = (firstNumber first).isOk
          cases firstNumber first <;> rfl
      | note key =>
          show (key.name >>= _).isOk = key.name.isOk
          cases key.name <;> rfl
      | paragraph hidden => cases hidden <;> rfl
      | _ => rfl
  | _ => rfl

/-! ## Tokens that others follow -/

/-- The events of tokens that `rest` follows, and what is known behind them. -/
def run (reading : Reading) (rest : List (Token (List InlineToken))) :
    List (Token (List InlineToken)) → Except NumberError (List Event × Reading)
  | [] => .ok ([], reading)
  | token :: more => do
    let (now, next) ← reading.step token (more ++ rest)
    let (later, last) ← next.run rest more
    return (now ++ later, last)

theorem run_cons_eq_ok_iff {token : Token (List InlineToken)}
    {more rest : List (Token (List InlineToken))} {last : Reading} :
    reading.run rest (token :: more) = .ok (events, last) ↔
      ∃ now next later, reading.step token (more ++ rest) = .ok (now, next) ∧
        next.run rest more = .ok (later, last) ∧ events = now ++ later := by
  rw [run, bind_eq_ok_iff]
  constructor
  · rintro ⟨⟨now, next⟩, hnow, hrest⟩
    obtain ⟨⟨later, last'⟩, hlater, hevents⟩ := bind_eq_ok_iff.mp hrest
    cases hevents
    exact ⟨now, next, later, hnow, hlater, rfl⟩
  · rintro ⟨now, next, later, hnow, hlater, rfl⟩
    refine ⟨(now, next), hnow, ?_⟩
    exact bind_eq_ok_iff.mpr ⟨(later, last), hlater, rfl⟩

/-- What tokens give that go on with further tokens is what the first give, and then the others,
read with what is known by then. -/
theorem run_append {more rest : List (Token (List InlineToken))} {last : Reading} :
    ∀ (tokens : List (Token (List InlineToken))) {reading : Reading} {events : List Event},
      reading.run rest (tokens ++ more) = .ok (events, last) →
        ∃ first middle second, reading.run (more ++ rest) tokens = .ok (first, middle) ∧
          middle.run rest more = .ok (second, last) ∧ events = first ++ second
  | [], reading, events, h => ⟨[], reading, events, rfl, h, rfl⟩
  | token :: tokens, reading, events, h => by
      rw [List.cons_append] at h
      obtain ⟨now, next, later, hnow, hlater, rfl⟩ := run_cons_eq_ok_iff.mp h
      obtain ⟨first, middle, second, hfirst, hsecond, rfl⟩ := run_append tokens hlater
      rw [List.append_assoc] at hnow
      refine ⟨now ++ first, middle, second, ?_, hsecond, (List.append_assoc ..).symm⟩
      exact run_cons_eq_ok_iff.mpr ⟨now, next, first, hnow, hfirst, rfl⟩

/-- The events of tokens are those of the first ones and then those of what follows. -/
theorem events_append {more : List (Token (List InlineToken))} :
    ∀ (tokens : List (Token (List InlineToken))) {reading : Reading} {events : List Event},
      reading.run more tokens = .ok (events, next) →
        reading.events (tokens ++ more) = (events ++ ·) <$> next.events more
  | [], reading, events, h => by
      cases h
      rw [List.nil_append]
      cases next.events more <;> rfl
  | token :: tokens, reading, events, h => by
      obtain ⟨now, middle, later, hnow, hlater, rfl⟩ := run_cons_eq_ok_iff.mp h
      rw [List.cons_append, events_cons_of_ok hnow, events_append tokens hlater]
      cases next.events more with
      | error error => rfl
      | ok others => exact congrArg Except.ok (List.append_assoc ..).symm

theorem exists_run_eq_ok (rest : List (Token (List InlineToken))) :
    ∀ (tokens : List (Token (List InlineToken))) (reading : Reading),
      (∀ token ∈ tokens, token.isReadable = true) →
        ∃ events last, reading.run rest tokens = .ok (events, last)
  | [], reading, _ => ⟨[], reading, rfl⟩
  | token :: tokens, reading, h => by
      have htoken : (reading.step token (tokens ++ rest)).isOk = true := by
        rw [isOk_step]
        exact h token List.mem_cons_self
      obtain ⟨⟨now, next⟩, hnow⟩ := exists_ok_of_isOk htoken
      obtain ⟨later, last, hlater⟩ := exists_run_eq_ok rest tokens next
        fun other hother => h other (List.mem_cons_of_mem token hother)
      exact ⟨now ++ later, last, run_cons_eq_ok_iff.mpr ⟨now, next, later, hnow, hlater, rfl⟩⟩

end Reading

end StaticSite.Markdown
