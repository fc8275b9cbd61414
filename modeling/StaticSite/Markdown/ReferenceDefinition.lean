import StaticSite.Markdown.BlockStart

/-!
# Reference definitions

A line that begins with a label and a colon may define a reference. The definition may go on over
further lines of what would otherwise be a paragraph, so lines are taken in one at a time, as far as
the definition needs them.
-/

set_option autoImplicit false

namespace StaticSite.Markdown

/-- The lines taken in so far, and the line that comes next. -/
structure Intake where
  text : Source
  next : Nat

/-- Takes in one more line, unless it is empty or another block begins on it. -/
def Intake.more? (src : Source) (s : Surroundings) (intake : Intake) : Option Intake :=
  let n := intake.next
  if s.limit ≤ n || s.isEmpty n then none
  else if !alwaysContinues s n && interrupts src s false n s.limit then none
  else
    let line := s.line n
    some { text := intake.text ++ src.extract line.textStart (line.stop + 1), next := n + 1 }

/-- Takes in one more line if there is one. -/
def Intake.more (src : Source) (s : Surroundings) (intake : Intake) : Intake :=
  (intake.more? src s).getD intake

/-- The place of the bracket that closes the label, looked for from a place on. -/
def labelStop? (src : Source) (s : Surroundings) : (fuel : Nat) → Nat → Intake →
    Option (Nat × Intake)
  | 0, _, _ => none
  | fuel + 1, i, intake =>
    match intake.text[i]? with
    | none => none
    | some '[' => none
    | some ']' => some (i, intake)
    | some '\n' => labelStop? src s fuel (i + 1) (intake.more src s)
    | some '\\' =>
      let intake := if intake.text.isAt (i + 1) '\n' then intake.more src s else intake
      labelStop? src s fuel (i + 2) intake
    | some _ => labelStop? src s fuel (i + 1) intake

/-- Passes blanks and line ends from a place on. -/
def passBlanks (src : Source) (s : Surroundings) : (fuel : Nat) → Nat → Intake → Nat × Intake
  | 0, i, intake => (i, intake)
  | fuel + 1, i, intake =>
    match intake.text[i]? with
    | some '\n' => passBlanks src s fuel (i + 1) (intake.more src s)
    | some c => if isSpace c then passBlanks src s fuel (i + 1) intake else (i, intake)
    | none => (i, intake)

/-- Finishes a title over as many lines as it takes. -/
def finishTitle (src : Source) (s : Surroundings) : (fuel : Nat) → TitleReading → Nat → Intake →
    TitleReading × Nat × Intake
  | 0, reading, i, intake => (reading, i, intake)
  | fuel + 1, .unfinished before closer, i, intake =>
    match intake.more? src s with
    | none => (.unfinished before closer, i, intake)
    | some longer =>
      let start := intake.text.size
      let reading := readTitleFrom longer.text longer.text.size closer before start start
      finishTitle src s fuel reading start longer
  | _ + 1, reading, i, intake => (reading, i, intake)

/-- Whether only blanks stand between a place and the end of its line. -/
def endsLineAt (text : Source) (i : Nat) : Bool :=
  let i := text.skipWhile isSpace text.size i
  text.size ≤ i || text.isAt i '\n'

/-- The reference that begins to be defined on a line: its key, where it leads, and the line after
the definition. A title stands after a blank, or begins on an earlier line than it ends on. A title
with something after it on its line is no part of the definition; if the title is empty, there is no
definition. -/
def referenceStart? (src : Source) (s : Surroundings) (n : Nat) :
    Option ((List Char × Target) × Nat) :=
  let line := s.line n
  let start := line.textStart
  if s.isCode n || !src.isAt start '[' then none
  else
    let fuel := src.size + 2
    let intake : Intake := { text := src.extract start (line.stop + 1), next := n + 1 }
    match labelStop? src s fuel 1 intake with
    | none => none
    | some (labelStop, intake) =>
      if !intake.text.isAt (labelStop + 1) ':' then none
      else
        let (destStart, intake) := passBlanks src s fuel (labelStop + 2) intake
        match readDestination? intake.text intake.text.size destStart with
        | none => none
        | some (written, afterDest) =>
          let dest := StaticSite.Url.normal written
          if !StaticSite.Url.isSafe dest then none
          else
            let withoutTitle := intake.next
            let (titleStart, intake) := passBlanks src s fuel afterDest intake
            let reading := readTitle intake.text intake.text.size titleStart
            let (reading, lastStart, intake) := finishTitle src s fuel reading titleStart intake
            let key := referenceKey (intake.text.chars 1 labelStop)
            let plain := if endsLineAt intake.text afterDest then
              some (([] : List Char), withoutTitle) else none
            let found := match reading with
              | .complete title next =>
                if lastStart ≤ afterDest then plain
                else if endsLineAt intake.text next then some (title, intake.next)
                else if title.isEmpty then none
                else plain
              | _ => plain
            match found with
            | some (title, next) =>
              if key.isEmpty then none
              else some ((key, ⟨String.ofList dest, String.ofList title⟩), next)
            | none => none

end StaticSite.Markdown
