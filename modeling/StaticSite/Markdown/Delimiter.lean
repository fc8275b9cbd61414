import StaticSite.Markdown.Line
import StaticSite.Markdown.Token
import StaticSite.Text.CharacterClass

/-!
# Delimiter runs

Runs of `*`, `_` and `~` may open or close emphasis or a deletion, depending on what stands on
either side of the run. Each run leaves delimiters behind, one for every token that may become an
opening or a closing. `pairUp` finds which delimiters belong together, and `markDeletions` and
`markEmphasis` put the openings and closings into the tokens.
-/

set_option autoImplicit false

namespace StaticSite.Markdown

open StaticSite.Text

/-! ## Runs -/

/-- The length of a run, and whether it may open and close. -/
structure DelimiterRun where
  length : Nat
  opens : Bool
  closes : Bool

/-- Looks at the run that begins at a place. The ends of the text count as blanks. A run inside a
word neither opens nor closes unless `splitsWords`. -/
def readRun (src : Source) (stop start : Nat) (marker : Char) (splitsWords : Bool) : DelimiterRun :=
  let finish := src.skipWhile (· == marker) stop start
  let before := if 0 < start then (src[start - 1]?).getD ' ' else ' '
  let after := if finish < stop then (src[finish]?).getD ' ' else ' '
  let leftFlanking := !(isWhiteSpace after ||
    (isPunctuation after && !(isWhiteSpace before || isPunctuation before)))
  let rightFlanking := !(isWhiteSpace before ||
    (isPunctuation before && !(isWhiteSpace after || isPunctuation after)))
  { length := finish - start
    opens := leftFlanking && (splitsWords || !rightFlanking || isPunctuation before)
    closes := rightFlanking && (splitsWords || !leftFlanking || isPunctuation after) }

/-! ## Pairs -/

/-- A token that may become an opening or a closing. `length` is that of its run, and zero where the
lengths of runs do not matter. -/
structure Delimiter where
  marker : Char
  length : Nat
  /-- The place of the token. -/
  token : Nat
  opens : Bool
  closes : Bool
  /-- The delimiter that closes what this one opens. -/
  partner : Option Nat := none
deriving Inhabited

/-- Whether two delimiters are kept apart by the lengths of their runs: where one of them could do
both, the lengths must not add up to a multiple of three unless both are one. -/
def lengthsClash (opener closer : Delimiter) : Bool :=
  (opener.closes || closer.opens) && (opener.length + closer.length) % 3 == 0 &&
    (opener.length % 3 != 0 || closer.length % 3 != 0)

/-- The state of pairing. `jumps` says how many delimiters before each one need not be looked at
again, and `floors` below which place there is no opener for closers of a kind. -/
structure Pairing where
  delimiters : Array Delimiter
  jumps : Array Nat := #[]
  floors : List ((Char × Bool × Nat) × Int) := []
  /-- The first delimiter of the run being looked at. -/
  runStart : Nat := 0
  /-- The token of the delimiter looked at last, if the next one may belong to the same run. -/
  lastToken : Option Nat := none

/-- Looks for the opener of a closer, from a place down to a floor. -/
def findOpener (p : Pairing) (closer : Delimiter) (floor : Int) : (fuel : Nat) → Int → Option Nat
  | 0, _ => none
  | fuel + 1, place =>
    if place ≤ floor then none
    else
      let i := place.toNat
      match p.delimiters[i]? with
      | none => none
      | some opener =>
        if opener.marker == closer.marker && opener.opens && opener.partner.isNone &&
            !lengthsClash opener closer then some i
        else findOpener p closer floor fuel (place - Int.ofNat (p.jumps[i]?.getD 0) - 1)

/-- Looks at the next delimiter, and pairs it with an opener if it closes something. -/
def pairNext (p : Pairing) (i : Nat) (closer : Delimiter) : Pairing :=
  let sameRun := (p.delimiters[p.runStart]?).any (·.marker == closer.marker) &&
    p.lastToken.any (· + 1 == closer.token)
  let p := { p with
    jumps := p.jumps.push 0
    runStart := if sameRun then p.runStart else i
    lastToken := some closer.token }
  if !closer.closes then p
  else
    let kind := (closer.marker, closer.opens, closer.length % 3)
    let floor := (p.floors.lookup kind).getD (-1)
    let highest := Int.ofNat p.runStart - Int.ofNat (p.jumps[p.runStart]?.getD 0) - 1
    match findOpener p closer floor (i + 1) highest with
    | some j =>
      let skipped := if 0 < j && !((p.delimiters[j - 1]?).any (·.opens)) then
        p.jumps[j - 1]?.getD 0 + 1 else 0
      { p with
        jumps := (p.jumps.setIfInBounds i (i - j + skipped)).setIfInBounds j skipped
        delimiters := (p.delimiters.modify i fun d => { d with opens := false }).modify j
          fun d => { d with partner := some i, closes := false }
        lastToken := none }
    | none =>
      if highest = -1 then p
      else { p with floors := (kind, highest) :: p.floors }

/-- Pairs openers with closers. -/
def pairUp (delimiters : Array Delimiter) : Array Delimiter :=
  ((List.range delimiters.size).foldl (fun p i =>
    match p.delimiters[i]? with
    | some closer => pairNext p i closer
    | none => p) { delimiters := delimiters : Pairing }).delimiters

/-! ## Openings and closings -/

/-- The first place from `i` on that is not the closing of a deletion. -/
def afterDeletions (tokens : Array InlineToken) : (fuel : Nat) → Nat → Nat
  | 0, i => i
  | fuel + 1, i =>
    match tokens[i]? with
    | some (.closing .strikethrough) => afterDeletions tokens fuel (i + 1)
    | _ => i

/-- Puts a lone `~` before closings of deletions after them. -/
def moveLoneMarker (tokens : Array InlineToken) (i : Nat) : Array InlineToken :=
  tokens.swapIfInBounds i (afterDeletions tokens tokens.size (i + 1) - 1)

/-- Puts the openings and closings of deletions into the tokens. A run of odd length begins with a
lone `~`; where the run closes a deletion the lone `~` belongs after it. -/
def markDeletions (delimiters : Array Delimiter) (tokens : Array InlineToken) : Array InlineToken :=
  let (tokens, lone) := delimiters.foldl (fun (tokens, lone) opener =>
    match opener.marker == '~', opener.partner.bind (delimiters[·]?) with
    | true, some closer =>
      let tokens := (tokens.setIfInBounds opener.token (.opening .strikethrough)).setIfInBounds
        closer.token (.closing .strikethrough)
      match tokens[closer.token - 1]? with
      | some (.text "~") => (tokens, (closer.token - 1) :: lone)
      | _ => (tokens, lone)
    | _, _ => (tokens, lone)) (tokens, ([] : List Nat))
  lone.foldl moveLoneMarker tokens

/-- Puts the openings and closings of emphasis into the tokens, from delimiter `i - 1` down. Two
delimiters side by side that are closed side by side make one strong emphasis. -/
def markEmphasis (delimiters : Array Delimiter) :
    (i : Nat) → Array InlineToken → Array InlineToken
  | 0, tokens => tokens
  | i + 1, tokens =>
    match delimiters[i]? with
    | none => markEmphasis delimiters i tokens
    | some opener =>
      match opener.marker == '_' || opener.marker == '*', opener.partner with
      | true, some j =>
        let closerToken := ((delimiters[j]?).map (·.token)).getD 0
        let outerCloser := delimiters[j + 1]?
        match i with
        | 0 =>
          (tokens.setIfInBounds opener.token (.opening .emphasis)).setIfInBounds closerToken
            (.closing .emphasis)
        | k + 1 =>
          let isStrong := (delimiters[k]?).any (fun outer => outer.partner == some (j + 1) &&
            outer.marker == opener.marker && outer.token + 1 == opener.token) &&
            outerCloser.any (·.token == closerToken + 1)
          if isStrong then
            let tokens := (tokens.setIfInBounds opener.token (.opening .strong)).setIfInBounds
              closerToken (.closing .strong)
            let tokens := (tokens.setIfInBounds (opener.token - 1) (.text "")).setIfInBounds
              (closerToken + 1) (.text "")
            markEmphasis delimiters k tokens
          else
            let tokens := (tokens.setIfInBounds opener.token (.opening .emphasis)).setIfInBounds
              closerToken (.closing .emphasis)
            markEmphasis delimiters (k + 1) tokens
      | _, _ => markEmphasis delimiters i tokens

/-- Puts the openings and closings of all pairs of delimiters into the tokens. -/
def resolveDelimiters (delimiters : Array Delimiter) (tokens : Array InlineToken) :
    Array InlineToken :=
  let paired := pairUp delimiters
  markEmphasis paired paired.size (markDeletions paired tokens)

/-- Joins texts that stand side by side. -/
def joinTexts : List InlineToken → List InlineToken
  | [] => []
  | .text a :: rest =>
    match joinTexts rest with
    | .text b :: rest => .text (a ++ b) :: rest
    | rest => .text a :: rest
  | token :: rest => token :: joinTexts rest

/-- A token with special text turned into text. -/
def plainToken : InlineToken → InlineToken
  | .special content => .text content
  | token => token

/-- A token whose special text is turned into text. The texts of an image are joined too, but the
texts of images inside it stay as they are. -/
def joinedToken : InlineToken → InlineToken
  | .image dest title children => .image dest title (joinTexts (children.map plainToken))
  | token => plainToken token

/-- Turns special text into text, and joins texts that stand side by side. -/
def joinAllTexts (tokens : List InlineToken) : List InlineToken :=
  joinTexts (tokens.map joinedToken)

end StaticSite.Markdown
