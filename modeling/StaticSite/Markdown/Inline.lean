import StaticSite.Markdown.Delimiter
import StaticSite.Markdown.LinkParts
import StaticSite.Markdown.RawHtml

/-!
# Inline content

Reading the content of a paragraph, a heading or a table cell. The text is looked at from front to
back; at each place `recognise` says which construct begins there, if any. Links, images and notes
have labels, and a label is found by skipping over whole constructs up to its closing bracket, so
skipping and recognising call each other. Constructs nest to a fixed depth at most, and this depth
bounds the calls.

Once a text has been read, the delimiters of emphasis and deletions in it are resolved, and texts
side by side are joined.
-/

set_option autoImplicit false

namespace StaticSite.Markdown

open StaticSite.Text StaticSite.Number

/-- The depth to which constructs may nest. -/
def nestingLimit : Nat := 20

/-! ## What a text refers to -/

/-- The definitions of a document that its texts refer to. -/
structure Definitions where
  /-- Where each reference leads, by its key. -/
  references : List (List Char × Target) := []
  /-- The labels of the footnotes that are defined. -/
  noteLabels : List String := []

/-- Where a label leads, if it is the label of a reference. -/
def Definitions.target? (definitions : Definitions) (label : List Char) : Option Target :=
  definitions.references.lookup (referenceKey label)

/-- A footnote that texts refer to: an inline one with its content, or one that is defined under a
label. -/
inductive NoteEntry where
  | inline (content : List InlineToken)
  | labelled (label : String)

/-- The footnotes met so far. A footnote is known by its position in `entries`. -/
structure Notes where
  entries : List NoteEntry := []
  /-- The positions given to labels. -/
  positions : List (String × Nat) := []

/-- The position of a labelled footnote, which is the next one if the label is new. -/
def Notes.position (notes : Notes) (label : String) : Nat × Notes :=
  match notes.positions.lookup label with
  | some i => (i, notes)
  | none =>
    let i := notes.entries.length
    (i,
      { entries := notes.entries ++ [.labelled label]
        positions := (label, i) :: notes.positions })

/-- Takes the next position for an inline footnote whose content is still to be read. -/
def Notes.reserve (notes : Notes) : Nat × Notes :=
  (notes.entries.length, { notes with entries := notes.entries ++ [.inline []] })

/-- Enters the content of an inline footnote at its position. -/
def Notes.enter (notes : Notes) (i : Nat) (content : List InlineToken) : Notes :=
  { notes with entries := notes.entries.set i (.inline content) }

/-! ## What is remembered about a text -/

/-- What is found out about a text once: where the constructs end that were skipped. -/
structure Memory where
  skipped : List (Nat × Nat) := []

/-! ## Constructs -/

/-- A link or an image: its label, where it leads, and the place after it. -/
structure LinkFound where
  labelStart : Nat
  labelStop : Nat
  target : Target
  next : Nat

/-- A construct at a place, with the place after it. -/
inductive Found where
  | text (next : Nat)
  | lineEnd (next : Nat)
  | escapedLineEnd (next : Nat)
  | special (content : String) (next : Nat)
  | code (content : String) (next : Nat)
  | delimiters (marker : Char) (run : DelimiterRun) (next : Nat)
  | link (found : LinkFound)
  | image (found : LinkFound)
  | note (labelStart labelStop next : Nat)
  | noteReference (label : String) (next : Nat)
  | autolink (dest shown : String) (next : Nat)
  | html (content : String) (next : Nat)

/-- The place after a construct. -/
def Found.next : Found → Nat
  | .text next => next
  | .lineEnd next => next
  | .escapedLineEnd next => next
  | .special _ next => next
  | .code _ next => next
  | .delimiters _ _ next => next
  | .link found => found.next
  | .image found => found.next
  | .note _ _ next => next
  | .noteReference _ next => next
  | .autolink _ _ next => next
  | .html _ next => next

/-- Whether a construct may begin with a character. -/
def beginsConstruct (c : Char) : Bool :=
  "\n!#$%&*+-:<=>@[\\]^_\x60\x7b\x7d~".toList.contains c

/-! ### Code spans -/

/-- The content of a code span: line ends become spaces, and one space is cut off both ends if there
is one at both and anything but spaces between. -/
def codeContent (body : List Char) : String :=
  let body := body.map fun c => if c = '\n' then ' ' else c
  if body.head? == some ' ' && body.getLast? == some ' ' && !body.all (· == ' ') then
    String.ofList (body.drop 1).dropLast
  else String.ofList body

/-- Looks for a run of exactly `length` backticks from `i` on: where it begins and where the place
after it is. -/
def findCloser? (src : Source) (stop length : Nat) : (fuel : Nat) → Nat → Option (Nat × Nat)
  | 0, _ => none
  | fuel + 1, i =>
    match src.find? '\x60' i with
    | none => none
    | some first =>
      let next := src.skipWhile (· == '\x60') stop (first + 1)
      if next - first = length then some (first, next)
      else findCloser? src stop length fuel next

/-- A code span at a run of backticks, or the run as text. The next run of the same length closes
the span. -/
def findCode (src : Source) (stop start : Nat) : Found :=
  let bodyStart := src.skipWhile (· == '\x60') stop (start + 1)
  match findCloser? src stop (bodyStart - start) (src.size + 1) bodyStart with
  | some (first, next) => .code (codeContent (src.chars bodyStart first)) next
  | none => .text bodyStart

/-! ### Escapes, references, addresses and HTML -/

/-- A backslash and what it escapes. A backslash before a character that needs no escape stays. -/
def findEscape? (src : Source) (stop start : Nat) : Option Found :=
  if start + 1 < stop then
    match src[start + 1]? with
    | some '\n' => some (.escapedLineEnd (src.skipWhile isSpace stop (start + 2)))
    | some c =>
      if isAsciiPunctuation c then some (.special (String.singleton c) (start + 2))
      else some (.special (String.ofList ['\\', c]) (start + 2))
    | none => none
  else none

/-- A character reference. -/
def findReference? (src : Source) (stop start : Nat) : Option Found :=
  if start + 1 < stop then
    (textReference? (src.chars (start + 1) src.size)).map fun (text, n) =>
      .special text (start + 1 + n)
  else none

/-- Whether a text is an address with a scheme. A line end may follow it. -/
def isAddress (s : List Char) : Bool :=
  let s := if s.getLast? == some '\n' then s.dropLast else s
  match cutAt? ':' s with
  | some (scheme, rest) =>
    2 ≤ scheme.length && scheme.length ≤ 32 && scheme.head?.any Char.isAlpha &&
      scheme.all (fun c => c.isAlphanum || c == '+' || c == '.' || c == '-') &&
      rest.all fun c => 0x20 < c.toNat && c != '<' && c != '>'
  | none => false

/-- Whether a text is a label of the domain of a mail address. -/
def isMailLabel (label : List Char) : Bool :=
  label.length ≤ 63 && label.head?.any Char.isAlphanum && label.getLast?.any Char.isAlphanum &&
    label.all fun c => c.isAlphanum || c == '-'

/-- Whether a text is a mail address. A line end may follow it. -/
def isMailAddress (s : List Char) : Bool :=
  let s := if s.getLast? == some '\n' then s.dropLast else s
  match cutAt? '@' s with
  | some (user, domain) =>
    !user.isEmpty &&
      user.all (fun c => c.isAlphanum || ".!#$%&'*+/=?^_\x60\x7b|\x7d~-".toList.contains c) &&
      (splitAt '.' domain).all isMailLabel
  | none => false

/-- An address in angle brackets. -/
def findAutolink? (src : Source) (stop start : Nat) : Option Found :=
  let finish := src.skipWhile (fun c => c != '<' && c != '>') stop (start + 1)
  if finish < stop && src.isAt finish '>' then
    let url := src.chars (start + 1) finish
    let address? := if isAddress url then some url
      else if isMailAddress url then some ("mailto:".toList ++ url)
      else none
    match address? with
    | some address =>
      let dest := StaticSite.Url.normal address
      if StaticSite.Url.isSafe dest then
        let shown := String.ofList (StaticSite.Url.shown url)
        some (.autolink (String.ofList dest) shown (finish + 1))
      else none
    | none => none
  else none

/-- A piece of HTML. -/
def findHtml? (src : Source) (stop start : Nat) : Option Found :=
  if start + 2 < stop then
    let s := src.chars start src.size
    (RawHtml.afterPiece? s).map fun rest =>
      let next := start + (s.length - rest.length)
      .html (src.slice start next) next
  else none

/-- A reference to a footnote that is defined. -/
def findNoteReference? (definitions : Definitions) (src : Source) (stop start : Nat) :
    Option Found :=
  if start + 3 ≤ stop && src.isAt (start + 1) '^' then
    let finish := src.skipWhile (fun c => c != ' ' && c != '\n' && c != ']') stop (start + 2)
    let label := src.slice (start + 2) finish
    if finish < stop && src.isAt finish ']' && start + 2 < finish &&
        definitions.noteLabels.contains label then
      some (.noteReference label (finish + 1))
    else none
  else none

/-! ### Labels and targets -/

/-- How to skip the construct at a place. -/
abbrev Skip := Nat → Memory → Nat × Memory

/-- The place of the bracket that closes a label, looked for from `i` with `depth` brackets open.
Where `noLinks`, a construct that begins with a bracket means that there is no label. -/
def findLabelEnd (src : Source) (skip : Skip) (stop : Nat) (noLinks : Bool) :
    (fuel : Nat) → (i depth : Nat) → Memory → Option Nat × Memory
  | 0, _, _, memory => (none, memory)
  | fuel + 1, i, depth, memory =>
    if i < stop then
      if src.isAt i ']' && depth ≤ 1 then (some i, memory)
      else
        let depth := if src.isAt i ']' then depth - 1 else depth
        let (next, memory) := skip i memory
        if src.isAt i '[' then
          if next = i + 1 then findLabelEnd src skip stop noLinks fuel next (depth + 1) memory
          else if noLinks then (none, memory)
          else findLabelEnd src skip stop noLinks fuel next depth memory
        else findLabelEnd src skip stop noLinks fuel next depth memory
    else (none, memory)

/-- The place of the bracket that closes the label whose opening bracket is at `start`. -/
def labelEnd (src : Source) (skip : Skip) (stop : Nat) (noLinks : Bool) (start : Nat)
    (memory : Memory) : Option Nat × Memory :=
  findLabelEnd src skip stop noLinks (stop + 1) (start + 1) 1 memory

/-- The result of reading what stands in parentheses after a label. -/
inductive InlineTarget where
  /-- All of it is there. -/
  | complete (target : Target) (next : Nat)
  /-- It breaks off at a place. -/
  | broken (place : Nat)
  /-- The text ends right after the parenthesis. -/
  | absent

/-- Reads a destination and a title in parentheses; `start` is the place after the opening one. -/
def readInlineTarget (src : Source) (stop start : Nat) : InlineTarget :=
  let start := src.skipWhile isSpaceOrLineEnd stop start
  if stop ≤ start then .absent
  else
    let (dest, afterDest) := match readDestination? src stop start with
      | some (written, next) =>
        let dest := StaticSite.Url.normal written
        if StaticSite.Url.isSafe dest then (dest, next) else ([], start)
      | none => ([], start)
    let titleStart := src.skipWhile isSpaceOrLineEnd stop afterDest
    let (title, next) := match readTitle src stop titleStart with
      | .complete title next =>
        if afterDest < titleStart then (title, src.skipWhile isSpaceOrLineEnd stop next)
        else ([], titleStart)
      | _ => ([], titleStart)
    if next < stop && src.isAt next ')' then
      .complete ⟨String.ofList dest, String.ofList title⟩ (next + 1)
    else .broken next

/-- Reads the target of a reference; the label ends at `labelStop`, and a second label may begin at
`place`. -/
def readReferenceTarget (definitions : Definitions) (src : Source) (skip : Skip)
    (stop labelStart labelStop place : Nat) (memory : Memory) : Option (Target × Nat) × Memory :=
  if definitions.references.isEmpty then (none, memory)
  else
    let (second, memory) :=
      if place < stop && src.isAt place '[' then
        let (finish?, memory) := labelEnd src skip stop false place memory
        (finish?.map fun finish => (src.chars (place + 1) finish, finish + 1), memory)
      else (none, memory)
    let (label, next) := second.getD ([], labelStop + 1)
    let label := if label.isEmpty then src.chars labelStart labelStop else label
    ((definitions.target? label).map fun target => (target, next), memory)

/-- A link whose opening bracket is at `start`. -/
def findLink (definitions : Definitions) (src : Source) (skip : Skip) (stop start : Nat)
    (memory : Memory) : Option Found × Memory :=
  match labelEnd src skip stop true start memory with
  | (none, memory) => (none, memory)
  | (some labelStop, memory) =>
    let reference (place : Nat) (memory : Memory) : Option Found × Memory :=
      let (target, memory) :=
        readReferenceTarget definitions src skip stop (start + 1) labelStop place memory
      (target.map fun (target, next) => .link ⟨start + 1, labelStop, target, next⟩, memory)
    if labelStop + 1 < stop && src.isAt (labelStop + 1) '(' then
      match readInlineTarget src stop (labelStop + 2) with
      | .absent => (none, memory)
      | .complete target next => (some (.link ⟨start + 1, labelStop, target, next⟩), memory)
      | .broken place => reference (place + 1) memory
    else reference (labelStop + 1) memory

/-- An image whose exclamation mark is at `start`. -/
def findImage (definitions : Definitions) (src : Source) (skip : Skip) (stop start : Nat)
    (memory : Memory) : Option Found × Memory :=
  if start + 1 < stop && !src.isAt (start + 1) '[' then (none, memory)
  else
    match labelEnd src skip stop false (start + 1) memory with
    | (none, memory) => (none, memory)
    | (some labelStop, memory) =>
      if labelStop + 1 < stop && src.isAt (labelStop + 1) '(' then
        match readInlineTarget src stop (labelStop + 2) with
        | .complete target next => (some (.image ⟨start + 2, labelStop, target, next⟩), memory)
        | _ => (none, memory)
      else
        let (target, memory) := readReferenceTarget definitions src skip stop (start + 2) labelStop
          (labelStop + 1) memory
        (target.map fun (target, next) => .image ⟨start + 2, labelStop, target, next⟩, memory)

/-- An inline footnote whose circumflex is at `start`. -/
def findNote (src : Source) (skip : Skip) (stop start : Nat) (memory : Memory) :
    Option Found × Memory :=
  if start + 2 < stop && src.isAt (start + 1) '[' then
    match labelEnd src skip stop false (start + 1) memory with
    | (some labelStop, memory) => (some (.note (start + 2) labelStop (labelStop + 1)), memory)
    | (none, memory) => (none, memory)
  else (none, memory)

/-! ### Recognising and skipping -/

/-- The construct that begins at a place, if any. -/
def recognise (definitions : Definitions) (src : Source) (skip : Skip) (stop start : Nat)
    (memory : Memory) : Option Found × Memory :=
  match src[start]? with
  | none => (none, memory)
  | some c =>
    if !beginsConstruct c then
      (some (.text (src.skipWhile (!beginsConstruct ·) stop start)), memory)
    else match c with
      | '\n' => (some (.lineEnd (src.skipWhile isSpace stop (start + 1))), memory)
      | '\\' => (findEscape? src stop start, memory)
      | '\x60' => (some (findCode src stop start), memory)
      | '[' =>
        match findLink definitions src skip stop start memory with
        | (some found, memory) => (some found, memory)
        | (none, memory) => (findNoteReference? definitions src stop start, memory)
      | '!' => findImage definitions src skip stop start memory
      | '^' => findNote src skip stop start memory
      | '<' =>
        match findAutolink? src stop start with
        | some found => (some found, memory)
        | none => (findHtml? src stop start, memory)
      | '&' => (findReference? src stop start, memory)
      | _ => (none, memory)

/-- Skips the construct at a place, or a single character. Where nothing may nest any deeper, the
rest of the text is skipped. Delimiters are skipped one by one. -/
def skipOne (definitions : Definitions) (src : Source) (stop : Nat) : (room : Nat) → Skip
  | 0, i, memory =>
    match memory.skipped.lookup i with
    | some next => (next, memory)
    | none => (stop + 1, { memory with skipped := (i, stop + 1) :: memory.skipped })
  | room + 1, i, memory =>
    match memory.skipped.lookup i with
    | some next => (next, memory)
    | none =>
      let (found, memory) :=
        recognise definitions src (skipOne definitions src stop room) stop i memory
      let next := match found with
        | some found => found.next
        | none => i + 1
      (next, { memory with skipped := (i, next) :: memory.skipped })

/-- The delimiters at a place, if they make a run: any number of `*` or `_`, at least two `~`. -/
def findDelimiters? (src : Source) (stop start : Nat) : Option Found :=
  match src[start]? with
  | some '~' =>
    let run := readRun src stop start '~' true
    if run.length < 2 then none else some (.delimiters '~' run (start + run.length))
  | some '*' =>
    let run := readRun src stop start '*' true
    some (.delimiters '*' run (start + run.length))
  | some '_' =>
    let run := readRun src stop start '_' false
    some (.delimiters '_' run (start + run.length))
  | _ => none

/-! ## Reading a text -/

/-- The result of reading so far: the tokens, the delimiters among them, and text not yet a token.
-/
structure Progress where
  tokens : Array InlineToken := #[]
  delimiters : Array Delimiter := #[]
  pending : List Char := []

namespace Progress

/-- Makes a token of the pending text. -/
def flush (p : Progress) : Progress :=
  if p.pending.isEmpty then p
  else { p with tokens := p.tokens.push (.text (String.ofList p.pending)), pending := [] }

/-- Adds a token. -/
def push (token : InlineToken) (p : Progress) : Progress :=
  let p := p.flush
  { p with tokens := p.tokens.push token }

/-- Adds a line end. Two spaces before it make it a hard break; the spaces are dropped. -/
def pushLineEnd (p : Progress) : Progress :=
  let spaces := (p.pending.reverse.takeWhile (· == ' ')).length
  if 2 ≤ spaces then
    { p with pending := (p.pending.reverse.dropWhile (· == ' ')).reverse }.push .hardBreak
  else if spaces = 1 then { p with pending := p.pending.dropLast }.push .softBreak
  else p.push .softBreak

/-- Adds the tokens and delimiters of a run, `unit` characters to a token. -/
def pushDelimiters (marker : Char) (run : DelimiterRun) (unit length : Nat) : (count : Nat) →
    Progress → Progress
  | 0, p => p
  | count + 1, p =>
    let p := p.push (.text (String.ofList (List.replicate unit marker)))
    let delimiter : Delimiter :=
      { marker := marker, length := length, token := p.tokens.size - 1,
        opens := run.opens, closes := run.closes }
    pushDelimiters marker run unit length count
      { p with delimiters := p.delimiters.push delimiter }

/-- Adds a run of delimiters. A run of `~` is made of pairs, after a single one if it is odd. -/
def pushRun (marker : Char) (run : DelimiterRun) (p : Progress) : Progress :=
  if marker == '~' then
    let p := if run.length % 2 = 1 then p.push (.text "~") else p
    pushDelimiters marker run 2 0 (run.length / 2) p
  else pushDelimiters marker run 1 run.length run.length p

/-- The tokens, with delimiters resolved and texts joined. -/
def finish (p : Progress) : List InlineToken :=
  let p := p.flush
  joinTexts (resolveDelimiters p.delimiters p.tokens).toList

end Progress

/-- Reads from a place to the end of the text. `inner` reads a part of the text that is a link's
label, and `text` reads a text of its own. -/
def readFrom (definitions : Definitions) (src : Source) (level stop : Nat)
    (inner : Nat → Nat → Memory → Notes → List InlineToken × Memory × Notes)
    (text : Source → Notes → List InlineToken × Notes) :
    (fuel : Nat) → Nat → Progress → Memory → Notes → Progress × Memory × Notes
  | 0, _, p, memory, notes => (p, memory, notes)
  | fuel + 1, i, p, memory, notes =>
    if stop ≤ i then (p, memory, notes)
    else
      let (found, memory) :=
        if level < nestingLimit then
          match findDelimiters? src stop i with
          | some found => (some found, memory)
          | none => recognise definitions src (skipOne definitions src stop (nestingLimit - level))
              stop i memory
        else (none, memory)
      let go := readFrom definitions src level stop inner text fuel
      match found with
      | none => go (i + 1) { p with pending := p.pending ++ src.chars i (i + 1) } memory notes
      | some (.text next) =>
        go next { p with pending := p.pending ++ src.chars i next } memory notes
      | some (.lineEnd next) => go next p.pushLineEnd memory notes
      | some (.escapedLineEnd next) => go next (p.push .hardBreak) memory notes
      | some (.special content next) => go next (p.push (.special content)) memory notes
      | some (.code content next) => go next (p.push (.code content)) memory notes
      | some (.html content next) => go next (p.push (.html content)) memory notes
      | some (.delimiters marker run next) => go next (p.pushRun marker run) memory notes
      | some (.autolink dest shown next) =>
        let p := p.push (.opening (.link true (.text dest) .null))
        go next ((p.push (.text shown)).push (.closing .link)) memory notes
      | some (.link link) =>
        let (tokens, memory, notes) := inner link.labelStart link.labelStop memory notes
        let title := if link.target.title.isEmpty then Scalar.null else .text link.target.title
        let p := p.push (.opening (.link false (.text link.target.dest) title))
        let p := tokens.foldl (fun p token => p.push token) p
        go link.next (p.push (.closing .link)) memory notes
      | some (.image link) =>
        let (tokens, notes) := text (src.extract link.labelStart link.labelStop) notes
        let title := if link.target.title.isEmpty then Scalar.null else .text link.target.title
        go link.next (p.push (.image (.text link.target.dest) title tokens)) memory notes
      | some (.note labelStart labelStop next) =>
        let (position, notes) := notes.reserve
        let (tokens, notes) := text (src.extract labelStart labelStop) notes
        let key : NoteKey := { id := some (.whole (Int.ofNat position)) }
        go next (p.push (.noteReference key)) memory (notes.enter position tokens)
      | some (.noteReference label next) =>
        let (position, notes) := notes.position label
        let key : NoteKey := { label := .text label, id := some (.whole (Int.ofNat position)) }
        go next (p.push (.noteReference key)) memory notes

/-- Reads the part of a text between two places, at a depth of nesting. Links, images and notes are
read from parts that are shorter, so `depth` need not exceed the length of the text. -/
def readPart (definitions : Definitions) : (depth : Nat) → Source → (level start stop : Nat) →
    Memory → Notes → List InlineToken × Memory × Notes
  | 0, src, _, start, stop, memory, notes => ([.text (src.slice start stop)], memory, notes)
  | depth + 1, src, level, start, stop, memory, notes =>
    let inner (start stop : Nat) (memory : Memory) (notes : Notes) :=
      readPart definitions depth src (level + 1) start stop memory notes
    let text (part : Source) (notes : Notes) :=
      let (tokens, _, notes) := readPart definitions depth part 0 0 part.size {} notes
      (tokens, notes)
    let (p, memory, notes) :=
      readFrom definitions src level stop inner text (stop + 1 - start) start {} memory notes
    (p.finish, memory, notes)

/-- Reads the content of a block. -/
def readInline (definitions : Definitions) (content : String) (notes : Notes) :
    List InlineToken × Notes :=
  let src := Source.ofString content
  let (tokens, _, notes) := readPart definitions (src.size + 1) src 0 0 src.size {} notes
  (tokens, notes)

end StaticSite.Markdown
