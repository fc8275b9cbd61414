import StaticSite.Markdown.ReferenceDefinition

/-!
# Block structure

Reading the lines of a document into tokens of block structure. `readBlocks` reads the blocks
between two lines, one after another; quotes, list items and footnote definitions adapt the lines to
what the blocks inside them see and read those in turn. Containers nest to a fixed depth at most,
beyond which lines are passed over, and this depth bounds the recursion.

The definitions of references and footnotes are collected on the way, and the content of paragraphs,
headings and cells stays text: it can be read only when all definitions are known.
-/

set_option autoImplicit false

namespace StaticSite.Markdown

open StaticSite.Text StaticSite.Number

/-- The blocks read: their tokens, the line after them, whether no empty line stands between them,
and the definitions known after them. -/
structure Blocks where
  tokens : List (Token String)
  next : Nat
  tight : Bool := true
  definitions : Definitions

/-- How to read the blocks inside a container, from one line up to another. -/
abbrev ReadInside :=
  Surroundings → (level start stop : Nat) → Definitions → Blocks

/-! ## Leaves -/

/-- The line after an indented block of code that goes on at a line; `last` is the line after the
last one with text. -/
def codeEnd (s : Surroundings) (stop : Nat) : (fuel : Nat) → (n last : Nat) → Nat
  | 0, _, last => last
  | fuel + 1, n, last =>
    if stop ≤ n then last
    else if s.isEmpty n then codeEnd s stop fuel (n + 1) last
    else if s.isCode n then codeEnd s stop fuel (n + 1) (n + 1)
    else last

/-- Whether a line closes a fence. -/
def closesFence (src : Source) (s : Surroundings) (fence : FenceStart) (n : Nat) : Bool :=
  let text := s.text src n
  let length := (text.takeWhile (· == fence.marker)).length
  !s.isCode n && fence.length ≤ length && (text.drop length).all isSpace

/-- The line at which a fenced block ends, looked for from a line on, and whether a fence closes it
there. -/
def fenceEnd (src : Source) (s : Surroundings) (fence : FenceStart) (stop : Nat) :
    (fuel : Nat) → Nat → Nat × Bool
  | 0, n => (n, false)
  | fuel + 1, n =>
    if stop ≤ n then (n, false)
    else if !s.isEmpty n && s.isOutdented n then (n, false)
    else if src.size ≤ (s.line n).textStart then (n, false)
    else if closesFence src s fence n then (n, true)
    else fenceEnd src s fence stop fuel (n + 1)

/-- The line after a block of HTML that goes on at a line. An empty line is never outdented. -/
def htmlEnd (src : Source) (s : Surroundings) (blockEnd : RawHtml.BlockEnd) (stop : Nat) :
    (fuel : Nat) → Nat → Nat
  | 0, n => n
  | fuel + 1, n =>
    if stop ≤ n || (!s.isEmpty n && s.isOutdented n) then n
    else
      let text := s.text src n
      if blockEnd.holds text then (if text.isEmpty then n else n + 1)
      else htmlEnd src s blockEnd stop fuel (n + 1)

/-- The line after a paragraph that goes on at a line. -/
def paragraphEnd (src : Source) (s : Surroundings) : (fuel : Nat) → Nat → Nat
  | 0, n => n
  | fuel + 1, n =>
    if s.limit ≤ n || s.isEmpty n then n
    else if !alwaysContinues s n && interrupts src s true n s.limit then n
    else paragraphEnd src s fuel (n + 1)

/-- The level of the heading that a line underlines. -/
def underlineLevel? (src : Source) (s : Surroundings) (n : Nat) : Option Nat :=
  if s.isOutdented n then none
  else
    match s.text src n with
    | [] => none
    | marker :: rest =>
      if (marker == '-' || marker == '=') && (rest.dropWhile (· == marker)).all isSpace then
        some (if marker == '=' then 1 else 2)
      else none

/-- The line that underlines the text before it, looked for from a line on, with the level of the
heading. -/
def underline? (src : Source) (s : Surroundings) (stop : Nat) : (fuel : Nat) → Nat →
    Option (Nat × Nat)
  | 0, _ => none
  | fuel + 1, n =>
    if stop ≤ n || s.isEmpty n then none
    else if 3 < (s.line n).indent - s.indent then underline? src s stop fuel (n + 1)
    else
      match underlineLevel? src s n with
      | some level => some (n, level)
      | none =>
        if 0 ≤ (s.line n).indent && interrupts src s true n stop then none
        else underline? src s stop fuel (n + 1)

/-- The tokens of a block that holds one run of inline content. -/
def runTokens (construct : Construct) (name : ConstructName) (content : List Char) :
    List (Token String) :=
  [.opening construct, .inline (String.ofList content), .closing name]

/-! ## Tables -/

/-- The greatest number of cells that the rows of a table may lack together. -/
def missingCellLimit : Int := 0x10000

/-- The tokens of a row's cells, one for each column. -/
def cellTokens (inHead : Bool) : List String → List (List Char) → List (Token String)
  | [], _ => []
  | style :: styles, cells =>
    let content := stripBy isWhiteSpace (cells.head?.getD [])
    let tokens := if inHead then
      runTokens (.headCell (if style.isEmpty then .null else .text style)) .headCell content
    else runTokens .cell .cell content
    tokens ++ cellTokens inHead styles (cells.drop 1)

/-- The rows of a table from a line on, with the line after them. `missing` counts the cells that
rows before lacked. -/
def tableRows (src : Source) (s : Surroundings) (styles : List String) (stop : Nat) :
    (fuel : Nat) → Nat → (missing : Int) → List (Token String) × Nat
  | 0, n, _ => ([], n)
  | fuel + 1, n, missing =>
    let row := stripBy isWhiteSpace (s.text src n)
    if stop ≤ n || s.isOutdented n || endsContinuation src s n || row.isEmpty || s.isCode n then
      ([], n)
    else
      let cells := cellsOfRow row
      let missing := missing + Int.ofNat styles.length - Int.ofNat cells.length
      if missingCellLimit < missing then ([], n)
      else
        let (rows, next) := tableRows src s styles stop fuel (n + 1) missing
        let row := [.opening .tableRow] ++ cellTokens false styles cells ++ [.closing .tableRow]
        (row ++ rows, next)

/-- The tokens of the table that begins on a line, with the line after it. -/
def tableTokens (src : Source) (s : Surroundings) (header : List (List Char)) (styles : List String)
    (n stop : Nat) : List (Token String) × Nat :=
  let (rows, next) := tableRows src s styles stop (stop - n) (n + 2) 0
  let body := if rows.isEmpty then []
    else [.opening .tableBody] ++ rows ++ [.closing .tableBody]
  ([.opening .table, .opening .tableHead, .opening .tableRow] ++ cellTokens true styles header ++
    [.closing .tableRow, .closing .tableHead] ++ body ++ [.closing .table], next)

/-! ## Quotes -/

/-- The extent of a quote: the lines as the blocks in it see them, the line after the last one, and
the line after the last one that its paragraphs may look at. -/
structure QuoteExtent where
  lines : Array Line
  next : Nat
  limit : Nat

/-- Finds the extent of a quote that goes on at a line. `lastEmpty` tells whether the line before is
empty inside the quote; if it is, no line without a mark continues the quote. -/
def quoteExtent (src : Source) (s : Surroundings) (stop : Nat) : (fuel : Nat) → (n : Nat) →
    (lastEmpty : Bool) → Array Line → QuoteExtent
  | 0, n, _, lines => ⟨lines, n, s.limit⟩
  | fuel + 1, n, lastEmpty, lines =>
    let line := s.line n
    if stop ≤ n || line.isEmpty then ⟨lines, n, s.limit⟩
    else if src.isAt line.textStart '>' && !s.isOutdented n then
      let inside := quotedLine src line
      quoteExtent src s stop fuel (n + 1) inside.isEmpty (lines.setIfInBounds n inside)
    else if lastEmpty then ⟨lines, n, s.limit⟩
    else if endsContinuation src s n then
      ⟨lines.setIfInBounds n { line with indent := line.indent - s.indent }, n, n⟩
    else
      quoteExtent src s stop fuel (n + 1) false (lines.setIfInBounds n { line with indent := -1 })

/-- Reads the quote that begins on a line. -/
def readQuote (src : Source) (readInside : ReadInside) (s : Surroundings) (level n stop : Nat)
    (definitions : Definitions) : Blocks :=
  let first := quotedLine src (s.line n)
  let extent :=
    quoteExtent src s stop (stop - n) (n + 1) first.isEmpty (s.lines.setIfInBounds n first)
  let inside := readInside
    { s with lines := extent.lines, indent := 0, limit := extent.limit } (level + 1) n extent.next
    definitions
  { inside with tokens := .opening .blockQuote :: inside.tokens ++ [.closing .blockQuote] }

/-! ## Lists -/

/-- Hides the paragraphs that belong to no construct inside, given how many constructs are open. -/
def hideParagraphs (depth : Nat) : List (Token String) → List (Token String)
  | [] => []
  | .opening (.paragraph hidden) :: rest =>
    .opening (.paragraph (hidden || depth == 0)) :: hideParagraphs (depth + 1) rest
  | .closing (.paragraph hidden) :: rest =>
    .closing (.paragraph (hidden || depth == 1)) :: hideParagraphs (depth - 1) rest
  | .opening construct :: rest => .opening construct :: hideParagraphs (depth + 1) rest
  | .closing name :: rest => .closing name :: hideParagraphs (depth - 1) rest
  | token :: rest => token :: hideParagraphs depth rest

/-- The items of a list that are read: the tokens inside each, whether the list is tight so far, and
whether the last item ends with an empty line. -/
structure Items where
  contents : List (List (Token String)) := []
  tight : Bool := true
  endsEmpty : Bool := false
  next : Nat
  definitions : Definitions

/-- Reads the item whose mark is on a line. -/
def readItem (src : Source) (readInside : ReadInside) (s : Surroundings) (level stop n : Nat)
    (mark : ItemMark) (items : Items) : Items :=
  let line := s.line n
  let initial := line.indent.toNat + (mark.next - line.textStart)
  let (contentStart, reached) := src.skipColumns line.column line.stop mark.next initial
  let empty := line.stop ≤ contentStart
  let width := reached - initial
  let indent := initial + (if empty || 4 < width then 1 else width)
  let inner : Surroundings := { s with
    lines := s.lines.setIfInBounds n
      { line with shift := contentStart - line.start, indent := Int.ofNat reached }
    indent := indent
    listIndent := some s.indent }
  let blocks : Blocks :=
    if empty && inner.isEmpty (n + 1) then
      { tokens := [], next := min (n + 2) stop, definitions := items.definitions }
    else readInside inner (level + 2) n stop items.definitions
  { contents := items.contents ++ [blocks.tokens]
    tight := items.tight && blocks.tight && !items.endsEmpty
    endsEmpty := 1 < blocks.next - n && inner.isEmpty (blocks.next - 1)
    next := blocks.next
    definitions := blocks.definitions }

/-- Reads the items of a list from the one whose mark is on a line. -/
def readItems (src : Source) (readInside : ReadInside) (s : Surroundings) (level stop : Nat) :
    (fuel : Nat) → Nat → ItemMark → Items → Items
  | 0, _, _, items => items
  | fuel + 1, n, mark, items =>
    let items := readItem src readInside s level stop n mark items
    let next := items.next
    if stop ≤ next || s.isOutdented next || s.isCode next || endsList src s next then items
    else
      match itemMark? src (s.line next) with
      | some another =>
        if another.char == mark.char && another.number.isSome == mark.number.isSome then
          readItems src readInside s level stop fuel next another items
        else items
      | none => items

/-- Reads the list whose first mark is on a line. -/
def readList (src : Source) (readInside : ReadInside) (s : Surroundings) (level n stop : Nat)
    (mark : ItemMark) (definitions : Definitions) : Blocks :=
  let items := readItems src readInside s level stop (stop - n) n mark
    { next := n, definitions := definitions }
  let (construct, name) : Construct × ConstructName := match mark.number with
    | some 1 => (.orderedList none, .orderedList)
    | some k => (.orderedList (some (.whole (Int.ofNat k))), .orderedList)
    | none => (.bulletList, .bulletList)
  let tokens := items.contents.flatMap fun content =>
    let content := if items.tight then hideParagraphs 0 content else content
    .opening .item :: content ++ [.closing .item]
  { tokens := .opening construct :: tokens ++ [.closing name]
    next := items.next
    definitions := items.definitions }

/-! ## Footnote definitions -/

/-- Reads the definition of the footnote with a label, which begins on a line; `place` is the place
after the colon. What is defined is indented by four columns after the first line. -/
def readNote (src : Source) (readInside : ReadInside) (s : Surroundings) (level n stop : Nat)
    (label : String) (place : Nat) (definitions : Definitions) : Blocks :=
  let line := s.line n
  let initial := line.indent.toNat + (place - line.textStart)
  let (textStart, reached) := src.skipColumns 0 line.stop place initial
  let indent := s.indent + 4
  let columns := reached - initial
  let first := { line with
    start := place
    shift := textStart - place
    indent := Int.ofNat (if columns < indent then columns + indent else columns) }
  let definitions := { definitions with noteLabels := label :: definitions.noteLabels }
  let inside := readInside { s with lines := s.lines.setIfInBounds n first, indent := indent }
    (level + 1) n stop definitions
  { inside with
    tokens := .opening (.definition label) :: inside.tokens ++ [.closing .definition] }

/-! ## Documents -/

/-- Reads the block that begins on a line. -/
def readBlock (src : Source) (readInside : ReadInside) (s : Surroundings) (level n stop : Nat)
    (definitions : Definitions) : Blocks :=
  let leaf (tokens : List (Token String)) (next : Nat) : Blocks :=
    { tokens := tokens, next := next, definitions := definitions }
  match tableStart? src s n stop with
  | some (header, styles) =>
    let (tokens, next) := tableTokens src s header styles n stop
    leaf tokens next
  | none =>
  if s.isCode n then
    let last := codeEnd s stop (stop - n) (n + 1) (n + 1)
    leaf [.codeBlock (String.ofList (s.content src n last (s.indent + 4) false ++ ['\n']))] last
  else
  match fenceStart? src s n with
  | some fence =>
    let (last, closed) := fenceEnd src s fence stop (stop - n) (n + 1)
    let content := s.content src (n + 1) last (s.line n).indent.toNat true
    leaf [.fence (String.ofList fence.info) (String.ofList content)]
      (if closed then last + 1 else last)
  | none =>
  if isQuote src s n then readQuote src readInside s level n stop definitions
  else if isRule src s n then leaf [.rule] (n + 1)
  else
  match itemStart? src s false n with
  | some mark => readList src readInside s level n stop mark definitions
  | none =>
  match noteStart? src s n with
  | some (label, place) => readNote src readInside s level n stop label place definitions
  | none =>
  match referenceStart? src s n with
  | some ((key, target), next) =>
    let known := definitions.references.any (·.1 == key)
    { tokens := [], next := next, definitions := { definitions with
        references := if known then definitions.references
          else definitions.references ++ [(key, target)] } }
  | none =>
  match htmlStart? src s n with
  | some (blockEnd, _) =>
    let last := if blockEnd.holds (s.text src n) then n + 1
      else htmlEnd src s blockEnd stop (stop - n) (n + 1)
    leaf [.html (String.ofList (s.content src n last s.indent true))] last
  | none =>
  match headingStart? src s n with
  | some (depth, content) =>
    leaf (runTokens (.heading ("h" ++ toString depth)) .heading content.toList) (n + 1)
  | none =>
  match underline? src s stop (stop - n) (n + 1) with
  | some (last, depth) =>
    leaf (runTokens (.heading ("h" ++ toString depth)) .heading
      (stripBy isWhiteSpace (s.content src n last s.indent false))) (last + 1)
  | none =>
    let last := paragraphEnd src s (s.limit - n) (n + 1)
    leaf (runTokens (.paragraph false) (.paragraph false)
      (stripBy isWhiteSpace (s.content src n last s.indent false))) last

/-- The first line from `n` on that has text, no later than the limit. -/
def skipEmptyLines (s : Surroundings) : (fuel : Nat) → Nat → Nat
  | 0, n => n
  | fuel + 1, n => if n < s.limit && s.isEmpty n then skipEmptyLines s fuel (n + 1) else n

/-- Reads blocks one after another. `spaced` tells whether an empty line stood between blocks so
far. -/
def readSequence (src : Source) (readInside : ReadInside) (s : Surroundings) (level stop : Nat) :
    (fuel : Nat) → (n : Nat) → (tight spaced : Bool) → Definitions → Blocks
  | 0, n, tight, _, definitions =>
    { tokens := [], next := n, tight := tight, definitions := definitions }
  | fuel + 1, n, tight, spaced, definitions =>
    let ended (n : Nat) : Blocks :=
      { tokens := [], next := n, tight := tight, definitions := definitions }
    if stop ≤ n then ended n
    else
      let n := skipEmptyLines s (s.limit - n) n
      if stop ≤ n || s.isOutdented n then ended n
      else if nestingLimit ≤ level then ended stop
      else
        let block := readBlock src readInside s level n stop definitions
        let next := block.next
        let spacedAfter := spaced || (next - 1 < stop && s.isEmpty (next - 1))
        let gap := next < stop && s.isEmpty next
        let rest := readSequence src readInside s level stop fuel (if gap then next + 1 else next)
          (!spaced) (spacedAfter || gap) block.definitions
        { rest with tokens := block.tokens ++ rest.tokens }

/-- Reads the blocks between two lines, where containers may nest `room` levels deeper. -/
def readBlocks (src : Source) : (room : Nat) → ReadInside
  | 0, s, _, start, stop, definitions =>
    readSequence src (fun _ _ start _ definitions =>
      { tokens := [], next := start, definitions := definitions }) s nestingLimit stop
      (stop + 1 - start) start true false definitions
  | room + 1, s, level, start, stop, definitions =>
    readSequence src (readBlocks src room) s level stop (stop + 1 - start) start true false
      definitions

/-- Reads the block structure of a text. -/
def readStructure (src : Source) : Blocks :=
  let lines := src.lines
  readBlocks src nestingLimit { lines := lines, limit := lines.size } 0 0 lines.size {}

end StaticSite.Markdown
