import StaticSite.Yaml.Cursor
import StaticSite.Yaml.ScalarText

/-!
# Scalars as they are written

Single values may be written without marks, in quotes, or as a block of indented lines. Line breaks
inside one are folded: a single break is a space, and of several all but the first one stay.
-/

set_option autoImplicit false

namespace StaticSite.Yaml

open Lexer

/-- The characters between words when breaks have been read: a first one and others. -/
def foldBreaks (first : List Char) (others : List (List Char)) : List Char :=
  (if first != ['\n'] then first else if others.isEmpty then [' '] else []) ++ others.flatten

/-! ## In quotes -/

/-- The characters that a letter after a backslash stands for. -/
def namedEscapes : List (Char × Char) :=
  [('0', '\x00'), ('a', '\x07'), ('b', '\x08'), ('t', '\t'), ('\t', '\t'), ('n', '\n'),
   ('v', '\x0b'), ('f', '\x0c'), ('r', '\r'), ('e', '\x1b'), (' ', ' '), ('"', '"'), ('/', '/'),
   ('\\', '\\'), ('N', '\u0085'), ('_', '\u00a0'), ('L', '\u2028'), ('P', '\u2029')]

/-- The numbers of hexadecimal digits that follow a letter after a backslash. -/
def numberEscapes : List (Char × Nat) :=
  [('x', 2), ('u', 4), ('U', 8)]

/-- Breaks inside quotes, with the blanks around them, after a first break. No line may look like
the end of the document. -/
def quotedBreaks : Lexer (List (List Char)) := do
  go (← bound)
where
  /-- Reads a limited number of breaks. -/
  go : Nat → Lexer (List (List Char))
    | 0 => malformed
    | limit + 1 => do
      require (!(← atDocumentMark))
      skipWhile fun c => c = ' ' || c = '\t'
      match ← lineBreak with
      | [] => pure []
      | b => do
        let rest ← go limit
        pure (b :: rest)

/-- Blanks and breaks inside quotes. -/
def quotedSpaces : Lexer (List Char) := do
  let blanks ← takeWhile fun c => c = ' ' || c = '\t'
  require (← peek).isSome
  match ← lineBreak with
  | [] => pure blanks
  | first => do
    let others ← quotedBreaks
    pure (foldBreaks first others)

/-- The value of hexadecimal digits. -/
def hexNumber? (digits : List Char) : Option Nat :=
  digits.foldlM (fun n c =>
    if c.isDigit then some (16 * n + (c.toNat - 0x30))
    else if 'a' ≤ c.toLower && c.toLower ≤ 'f' then some (16 * n + (c.toLower.toNat - 0x61 + 10))
    else none) 0

/-- An escape after its backslash. -/
def escape : Lexer (List CodePoint) := do
  match ← peek with
  | none => malformed
  | some c =>
    match namedEscapes.lookup c, numberEscapes.lookup c with
    | some named, _ => do
      skip
      pure [.char named]
    | none, some digits => do
      skip
      let s ← take digits
      match hexNumber? s with
      | some n =>
        if s.length != digits then malformed
        else if 0x10ffff < n then throw .badValue
        else pure [.ofNat n]
      | none => malformed
    | none, none => do
      require (isBreak c)
      discard lineBreak
      let breaks ← quotedBreaks
      pure (breaks.flatten.map .char)

/-- Text inside quotes up to the next blank, break or closing mark. -/
def quotedWord (isDouble : Bool) : Lexer (List CodePoint) := do
  go (← bound)
where
  /-- Reads a limited number of parts. -/
  go : Nat → Lexer (List CodePoint)
    | 0 => malformed
    | limit + 1 => do
      let plain ← takeWhile fun c =>
        !(c = ' ' || c = '\t' || c = '\'' || c = '"' || c = '\\' || isBreak c)
      let plain := plain.map CodePoint.char
      match ← peek, ← peek 1, isDouble with
      | some '\'', some '\'', false => do
        skip 2
        let rest ← go limit
        pure (plain ++ .char '\'' :: rest)
      | some '\\', _, true => do
        skip
        let escaped ← escape
        let rest ← go limit
        pure (plain ++ escaped ++ rest)
      | some '\'', _, true => do
        skip
        let rest ← go limit
        pure (plain ++ .char '\'' :: rest)
      | some '"', _, false => do
        skip
        let rest ← go limit
        pure (plain ++ .char '"' :: rest)
      | some '\\', _, false => do
        skip
        let rest ← go limit
        pure (plain ++ .char '\\' :: rest)
      | _, _, _ => pure plain

/-- A scalar in quotes. -/
def quotedScalar : Lexer ScalarText := do
  let isDouble := (← peek) = some '"'
  let mark := if isDouble then '"' else '\''
  skip
  let first ← quotedWord isDouble
  let rest ← go mark isDouble (← bound)
  skip
  pure (.ofPoints (first ++ rest))
where
  /-- Reads a limited number of words up to the closing mark. -/
  go (mark : Char) (isDouble : Bool) : Nat → Lexer (List CodePoint)
    | 0 => malformed
    | limit + 1 => do
      if (← peek) = some mark then pure []
      else
        let spaces ← quotedSpaces
        let word ← quotedWord isDouble
        let rest ← go mark isDouble limit
        pure (spaces.map CodePoint.char ++ word ++ rest)

/-! ## In blocks -/

/-- What becomes of the breaks at the end of a block. -/
inductive Chomping where
  | clip
  | strip
  | keep
deriving DecidableEq, Repr

/-- The mark for the breaks at the end of a block, if there is one. -/
def chomping? : Lexer (Option Chomping) := do
  match ← peek with
  | some '+' => do
    skip
    pure (some .keep)
  | some '-' => do
    skip
    pure (some .strip)
  | _ => pure none

/-- The number of columns that a block is indented by, if it is given. -/
def indentation? : Lexer (Option Nat) := do
  match ← peek with
  | some c =>
    if c.isDigit then do
      require (c != '0')
      skip
      pure (some (c.toNat - 0x30))
    else pure none
  | none => pure none

/-- The header of a block, after its first mark. -/
def blockHeader : Lexer (Chomping × Option Nat) := do
  let early ← chomping?
  let indentation ← indentation?
  let late ← if early.isNone && indentation.isSome then chomping? else pure none
  require (isSpaceOrEnd (← peek))
  skipSpaces
  skipComment
  require (isBreakOrEnd (← peek))
  discard lineBreak
  pure (((early.or late).getD .clip), indentation)

/-- Breaks in a block with the spaces after each, up to a column. -/
def blockBreaks (column : Nat) : Lexer (List (List Char)) := do
  go (← bound)
where
  /-- Reads a limited number of breaks. -/
  go : Nat → Lexer (List (List Char))
    | 0 => malformed
    | limit + 1 => do
      skipSpacesTo column
      match ← lineBreak with
      | [] => pure []
      | b => do
        let rest ← go limit
        pure (b :: rest)

/-- Breaks and spaces at the front of a block, with the column of each break, and the greatest
column that spaces reach. -/
def blockFront : Lexer (List (Nat × List Char) × Nat) := do
  go (← bound)
where
  /-- Reads a limited number of breaks. -/
  go : Nat → Lexer (List (Nat × List Char) × Nat)
    | 0 => malformed
    | limit + 1 => do
      let spaces ← takeWhile (· = ' ')
      let reached ← column
      let furthest := if spaces.isEmpty then 0 else reached
      match ← lineBreak with
      | [] => pure ([], furthest)
      | b => do
        let (rest, further) ← go limit
        pure ((reached, b) :: rest, max furthest further)

/-- The column of a block and the breaks at its front. No line at the front may be indented further
than the first one, if that has spaces alone. -/
def blockStart (least : Nat) : Lexer (Nat × List (List Char)) := do
  let (breaks, furthest) ← blockFront
  require ((breaks.head?).all fun (first, _) => first = 0 || furthest ≤ first)
  pure (max least furthest, breaks.map (·.2))

/-- The lines of a block at a column, after some breaks. A folded block joins lines that begin with
something else than a blank. At the left margin the end of the document ends a block. -/
def blockLines (isFolded : Bool) (atMargin : Bool) (column : Nat) (chomping : Chomping)
    (breaks : List (List Char)) : Lexer (List Char) := do
  go (← bound) breaks
where
  /-- What is left of the breaks at the end. -/
  ending (last : List Char) (breaks : List (List Char)) : List Char :=
    match chomping with
    | .clip => last
    | .strip => []
    | .keep => last ++ breaks.flatten
  /-- Whether a line begins here. -/
  atLine : Lexer Bool := do
    pure ((← Lexer.column) = column && (← peek).isSome)
  /-- Whether the next character is a blank. -/
  atBlank : Lexer Bool := do
    let c ← peek
    pure (c = some ' ' || c = some '\t')
  /-- Reads a limited number of lines. -/
  go : Nat → List (List Char) → Lexer (List Char)
    | 0, _ => malformed
    | limit + 1, breaks => do
      if !(← atLine) then pure (ending [] breaks)
      else
        let isText := !(← atBlank)
        let line ← takeWhile (!isBreak ·)
        let last ← lineBreak
        let after ← blockBreaks column
        let ended ← if atMargin && (← Lexer.column) = 0 then atDocumentMark else pure false
        if ended || !(← atLine) then pure (breaks.flatten ++ line ++ ending last after)
        else
          let between := if isFolded && last = ['\n'] && isText && !(← atBlank) then
              (if after.isEmpty then [' '] else [])
            else last
          let rest ← go limit after
          pure (breaks.flatten ++ line ++ between ++ rest)

/-- A scalar in a block, in a collection whose items have `indent` as their column; it is -1 outside
all of them. -/
def blockScalar (indent : Int) : Lexer ScalarText := do
  let isFolded := (← peek) = some '>'
  skip
  let (chomping, indentation) ← blockHeader
  let least := (indent + 1).toNat
  let (column, breaks) ← match indentation with
    | none => blockStart least
    | some n => do
      let column := max least 1 + n - 1
      let breaks ← blockBreaks column
      pure (column, breaks)
  let atMargin := least = 0 && indentation.isNone
  let text ← blockLines isFolded atMargin column chomping breaks
  pure (.string (String.ofList text))

/-! ## Without marks -/

/-- Whether a plain scalar may begin here. -/
def startsPlain (inFlow isOld : Bool) (c : Char) (after : Option Char) : Bool :=
  if !(c = ' ' || c = '\t' || isBreak c || "-?:,[]\x7b\x7d#&*!|>'\"%@\x60".toList.contains c) then
    true
  else if c = '-' then !isSeparator after
  else if c = ':' && inFlow && !isOld then !(after = some ' ' || after = some '\t')
  else (c = '?' || c = ':') && !inFlow && !isSeparator after

/-- Whether a plain scalar goes on with a character. -/
def continuesPlain (inFlow isOld : Bool) (c : Char) (after : Option Char) : Bool :=
  if c = ':' then !isSeparator after
  else if c = '?' then !(inFlow && isOld)
  else !(isSeparator (some c) || (inFlow && ",[]\x7b\x7d".toList.contains c))

/-- The length of the word that a plain scalar goes on with. -/
def plainLength (inFlow isOld : Bool) : List Char → Nat
  | [] => 0
  | c :: rest =>
    if continuesPlain inFlow isOld c rest.head? then plainLength inFlow isOld rest + 1 else 0

/-- Breaks between the lines of a plain scalar, with the spaces around them, after a first break;
nothing if the document ends there. -/
def plainBreaks : Lexer (Option (List (List Char))) := do
  go (← bound)
where
  /-- Reads a limited number of breaks. -/
  go : Nat → Lexer (Option (List (List Char)))
    | 0 => malformed
    | limit + 1 => do
      if ← atDocumentMark then pure none
      else
        skipSpaces
        match ← lineBreak with
        | [] => pure (some [])
        | b => do
          let rest ← go limit
          pure (rest.map (b :: ·))

/-- Spaces and breaks between the words of a plain scalar, and whether there were breaks. There is
nothing if the document ends there. -/
def plainSpaces : Lexer (List Char × Bool) := do
  let spaces ← takeWhile (· = ' ')
  match ← lineBreak with
  | [] => pure (spaces, false)
  | first => do
    match ← plainBreaks with
    | some others => pure (foldBreaks first others, true)
    | none => pure ([], true)

/-- The length of the next word of a plain scalar. -/
def plainWord (inFlow isOld : Bool) : Lexer Nat := do
  let rest := (← get).rest
  pure (if rest.head? = some '#' then 0 else plainLength inFlow isOld rest)

/-- A plain scalar in a collection whose items have `indent` as their column, and whether there are
breaks right after it. -/
def plainScalar (inFlow isOld : Bool) (indent : Int) : Lexer (ScalarText × Bool) := do
  let (s, isBroken) ← go (← bound) [] false
  pure (.string (String.ofList s), isBroken)
where
  /-- Reads a limited number of words, after some spaces. -/
  go : Nat → List Char → Bool → Lexer (List Char × Bool)
    | 0, _, _ => malformed
    | limit + 1, spaces, isBroken => do
      match ← plainWord inFlow isOld with
      | 0 => pure ([], isBroken)
      | length => do
        let word ← take length
        let (next, isBroken) ← plainSpaces
        let isOutside := !inFlow && Int.ofNat (← column) < indent + 1
        if next.isEmpty || (← peek) = some '#' || isOutside then
          pure (spaces ++ word, isBroken)
        else
          let (rest, isBroken) ← go limit next isBroken
          pure (spaces ++ word ++ rest, isBroken)

end StaticSite.Yaml
