import StaticSite.Yaml.Property

/-!
# From text to tokens

Tokens are read one after the other, when they are asked for. What they are depends on how far their
line is indented, on the brackets around them, and on whether a key may begin where they stand. That
something is a key shows only at the colon after it; so a token that may begin one is held back, and
with it the tokens after it, until it is known whether the mark of a key has to go before it.
-/

set_option autoImplicit false

namespace StaticSite.Yaml

open Lexer

/-- A place where a key may have begun. -/
structure KeyStart where
  /-- The number of tokens before the one that it begins with. -/
  token : Nat
  /-- Whether there has to be a key, since nothing else begins at this column. -/
  isRequired : Bool
  index : Nat
  line : Nat
  column : Nat
deriving DecidableEq, Repr

/-- What has been read so far. -/
structure Stream where
  cursor : Cursor
  /-- The tokens that have been read but not been taken. -/
  queue : List Token := []
  /-- How many tokens have been taken. -/
  taken : Nat := 0
  /-- Whether the end of the text is among the tokens. -/
  isDone : Bool := false
  /-- The column of the items of the block around the cursor; it is -1 outside all blocks. -/
  indent : Int := -1
  /-- The same for the blocks further out, the closest one first. -/
  indents : List Int := []
  /-- The brackets that are open, the innermost one first. -/
  flow : List FlowKind := []
  allowsKey : Bool := true
  /-- The places where keys may have begun, each with the number of brackets around it, the
  innermost one first. -/
  keys : List (Nat × KeyStart) := []
  /-- Whether the document asks for the rules of version 1.1. -/
  isOld : Bool := false

namespace Stream

/-- One step of reading. -/
abbrev Step := StateT Stream (Except YamlError)

/-- Reads from the cursor. -/
def lex {α : Type} (lexer : Lexer α) : Step α := do
  let stream ← get
  let (a, cursor) ← lexer stream.cursor
  set { stream with cursor := cursor }
  pure a

/-- The text is malformed if a condition does not hold. -/
def need (holds : Bool) : Step Unit :=
  if holds then pure () else throw .malformed

/-- The number of brackets that are open. -/
def level : Step Nat := do
  pure (← get).flow.length

/-- Adds a token. -/
def push (token : Token) : Step Unit :=
  modify fun stream => { stream with queue := stream.queue ++ [token] }

/-- Says whether a key may come next. -/
def allowKey (allowed : Bool) : Step Unit :=
  modify fun stream => { stream with allowsKey := allowed }

/-! ## Keys -/

/-- A place where a key may have begun is given up. If there has to be one, it is missing. -/
def dropKey : Step Unit := do
  let stream ← get
  match stream.keys.lookup stream.flow.length with
  | some key => do
    need (!key.isRequired)
    set { stream with keys := stream.keys.filter (·.1 != stream.flow.length) }
  | none => pure ()

/-- Whether the place of a key is out of date: a key is on one line and not too long. -/
def isStale (cursor : Cursor) (key : KeyStart) : Bool :=
  key.line != cursor.line || 1024 < cursor.index - key.index

/-- The places that are out of date are given up. -/
def dropStaleKeys : Step Unit := do
  let stream ← get
  need (stream.keys.all fun (_, key) => !(isStale stream.cursor key && key.isRequired))
  set { stream with keys := stream.keys.filter fun (_, key) => !isStale stream.cursor key }

/-- Remembers that a key may begin with the next token. -/
def saveKey : Step Unit := do
  if (← get).allowsKey then
    dropKey
    modify fun stream =>
      let key : KeyStart :=
        { token := stream.taken + stream.queue.length
          isRequired := stream.flow.isEmpty && stream.indent = Int.ofNat stream.cursor.column
          index := stream.cursor.index
          line := stream.cursor.line
          column := stream.cursor.column }
      { stream with keys := (stream.flow.length, key) :: stream.keys }

/-! ## Indentation -/

/-- Ends the blocks that are indented further than a column. -/
def unwind (column : Int) : Step Unit :=
  modify fun stream =>
    if stream.flow.isEmpty then close stream stream.indent stream.indents else stream
where
  /-- Ends blocks from the innermost one on. -/
  close (stream : Stream) (indent : Int) : List Int → Stream
    | [] => { stream with indent := indent, indents := [] }
    | next :: outer =>
      if column < indent then
        close { stream with queue := stream.queue ++ [.blockEnd] } next outer
      else { stream with indent := indent, indents := next :: outer }

/-- Begins a block at a column if it is indented further than the one around it; says whether it is.
-/
def enter (column : Nat) : Step Bool := do
  let stream ← get
  if stream.indent < Int.ofNat column then
    set { stream with indent := Int.ofNat column, indents := stream.indent :: stream.indents }
    pure true
  else pure false

/-- Begins a block at the cursor, if one begins here. -/
def enterBlock (token : Token) : Step Unit := do
  if ← enter (← get).cursor.column then push token

/-! ## Tokens -/

/-- Skips what separates tokens: spaces, comments, breaks, and inside brackets tabs. After a break
outside brackets a key may begin. -/
def skipSeparation : Step Unit := do
  go (← lex bound)
where
  /-- Skips a limited number of lines. -/
  go : Nat → Step Unit
    | 0 => throw .malformed
    | limit + 1 => do
      let inFlow := (← level) != 0
      lex (skipWhile fun c => c = ' ' || (inFlow && c = '\t'))
      lex skipComment
      match ← lex lineBreak with
      | [] => pure ()
      | _ => do
        if !inFlow then allowKey true
        go limit

/-- The line that begins or ends a document. -/
def documentMark (token : Token) : Step Unit := do
  unwind (-1)
  dropKey
  allowKey false
  lex (skip 3)
  push token

/-- A directive. -/
def directive : Step Unit := do
  unwind (-1)
  dropKey
  allowKey false
  let found ← lex (Yaml.directive (← get).isOld)
  push (.directive found)

/-- The end of the text. -/
def streamEnd : Step Unit := do
  unwind (-1)
  dropKey
  push .streamEnd
  modify fun stream => { stream with keys := [], isDone := true }

/-- A bracket that opens a collection. -/
def flowStart (kind : FlowKind) : Step Unit := do
  saveKey
  lex skip
  modify fun stream => { stream with flow := kind :: stream.flow, allowsKey := true }
  push (.flowStart kind)

/-- A bracket that closes a collection. -/
def flowEnd (kind : FlowKind) : Step Unit := do
  dropKey
  lex skip
  modify fun stream => { stream with flow := stream.flow.drop 1, allowsKey := false }
  push (.flowEnd kind)

/-- A comma. -/
def flowEntry : Step Unit := do
  allowKey true
  dropKey
  lex skip
  push .flowEntry

/-- A hyphen. -/
def blockEntry : Step Unit := do
  if (← level) = 0 then
    need (← get).allowsKey
    enterBlock .blockSequenceStart
  allowKey true
  dropKey
  lex skip
  push .blockEntry

/-- A question mark. -/
def key : Step Unit := do
  if (← level) = 0 then
    need (← get).allowsKey
    enterBlock .blockMappingStart
  allowKey ((← level) = 0)
  dropKey
  lex skip
  push .key

/-- A colon. What began a key before it is marked now. -/
def value : Step Unit := do
  let stream ← get
  let level := stream.flow.length
  match stream.keys.lookup level with
  | some key => do
    set { stream with keys := stream.keys.filter (·.1 != level) }
    let begins ← if level = 0 then enter key.column else pure false
    let marks := if begins then [Token.blockMappingStart, .key] else [.key]
    modify fun stream =>
      let (before, after) := stream.queue.splitAt (key.token - stream.taken)
      { stream with queue := before ++ marks ++ after, allowsKey := false }
  | none => do
    if level = 0 then
      need stream.allowsKey
      enterBlock .blockMappingStart
    allowKey (level = 0)
    dropKey
  lex skip
  push .value

/-- Something that a key may begin with and that is all of it unless another token follows. -/
def keyPart (lexer : Lexer Token) : Step Unit := do
  saveKey
  allowKey false
  let token ← lex lexer
  push token

/-- A scalar in a block. -/
def blockScalar : Step Unit := do
  allowKey true
  dropKey
  let text ← lex (Yaml.blockScalar (← get).indent)
  push (.scalar text false)

/-- A scalar without marks. -/
def plainScalar : Step Unit := do
  saveKey
  allowKey false
  let stream ← get
  let (text, isBroken) ← lex (Yaml.plainScalar (!stream.flow.isEmpty) stream.isOld stream.indent)
  if isBroken then allowKey true
  push (.scalar text true)

/-- Whether a colon parts a key from a value here. -/
def atValue (after : Option Char) : Step Bool := do
  let stream ← get
  match stream.flow with
  | [] => pure (isSeparator after)
  | .sequence :: _ => pure (stream.isOld || isSeparator after)
  | .mapping :: _ =>
    pure (stream.isOld || stream.queue.getLast? != some .value || isSeparator after)

/-- Reads the next token, with the marks that go before it. -/
def next : Step Unit := do
  skipSeparation
  dropStaleKeys
  let stream ← get
  unwind (Int.ofNat stream.cursor.column)
  let inFlow := !stream.flow.isEmpty
  let atMargin := stream.cursor.column = 0
  let after := stream.cursor.rest[1]?
  let isMark ← if atMargin then lex atDocumentMark else pure false
  match stream.cursor.rest.head? with
  | none => streamEnd
  | some c =>
    if c = '%' && atMargin then directive
    else if c = '-' && isMark then documentMark .documentStart
    else if c = '.' && isMark then documentMark .documentEnd
    else if c = '[' then flowStart .sequence
    else if c = '\x7b' then flowStart .mapping
    else if c = ']' then flowEnd .sequence
    else if c = '\x7d' then flowEnd .mapping
    else if c = ',' then flowEntry
    else if c = '-' && isSeparator after then blockEntry
    else if c = '?' && (inFlow || isSeparator after) then key
    else if ← (if c = ':' then atValue after else pure false) then value
    else if c = '*' then keyPart (Token.alias <$> name)
    else if c = '&' then keyPart (Token.anchor <$> name)
    else if c = '!' then keyPart (Token.tag <$> tag stream.isOld)
    else if (c = '|' || c = '>') && !inFlow then blockScalar
    else if c = '\'' || c = '"' then keyPart ((Token.scalar · false) <$> quotedScalar)
    else if startsPlain inFlow stream.isOld c after then plainScalar
    else throw .malformed

/-! ## Asking for tokens -/

/-- Reads tokens until it is known which one is the first that has not been taken. -/
def fill : Nat → Step Unit
  | 0 => throw .malformed
  | limit + 1 => do
    if (← get).isDone then pure ()
    else if (← get).queue.isEmpty then
      next
      fill limit
    else
      dropStaleKeys
      let stream ← get
      if stream.keys.any fun (_, key) => key.token = stream.taken then
        next
        fill limit

/-- The next token, which stays where it is. After the end of the text there is only that end. -/
def peek : Step Token := do
  fill ((← get).cursor.rest.length + 2)
  pure ((← get).queue.head?.getD .streamEnd)

/-- Takes a token. -/
def take : Step Unit :=
  modify fun stream => { stream with queue := stream.queue.drop 1, taken := stream.taken + 1 }

/-- The stream of a text. A byte order mark at its front does not count. -/
def ofText (text : List Char) : Except YamlError Stream :=
  if text.all isAllowed then
    let start : Cursor := { rest := text }
    .ok { cursor := if text.head? = some '\ufeff' then start.next else start }
  else .error .malformed

end Stream

end StaticSite.Yaml
