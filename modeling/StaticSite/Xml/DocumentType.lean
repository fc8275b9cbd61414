import StaticSite.Xml.Declared

/-!
# Document types

A document type names the root element and may declare entities, attributes, elements and notations.
A declaration is first cut into tokens, and then it has to be one of the few sequences of tokens
that mean something. What elements may hold and notations are checked for their form and then
forgotten.
-/

set_option autoImplicit false

namespace StaticSite.Xml.DocumentType

open StaticSite.Text

/-! ## Tokens -/

/-- The smallest parts of a declaration. -/
inductive Token where
  | name (n : QualifiedName)
  /-- A name with a mark for how often it may come. -/
  | counted (n : QualifiedName)
  /-- A word of name characters that is no name. -/
  | word (s : List Char)
  /-- A word after a number sign. -/
  | keyword (s : String)
  | literal (s : List Char)
  | percent
  | comma
  | bar
  | openParen
  /-- The end of a group, with the mark for how often it may come. -/
  | closeParen (count : Option Char)
deriving DecidableEq, Repr

/-- Whether the next character is white space or one of some others. -/
def nextIsOneOf (others : List Char) : Scanner Bool := do
  match ← Scanner.peek? with
  | some c => pure (isSpace c || others.contains c)
  | none => pure false

/-- The marks for how often something may come. -/
def countMarks : List Char :=
  ['?', '*', '+']

/-- A mark for how often something may come, if there is one. -/
def countMark? : Scanner (Option Char) := do
  match ← Scanner.peek? with
  | some c =>
    if countMarks.contains c then do
      let mark ← Scanner.anyChar
      pure (some mark)
    else pure none
  | none => pure none

/-- The name that a word is, if it is one. -/
def nameOfWord? (letters : NameLetters) (s : List Char) : Option QualifiedName :=
  if (s.head?).any (isNameStart letters) then
    match splitAt ':' s with
    | [base] => some { base := String.ofList base }
    | [_, []] => none
    | [qualifier, base] =>
      some { qualifier := some (String.ofList qualifier), base := String.ofList base }
    | _ => none
  else none

/-- A word of name characters and colons, at least one, and what has to follow it. -/
def wordToken : Scanner Token := do
  let letters ← Scanner.letters
  let s ← Scanner.charsOf fun c => isNameChar letters c || c = ':'
  guard (!s.isEmpty)
  match nameOfWord? letters s, ← countMark? with
  | some n, some _ => pure (.counted n)
  | none, some _ => failure
  | found, none => do
    guard (← nextIsOneOf ['>', ')', ',', '|', '[', '%'])
    pure ((found.map Token.name).getD (.word s))

/-- A literal up to a quotation mark like the one at its front. -/
def literalToken : Scanner Token := do
  let mark ← Scanner.anyChar
  let s ← Scanner.before (String.singleton mark)
  guard (← nextIsOneOf ['>', '%', '['])
  pure (.literal s)

/-- The next token, after white space; nothing before an angle bracket or the bracket that opens the
declarations. -/
def token? : Scanner (Option Token) := do
  Scanner.space
  let one (mark : String) (token : Token) : Scanner (Option Token) := do
    Scanner.word mark
    pure (some token)
  match ← Scanner.peek? with
  | some '>' => pure none
  | some '[' => pure none
  | some '"' => some <$> literalToken
  | some '\'' => some <$> literalToken
  | some ',' => one "," .comma
  | some '|' => one "|" .bar
  | some '(' => one "(" .openParen
  | some ')' => do
    Scanner.word ")"
    let count ← countMark?
    guard (count.isSome || (← nextIsOneOf ['>', ',', '|', ')']))
    pure (some (.closeParen count))
  | some '%' => do
    Scanner.word "%"
    guard (← nextIsOneOf ['%'])
    pure (some .percent)
  | some '#' => do
    Scanner.word "#"
    let keyword ← Scanner.name
    guard (← nextIsOneOf [')', '>', '%', '|'])
    pure (some (.keyword keyword))
  | _ => some <$> wordToken

/-! ## Forms of declarations -/

/-- A name without qualifier. -/
def plain (s : String) : Token :=
  .name { base := s }

/-- Whether a literal may be a public identifier. -/
def isPublicId (s : List Char) : Bool :=
  s.all fun c => c.isAlphanum || " \n\r-'()+,./:=?;!*#@$_%".toList.contains c

/-- Whether tokens say where something outside the document is. -/
def isExternalId : List Token → Bool
  | [.name ⟨none, "SYSTEM"⟩, .literal _] => true
  | [.name ⟨none, "PUBLIC"⟩, .literal id, .literal _] => isPublicId id
  | _ => false

/-- Whether tokens say where a notation is described. -/
def isNotationId : List Token → Bool
  | [.name ⟨none, "PUBLIC"⟩, .literal id] => isPublicId id
  | tokens => isExternalId tokens

/-- Whether tokens say where something outside the document is that is no XML. -/
def isUnparsedId (tokens : List Token) : Bool :=
  match tokens.reverse with
  | .name ⟨none, _⟩ :: .name ⟨none, "NDATA"⟩ :: rest => isExternalId rest.reverse
  | _ => false

/-- Whether tokens end a mixed content after its first keyword. -/
def isMixedEnd : List Token → Bool
  | [.closeParen none] => true
  | [.closeParen (some '*')] => true
  | .bar :: .name _ :: rest => isNamesEnd rest
  | _ => false
where
  /-- Names in a mixed content, after the first one. -/
  isNamesEnd : List Token → Bool
    | [.closeParen (some '*')] => true
    | .bar :: .name _ :: rest => isNamesEnd rest
    | _ => false

/-- Whether tokens end a group of elements. `separators` has the separator of each group that is
open, the innermost one first; within a group all are alike. -/
def isGroupEnd : (separators : List (Option Token)) → (wantsItem : Bool) → List Token → Bool
  | separators, true, .openParen :: rest => isGroupEnd (none :: separators) true rest
  | separators, true, .name _ :: rest => isGroupEnd separators false rest
  | separators, true, .counted _ :: rest => isGroupEnd separators false rest
  | _ :: separators, false, .closeParen _ :: rest => isGroupEnd separators false rest
  | separator :: separators, false, token :: rest =>
    (token = .comma || token = .bar) && separator.all (· = token) &&
      isGroupEnd (some token :: separators) true rest
  | [], false, [] => true
  | _, _, _ => false

/-- Whether tokens say what an element may hold. -/
def isContentModel : List Token → Bool
  | [.name ⟨none, "EMPTY"⟩] => true
  | [.name ⟨none, "ANY"⟩] => true
  | .openParen :: .keyword "PCDATA" :: rest => isMixedEnd rest
  | .openParen :: rest => isGroupEnd [none] true rest
  | _ => false

/-- The tokens after a list of choices in parentheses, of which the opening one has been read. -/
def afterChoices? (isChoice : Token → Bool) : List Token → Option (List Token)
  | choice :: .closeParen none :: rest => if isChoice choice then some rest else none
  | choice :: .bar :: rest => if isChoice choice then afterChoices? isChoice rest else none
  | _ => none

/-- Whether a token may be one of the values of an attribute. -/
def isValueChoice : Token → Bool
  | .name _ => true
  | .word _ => true
  | _ => false

/-- Whether a token may be the name of a notation. -/
def isNotationChoice : Token → Bool
  | .name ⟨none, _⟩ => true
  | _ => false

/-- The types of attributes other than text that have a name. -/
def attributeTypes : List String :=
  ["ID", "IDREF", "IDREFS", "ENTITY", "ENTITIES", "NMTOKEN", "NMTOKENS"]

/-- Whether every blank counts in values of the type that tokens begin with, and the tokens after
it. -/
def attributeType? : List Token → Option (Bool × List Token)
  | .name ⟨none, "CDATA"⟩ :: rest => some (true, rest)
  | .name ⟨none, "NOTATION"⟩ :: .openParen :: rest =>
    (afterChoices? isNotationChoice rest).map (false, ·)
  | .name ⟨none, type⟩ :: rest => if attributeTypes.contains type then some (false, rest) else none
  | .openParen :: rest => (afterChoices? isValueChoice rest).map (false, ·)
  | _ => none

/-- The default that tokens begin with, if they say one, and the tokens after it. -/
def attributeDefault? : List Token → Option (Option (List Char) × List Token)
  | .keyword "REQUIRED" :: rest => some (none, rest)
  | .keyword "IMPLIED" :: rest => some (none, rest)
  | .keyword "FIXED" :: .literal s :: rest => some (some s, rest)
  | .literal s :: rest => some (some s, rest)
  | _ => none

/-! ## Reading declarations -/

/-- What has been declared, and whether declarations still count: they do not after something that
may hold others that come first. -/
structure State where
  declared : Declared
  standalone : Bool
  counts : Bool := true
  letters : NameLetters

/-- The text of an entity: characters given by number are put in, other references stay. -/
def entityText? (letters : NameLetters) (s : List Char) : Option (List Char) := do
  let parts ← valueParts? letters (· != '%') s
  pure (parts.flatMap fun
    | .text s => s
    | .reference (.character c) => [c]
    | .reference (.entity name) => '&' :: name.toList ++ [';'])

namespace State

/-- Declares an entity, unless its name is taken. -/
def addEntity (state : State) (name : String) (entity : Entity) : State :=
  let declared := state.declared
  if state.counts && (declared.entities.lookup name).isNone then
    { state with
      declared := { declared with entities := declared.entities ++ [(name, entity)] } }
  else state

/-- Declares an attribute, unless that has been done. -/
def addAttribute (state : State) (rule : AttributeRule) : State :=
  let declared := state.declared
  if (declared.rule? rule.element rule.name).isNone then
    { state with declared := { declared with attributes := declared.attributes ++ [rule] } }
  else state

/-- The declaration of an entity. One that is used only in declarations is not kept. -/
def readEntity? (state : State) : List Token → Option State
  | [.percent, .name ⟨none, _⟩, .literal s] => do
    if state.counts then discard (entityText? state.letters s)
    pure state
  | .percent :: .name ⟨none, _⟩ :: rest => if isExternalId rest then some state else none
  | [.name ⟨none, name⟩, .literal s] =>
    if state.counts then do
      let text ← entityText? state.letters s
      pure (state.addEntity name (.text text))
    else some state
  | .name ⟨none, name⟩ :: rest =>
    if isExternalId rest || isUnparsedId rest then some (state.addEntity name .external) else none
  | _ => none

/-- The declarations of attributes of an element; `limit` is at least the number of tokens. -/
def readAttributes? (state : State) (element : QualifiedName) :
    (limit : Nat) → List Token → Option State
  | _, [] => some state
  | limit + 1, .name name :: rest => do
    let (isText, rest) ← attributeType? rest
    let (default, rest) ← attributeDefault? rest
    if state.counts then
      let value ← default.mapM fun s => do
        let parts ← valueParts? state.letters (· != '<') s
        state.declared.value? isText parts
      readAttributes? (state.addAttribute ⟨element, name, isText, value⟩) element limit rest
    else readAttributes? state element limit rest
  | _, _ => none

/-- A declaration with a given keyword. -/
def readDeclaration? (state : State) (keyword : String) (tokens : List Token) : Option State :=
  match keyword, tokens with
  | "ENTITY", tokens => state.readEntity? tokens
  | "ATTLIST", .name element :: rest => state.readAttributes? element rest.length rest
  | "ELEMENT", .name _ :: rest => if isContentModel rest then some state else none
  | "NOTATION", .name ⟨none, _⟩ :: rest => if isNotationId rest then some state else none
  | _, _ => none

end State

/-- One of the things between the brackets of a document type. -/
inductive Item where
  | declaration (keyword : String) (tokens : List Token)
  /-- Declarations that stand elsewhere. -/
  | elsewhere
  | aside
deriving DecidableEq, Repr

/-- The next thing between the brackets, after white space; nothing at the closing bracket. -/
def item? : Scanner (Option Item) := do
  Scanner.space
  match ← Scanner.peek? with
  | some ']' => pure none
  | some '%' => do
    Scanner.word "%"
    discard Scanner.name
    Scanner.word ";"
    pure (some .elsewhere)
  | _ => do
    Scanner.word "<"
    if ← Scanner.hasWord "?" then
      instruction
      pure (some .aside)
    else do
      Scanner.word "!"
      if (← Scanner.peek?) = some '-' then
        comment
        pure (some .aside)
      else do
        let keyword ← Scanner.charsOf Char.isAlpha
        Scanner.someSpace
        let tokens ← Scanner.many token?
        Scanner.word ">"
        pure (some (.declaration (String.ofList keyword) tokens))

/-- What is declared after one of the things between the brackets. -/
def State.step? (state : State) : Item → Option State
  | .declaration keyword tokens => state.readDeclaration? keyword tokens
  | .elsewhere => some
      { state with
        counts := state.counts && state.standalone
        declared := { state.declared with mayBeElsewhere := !state.standalone } }
  | .aside => some state

/-- A document type after its first keyword. -/
def read (standalone : Bool) : Scanner Declared := do
  Scanner.someSpace
  let head ← Scanner.many token?
  let isExternal ← match head with
    | [.name _] => pure false
    | .name _ :: rest => do
      guard (isExternalId rest)
      pure true
    | _ => failure
  let first : State :=
    { declared := { mayBeElsewhere := isExternal && !standalone }
      standalone := standalone
      letters := ← Scanner.letters }
  let state ←
    if ← Scanner.hasWord "[" then do
      let items ← Scanner.many item?
      Scanner.word "]"
      Scanner.space
      let state ← Scanner.ofOption (items.foldlM State.step? first)
      pure state
    else pure first
  Scanner.word ">"
  pure state.declared

end StaticSite.Xml.DocumentType
