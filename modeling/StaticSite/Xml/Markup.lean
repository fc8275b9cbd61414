import StaticSite.Xml.Scanner

/-!
# Markup

The content of an element as it is written: text, references, tags, and what does not count. Nothing
is looked up here, neither what an entity stands for nor what a qualifier means.
-/

set_option autoImplicit false

namespace StaticSite.Xml

open StaticSite.Text

/-! ## Names and references -/

/-- A name as it is written, which may have a qualifier in front. -/
structure QualifiedName where
  qualifier : Option String := none
  base : String
deriving DecidableEq, Repr

/-- A reference. -/
inductive Reference where
  /-- A character by its number. -/
  | character (c : Char)
  | entity (name : String)
deriving DecidableEq, Repr

/-- A part of a value or of an entity. -/
inductive ValuePart where
  | text (s : List Char)
  | reference (r : Reference)
deriving DecidableEq, Repr

/-- A name with or without a qualifier. -/
def qualifiedName : Scanner QualifiedName := do
  let first ← Scanner.name
  if ← Scanner.hasWord ":" then
    let base ← Scanner.name
    pure { qualifier := some first, base := base }
  else pure { base := first }

/-- The number that digits spell in a base. -/
def numberOfDigits (base : Nat) (digits : List Char) : Nat :=
  digits.foldl (fun n c =>
    base * n + (if c.isDigit then c.toNat - 0x30 else c.toLower.toNat - 0x61 + 10)) 0

/-- The character with a number, if a document may hold it. -/
def characterOfNumber? (n : Nat) : Option Char :=
  if h : n.isValidChar then
    let c := Char.ofNatAux n h
    if isDocumentChar c then some c else none
  else none

/-- Whether a character is a hexadecimal digit. -/
def isHexDigit (c : Char) : Bool :=
  c.isDigit || ('a' ≤ c && c ≤ 'f') || ('A' ≤ c && c ≤ 'F')

/-- A reference after its ampersand. -/
def reference : Scanner Reference := do
  if ← Scanner.hasWord "#" then
    let base ← if ← Scanner.hasWord "x" then pure 16 else pure 10
    let digits ← Scanner.charsOf (if base = 16 then isHexDigit else Char.isDigit)
    Scanner.word ";"
    guard (!digits.isEmpty)
    match characterOfNumber? (numberOfDigits base digits) with
    | some c => pure (.character c)
    | none => failure
  else
    let name ← Scanner.name
    Scanner.word ";"
    pure (.entity name)

/-- The next part of a value, whose plain characters are of a class; nothing if no part begins. -/
def valuePart? (plain : Char → Bool) : Scanner (Option ValuePart) := do
  match ← Scanner.peek? with
  | none => pure none
  | some '&' => do
    Scanner.word "&"
    let r ← reference
    pure (some (.reference r))
  | some c =>
    if plain c then do
      let s ← Scanner.charsOf fun c => plain c && c != '&'
      pure (some (.text s))
    else pure none

/-- The parts of a text whose plain characters are of a class; it has no other characters. -/
def valueParts? (letters : NameLetters) (plain : Char → Bool) (s : List Char) :
    Option (List ValuePart) :=
  Scanner.all? (Scanner.many (valuePart? plain)) letters s

/-! ## Tags and what is between them -/

/-- The value of an attribute as it is written. -/
abbrev AttributeValue := List ValuePart

/-- A tag that begins an element. -/
structure Tag where
  name : QualifiedName
  attributes : List (QualifiedName × AttributeValue)
deriving DecidableEq, Repr

/-- A piece of content. -/
inductive Markup where
  | text (s : List Char)
  | reference (r : Reference)
  /-- Text in which nothing is markup. -/
  | section (s : List Char)
  | opening (tag : Tag)
  | closing (name : QualifiedName)
  /-- A tag that begins an element and ends it. -/
  | empty (tag : Tag)
  /-- A comment or an instruction. -/
  | aside
deriving DecidableEq, Repr

/-- A comment after its first two characters: no two hyphens stand in it. -/
def comment : Scanner Unit := do
  Scanner.word "--"
  discard (Scanner.before "--")
  Scanner.word ">"

/-- An instruction after its first two characters. No target is spelled like the declaration. -/
def instruction : Scanner Unit := do
  let target ← Scanner.name
  guard (target.toLower != "xml")
  if !(← Scanner.hasWord "?>") then
    Scanner.someSpace
    discard (Scanner.before "?>")

/-- The next attribute of a tag, after white space; nothing if the tag ends. -/
def attribute? : Scanner (Option (QualifiedName × AttributeValue)) := do
  let blank ← Scanner.charsOf isSpace
  match ← Scanner.peek? with
  | some '>' => pure none
  | some '/' => pure none
  | _ => do
    guard (!blank.isEmpty)
    let name ← qualifiedName
    Scanner.space
    Scanner.word "="
    Scanner.space
    let mark ← Scanner.anyChar
    guard (mark = '"' || mark = '\'')
    let value ← Scanner.many (valuePart? fun c => c != mark && c != '<')
    Scanner.word (String.singleton mark)
    pure (some (name, value))

/-- A tag that begins an element, after its first character. -/
def tag : Scanner Markup := do
  let name ← qualifiedName
  let attributes ← Scanner.many attribute?
  if ← Scanner.hasWord ">" then pure (.opening ⟨name, attributes⟩)
  else do
    Scanner.word "/>"
    pure (.empty ⟨name, attributes⟩)

/-- Whether the end mark of a section stands in a text. -/
def hasSectionEnd (s : List Char) : Bool :=
  (cutAtWord? "]]>".toList s).isSome

/-- The next piece of content; nothing at the end of the text. -/
def markup? : Scanner (Option Markup) := do
  match ← Scanner.peek? with
  | none => pure none
  | some '&' => do
    Scanner.word "&"
    let r ← reference
    pure (some (.reference r))
  | some '<' => do
    Scanner.word "<"
    if ← Scanner.hasWord "/" then
      let name ← qualifiedName
      Scanner.space
      Scanner.word ">"
      pure (some (.closing name))
    else if ← Scanner.hasWord "?" then
      instruction
      pure (some .aside)
    else if ← Scanner.hasWord "![CDATA[" then
      let s ← Scanner.before "]]>"
      pure (some (.section s))
    else if ← Scanner.hasWord "!" then
      comment
      pure (some .aside)
    else
      let m ← tag
      pure (some m)
  | some _ => do
    let s ← Scanner.charsOf fun c => c != '<' && c != '&'
    guard (!hasSectionEnd s)
    pure (some (.text s))

/-- The pieces of a content. -/
def readMarkup (letters : NameLetters) (s : List Char) : Option (List Markup) :=
  Scanner.all? (Scanner.many markup?) letters s

end StaticSite.Xml
