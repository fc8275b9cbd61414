import StaticSite.Text.Split
import StaticSite.Xml.Markup

/-!
# What a document declares

The declarations of a document type give names to texts and defaults to attributes. Values are
expanded with them: references are replaced by what they stand for. An entity may refer to others,
but not to itself, so that there are never more of them inside one another than are declared. How
much text the references bring is found out before any is replaced, because a few short declarations
can bring more than fits anywhere. In the text of an entity, names are made of the letters that are
listed, whatever the document is.
-/

set_option autoImplicit false

namespace StaticSite.Xml

open StaticSite.Text

/-- What an entity stands for. -/
inductive Entity where
  | text (s : List Char)
  /-- Something outside the document, which is never read. -/
  | external
deriving DecidableEq, Repr

/-- A declared attribute of an element. -/
structure AttributeRule where
  element : QualifiedName
  name : QualifiedName
  /-- Whether every blank of a value counts. -/
  isText : Bool
  default : Option String
deriving DecidableEq, Repr

/-- What a document declares. The first declaration of a name counts. -/
structure Declared where
  entities : List (String × Entity) := []
  attributes : List AttributeRule := []
  /-- Whether there may be declarations outside the document. -/
  mayBeElsewhere : Bool := false
deriving DecidableEq, Repr

namespace Declared

/-- What an entity stands for. -/
inductive Meaning where
  | character (c : Char)
  /-- A text to be read in its place, with line feeds alone. -/
  | text (s : List Char)
  | external
  | unknown
deriving DecidableEq, Repr

/-- The entities that need no declaration; none changes them. -/
def predefinedEntities : List (String × Char) :=
  [("lt", '<'), ("gt", '>'), ("amp", '&'), ("quot", '"'), ("apos", '\'')]

/-- What the entity with a name stands for. -/
def meaning (declared : Declared) (name : String) : Meaning :=
  match predefinedEntities.lookup name, declared.entities.lookup name with
  | some c, _ => .character c
  | none, some (.text s) => .text (unifyLineEnds s)
  | none, some .external => .external
  | none, none => .unknown

/-! ## How much text references bring -/

/-- The names of the entities that a text refers to, one for each reference. -/
def referredNames (s : List Char) : List String :=
  ((splitAt '&' s).drop 1).filterMap fun part =>
    (cutAt? ';' part).map fun (name, _) => String.ofList name

/-- How much text references to entities bring, given how much each entity does. -/
def totalWeight (weights : List (String × Nat)) (names : List String) : Nat :=
  names.foldl (fun total name => total + (weights.lookup name).getD 0) 0

/-- How many bytes of text each entity brings: its own, and those of the entities that it refers to,
at most `depth` deep inside one another. -/
def entityWeights (declared : Declared) : (depth : Nat) → List (String × Nat)
  | 0 => []
  | depth + 1 =>
    let inner := declared.entityWeights depth
    declared.entities.filterMap fun
      | (name, .text s) =>
        some (name, (String.ofList s).utf8ByteSize + totalWeight inner (referredNames s))
      | (_, .external) => none

/-- References together bring less text than this. -/
def weightLimit : Nat := 0x800000

/-- Whether references to entities bring no more text than they may. -/
def areBearable (declared : Declared) (names : List String) : Bool :=
  names.isEmpty ||
    totalWeight (declared.entityWeights declared.entities.length) names < weightLimit

/-! ## Values -/

/-- Every white space in a value becomes a space. -/
def spaced (s : List Char) : List Char :=
  s.map fun c => if isSpace c then ' ' else c

/-- What a part of a value spells; `nested` reads the text of an entity. An entity that may be
declared elsewhere stands for nothing. -/
def expandPart (declared : Declared) (nested : List Char → Option (List Char)) :
    ValuePart → Option (List Char)
  | .text s => some (spaced s)
  | .reference (.character c) => some [c]
  | .reference (.entity name) =>
    match declared.meaning name with
    | .character c => some [c]
    | .text s => nested s
    | .external => none
    | .unknown => if declared.mayBeElsewhere then some [] else none

/-- The value that parts spell, with entities at most `depth` deep inside one another. -/
def expandParts (declared : Declared) : (depth : Nat) → List ValuePart → Option (List Char)
  | 0, parts => (parts.mapM (declared.expandPart fun _ => none)).map List.flatten
  | depth + 1, parts =>
    let nested (s : List Char) := do
      let inner ← valueParts? .listed (· != '<') s
      declared.expandParts depth inner
    (parts.mapM (declared.expandPart nested)).map List.flatten

/-- Runs of spaces become single ones, and none are left at the ends. -/
def collapseSpaces (s : List Char) : List Char :=
  joinWith [' '] ((splitAt ' ' s).filter (!·.isEmpty))

/-- The entity that a part of a value refers to. -/
def partEntity? : ValuePart → Option String
  | .reference (.entity name) => some name
  | _ => none

/-- The value of an attribute. -/
def value? (declared : Declared) (isText : Bool) (parts : AttributeValue) : Option String := do
  guard (declared.areBearable (parts.filterMap partEntity?))
  let s ← declared.expandParts declared.entities.length parts
  pure (String.ofList (if isText then s else collapseSpaces s))

/-- What is declared for an attribute of an element, if something is. -/
def rule? (declared : Declared) (element name : QualifiedName) : Option AttributeRule :=
  declared.attributes.find? fun rule => rule.element = element && rule.name = name

/-- The attributes of a tag with their values, and those that it leaves to their defaults. No
attribute is given twice. -/
def attributesOf? (declared : Declared) (tag : Tag) : Option (List (QualifiedName × String)) :=
  if (tag.attributes.map (·.1)).Nodup then do
    let given ← tag.attributes.mapM fun (name, parts) => do
      let value ← declared.value? ((declared.rule? tag.name name).all (·.isText)) parts
      pure (name, value)
    let rules := declared.attributes.filter fun rule =>
      rule.element = tag.name && !(tag.attributes.map (·.1)).contains rule.name
    pure (given ++ rules.filterMap fun rule => rule.default.map (rule.name, ·))
  else none

/-! ## Content -/

/-- Whether tags match: every one that begins an element has its own that ends it. `opened` are the
elements that have begun, the last one first. -/
def isBalanced : (opened : List QualifiedName) → List Markup → Bool
  | opened, [] => opened.isEmpty
  | opened, .opening tag :: rest => isBalanced (tag.name :: opened) rest
  | [], .closing _ :: _ => false
  | name :: opened, .closing other :: rest => name = other && isBalanced opened rest
  | opened, _ :: rest => isBalanced opened rest

/-- What a piece of content stands for; `nested` reads the text of an entity. -/
def expandPiece (declared : Declared) (nested : List Char → Option (List Markup)) :
    Markup → Option (List Markup)
  | .reference (.entity name) =>
    match declared.meaning name with
    | .character c => some [.text [c]]
    | .text s => nested s
    | _ => none
  | .reference (.character c) => some [.text [c]]
  | piece => some [piece]

/-- Content without references, with entities at most `depth` deep inside one another. What an
entity stands for is balanced in itself. -/
def expandMarkup (declared : Declared) : (depth : Nat) → List Markup → Option (List Markup)
  | 0, pieces => (pieces.mapM (declared.expandPiece fun _ => none)).map List.flatten
  | depth + 1, pieces =>
    let nested (s : List Char) := do
      let inner ← readMarkup .listed s
      guard (isBalanced [] inner)
      declared.expandMarkup depth inner
    (pieces.mapM (declared.expandPiece nested)).map List.flatten

/-- The entity that a piece of content refers to. -/
def pieceEntity? : Markup → Option String
  | .reference (.entity name) => some name
  | _ => none

/-- Content with what its references stand for in their places. -/
def content? (declared : Declared) (pieces : List Markup) : Option (List Markup) := do
  guard (declared.areBearable (pieces.filterMap pieceEntity?))
  declared.expandMarkup declared.entities.length pieces

end Declared

end StaticSite.Xml
