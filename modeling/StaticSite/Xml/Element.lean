import StaticSite.Xml.Declared

/-!
# Elements

What a document says: elements with names in spaces, attributes, text, and elements inside. A tag's
qualifier stands for the space that the closest declaration of it around the tag gives; a name
without one is in the default space, if there is one, and an attribute without one is in none.
-/

set_option autoImplicit false

namespace StaticSite.Xml

/-- A name with the space that it belongs to. -/
structure Name where
  space : Option String := none
  base : String
deriving DecidableEq, Repr

/-- An element. What it holds is text, and then other elements with text after each. -/
inductive Element where
  | mk (name : Name) (attributes : List (Name × String)) (text : String)
    (inner : List (Element × String))

namespace Element

/-- The name of an element. -/
def name : Element → Name
  | mk name _ _ _ => name

/-- The attributes of an element in the order they are written. -/
def attributes : Element → List (Name × String)
  | mk _ attributes _ _ => attributes

/-- The text of an element before its first inner element. -/
def text : Element → String
  | mk _ _ text _ => text

/-- The elements inside an element. -/
def children : Element → List Element
  | mk _ _ _ inner => inner.map (·.1)

/-- The value of an attribute. -/
def attribute? (element : Element) (name : Name) : Option String :=
  element.attributes.lookup name

end Element

/-! ## Spaces -/

/-- What the names of the reserved spaces begin with. -/
def reservedSpaces : String :=
  "http://www.w3.org/"

/-- The space of the qualifier that is always declared. -/
def xmlSpace : String :=
  reservedSpaces ++ "XML/1998/namespace"

/-- The space of the declarations of spaces. -/
def declarationSpace : String :=
  reservedSpaces ++ "2000/xmlns/"

/-- The spaces that qualifiers stand for, the closest declaration first. Nothing in the place of a
qualifier is for names without one; nothing in the place of a space takes a declaration back. -/
abbrev Scope := List (Option String × Option String)

/-- The spaces that are known outside the root element. -/
def Scope.outermost : Scope :=
  [(some "xml", some xmlSpace)]

/-- The qualifier that an attribute declares a space for, if it does: nothing is the one of names
without qualifier. -/
def declaredQualifier? (name : QualifiedName) : Option (Option String) :=
  match name with
  | ⟨none, "xmlns"⟩ => some none
  | ⟨some "xmlns", qualifier⟩ => some (some qualifier)
  | _ => none

/-- Declares a space. The two reserved qualifiers and spaces go with each other and nothing else, a
qualifier cannot be taken back, and a space has no brace that would end it in a written name. -/
def Scope.declare? (scope : Scope) (qualifier : Option String) (space : String) : Option Scope := do
  guard (qualifier != some "xmlns" && space != declarationSpace)
  guard ((qualifier == some "xml") == (space == xmlSpace))
  guard (qualifier.isNone || !space.isEmpty)
  guard (!space.toList.contains '\x7d')
  pure ((qualifier, if space.isEmpty then none else some space) :: scope)

/-- The scope inside a tag with attributes. -/
def Scope.enter? (scope : Scope) (attributes : List (QualifiedName × String)) : Option Scope :=
  attributes.foldlM (fun scope (name, value) =>
    match declaredQualifier? name with
    | some qualifier => scope.declare? qualifier value
    | none => some scope) scope

/-- The name of an element in a scope. -/
def Scope.elementName? (scope : Scope) (name : QualifiedName) : Option Name :=
  match name.qualifier with
  | none => some { space := (scope.lookup none).join, base := name.base }
  | some qualifier => do
    let space ← scope.lookup (some qualifier)
    pure { space := space, base := name.base }

/-- The name of an attribute in a scope. -/
def Scope.attributeName? (scope : Scope) (name : QualifiedName) : Option Name :=
  if name.qualifier.isNone then some { base := name.base } else scope.elementName? name

/-! ## Elements from markup -/

/-- An element that has not ended yet. -/
structure OpenElement where
  tag : QualifiedName
  name : Name
  attributes : List (Name × String)
  /-- The scope of what is inside. -/
  scope : Scope
  /-- The pieces of text before the first inner element, the last one first. -/
  text : List (List Char) := []
  /-- The inner elements that have ended, the last one first, with the pieces of text after each. -/
  inner : List (Element × List (List Char)) := []

namespace OpenElement

/-- Adds text. -/
def addText (s : List Char) (element : OpenElement) : OpenElement :=
  match element.inner with
  | [] => { element with text := s :: element.text }
  | (last, after) :: inner => { element with inner := (last, s :: after) :: inner }

/-- Adds an inner element. -/
def addElement (inner : Element) (element : OpenElement) : OpenElement :=
  { element with inner := (inner, []) :: element.inner }

/-- The text that pieces make up, of which the last one is first. -/
def joined (pieces : List (List Char)) : String :=
  String.ofList pieces.reverse.flatten

/-- The element as it is when it ends. -/
def finish (element : OpenElement) : Element :=
  .mk element.name element.attributes (joined element.text)
    (element.inner.reverse.map fun (inner, after) => (inner, joined after))

end OpenElement

/-- Begins an element with a tag. -/
def Tag.begin? (tag : Tag) (declared : Declared) (scope : Scope) : Option OpenElement := do
  let attributes ← declared.attributesOf? tag
  let scope ← scope.enter? attributes
  let name ← scope.elementName? tag.name
  let named ← (attributes.filter fun (name, _) => (declaredQualifier? name).isNone).mapM
    fun (name, value) => do
      let name ← scope.attributeName? name
      pure (name, value)
  guard (decide (named.map (·.1)).Nodup)
  pure { tag := tag.name, name := name, attributes := named, scope := scope }

/-- The element that content without references spells up to the end of the element, and the content
after it. `outer` are the elements around the place in `current`, the closest one first. -/
def readElement? (declared : Declared) :
    (current : OpenElement) → (outer : List OpenElement) → List Markup →
    Option (Element × List Markup)
  | current, outer, .opening tag :: rest => do
    let next ← tag.begin? declared current.scope
    readElement? declared next (current :: outer) rest
  | current, outer, .empty tag :: rest => do
    let inner ← tag.begin? declared current.scope
    readElement? declared (current.addElement inner.finish) outer rest
  | current, outer, .closing name :: rest =>
    if name = current.tag then
      match outer with
      | [] => some (current.finish, rest)
      | next :: outer => readElement? declared (next.addElement current.finish) outer rest
    else none
  | current, outer, .text s :: rest => readElement? declared (current.addText s) outer rest
  | current, outer, .section s :: rest => readElement? declared (current.addText s) outer rest
  | current, outer, .aside :: rest => readElement? declared current outer rest
  | _, _, .reference _ :: _ => none
  | _, _, [] => none

end StaticSite.Xml
