import StaticSite.Yaml.Node
import StaticSite.Yaml.Value

/-!
# Graphs of values

The collections of a document may be inside several others, also inside themselves. So they are kept
in one row, each at the place of its node, and what refers to one has that place. A value is what is
found on the way from such a place, as far as nothing comes twice on the way.
-/

set_option autoImplicit false

namespace StaticSite.Yaml

/-- A value in a graph. -/
inductive Item where
  | atom (a : Atom)
  | tuple (items : List Item)
  /-- The collection of a node. -/
  | object (id : NodeId)
deriving Inhabited

/-- A collection in a graph. -/
inductive Object where
  | list (items : List Item)
  | mapping (entries : List (Item × Item))
  | ordered (entries : List (Item × Item))
  | set (members : List Item)
deriving Inhabited

namespace Object

/-- The kind of a collection. -/
def shape : Object → Shape
  | list _ => .list
  | mapping _ => .mapping
  | ordered _ => .ordered
  | set _ => .set

/-- A collection that holds nothing yet. -/
def empty : Shape → Object
  | .list => list []
  | .mapping => mapping []
  | .ordered => ordered []
  | .set => set []

/-- Whether a collection holds anything. -/
def isSet : Object → Bool
  | list items => !items.isEmpty
  | mapping entries => !entries.isEmpty
  | ordered entries => !entries.isEmpty
  | set members => !members.isEmpty

end Object

/-! ## Keys -/

namespace Item

mutual

/-- Whether a value never changes, so that it can be a key. -/
def isFixed : Item → Bool
  | atom _ => true
  | tuple items => areFixed items
  | object _ => false

/-- Whether values never change. -/
def areFixed : List Item → Bool
  | [] => true
  | item :: rest => isFixed item && areFixed rest

end

mutual

/-- Whether two values are the same key. -/
def same : Item → Item → Bool
  | atom a, atom b => a.same b
  | tuple items, tuple others => sameAll items others
  | object i, object j => i = j
  | _, _ => false

/-- Whether values are the same keys one by one. -/
def sameAll : List Item → List Item → Bool
  | [], [] => true
  | one :: rest, other :: others => same one other && sameAll rest others
  | _, _ => false

end

/-- The value of a key in entries. -/
def find? (key : Item) (entries : List (Item × Item)) : Option Item :=
  (entries.find? fun entry => entry.1.same key).map (·.2)

/-- Puts an entry among others; one with the same key changes its value and keeps its place. -/
def put (key value : Item) : List (Item × Item) → List (Item × Item)
  | [] => [(key, value)]
  | entry :: rest =>
    if entry.1.same key then (entry.1, value) :: rest else entry :: put key value rest

/-- The text of a key, if it is one. -/
def text? : Item → Option String
  | atom (.text s) => some s
  | atom (.broken points) => some (ScalarText.broken points).toString
  | _ => none

end Item

/-! ## Graphs -/

/-- Collections at the places of their nodes. -/
abbrev Objects := Array Object

namespace Objects

/-- The collection of a node. -/
def get (objects : Objects) (id : NodeId) : Object :=
  objects.getD id (.list [])

/-- The value of an item, with a limit on how deep it goes, below some collections. -/
def unfold (objects : Objects) : Nat → List NodeId → Item → Value
  | _, _, .atom a => .atom a
  | 0, _, _ => .null
  | limit + 1, above, .tuple items => .tuple (items.map (objects.unfold limit above))
  | limit + 1, above, .object id =>
    let object := objects.get id
    let inside (item : Item) : Value := objects.unfold limit (id :: above) item
    if above.contains id then .outer object.shape
    else match object with
      | .list items => .list (items.map inside)
      | .mapping entries => .mapping (entries.map fun (key, value) => (inside key, inside value))
      | .ordered entries => .ordered (entries.map fun (key, value) => (inside key, inside value))
      | .set members => .set (members.map inside)

/-- The value of an item. On the way to it a collection comes once at most, with a tuple after it.
-/
def value (objects : Objects) (item : Item) : Value :=
  objects.unfold (2 * objects.size + 2) [] item

end Objects

/-- What a document means. -/
structure Graph where
  objects : Objects
  root : Item

namespace Graph

/-- The entries of the outermost value, if it is a mapping. -/
def entries? (graph : Graph) : Option (List (Item × Item)) :=
  match graph.root with
  | .object id =>
    match graph.objects.get id with
    | .mapping entries => some entries
    | .ordered entries => some entries
    | _ => none
  | _ => none

/-- Whether the outermost value says anything. -/
def isSet (graph : Graph) : Bool :=
  match graph.root with
  | .atom a => a.isSet
  | .tuple items => !items.isEmpty
  | .object id => (graph.objects.get id).isSet

end Graph

end StaticSite.Yaml
