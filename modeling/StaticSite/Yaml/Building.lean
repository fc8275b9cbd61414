import StaticSite.Yaml.Graph
import StaticSite.Yaml.Meaning

/-!
# From nodes to values

A node that stands for a value by itself is that value. A node that stands for a collection is an
empty collection at first, which is filled later, after all that were met before it. So a collection
can be inside itself, and of two faults the one that is met first counts. Keys cannot wait: a
collection in a key is filled at once, and a collection inside itself is nothing there.

A mapping may take over entries of others. Its own entries count more than those, and the keys of a
mapping that takes over nothing are all different.
-/

set_option autoImplicit false

namespace StaticSite.Yaml

open StaticSite.Calendar

/-- What has been built so far. -/
structure Building where
  nodes : Array Node
  isOld : Bool
  /-- The values of the nodes that have one already. -/
  made : Array (Option Item)
  objects : Objects
  /-- The collections that have to be filled, the last one met first. -/
  waiting : List NodeId := []

namespace Building

/-- One step of building. -/
abbrev Step := StateT Building (Except YamlError)

/-- The building of a document. -/
def ofDocument (document : Document) : Building :=
  { nodes := document.nodes
    isOld := document.isOld
    made := Array.replicate document.nodes.size none
    objects := Array.replicate document.nodes.size (.list []) }

/-- A node. -/
def nodeAt (id : NodeId) : Step Node := do
  pure ((← get).nodes.getD id default)

/-- Changes a node. -/
def setNode (id : NodeId) (node : Node) : Step Unit :=
  modify fun building => { building with nodes := building.nodes.setIfInBounds id node }

/-- Fills a collection. -/
def setObject (id : NodeId) (object : Object) : Step Unit :=
  modify fun building => { building with objects := building.objects.setIfInBounds id object }

/-- Keeps the value of a node. -/
def setMade (id : NodeId) (item : Item) : Step Unit :=
  modify fun building => { building with made := building.made.setIfInBounds id (some item) }

/-- A bound for the number of nodes that are inside each other, or that take over entries from each
other. -/
def bound : Step Nat := do
  let nodes := (← get).nodes
  let pairs := nodes.foldl (fun total node =>
    match node.body with
    | .mapping entries => total + entries.length
    | _ => total) 0
  pure (2 * nodes.size + 2 * pairs + 4)

/-! ## Values by themselves -/

/-- The text of a node. A mapping has the text of the value that it stands for. -/
def textOf (id : NodeId) : Nat → Step ScalarText
  | 0 => throw .tooDeep
  | limit + 1 => do
    match (← nodeAt id).body with
    | .scalar text => pure text
    | .sequence _ => throw .malformed
    | .mapping entries => do
      match ← entries.findM? fun (key, _) => do pure ((← nodeAt key).tag = .equals) with
      | some (_, value) => textOf value limit
      | none => throw .malformed

/-- The date or the moment that a text writes. -/
def readTime (text : String) : Except YamlError Atom :=
  match readTimestamp? (withoutLastBreak text.toList) with
  | none => .error .malformed
  | some stamp =>
    let date : Date := ⟨stamp.year, stamp.month, stamp.day⟩
    if !date.isValid then .error .badValue
    else match stamp.clock with
      | none => .ok (.date date)
      | some (hour, minute, second, fraction) =>
        (stamp.moment date hour minute second fraction).map fun moment =>
          .moment moment ((stamp.zone.map Zone.name).getD "")

/-- The number that a text writes. Numbers that are none have their node as the source, unless they
are spelled like that. -/
def readNumber (isOld : Bool) (id : NodeId) (text : String) : Except YamlError Atom :=
  (readReal isOld text).map fun r =>
    .real r (if r = .nan && !isNamedNan text then id + 1 else 0)

/-- The value that a node stands for, if it is no collection. -/
def atomOf (id : NodeId) (tag : Tag) : Step Atom := do
  let building ← get
  let limit := building.nodes.size + 1
  match tag with
  | .null => do
    discard (textOf id limit)
    pure .null
  | .boolean =>
    match readBoolean? (← textOf id limit).toString with
    | some b => pure (.boolean b)
    | none => throw .notListed
  | .whole => do
    let n ← readWhole building.isOld (← textOf id limit).toString
    pure (.whole n)
  | .real => do readNumber building.isOld id (← textOf id limit).toString
  | .binary => do
    let bytes ← readBytes (← textOf id limit).toString
    pure (.bytes bytes)
  | .text => do pure (.ofText (← textOf id limit))
  | .timestamp =>
    match (← nodeAt id).body with
    | .scalar text => readTime text.toString
    | _ => throw .malformed
  | _ => throw .malformed

/-- The kind of collection that a tag names. -/
def shapeOf? : Tag → Option Shape
  | .sequence => some .list
  | .pairs => some .list
  | .mapping => some .mapping
  | .ordered => some .ordered
  | .set => some .set
  | _ => none

/-! ## Entries -/

/-- The entries of a mapping. -/
def entriesAt (id : NodeId) : Step (List NodeEntry) := do
  match (← nodeAt id).body with
  | .mapping entries => pure entries
  | _ => throw .malformed

/-- Cuts the first entry off whose value is to be taken over; gives that value and the entries that
are left. -/
def cutMerge? : List NodeEntry → Step (Option (NodeId × List NodeEntry))
  | [] => pure none
  | (key, value) :: rest => do
    if (← nodeAt key).tag = .merge then pure (some (value, rest))
    else
      let found ← cutMerge? rest
      pure (found.map fun (merged, left) => (merged, (key, value) :: left))

/-- The key of the value that a mapping stands for is a text like others. -/
def plainKey (id : NodeId) : Step Unit := do
  let node ← nodeAt id
  if node.tag = .equals then setNode id { node with tag := .text }

mutual

/-- Puts the entries that a mapping takes over among its own, in front of them. -/
def flatten (id : NodeId) : Nat → Step Unit
  | 0 => throw .malformed
  | limit + 1 => do
    let merged ← takeOver id [] limit
    let entries ← entriesAt id
    entries.forM fun (key, _) => plainKey key
    if !merged.isEmpty then
      let node ← nodeAt id
      setNode id { node with body := .mapping (merged ++ entries), merged := merged }

/-- The entries that a mapping takes over: those of another mapping, or of several, of which the
first counts most. It can take over entries once. -/
def takeOver (id : NodeId) (merged : List NodeEntry) : Nat → Step (List NodeEntry)
  | 0 => throw .malformed
  | limit + 1 => do
    match ← cutMerge? (← entriesAt id) with
    | none => pure merged
    | some (value, rest) => do
      if !merged.isEmpty then throw .malformed
      let node ← nodeAt id
      setNode id { node with body := .mapping rest }
      let sources ← match (← nodeAt value).body with
        | .mapping _ => pure [value]
        | .sequence items => pure items
        | .scalar _ => throw .malformed
      let lists ← sources.mapM fun source => do
        discard (entriesAt source)
        flatten source limit
        entriesAt source
      takeOver id lists.reverse.flatten limit

end

/-! ## Collections -/

/-- A value as a key. A list counts as one that never changes; no other collection can be a key. -/
def asKey : Item → Step Item
  | .object id => do
    match (← get).objects.get id with
    | .list items => pure (.tuple items)
    | _ => throw .malformed
  | item => pure item

/-- What is found under a key among entries, which has to be something that never changes. -/
def find? (key : Item) (entries : List (Item × Item)) : Step (Option Item) :=
  if key.isFixed then pure (key.find? entries) else throw .badKey

/-- Puts an entry with a new key after others. A key that is not new is reported with both values,
if they can be written. -/
def putNew (entries : List (Item × Item)) (key value : Item) : Step (List (Item × Item)) := do
  match ← find? key entries with
  | none => pure (entries ++ [(key, value)])
  | some old => do
    let objects := (← get).objects
    if [key, value, old].all fun item => (objects.value item).isWritable then throw .malformed
    else throw .badValue

/-- Puts an entry among others. -/
def putOver (entries : List (Item × Item)) (key value : Item) : Step (List (Item × Item)) := do
  discard (find? key entries)
  pure (key.put value entries)

/-- The only entry of a mapping. -/
def onlyEntry (id : NodeId) : Step NodeEntry := do
  match ← entriesAt id with
  | [entry] => pure entry
  | _ => throw .malformed

/-- The items of a sequence. -/
def itemsAt (id : NodeId) : Step (List NodeId) := do
  match (← nodeAt id).body with
  | .sequence items => pure items
  | _ => throw .malformed

mutual

/-- The value of a node. In a key collections are filled at once; `above` has the ones that are
being filled. -/
def make (inKey : Bool) (above : List NodeId) (id : NodeId) : Nat → Step Item
  | 0 => throw .tooDeep
  | limit + 1 => do
    match ((← get).made.getD id none), above.contains id with
    | some item, _ => pure item
    | none, true => pure (.atom .null)
    | none, false => do
      let tag := (← nodeAt id).tag
      match shapeOf? tag with
      | none => do
        let a ← atomOf id tag
        setMade id (.atom a)
        pure (.atom a)
      | some shape => do
        setObject id (.empty shape)
        if inKey then complete inKey (id :: above) id limit
        else modify fun building => { building with waiting := id :: building.waiting }
        setMade id (.object id)
        pure (.object id)

/-- Fills the collection of a node. -/
def complete (inKey : Bool) (above : List NodeId) (id : NodeId) : Nat → Step Unit
  | 0 => throw .tooDeep
  | limit + 1 => do
    match (← nodeAt id).tag with
    | .sequence => do
      let items ← (← itemsAt id).mapM fun item => make inKey above item limit
      setObject id (.list items)
    | .pairs => do
      let pairs ← (← itemsAt id).mapM fun item => do
        let (keyNode, valueNode) ← onlyEntry item
        let key ← make inKey above keyNode limit
        let value ← make inKey above valueNode limit
        pure (Item.tuple [key, value])
      setObject id (.list pairs)
    | .ordered => do
      let entries ← (← itemsAt id).foldlM (fun entries item => do
        let (keyNode, valueNode) ← onlyEntry item
        let key ← make inKey above keyNode limit
        if (← find? key entries).isSome then throw .repeatedKey
        let value ← make inKey above valueNode limit
        pure (entries ++ [(key, value)])) []
      setObject id (.ordered entries)
    | .set => do
      let entries ← entriesOf inKey above id limit
      setObject id (.set (entries.map (·.1)))
    | _ => do
      let entries ← entriesOf inKey above id limit
      setObject id (.mapping entries)

/-- The entries of a mapping with those that it takes over. -/
def entriesOf (inKey : Bool) (above : List NodeId) (id : NodeId) :
    Nat → Step (List (Item × Item))
  | 0 => throw .tooDeep
  | limit + 1 => do
    discard (entriesAt id)
    flatten id (← bound)
    let node ← nodeAt id
    let read (put : List (Item × Item) → Item → Item → Step (List (Item × Item)))
        (nodes : List NodeEntry) : Step (List (Item × Item)) :=
      nodes.foldlM (fun entries (keyNode, valueNode) => do
        let key ← asKey (← make true above keyNode limit)
        let value ← make inKey above valueNode limit
        put entries key value) []
    if node.merged.isEmpty then read putNew (← entriesAt id)
    else
      let merged ← read putOver node.merged
      let own ← read putOver (← entriesAt id)
      pure (own.foldl (fun entries (key, value) => key.put value entries) merged)

end

/-- Fills the collections that wait, in rounds: those that are met in one round wait for the next.
-/
def finish : Nat → Step Unit
  | 0 => pure ()
  | limit + 1 => do
    let waiting := (← get).waiting.reverse
    if !waiting.isEmpty then
      modify fun building => { building with waiting := [] }
      let depth ← bound
      waiting.forM fun id => complete false [] id depth
      finish limit

/-- Builds what a node stands for. -/
def run (root : NodeId) : Step Item := do
  let item ← make false [] root (← bound)
  finish ((← get).nodes.size + 1)
  pure item

end Building

/-- What a text means. A text without a document means nothing. -/
def read (text : List Char) : Except YamlError Graph := do
  match ← readDocument text with
  | none => pure { objects := #[], root := .atom .null }
  | some document => do
    let (root, building) ← (Building.run document.root).run (.ofDocument document)
    pure { objects := building.objects, root := root }

end StaticSite.Yaml
