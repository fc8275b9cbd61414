import StaticSite.Yaml.Kind
import StaticSite.Yaml.TokenStream

/-!
# Nodes

Tokens put together: a document is made of scalars, sequences and mappings, each with the tag that
says what it stands for. A node that has been given a name can be used again, also inside itself. So
the nodes are kept in one row, and one refers to another by its place there.
-/

set_option autoImplicit false

namespace StaticSite.Yaml

/-- The place of a node. -/
abbrev NodeId := Nat

/-- A key and its value. -/
abbrev NodeEntry := NodeId × NodeId

/-- What a node is made of. -/
inductive NodeBody where
  | scalar (text : ScalarText)
  | sequence (items : List NodeId)
  | mapping (entries : List NodeEntry)
deriving DecidableEq, Repr, Inhabited

/-- A part of a document. -/
structure Node where
  tag : Tag
  body : NodeBody
  /-- The entries that a mapping has taken over from others. -/
  merged : List NodeEntry := []
deriving DecidableEq, Repr, Inhabited

/-- A document: its nodes, and the place of the outermost one. -/
structure Document where
  nodes : Array Node
  root : NodeId
  /-- Whether the document asks for the rules of version 1.1. -/
  isOld : Bool

/-- What has been put together so far. -/
structure Assembly where
  stream : Stream
  nodes : Array Node := #[]
  /-- The nodes that have names, the last one named first. -/
  anchors : List (String × NodeId) := []
  /-- What the handles of tags stand for. -/
  handles : List (String × String) := []
  /-- How many collections there are around what is put together. -/
  depth : Nat := 0

namespace Assembly

/-- One step of putting together. -/
abbrev Step := StateT Assembly (Except YamlError)

/-- What the handles of tags stand for unless a document says something else. -/
def usualHandles : List (String × String) :=
  [("!", "!"), ("!!", Tag.nameSpace)]

/-- How deep collections may be inside each other. -/
def depthLimit : Nat := 490

/-! ## Tokens -/

/-- The next token, which stays where it is. -/
def peek : Step Token := do
  let assembly ← get
  let (token, stream) ← Stream.peek.run assembly.stream
  set { assembly with stream := stream }
  pure token

/-- Whether the next token is one of some. -/
def isNext (tokens : List Token) : Step Bool := do
  pure (tokens.contains (← peek))

/-- Skips a token. -/
def skip : Step Unit := do
  let assembly ← get
  let ((), stream) ← Stream.take.run assembly.stream
  set { assembly with stream := stream }

/-- A token that has to be next. -/
def expect (token : Token) : Step Unit := do
  if (← peek) = token then skip else throw .malformed

/-- Whether the document asks for the rules of version 1.1. -/
def isOld : Step Bool := do
  pure (← get).stream.isOld

/-! ## Nodes -/

/-- Adds a node. -/
def add (tag : Tag) (body : NodeBody) : Step NodeId := do
  let assembly ← get
  set { assembly with nodes := assembly.nodes.push { tag := tag, body := body } }
  pure assembly.nodes.size

/-- Adds an empty place, where a node could be. -/
def nothing : Step NodeId :=
  add .null (.scalar (.string ""))

/-- Gives a node a name, if there is one. -/
def remember (anchor : Option String) (node : NodeId) : Step Unit :=
  modify fun assembly =>
    match anchor with
    | some name => { assembly with anchors := (name, node) :: assembly.anchors }
    | none => assembly

/-- The node with a name. -/
def nodeOf (name : String) : Step NodeId := do
  match (← get).anchors.lookup name with
  | some node => pure node
  | none => throw .malformed

/-- Puts together what is inside a collection. -/
def inside {α : Type} (step : Step α) : Step α := do
  let depth := (← get).depth
  if depth < depthLimit then
    modify fun assembly => { assembly with depth := depth + 1 }
    let a ← step
    modify fun assembly => { assembly with depth := depth }
    pure a
  else throw .tooDeep

/-- Adds a collection, with a name if there is one. Inside it the name is known already. -/
def collection (anchor : Option String) (tag : Tag) (body : Step NodeBody) : Step NodeId := do
  let node ← add tag (.sequence [])
  remember anchor node
  let body ← inside body
  modify fun assembly => { assembly with nodes := assembly.nodes.set! node ⟨tag, body, []⟩ }
  pure node

/-! ## Tags -/

/-- The name that is written for a tag. The one that says nothing counts as none. -/
def tagName? (written : Option TagName) : Step (Option String) := do
  match written with
  | none => pure none
  | some ⟨handle, suffix⟩ =>
    let leading ← match handle with
      | none => pure ""
      | some handle =>
        match (← get).handles.lookup handle with
        | some leading => pure leading
        | none => throw .malformed
    let name := leading ++ String.ofList (Tag.unescaped suffix.toList)
    pure (if name = "!" then none else some name)

/-- The tag of a scalar. What is not plain is a text, unless the tag that says nothing is written.
-/
def scalarTag (written : Option TagName) (name : Option String) (text : ScalarText)
    (isPlain : Bool) : Step Tag := do
  let isOld ← isOld
  match name with
  | some name => pure (Tag.ofName name)
  | none => pure (if isPlain || written.isSome then kindOf isOld text.toString else .text)

/-- The tag of a collection that is usually of one kind. -/
def collectionTag (usual : Tag) (name : Option String) : Tag :=
  (name.map Tag.ofName).getD usual

/-- A name for the next node, if there is one. -/
def anchor? : Step (Option String) := do
  match ← peek with
  | .anchor name => do
    skip
    pure (some name)
  | _ => pure none

/-- A tag for the next node, if there is one. -/
def tag? : Step (Option TagName) := do
  match ← peek with
  | .tag name => do
    skip
    pure (some name)
  | _ => pure none

mutual

/-- A node. `inBlock` says whether it may be a block, and `inValue` whether it may be a sequence
that is not indented further than what is around it. All these steps are limited in how deep they
go. -/
def node (inBlock inValue : Bool) : Nat → Step NodeId
  | 0 => throw .malformed
  | limit + 1 => do
    if let .alias name := ← peek then
      skip
      nodeOf name
    else
      let early ← anchor?
      let written ← tag?
      let late ← if early.isNone && written.isSome then anchor? else pure none
      let anchor := early.or late
      let name ← tagName? written
      let scalar (text : ScalarText) (isPlain : Bool) : Step NodeId := do
        let node ← add (← scalarTag written name text isPlain) (.scalar text)
        remember anchor node
        pure node
      let sequence (items : Step (List NodeId)) : Step NodeId :=
        collection anchor (collectionTag .sequence name) (NodeBody.sequence <$> items)
      let mapping (entries : Step (List NodeEntry)) : Step NodeId :=
        collection anchor (collectionTag .mapping name) (NodeBody.mapping <$> entries)
      let empty : Step NodeId :=
        if anchor.isSome || written.isSome then scalar (.string "") true else throw .malformed
      match ← peek with
      | .blockEntry => if inValue then sequence (looseItems limit) else empty
      | .scalar text isPlain => do
        skip
        scalar text isPlain
      | .flowStart .sequence => do
        skip
        sequence (flowItems true limit)
      | .flowStart .mapping => do
        skip
        mapping (flowEntries true limit)
      | next =>
        if inBlock && next = .blockSequenceStart then do
          skip
          sequence (blockItems limit)
        else if inBlock && next = .blockMappingStart then do
          skip
          mapping (blockEntries limit)
        else empty

/-- A node, or nothing before one of some tokens. -/
def nodeUnless (tokens : List Token) (inBlock inValue : Bool) : Nat → Step NodeId
  | 0 => throw .malformed
  | limit + 1 => do
    if ← isNext tokens then nothing else node inBlock inValue limit

/-- The items of a block. -/
def blockItems : Nat → Step (List NodeId)
  | 0 => throw .malformed
  | limit + 1 => do
    if (← peek) = .blockEntry then
      skip
      let item ← nodeUnless [.blockEntry, .blockEnd] true false limit
      let rest ← blockItems limit
      pure (item :: rest)
    else
      expect .blockEnd
      pure []

/-- The items of a sequence that is not indented further than what is around it. -/
def looseItems : Nat → Step (List NodeId)
  | 0 => throw .malformed
  | limit + 1 => do
    if (← peek) = .blockEntry then
      skip
      let item ← nodeUnless [.blockEntry, .key, .value, .blockEnd] true false limit
      let rest ← looseItems limit
      pure (item :: rest)
    else pure []

/-- The entries of a block. -/
def blockEntries : Nat → Step (List NodeEntry)
  | 0 => throw .malformed
  | limit + 1 => do
    let ends : List Token := [.key, .value, .blockEnd]
    let isOld ← isOld
    let next ← peek
    if next = .key || (next = .value && !isOld) then
      let key ← if next = .key then do
          skip
          nodeUnless ends true true limit
        else nothing
      let value ← if (← peek) = .value then do
          skip
          nodeUnless ends true true limit
        else nothing
      let rest ← blockEntries limit
      pure ((key, value) :: rest)
    else
      expect .blockEnd
      pure []

/-- The items between square brackets. A key among them makes a mapping with one entry. -/
def flowItems (isFirst : Bool) : Nat → Step (List NodeId)
  | 0 => throw .malformed
  | limit + 1 => do
    let stop : Token := .flowEnd .sequence
    if (← peek) = stop then
      skip
      pure []
    else
      if !isFirst then expect .flowEntry
      if (← peek) = .key then
        let item ← collection none .mapping do
          skip
          let key ← nodeUnless [.value, .flowEntry, stop] false false limit
          let value ← flowValue [.flowEntry, stop] limit
          pure (.mapping [(key, value)])
        let rest ← flowItems false limit
        pure (item :: rest)
      else if (← peek) = stop then
        skip
        pure []
      else
        let item ← node false false limit
        let rest ← flowItems false limit
        pure (item :: rest)

/-- The entries between braces. One without a colon has no value. -/
def flowEntries (isFirst : Bool) : Nat → Step (List NodeEntry)
  | 0 => throw .malformed
  | limit + 1 => do
    let stop : Token := .flowEnd .mapping
    if (← peek) = stop then
      skip
      pure []
    else
      if !isFirst then expect .flowEntry
      let isOld ← isOld
      let next ← peek
      if next = stop then
        skip
        pure []
      else
        let (key, value) ←
          if next = .key || (next = .value && !isOld) then do
            let key ← if next = .key then do
                skip
                nodeUnless [.value, .flowEntry, stop] false false limit
              else nothing
            let value ← flowValue [.flowEntry, stop] limit
            pure (key, value)
          else do
            let key ← node false false limit
            let value ← nothing
            pure (key, value)
        let rest ← flowEntries false limit
        pure ((key, value) :: rest)

/-- The value after a key between brackets, if there is one; there is none before one of some
tokens. -/
def flowValue (ends : List Token) : Nat → Step NodeId
  | 0 => throw .malformed
  | limit + 1 => do
    if (← peek) = .value then
      skip
      nodeUnless ends false false limit
    else nothing

end

/-! ## Documents -/

/-- The directives before a document: the version and the handles. -/
def directives (version : Option (Nat × Nat)) (handles : List (String × String)) :
    Nat → Step (Option (Nat × Nat) × List (String × String))
  | 0 => throw .malformed
  | limit + 1 => do
    match ← peek with
    | .directive (.version major minor) => do
      if version.isSome || major != 1 then throw .malformed
      skip
      directives (some (major, minor)) handles limit
    | .directive (.handle handle leading) => do
      if (handles.lookup handle).isSome then throw .malformed
      skip
      directives version ((handle, leading) :: handles) limit
    | .directive .other => do
      skip
      directives version handles limit
    | _ => pure (version, handles)

/-- The front of a document with the mark of its beginning. What the directives say counts from
there on. -/
def documentFront (limit : Nat) : Step Unit := do
  let (version, handles) ← directives none [] limit
  let (_, minor) := version.getD (1, 2)
  if minor != 1 && minor != 2 then throw .unknownVersion
  modify fun assembly => { assembly with
    handles := handles ++ usualHandles
    stream := { assembly.stream with isOld := minor = 1 } }
  expect .documentStart

/-- The tokens after which there is nothing in a document. -/
def isDocumentLimit : Token → Bool
  | .directive _ => true
  | .documentStart => true
  | .documentEnd => true
  | .streamEnd => true
  | _ => false

/-- Whether a token begins a document that has a front. -/
def beginsFront : Token → Bool
  | .directive _ => true
  | .documentStart => true
  | _ => false

/-- Skips the ends of documents, a limited number of them. -/
def skipEnds : Nat → Step Unit
  | 0 => throw .malformed
  | limit + 1 => do
    if (← peek) = .documentEnd then
      skip
      skipEnds limit

/-- What comes after the only document: nothing. A second document is looked at up to the mark of
its beginning. -/
def documentEnd (limit : Nat) : Step Unit := do
  let isOld ← isOld
  let isMarked := (← peek) = .documentEnd
  if isMarked then skip
  if isOld then skipEnds limit
  let next ← peek
  if next = .streamEnd then pure ()
  else if isMarked && !isOld && !beginsFront next then throw .malformed
  else
    documentFront limit
    throw .malformed

/-- The only document of a text, if there is one. A document without directives may begin without a
mark. -/
def document? (limit : Nat) : Step (Option Document) := do
  let first ← peek
  if first = .streamEnd then pure none
  else
    if beginsFront first then documentFront limit
    else modify fun assembly => { assembly with handles := usualHandles }
    let root ← if beginsFront first && isDocumentLimit (← peek) then nothing
      else node true false limit
    let isOld ← isOld
    documentEnd limit
    pure (some { nodes := (← get).nodes, root := root, isOld := isOld })

end Assembly

/-- The only document of a text, if there is one. -/
def readDocument (text : List Char) : Except YamlError (Option Document) := do
  let stream ← Stream.ofText text
  let (document, _) ← (Assembly.document? (16 * text.length + 16)).run { stream := stream }
  pure document

end StaticSite.Yaml
