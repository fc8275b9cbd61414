import StaticSite.File.Path
import StaticSite.File.Utf8

/-!
# File trees

A file tree is a value: directories with named entries, and files with bytes and times. Looking
things up and changing them is done with lists of names from the top, and a change gives a new tree.
What paths mean in a tree is the subject of `StaticSite.File.Store`.
-/

set_option autoImplicit false

namespace StaticSite.File

/-- A file. The times are seconds since the beginning of 1970. -/
structure FileData where
  bytes : List UInt8
  created : Int := 0
  modified : Int := 0
deriving DecidableEq, Repr

/-- A file or a directory. -/
inductive Node where
  | file (data : FileData)
  | directory (entries : List (String × Node))

namespace Node

/-- The empty directory. -/
def empty : Node :=
  directory []

/-- The entries of a directory; a file has none. -/
def entries : Node → List (String × Node)
  | file _ => []
  | directory entries => entries

/-- The node that a list of names leads to, if there is one. -/
def get? : List String → Node → Option Node
  | [], node => some node
  | name :: rest, node => (node.entries.lookup name).bind (get? rest)

/-- A list of entries in which a name stands for a node; other entries keep their places. -/
def setEntry (name : String) (node : Node) : List (String × Node) → List (String × Node)
  | [] => [(name, node)]
  | (other, old) :: rest =>
    if other = name then (name, node) :: rest else (other, old) :: setEntry name node rest

/-- The tree in which a list of names leads to a node. Directories on the way are made, also in the
place of files. -/
def set (new : Node) : List String → Node → Node
  | [], _ => new
  | name :: rest, node =>
    directory (setEntry name (set new rest ((node.entries.lookup name).getD empty)) node.entries)

/-- The tree without the node that a list of names leads to. -/
def erase : List String → Node → Node
  | [], node => node
  | [name], node => directory (node.entries.filter (·.1 != name))
  | name :: rest, node =>
    match node.entries.lookup name with
    | some inner => directory (setEntry name (erase rest inner) node.entries)
    | none => node

mutual

/-- Everything below a node with the names that lead to it, directories before what they hold. -/
def contents (place : List String) : Node → List (List String × Node)
  | file _ => []
  | directory entries => entryContents place entries

/-- Everything at and below the entries of a directory. -/
def entryContents (place : List String) : List (String × Node) → List (List String × Node)
  | [] => []
  | (name, node) :: rest =>
    (place ++ [name], node) :: (contents (place ++ [name]) node ++ entryContents place rest)

end

/-- A tree made of files and directories at places, in which later ones stand in for earlier ones.
-/
def ofList (places : List (List String × Node)) : Node :=
  places.foldl (fun tree (place, node) =>
    match node, tree.get? place with
    | directory [], some (directory entries) => set (directory entries) place tree
    | _, _ => set node place tree) empty

@[simp] theorem get?_nil (node : Node) : node.get? [] = some node := rfl

theorem lookup_setEntry (name : String) (node : Node) (entries : List (String × Node)) :
    (setEntry name node entries).lookup name = some node := by
  induction entries with
  | nil => simp [setEntry]
  | cons entry rest ih =>
    obtain ⟨other, old⟩ := entry
    by_cases h : other = name
    · simp [setEntry, h]
    · have : (name == other) = false := by simpa using fun e => h e.symm
      simp [setEntry, h, List.lookup_cons, this, ih]

/-- What was put into a tree is found there. -/
theorem get?_set (new : Node) (place : List String) (node : Node) :
    (set new place node).get? place = some new := by
  induction place generalizing node with
  | nil => rfl
  | cons name rest ih => simp [set, get?, entries, lookup_setEntry, ih]

end Node

/-! ## Changes

What has to be done to one file tree to get another: nodes are removed, those inside a directory
before the directory, and then directories are made and files written, a directory before what it
holds. -/

/-- A step from one tree to another. -/
inductive Change where
  | removeFile (place : List String)
  | removeDirectory (place : List String)
  | makeDirectory (place : List String)
  | writeFile (place : List String) (bytes : List UInt8)
deriving DecidableEq, Repr

namespace Change

/-- What has to be done to a node of the old tree: it is removed if the new tree has nothing of its
kind at the place. -/
def removal? (new : Node) (place : List String) (node : Node) : Option Change :=
  match node, new.get? place with
  | .file _, some (.file _) => none
  | .directory _, some (.directory _) => none
  | .file _, _ => some (removeFile place)
  | .directory _, _ => some (removeDirectory place)

/-- What has to be done for a node of the new tree: it is made if the old tree has nothing like it
at the place. -/
def addition? (old : Node) (place : List String) (node : Node) : Option Change :=
  match node, old.get? place with
  | .directory _, some (.directory _) => none
  | .directory _, _ => some (makeDirectory place)
  | .file data, some (.file before) =>
    if data.bytes = before.bytes then none else some (writeFile place data.bytes)
  | .file data, _ => some (writeFile place data.bytes)

/-- The changes from one tree to another. -/
def between (old new : Node) : List Change :=
  ((old.contents []).reverse.filterMap fun (place, node) => removal? new place node) ++
    (new.contents []).filterMap fun (place, node) => addition? old place node

end Change

end StaticSite.File
