import StaticSite.File.Tree

/-!
# Stores

A store is a file tree with a current directory. A path is followed name by name: every name but the
last must be that of a directory, and `..` leads back to the directory before. The operations here
are the ones that programs have: looking, reading, writing, and making and removing directories.
Each either gives the store as it is afterwards or says what is at fault.
-/

set_option autoImplicit false

namespace StaticSite.File

/-- Why an operation on a store cannot be done. -/
inductive Fault where
  | notFound
  | notDirectory
  | isDirectory
  | alreadyExists
  | notEmpty
  | invalid
  | busy
  | nameTooLong
  /-- The path holds a null character, which no name can. -/
  | nullCharacter
deriving DecidableEq, Repr

namespace Fault

/-- The number of a fault. The null character is found before the store is asked and has none. -/
def number : Fault → Nat
  | notFound => 2
  | busy => 16
  | alreadyExists => 17
  | notDirectory => 20
  | isDirectory => 21
  | invalid => 22
  | nameTooLong => 36
  | notEmpty => 39
  | nullCharacter => 0

/-- A fault in words. -/
def words : Fault → String
  | notFound => "No such file or directory"
  | busy => "Device or resource busy"
  | alreadyExists => "File exists"
  | notDirectory => "Not a directory"
  | isDirectory => "Is a directory"
  | invalid => "Invalid argument"
  | nameTooLong => "File name too long"
  | notEmpty => "Directory not empty"
  | nullCharacter => "embedded null byte"

/-- The report of a fault that concerns a path. -/
def message (fault : Fault) (path : Path) : String :=
  "[Errno " ++ toString fault.number ++ "] " ++ fault.words ++ ": " ++
    StaticSite.Text.quoted path.text

end Fault

/-- Why a text file cannot be read. -/
inductive TextError where
  | fault (cause : Fault) (path : Path)
  | encoding (error : EncodingError)
deriving DecidableEq, Repr

/-- The report of a text file that cannot be read. -/
def TextError.message : TextError → String
  | .fault cause path => cause.message path
  | .encoding error => error.message

/-- A file tree with the names that lead to the current directory. -/
structure Store where
  tree : Node
  here : List String := []

namespace Store

/-! ## Following paths -/

/-- The greatest number of bytes of a name. -/
def nameLimit : Nat := 255

/-- The greatest number of bytes of a path. -/
def pathLimit : Nat := 4095

/-- Follows names from a place. -/
def follow (tree : Node) : (place names : List String) → Except Fault (List String)
  | place, [] => .ok place
  | place, name :: rest =>
    match tree.get? place with
    | some (.directory entries) =>
      if name = ".." then follow tree place.dropLast rest
      else if nameLimit < name.utf8ByteSize then .error .nameTooLong
      else if (entries.lookup name).isSome then follow tree (place ++ [name]) rest
      else .error .notFound
    | some (.file _) => .error .notDirectory
    | none => .error .notFound

/-- The place where paths with an anchor start. -/
def start (store : Store) : Anchor → List String
  | .here => store.here
  | .root => []
  | .doubleRoot => []

/-- What is wrong with a path as such. -/
def pathFault? (p : Path) : Option Fault :=
  if p.hasNull then some .nullCharacter
  else if pathLimit < p.text.utf8ByteSize then some .nameTooLong
  else none

/-- The place that a path leads to. -/
def locate (store : Store) (p : Path) : Except Fault (List String) :=
  match pathFault? p with
  | some fault => .error fault
  | none => follow store.tree (store.start p.anchor) p.segments

/-- The place that a path names, whether or not there is something at it: the last name need not
lead anywhere yet. -/
def placeOf (store : Store) (p : Path) : Except Fault (List String) :=
  match pathFault? p with
  | some fault => .error fault
  | none =>
    match p.segments.getLast? with
    | none => .ok (store.start p.anchor)
    | some name =>
      match follow store.tree (store.start p.anchor) p.segments.dropLast with
      | .error fault => .error fault
      | .ok place =>
        match store.tree.get? place with
        | some (.file _) => .error .notDirectory
        | none => .error .notFound
        | some (.directory _) =>
          if name = ".." then .ok place.dropLast
          else if nameLimit < name.utf8ByteSize then .error .nameTooLong
          else .ok (place ++ [name])

/-! ## Looking -/

/-- What a path leads to. -/
def node (store : Store) (p : Path) : Except Fault Node :=
  match store.locate p with
  | .error fault => .error fault
  | .ok place =>
    match store.tree.get? place with
    | some node => .ok node
    | none => .error .notFound

/-- What a path leads to, or nothing. That there is nothing at a path is no fault; a name that is
too long is one. -/
def look (store : Store) (p : Path) : Except Fault (Option Node) :=
  match store.node p with
  | .ok node => .ok (some node)
  | .error .nameTooLong => .error .nameTooLong
  | .error _ => .ok none

/-- The bytes of a file. -/
def read (store : Store) (p : Path) : Except Fault FileData :=
  match store.node p with
  | .error fault => .error fault
  | .ok (.directory _) => .error .isDirectory
  | .ok (.file data) => .ok data

/-- The text of a text file. -/
def readText (store : Store) (p : Path) : Except TextError String :=
  match store.read p with
  | .error fault => .error (.fault fault p)
  | .ok data =>
    match decodeText data.bytes with
    | .ok text => .ok text
    | .error error => .error (.encoding error)

/-! ## Changing -/

/-- Writes a file, in the place of one that exists. -/
def write (store : Store) (p : Path) (bytes : List UInt8) : Except Fault Store :=
  match store.placeOf p with
  | .error fault => .error fault
  | .ok place =>
    match store.tree.get? place with
    | some (.directory _) => .error .isDirectory
    | _ => .ok { store with tree := Node.set (.file { bytes := bytes }) place store.tree }

/-- Makes a directory. -/
def makeDirectory (store : Store) (p : Path) : Except Fault Store :=
  match store.placeOf p with
  | .error fault => .error fault
  | .ok place =>
    match store.tree.get? place with
    | some _ => .error .alreadyExists
    | none => .ok { store with tree := Node.set .empty place store.tree }

/-- Removes an empty directory. It has to be named by its own name: neither the start of a path nor
`..` will do. -/
def removeDirectory (store : Store) (p : Path) : Except Fault Store :=
  match store.placeOf p with
  | .error fault => .error fault
  | .ok place =>
    match p.segments.getLast? with
    | none => .error (if p.isAbsolute then .busy else .invalid)
    | some ".." => .error .notEmpty
    | some _ =>
      match store.tree.get? place with
      | none => .error .notFound
      | some (.file _) => .error .notDirectory
      | some (.directory []) => .ok { store with tree := store.tree.erase place }
      | some (.directory _) => .error .notEmpty

/-- Empties a directory. -/
def emptyDirectory (store : Store) (p : Path) : Except Fault Store :=
  match store.locate p with
  | .error fault => .error fault
  | .ok place =>
    match store.tree.get? place with
    | some (.directory _) => .ok { store with tree := Node.set .empty place store.tree }
    | some (.file _) => .error .notDirectory
    | none => .error .notFound

end Store

end StaticSite.File
