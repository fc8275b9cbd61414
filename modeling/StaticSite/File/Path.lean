import StaticSite.Text.Split

/-!
# Paths

A path names a place in a file tree: where it starts, and the names to follow from there. Paths are
names and nothing else, so all operations here are about spelling; `..` is a name like any other,
and what it leads to is decided by the file tree.

Empty names and `.` lead nowhere and are dropped when a path is read. A path that starts with
exactly two slashes is kept apart from one that starts with one.
-/

set_option autoImplicit false

namespace StaticSite.File

open StaticSite.Text

/-- Where a path starts. -/
inductive Anchor where
  /-- At the current directory. -/
  | here
  | root
  /-- At the place that two slashes name. -/
  | doubleRoot
deriving DecidableEq, Repr

/-- The slashes that an anchor is written with. -/
def Anchor.text : Anchor → String
  | here => ""
  | root => "/"
  | doubleRoot => "//"

/-- A path. -/
structure Path where
  anchor : Anchor := .here
  segments : List String := []
deriving DecidableEq, Repr

namespace Path

/-! ## Reading and writing -/

/-- The names in a text that slashes separate. -/
def readSegments (s : List Char) : List String :=
  ((splitAt '/' s).filter fun piece => piece != [] && piece != ['.']).map String.ofList

/-- The path that a text spells. -/
def ofString (s : String) : Path :=
  let anchor := match s.toList with
    | '/' :: '/' :: '/' :: _ => Anchor.root
    | '/' :: '/' :: _ => Anchor.doubleRoot
    | '/' :: _ => Anchor.root
    | _ => Anchor.here
  { anchor := anchor, segments := readSegments s.toList }

/-- The written form of a path; the empty path is written as a dot. -/
def text (p : Path) : String :=
  match p.anchor, p.segments with
  | .here, [] => "."
  | anchor, segments => anchor.text ++ String.intercalate "/" segments

/-- Whether a path holds a null character, which no name can. -/
def hasNull (p : Path) : Bool :=
  p.text.toList.contains '\x00'

/-- Whether a path starts at a root. -/
def isAbsolute (p : Path) : Bool :=
  p.anchor != .here

/-! ## Joining -/

/-- The place that `q` names as seen from the directory `p`. -/
def join (p q : Path) : Path :=
  if q.isAbsolute then q else { p with segments := p.segments ++ q.segments }

/-- The place under a directory that a text spells. -/
def child (p : Path) (name : String) : Path :=
  p.join (ofString name)

/-- The directory that holds the place; a start is its own directory. -/
def parent (p : Path) : Path :=
  { p with segments := p.segments.dropLast }

/-! ## Names -/

/-- The last name; empty for a start. -/
def name (p : Path) : String :=
  p.segments.getLast?.getD ""

/-- The part of a name before its last dot and the rest, if there is something before the dot and
something after it. -/
def splitName? (name : List Char) : Option (List Char × List Char) :=
  match cutAtLast? '.' name with
  | some ([], _) => none
  | some (_, []) => none
  | some (stem, extension) => some (stem, '.' :: extension)
  | none => none

/-- The end of the last name from its last dot on, or nothing. -/
def suffix (p : Path) : String :=
  match splitName? p.name.toList with
  | some (_, suffix) => String.ofList suffix
  | none => ""

/-- The last name without its suffix. -/
def stem (p : Path) : String :=
  match splitName? p.name.toList with
  | some (stem, _) => String.ofList stem
  | none => p.name

/-- The path with another suffix, which is written after a dot. A start has no name to change, and
a suffix is neither empty nor part of a longer path. -/
def withExtension? (p : Path) (extension : String) : Option Path :=
  if p.segments.isEmpty || extension.isEmpty || extension.toList.contains '/' then none
  else some { p with segments := p.segments.dropLast ++ [p.stem ++ "." ++ extension] }

/-! ## Containment and order -/

/-- The path from a directory to a place under it, going by the names alone. -/
def relativeTo? (p directory : Path) : Option Path :=
  if p.anchor = directory.anchor && directory.segments.isPrefixOf p.segments then
    some { segments := p.segments.drop directory.segments.length }
  else none

/-- Whether a place is a directory or under it, going by the names alone. -/
def isUnder (p directory : Path) : Bool :=
  (p.relativeTo? directory).isSome

/-- What paths are ordered by: name by name from the start. -/
def sortKey (p : Path) : List String :=
  match p.anchor with
  | .here => p.segments
  | anchor => anchor.text :: p.segments

/-- The order of paths. -/
def le (p q : Path) : Bool :=
  !decide (q.sortKey < p.sortKey)

end Path

end StaticSite.File
