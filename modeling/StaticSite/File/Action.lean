import StaticSite.File.Store

/-!
# Actions

A site is built by a list of actions on a store. Planning them and doing them are kept apart, so
that a plan can be looked at before anything is touched. Actions are done in order up to the first
that fails, and what was done before stays done.
-/

set_option autoImplicit false

namespace StaticSite.File

/-- A change to a store. -/
inductive Action where
  /-- Copies a file, over an existing one. -/
  | copy (source dest : Path)
  /-- Removes a directory, with all that it holds if `recursive`. -/
  | deleteDirectory (path : Path) (absentOk recursive : Bool)
  /-- Makes a directory whose parent exists. -/
  | createDirectory (path : Path) (existsOk : Bool)
  /-- Writes a text file, over an existing one. -/
  | writeFile (path : Path) (content : String)
deriving DecidableEq, Repr

/-- The path that an action changes. -/
def Action.path : Action → Path
  | copy _ dest => dest
  | deleteDirectory path _ _ => path
  | createDirectory path _ => path
  | writeFile path _ => path

/-- The path that an action takes its content from. -/
def Action.source? : Action → Option Path
  | copy source _ => some source
  | _ => none

/-- Why an action failed. -/
inductive ActionCause where
  | copying (fault : Fault)
  /-- The source and the destination of a copy are one file, under these paths. -/
  | sameFile (source dest : Path)
  | nothingToDelete
  | deleting (fault : Fault)
  /-- A directory cannot be made where a file is. -/
  | fileInPlace
  | creating (fault : Fault)
  /-- A file cannot be written where a directory is. -/
  | directoryInPlace
  | writing (fault : Fault)
deriving DecidableEq, Repr

/-- The fault in the store behind the failure of an action, if there is one. -/
def ActionCause.fault? : ActionCause → Option Fault
  | copying fault => some fault
  | deleting fault => some fault
  | creating fault => some fault
  | writing fault => some fault
  | _ => none

/-- A path as the report of a failed copy names it. -/
def namedPath (p : Path) : String :=
  "PosixPath(" ++ StaticSite.Text.quoted p.text ++ ")"

/-- Why an action failed, in words. -/
def ActionCause.reason : ActionCause → String
  | copying fault => "failed to copy file: " ++ fault.words
  | sameFile source dest =>
    "failed to copy file: " ++ namedPath source ++ " and " ++ namedPath dest ++ " are the same file"
  | nothingToDelete => "there is nothing to delete"
  | deleting fault => "failed to delete directory: " ++ fault.words
  | fileInPlace => "a file already exists"
  | creating fault => "failed to create directory: " ++ fault.words
  | directoryInPlace => "a directory already exists"
  | writing fault => "failed to write file: " ++ fault.words

/-- An action that failed. -/
structure ActionError where
  path : Path
  source : Option Path := none
  cause : ActionCause
deriving DecidableEq, Repr

/-- The report of an action that failed. -/
def ActionError.message (e : ActionError) : String :=
  match e.source with
  | some source => source.text ++ " -> " ++ e.path.text ++ ": " ++ e.cause.reason
  | none => e.path.text ++ ": " ++ e.cause.reason

/-- How an action can go wrong: it fails, or its path is so bad that it cannot be tried. -/
inductive ActionFailure where
  | failed (error : ActionError)
  | untried (fault : Fault)
deriving DecidableEq, Repr

namespace Action

/-- The failure of an action for a reason. -/
def fail (action : Action) (cause : ActionCause) : ActionFailure :=
  .failed { path := action.path, source := action.source?, cause := cause }

/-- The failure of an action because of a fault in the store. A null character in a path is found
before the action is tried. -/
def failBy (action : Action) (cause : Fault → ActionCause) (fault : Fault) : ActionFailure :=
  if fault = .nullCharacter then .untried fault else action.fail (cause fault)

/-- The result of one attempt: the store as it was left, and what went wrong. -/
abbrev Result := Store × Option ActionFailure

/-- The result of an operation that changes nothing when it fails. -/
def settle (store : Store) (failure : Fault → ActionFailure) : Except Fault Store → Result
  | .ok store => (store, none)
  | .error fault => (store, some (failure fault))

/-- Copies a file onto another path, unless the two paths lead to one file. Neither path is looked
at if one of them holds a null character. -/
def runCopy (store : Store) (source dest : Path) : Result :=
  let action := copy source dest
  let failure := action.failBy .copying
  if source.hasNull || dest.hasNull then (store, some (failure .nullCharacter))
  else
    match store.locate source with
    | .error fault => (store, some (failure fault))
    | .ok place =>
      if (store.locate dest).toOption == some place then
        (store, some (action.fail (.sameFile source dest)))
      else
        match store.read source with
        | .error fault => (store, some (failure fault))
        | .ok data => settle store failure (store.write dest data.bytes)

/-- Removes a directory. -/
def runDelete (store : Store) (path : Path) (absentOk recursive : Bool) : Result :=
  let action := deleteDirectory path absentOk recursive
  let failure := action.failBy .deleting
  match store.look path with
  | .error fault => (store, some (.untried fault))
  | .ok none => (store, if absentOk then none else some (action.fail .nothingToDelete))
  | .ok (some _) =>
    if recursive then
      match store.emptyDirectory path with
      | .error fault => (store, some (failure fault))
      | .ok store => settle store failure (store.removeDirectory path)
    else settle store failure (store.removeDirectory path)

/-- Makes a directory. -/
def runCreate (store : Store) (path : Path) (existsOk : Bool) : Result :=
  let action := createDirectory path existsOk
  let make := settle store (action.failBy .creating) (store.makeDirectory path)
  if existsOk then
    match store.look path with
    | .error fault => (store, some (.untried fault))
    | .ok (some (.file _)) => (store, some (action.fail .fileInPlace))
    | .ok (some (.directory _)) => (store, none)
    | .ok none => make
  else make

/-- Writes a text file. -/
def runWrite (store : Store) (path : Path) (content : String) : Result :=
  let action := writeFile path content
  match store.look path with
  | .error fault => (store, some (.untried fault))
  | .ok (some (.directory _)) => (store, some (action.fail .directoryInPlace))
  | .ok _ => settle store (action.failBy .writing) (store.write path (encode content))

/-- Does an action. -/
def run (store : Store) : Action → Result
  | copy source dest => runCopy store source dest
  | deleteDirectory path absentOk recursive => runDelete store path absentOk recursive
  | createDirectory path existsOk => runCreate store path existsOk
  | writeFile path content => runWrite store path content

/-- Does actions in order, up to the first that fails. -/
def runAll (store : Store) : List Action → Result
  | [] => (store, none)
  | action :: rest =>
    match run store action with
    | (store, none) => runAll store rest
    | (store, some failure) => (store, some failure)

end Action

end StaticSite.File
