import StaticSite.CommandLine.Command
import StaticSite.File.Tree

/-!
# The program

The outer layer of the command line: it reads the files that matter, has the command worked out as a
value, and then carries out the changes to the files and prints the lines.
-/

set_option autoImplicit false

open StaticSite StaticSite.Calendar StaticSite.CommandLine StaticSite.File

namespace StaticSite.Program

/-- The text of a place in the tree of all files. -/
def placeText (place : List String) : String :=
  "/" ++ String.intercalate "/" place

/-- Reads what is in directories. What cannot be read is left out. -/
partial def readEntries (entries : List IO.FS.DirEntry) : IO Node := do
  let nodes ← entries.filterMapM fun entry => do
    try
      let metadata ← entry.path.metadata
      match metadata.type with
      | .dir => return some (entry.fileName, ← readEntries (← entry.path.readDir).toList)
      | .file =>
        let bytes ← IO.FS.readBinFile entry.path
        let time := metadata.modified.sec
        let data : FileData := { bytes := bytes.toList, created := time, modified := time }
        return some (entry.fileName, .file data)
      | _ => return none
    catch _ => return none
  return .directory nodes

/-- Reads the directory at a place into a tree. -/
def readPlace (tree : Node) (place : List String) : IO Node := do
  try
    let directory := (← IO.currentDir) / placeText place
    return Node.set (← readEntries (← directory.readDir).toList) place tree
  catch _ => return tree

/-- Carries out a change. -/
def carryOut : Change → IO Unit
  | .removeFile place => IO.FS.removeFile (placeText place)
  | .removeDirectory place => IO.FS.removeDir (placeText place)
  | .makeDirectory place => IO.FS.createDirAll (placeText place)
  | .writeFile place bytes => IO.FS.writeBinFile (placeText place) ⟨bytes.toArray⟩

/-- The present moment, which is when a new file is made. -/
def present : IO Moment :=
  IO.FS.withTempFile fun _ path => do
    let metadata ← path.metadata
    let start := Moment.midnight ⟨1970, 1, 1⟩
    return (start.shift? metadata.modified.sec).getD start

/-- The variables of the environment that stand for flags. -/
def environment : IO (List (String × String)) :=
  Flag.all.filterMapM fun flag => do
    return (← IO.getEnv flag.variableName).map fun value => (flag.variableName, value)

/-- Makes a site. -/
def make (options : Options) : IO UInt32 := do
  let here := Path.ofString (← IO.currentDir).toString
  let tree ← (options.places here).foldlM readPlace (Node.set .empty here.segments .empty)
  let outcome := options.run { tree := tree, here := here.segments } (← present)
  (Change.between tree outcome.store.tree).forM carryOut
  for note in outcome.notes do
    if options.verbose || !note.isProgress then IO.eprintln note.message
  outcome.lines.forM IO.println
  match outcome.failure with
  | none => return 0
  | some failure =>
    IO.eprintln failure.message
    return 1

/-- Runs a command line. -/
def run (words : List String) : IO UInt32 := do
  match Request.read words (← environment) with
  | .ok .help => helpLines.forM IO.println; return 0
  | .ok .version => IO.println versionLine; return 0
  | .ok (.make options) => make options
  | .error error =>
    IO.eprintln error.message
    return 1

end StaticSite.Program

/-- The program. -/
def main (words : List String) : IO UInt32 :=
  StaticSite.Program.run words
