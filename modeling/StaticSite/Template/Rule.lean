import StaticSite.File.Store
import StaticSite.Noted
import StaticSite.Template.Value
import StaticSite.Text.Integer

/-!
# Directives

A directive of a template names a rule and gives its arguments. Reading a directive never fails for
good: what makes no sense is noted, and a directive without a rule or without an argument that it
needs means no rule at all.
-/

set_option autoImplicit false

namespace StaticSite.Template

open StaticSite.Text StaticSite.File

/-- What is noted about templates. -/
inductive Note where
  /-- A directive ends after a backslash inside quotes. -/
  | openEscape (directive : String)
  /-- A directive ends inside quotes. -/
  | openQuote (directive : String)
  | badDepth (directive : String)
  | unknownListArgument (argument : String)
  | badSort (key order : Option String)
  /-- A directive that begins right before a place in the template never ends. -/
  | unclosedDirective (place : Nat) (source : Option String)
  | unknownDirective (directive : String) (source : Option String)
  | notIncluded (path : Path) (reason : TextError)
deriving DecidableEq, Repr

/-- A note in words. -/
def Note.message : Note → String
  | openEscape directive =>
    "reached end of string with escape sequence open: " ++ quoted directive
  | openQuote directive => "reached end of string without closing it: " ++ quoted directive
  | badDepth directive => "could not parse depth as a number: " ++ quoted directive
  | unknownListArgument argument => "unrecognized list argument: " ++ argument
  | badSort key order =>
    "sort requires key and asc/desc order, but got: " ++ quotedOrNone key ++ ", " ++
      quotedOrNone order
  | unclosedDirective place source =>
    "html template without close marker after offset " ++ toString place ++ ": " ++
      source.getD "None"
  | unknownDirective directive source =>
    "could not understand template rule " ++ quoted directive ++ ": " ++ source.getD "None"
  | notIncluded path reason =>
    "failed to include " ++ path.text ++ ", leaving the directive in place: " ++ reason.message

/-- How the posts of a list are ordered. -/
structure SortOrder where
  key : String
  ascending : Bool := true
deriving DecidableEq, Repr

/-- What a directive is replaced by. -/
inductive Rule where
  /-- The page's content. -/
  | contents
  /-- Links to the style sheets of the page. -/
  | stylesheets
  /-- The headings of the page down to a depth. -/
  | toc (maxDepth : Nat)
  /-- Links to the posts under a path. -/
  | listing (path : String) (sort : Option SortOrder)
  /-- A value of the page's metadata. -/
  | metadata (key : String)
  /-- The content of a file. -/
  | inclusion (path : String)
deriving DecidableEq, Repr

/-- The greatest depth that a table of contents can be limited to. -/
def depthLimit : Nat := 255

/-! ## Reading -/

/-- The rest of a directive, and the whole for the notes about it. -/
structure Arguments where
  directive : String
  rest : List Char

/-- The note about a flaw of a directive. -/
def QuoteFlaw.note (directive : String) : QuoteFlaw → Note
  | openEscape => .openEscape directive
  | openQuote => .openQuote directive

/-- The next argument, and what is left. -/
def Arguments.next (arguments : Arguments) : Noted Note (Option String × Arguments) :=
  match nextValue? arguments.rest with
  | none => pure (none, { arguments with rest := [] })
  | some read =>
    { value := (some (String.ofList read.value), { arguments with rest := read.rest })
      notes := read.flaws.map (QuoteFlaw.note arguments.directive) }

/-- The depth that an argument gives; there is no limit if it is missing or makes no sense. -/
def readDepth (directive : String) : Option String → Noted Note Nat
  | none => pure depthLimit
  | some argument =>
    match readInteger? argument with
    | some (.ofNat n) =>
      if n ≤ depthLimit then pure n
      else { value := depthLimit, notes := [.badDepth directive] }
    | _ => { value := depthLimit, notes := [.badDepth directive] }

/-- The order that a word stands for: whether it is ascending. -/
def readOrder? : Option String → Option Bool
  | some "asc" => some true
  | some "desc" => some false
  | _ => none

/-- Reads the arguments of a list after its path; `fuel` is more than the length of the rest. The
last order given counts. -/
def readSorts : (fuel : Nat) → Option SortOrder → Arguments → Noted Note (Option SortOrder)
  | 0, sort, _ => pure sort
  | fuel + 1, sort, arguments => do
    match ← arguments.next with
    | (none, _) => pure sort
    | (some "sort", arguments) =>
      let (key, arguments) ← arguments.next
      let (order, arguments) ← arguments.next
      match key, readOrder? order with
      | some key, some ascending =>
        readSorts fuel (some { key := key, ascending := ascending }) arguments
      | _, _ =>
        Noted.note (.badSort key order)
        readSorts fuel sort arguments
    | (some argument, arguments) =>
      Noted.note (.unknownListArgument argument)
      readSorts fuel sort arguments

/-- The rule that the text of a directive means, if it means one. -/
def readRule (directive : String) : Noted Note (Option Rule) := do
  let (name, arguments) ← Arguments.next { directive := directive, rest := directive.toList }
  match name with
  | some "CONTENTS" => pure (some .contents)
  | some "CSS" => pure (some .stylesheets)
  | some "TOC" =>
    let (depth, _) ← arguments.next
    let depth ← readDepth directive depth
    pure (some (.toc depth))
  | some "LIST" =>
    match ← arguments.next with
    | (none, _) => pure none
    | (some path, arguments) =>
      let sort ← readSorts (arguments.rest.length + 1) none arguments
      pure (some (.listing path sort))
  | some "META" =>
    let (key, _) ← arguments.next
    pure (key.map .metadata)
  | some "INCLUDE" =>
    let (path, _) ← arguments.next
    pure (path.map .inclusion)
  | _ => pure none

end StaticSite.Template
