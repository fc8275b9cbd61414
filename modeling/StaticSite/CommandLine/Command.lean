import StaticSite.CommandLine.Arguments
import StaticSite.Settings.Load
import StaticSite.Site.Plan

/-!
# The command that makes a site

The program has one command, `generate`. What it does to the files, what it prints and what it notes
is a value here; carrying that out in the world is left to the program itself.
-/

set_option autoImplicit false

namespace StaticSite.CommandLine

open StaticSite.Calendar StaticSite.File

/-- What can be chosen when a site is made. -/
structure Options where
  root : Path := {}
  /-- The configuration file to use instead of the one of the site. -/
  configuration : Option Path := none
  /-- The settings that count more than those of a configuration file. -/
  overrides : List (String × Given) := []
  /-- Whether it is told how the work goes. -/
  verbose : Bool := false

/-- The setting that a text stands for. -/
def textOverride? : TextParameter → String → Option (String × Given)
  | .root, _ => none
  | .configuration, _ => none
  | .template, value => some ("template", .path (Path.ofString value))
  | .pageExtension, value => some ("dist_ext", .value (.text value))
  | .feedExtension, value => some ("feed_ext", .value (.text value))
  | .style, value => some ("pygments_style", .value (.text value))

/-- The setting that a switch stands for. -/
def switchOverride? : Switch → Bool → Option (String × Given)
  | .clean, position => some ("clean", .value (.boolean position))
  | .highlight, position => some ("highlight", .value (.boolean position))
  | .verbose, _ => none

/-- The options that arguments mean. -/
def Options.ofArguments (arguments : Arguments) : Options :=
  { root := ((arguments.texts.lookup .root).map Path.ofString).getD {}
    configuration := (arguments.texts.lookup .configuration).map Path.ofString
    overrides :=
      arguments.texts.filterMap (fun (parameter, value) => textOverride? parameter value) ++
        arguments.switches.filterMap fun (switch, position) => switchOverride? switch position
    verbose := (arguments.switches.lookup .verbose).getD false }

/-- What a command line asks for. -/
inductive Request where
  | help
  | version
  | make (options : Options)

/-- The name of the command that makes a site. -/
def commandName : String := "generate"

/-- The flags that ask for help. -/
def helpFlags : List String := ["--help", "-h"]

/-- The flag that asks for the version. -/
def versionFlag : String := "--version"

/-- The flag for help that stands before two dashes, if there is one. -/
def helpFlag? (words : List String) : Option String :=
  helpFlags.find? (Arguments.splitWords words).1.contains

/-- The words that are no part of a command if none is named: a flag in front counts like the name
of one, and one flag for help is passed over. -/
def strayWords (words : List String) : List String :=
  let rest := match words with
    | first :: rest =>
      if (versionFlag :: helpFlags).contains first then rest else words
    | [] => []
  match helpFlag? rest with
  | some flag => rest.erase flag
  | none => rest

/-- Reads a command line. Who asks for help gets it, unless the command asked about is unknown. -/
def Request.read (words : List String) (environment : List (String × String)) :
    Except UsageError Request :=
  let isKnown := words.head? == some commandName
  if (helpFlag? words).isSome then
    match isKnown, strayWords words with
    | false, word :: _ => .error (.unknownCommand word)
    | _, _ => .ok .help
  else if words.contains versionFlag then .ok .version
  else
    match words with
    | [] => .ok .help
    | word :: rest =>
      if isKnown then
        (Arguments.read rest environment).map fun arguments => .make (.ofArguments arguments)
      else .error (.unknownCommand word)

/-- What is said to who asks for help. -/
def helpLines : List String :=
  ["Usage: pagong " ++ commandName ++ " [OPTIONS]", "",
   "Generate the site's HTML pages, feeds and assets.", "", "Options:"] ++
    Flag.all.map fun
      | .text parameter => "  " ++ (Flag.text parameter).spelling ++ " VALUE"
      | .switch switch on => "  " ++ (Flag.switch switch on).spelling

/-- The version of the program. -/
def versionLine : String := "0.2.0"

/-- The directories whose files matter to a command that is given in a directory, as places in the
tree of all files. -/
def Options.places (options : Options) (here : Path) : List (List String) :=
  (options.root :: (options.configuration.map Path.parent).toList).map fun path =>
    (here.join path).segments.foldl
      (fun place name => if name = ".." then place.dropLast else place ++ [name]) []

/-! ## Running -/

/-- Why no site is made. -/
inductive Failure where
  | settings (error : SettingsLoadError)
  | site (error : Site.Error)

/-- Why no site is made, in words. -/
def Failure.message : Failure → String
  | settings error => error.message
  | site error => error.message

/-- What comes of a command. -/
structure Outcome where
  /-- The files afterwards. -/
  store : Store
  /-- The lines that are printed. -/
  lines : List String := []
  notes : List Site.Note := []
  failure : Option Failure := none

/-- A path in the words of someone in a directory. -/
def shown (here : Path) (path : Path) : String :=
  ((path.relativeTo? here).getD path).text

/-- The path of the current directory. -/
def herePath (store : Store) : Path :=
  { anchor := .root, segments := store.here }

/-- Makes a site. -/
def Options.run (options : Options) (store : Store) (now : Moment) : Outcome :=
  match Settings.load store options.root options.overrides options.configuration with
  | .error error => { store := store, failure := some (.settings error) }
  | .ok settings =>
    let made := Site.make store settings now
    match made.value with
    | (after, .error error) =>
      { store := after, notes := made.notes, failure := some (.site error) }
    | (after, .ok paths) =>
      { store := after
        notes := made.notes
        lines := paths.map fun path => "wrote " ++ shown (herePath store) path }

end StaticSite.CommandLine
