import StaticSite.File.Store
import StaticSite.Settings.Check
import StaticSite.Yaml.Building

/-!
# Loading settings

The settings of a site come from three places: what is given for this run counts most, then the
configuration file, and then the defaults. A value that does not count is never checked.
-/

set_option autoImplicit false

namespace StaticSite

open StaticSite.File

/-- Why settings cannot be loaded. -/
inductive SettingsLoadError where
  | settings (error : SettingsError)
  /-- The configuration file that was asked for does not exist. -/
  | noFile (file : Path)
  | unreadable (error : TextError)
  /-- A value in the configuration file cannot be made out. -/
  | value (error : Yaml.YamlError)
  /-- A key in the configuration file is no text. -/
  | keyNotText

/-- The report of a configuration file that was asked for and does not exist. -/
def noFileMessage (file : Path) : String :=
  "Configuration file '" ++ file.text ++ "' not found."

/-- Why settings cannot be loaded, in words. -/
def SettingsLoadError.message : SettingsLoadError → String
  | settings error => error.message
  | noFile file => noFileMessage file
  | unreadable error => error.message
  | value _ => "A value in the configuration file cannot be made out."
  | keyNotText => "A key in the configuration file is no text."

namespace Settings

/-- The name of the configuration file in the directory of a site. -/
def fileName : String := "pagong.yaml"

/-- The keys of settings. -/
def knownKeys : List String :=
  ["source_dir", "target_dir", "template", "dist_ext", "feed_ext", "clean", "highlight",
   "pygments_style", "raw_include_extensions"]

/-- The entries of a mapping, with their keys as texts. -/
def textKeys : List (Yaml.Item × Yaml.Item) →
    Except SettingsLoadError (List (String × Yaml.Item))
  | [] => .ok []
  | (key, value) :: rest =>
    match key.text? with
    | some key => (textKeys rest).map ((key, value) :: ·)
    | none => .error .keyNotText

/-- The settings in what a file means, which has to be a mapping unless it says nothing. -/
def ofGraph (file : Path) (graph : Yaml.Graph) :
    Except SettingsLoadError (List (String × Yaml.Value)) :=
  match graph.entries? with
  | some entries => do
    let entries ← textKeys entries
    let unknown := (entries.map (·.1)).filter fun key => !knownKeys.contains key
    if unknown.isEmpty then pure (entries.map fun (key, item) => (key, graph.objects.value item))
    else throw (.settings (.unknownKeys file (unknown.mergeSort fun a b => decide (a ≤ b))))
  | none => if graph.isSet then .error (.settings (.notMapping file)) else .ok []

/-- The settings in a configuration file. -/
def readFile (store : Store) (file : Path) :
    Except SettingsLoadError (List (String × Yaml.Value)) :=
  match store.readText file with
  | .error error => .error (.unreadable error)
  | .ok text =>
    match Yaml.read text.toList with
    | .error .malformed => .error (.settings (.notYaml file))
    | .error error => .error (.value error)
    | .ok graph => ofGraph file graph

/-- The settings in the configuration file that was asked for, or else in the one of the site if it
has one. -/
def fileSettings (store : Store) (root : Path) (asked : Option Path) :
    Except SettingsLoadError (List (String × Yaml.Value)) := do
  let file := asked.getD (root.child fileName)
  match store.look file with
  | .error fault => throw (.unreadable (.fault fault file))
  | .ok (some _) => readFile store file
  | .ok none => if asked.isSome then throw (.noFile file) else pure []

/-- The value that counts for a setting. -/
def effective? (overrides : List (String × Given)) (file : List (String × Yaml.Value))
    (key : String) : Option Given :=
  ((overrides.lookup key).filter Given.isSome).or ((file.lookup key).map Given.value)

/-- A setting that is checked if a value counts for it. -/
def checked {α : Type} (given : Option Given) (check : Given → Except SettingsError α)
    (default : α) : Except SettingsError α :=
  match given with
  | some given => check given
  | none => .ok default

/-- The settings that values mean. A value of null is none for a path. -/
def ofGiven (root : Path) (given? : String → Option Given) : Except SettingsError Settings := do
  let base : Settings := { root := root }
  let place? (key : String) := (given? key).filter Given.isSome
  let source ← checked (place? "source_dir") (path "source_dir") base.sourceDirectory
  let target ← checked (place? "target_dir") (path "target_dir") base.targetDirectory
  let template ← checked (place? "template") (fun given => (path "template" given).map some)
    base.template
  let page ← checked (given? "dist_ext") (extension "dist_ext") base.pageExtension
  let feed ← checked (given? "feed_ext") (extension "feed_ext") base.feedExtension
  let clean ← checked (given? "clean") (boolean "clean") base.clean
  let highlight ← checked (given? "highlight") (boolean "highlight") base.highlight
  let style ← checked (given? "pygments_style") (text "pygments_style") base.style
  let raw ← checked (given? "raw_include_extensions") (extensions "raw_include_extensions")
    base.rawExtensions
  pure
    { root := root, sourceDirectory := source, targetDirectory := target, template := template
      pageExtension := page, feedExtension := feed, clean := clean, highlight := highlight
      style := style, rawExtensions := raw }

/-- Loads the settings of the site in a directory. -/
def load (store : Store) (root : Path) (overrides : List (String × Given)) (asked : Option Path) :
    Except SettingsLoadError Settings := do
  let file ← fileSettings store root asked
  (ofGiven root (effective? overrides file)).mapError .settings

end Settings

end StaticSite
