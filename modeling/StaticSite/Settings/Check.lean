import StaticSite.File.Path
import StaticSite.Text.LowerCase
import StaticSite.Yaml.Value

/-!
# Settings

What can be chosen about a site: where its files are, what the files on the site are called, and how
they are made. A setting comes as a value of any kind. Each check turns it into what the setting is,
or says what is wrong with it.
-/

set_option autoImplicit false

namespace StaticSite

open StaticSite.File StaticSite.Text

/-- The settings of a site. -/
structure Settings where
  /-- The directory of the site, where relative paths in settings start. -/
  root : Path
  sourceDirectory : Path := .ofString "content"
  targetDirectory : Path := .ofString "dist"
  /-- The template of pages that ask for none. -/
  template : Option Path := none
  /-- The extension of pages. -/
  pageExtension : String := "html"
  /-- The extension of feeds. -/
  feedExtension : String := "atom"
  /-- Whether the target is deleted first. -/
  clean : Bool := false
  highlight : Bool := false
  /-- The style of highlighted code. -/
  style : String := "monokai"
  /-- The extensions of files that are included as they are. -/
  rawExtensions : List String := ["html", "htm", "svg"]
deriving DecidableEq, Repr

namespace Settings

/-- The directory of the sources. -/
def sourceRoot (settings : Settings) : Path :=
  settings.root.join settings.sourceDirectory

/-- The directory of the site that is made. -/
def targetRoot (settings : Settings) : Path :=
  settings.root.join settings.targetDirectory

/-- The file of the template of pages that ask for none, if it is not the built-in one. -/
def templatePath (settings : Settings) : Option Path :=
  settings.template.map settings.root.join

end Settings

/-! ## Checking settings -/

/-- A value that is given for a setting: one that a configuration file can hold, or a path. -/
inductive Given where
  | value (v : Yaml.Value)
  | path (p : Path)

/-- The word for the kind of a value that is given. -/
def Given.kindWord : Given → String
  | value v => v.kindWord
  | path _ => "PosixPath"

/-- A value that is given, in a message. -/
def Given.display : Given → String
  | value v => v.display
  | path p => p.text

/-- Whether a value that is given can be written in a message. -/
def Given.isWritable : Given → Bool
  | value v => v.isWritable
  | path _ => true

/-- A text that is given, as a string. -/
def Given.text? : Given → Option String
  | value (.text s) => some s
  | value (.atom (.broken points)) => some (Yaml.ScalarText.broken points).toString
  | _ => none

/-- Whether a value is given at all. -/
def Given.isSome : Given → Bool
  | value .null => false
  | _ => true

/-- Why settings are not accepted. -/
inductive SettingsError where
  | notYaml (file : Path)
  | notMapping (file : Path)
  | unknownKeys (file : Path) (keys : List String)
  | notText (key kind : String)
  | noExtension (key value : String)
  | noExtensions (key : String)
  | notBoolean (key value : String)
  /-- The value is no choice, and a number in it is too long to be written. -/
  | longNumber (key : String)
  | noPath (key : String)
  | noText (key : String)
  /-- The template of pages that ask for none cannot be read. -/
  | noTemplate (file : Path) (reason : String)
deriving DecidableEq, Repr

/-- The report of settings that are not accepted. -/
def SettingsError.message : SettingsError → String
  | notYaml file => "Configuration file '" ++ file.text ++ "' is not valid YAML"
  | notMapping file => "Top-level YAML structure of '" ++ file.text ++ "' must be a mapping."
  | unknownKeys file keys =>
    "Unknown configuration keys in '" ++ file.text ++ "': " ++ String.intercalate ", " keys
  | notText key kind => "'" ++ key ++ "' must be a string, got " ++ kind ++ "."
  | noExtension key value =>
    "'" ++ key ++ "' must be a non-empty file extension, got '" ++ value ++ "'."
  | noExtensions key => "'" ++ key ++ "' must be a list of extensions."
  | notBoolean key value => "'" ++ key ++ "' must be true or false, got '" ++ value ++ "'."
  | longNumber key => "'" ++ key ++ "' must be true or false, but has a number that is too long."
  | noPath key => "'" ++ key ++ "' must be a non-empty path."
  | noText key => "'" ++ key ++ "' must be a non-empty string."
  | noTemplate file reason =>
    "Failed to read default template '" ++ file.text ++ "': " ++ reason

namespace Settings

/-- An extension in its usual form: in lower case, without blanks around it and dots before it. -/
def usualExtension (s : String) : String :=
  lowerText (String.ofList ((strip s).toList.dropWhile (· = '.')))

/-- An extension. -/
def extension (key : String) (given : Given) : Except SettingsError String :=
  match given.text? with
  | some s =>
    let usual := usualExtension s
    if usual.isEmpty || usual.toList.contains '/' then .error (.noExtension key s) else .ok usual
  | none => .error (.notText key given.kindWord)

/-- Extensions, in a list or with commas between them. -/
def extensions (key : String) (given : Given) : Except SettingsError (List String) :=
  match given.text?, given with
  | some s, _ =>
    let parts := ((splitAt ',' s.toList).map String.ofList).filter fun part => !(strip part).isEmpty
    parts.mapM fun part => extension key (.value (.text part))
  | none, .value (.list items) => items.mapM fun item => extension key (.value item)
  | none, .value (.tuple items) => items.mapM fun item => extension key (.value item)
  | none, _ => .error (.noExtensions key)

/-- A choice. -/
def boolean (key : String) (given : Given) : Except SettingsError Bool :=
  match given with
  | .value (.boolean b) => .ok b
  | given =>
    .error (if given.isWritable then .notBoolean key given.display else .longNumber key)

/-- A text that is not blank, without the blanks around it. -/
def solidText? (given : Given) : Option String :=
  (given.text?.map strip).filter (!·.isEmpty)

/-- A path. -/
def path (key : String) (given : Given) : Except SettingsError Path :=
  match given, solidText? given with
  | .path p, _ => .ok p
  | _, some s => .ok (Path.ofString s)
  | _, none => .error (.noPath key)

/-- A text that is not blank. -/
def text (key : String) (given : Given) : Except SettingsError String :=
  match solidText? given with
  | some s => .ok s
  | none => .error (.noText key)

end Settings

end StaticSite
