import StaticSite.Proofs.Settings.Complaint
import StaticSite.Proofs.Text.LowerCase

/-!
# What settings accept

A setting takes a value for a path, for extensions, for a choice or for a name, or for nothing at
all. What it is taken for is said here without the checks, and a check gives what its setting takes
the value for. A complaint of a check names the setting.

Extensions are put into their usual form: they are in lower case, hold something but no slash, and
do not begin with a dot.

## What this module delivers

- `Setting`, `Setting.get`, `Setting.default`: the settings one by one.
- `Setting.Accepts`: what a setting takes a value for.
- `check_eq_ok_iff`, `key?_of_check`: what the checks give, and what their complaints name.
- `IsTidy`, `isTidy_of_meansExtension`: the usual form of extensions.
-/

set_option autoImplicit false

namespace StaticSite

open StaticSite.File StaticSite.Text

/-- The key that a complaint is about. -/
def SettingsError.key? : SettingsError → Option String
  | notText key _ | noExtension key _ | noExtensions key | notBoolean key _ | longNumber key
  | noPath key | noText key => some key
  | notYaml _ | notMapping _ | unknownKeys _ _ | noTemplate _ _ => none

namespace Settings

/-! ## The settings -/

/-- A setting. -/
inductive Setting where
  | source
  | target
  | template
  | page
  | feed
  | clean
  | highlight
  | style
  | raw
deriving DecidableEq, Repr

namespace Setting

/-- All settings, in the order in which they are checked. -/
def all : List Setting :=
  [source, target, template, page, feed, clean, highlight, style, raw]

/-- The key of a setting. -/
def key : Setting → String
  | source => "source_dir"
  | target => "target_dir"
  | template => "template"
  | page => "dist_ext"
  | feed => "feed_ext"
  | clean => "clean"
  | highlight => "highlight"
  | style => "pygments_style"
  | raw => "raw_include_extensions"

/-- What a setting is. -/
abbrev Value : Setting → Type
  | source | target => Path
  | template => Option Path
  | page | feed | style => String
  | clean | highlight => Bool
  | raw => List String

/-- What a setting is among others. -/
def get (settings : Settings) : (setting : Setting) → setting.Value
  | source => settings.sourceDirectory
  | target => settings.targetDirectory
  | template => settings.template
  | page => settings.pageExtension
  | feed => settings.feedExtension
  | clean => settings.clean
  | highlight => settings.highlight
  | style => settings.style
  | raw => settings.rawExtensions

/-- What a setting is if no value counts for it. -/
def default (setting : Setting) : setting.Value :=
  setting.get { root := {} }

/-- Whether a setting is a path. -/
def isPath : Setting → Bool
  | source | target | template => true
  | _ => false

/-- Whether a setting is a choice. -/
def isChoice : Setting → Bool
  | clean | highlight => true
  | _ => false

end Setting

/-! ## What settings accept -/

/-- A value is a path, or a text that is not blank and spells the path. -/
inductive MeansPath : Given → Path → Prop
  | path (p : Path) : MeansPath (.path p) p
  | text {given : Given} {s : String} (text_eq : given.text? = some s) (solid : strip s ≠ "") :
      MeansPath given (.ofString (strip s))

/-- A value is a text that has an extension in its usual form. -/
def MeansExtension (given : Given) (extension : String) : Prop :=
  ∃ s, given.text? = some s ∧ extension = usualExtension s ∧ extension ≠ "" ∧
    '/' ∉ extension.toList

/-- The parts of a text with commas between them, without those that are blank. -/
def commaParts (s : String) : List String :=
  ((splitAt ',' s.toList).map String.ofList).filter fun part => !(strip part).isEmpty

/-- Values are texts that have extensions, one each. -/
def MeanExtensions (items : List Yaml.Value) (extensions : List String) : Prop :=
  List.Forall₂ (fun item extension => MeansExtension (.value item) extension) items extensions

/-- A value is a collection of texts that have extensions, or a text with commas between them. -/
inductive MeansExtensions : Given → List String → Prop
  | text {given : Given} {s : String} {extensions : List String} (text_eq : given.text? = some s)
      (each : MeanExtensions ((commaParts s).map Yaml.Value.text) extensions) :
      MeansExtensions given extensions
  | list {items : List Yaml.Value} {extensions : List String}
      (each : MeanExtensions items extensions) : MeansExtensions (.value (.list items)) extensions
  | tuple {items : List Yaml.Value} {extensions : List String}
      (each : MeanExtensions items extensions) : MeansExtensions (.value (.tuple items)) extensions

/-- A setting takes a value for something. -/
def Setting.Accepts : (setting : Setting) → Given → setting.Value → Prop
  | .source, given, place | .target, given, place => MeansPath given place
  | .template, given, place => ∃ p, MeansPath given p ∧ place = some p
  | .page, given, extension | .feed, given, extension => MeansExtension given extension
  | .clean, given, choice | .highlight, given, choice => given = .value (.boolean choice)
  | .style, given, name => ∃ s, given.text? = some s ∧ name = strip s ∧ name ≠ ""
  | .raw, given, extensions => MeansExtensions given extensions

/-! ## Checks -/

/-- The check of a value for a setting. -/
def Setting.check : (setting : Setting) → Given → Except SettingsError setting.Value
  | .source => path "source_dir"
  | .target => path "target_dir"
  | .template => fun given => (path "template" given).map some
  | .page => extension "dist_ext"
  | .feed => extension "feed_ext"
  | .clean => boolean "clean"
  | .highlight => boolean "highlight"
  | .style => Settings.text "pygments_style"
  | .raw => extensions "raw_include_extensions"

variable {key : String} {given : Given} {setting : Setting}

theorem solidText?_eq_some_iff {name : String} :
    solidText? given = some name ↔ ∃ s, given.text? = some s ∧ name = strip s ∧ name ≠ "" := by
  rw [solidText?, Option.filter_eq_some_iff]
  simp only [Option.map_eq_some_iff, Bool.not_eq_true', String.isEmpty_eq_false_iff]
  constructor
  · rintro ⟨⟨s, hs, rfl⟩, hsolid⟩
    exact ⟨s, hs, rfl, hsolid⟩
  · rintro ⟨s, hs, rfl, hsolid⟩
    exact ⟨⟨s, hs, rfl⟩, hsolid⟩

theorem path_eq_ok_iff {p : Path} : path key given = .ok p ↔ MeansPath given p := by
  constructor
  · intro h
    unfold path at h
    split at h
    · cases h
      exact MeansPath.path p
    · rename_i name hname
      cases h
      obtain ⟨s, hs, rfl, hsolid⟩ := solidText?_eq_some_iff.mp hname
      exact MeansPath.text hs hsolid
    · cases h
  · intro h
    cases h with
    | path p => rfl
    | @text given s hs hsolid =>
        have hname := solidText?_eq_some_iff.mpr ⟨s, hs, rfl, hsolid⟩
        cases given with
        | path p => cases hs
        | value v => simp only [path, hname]

theorem extension_eq_ok_iff {usual : String} :
    extension key given = .ok usual ↔ MeansExtension given usual := by
  constructor
  · intro h
    rw [extension] at h
    split at h
    · rename_i s hs
      simp only at h
      split_ifs at h with hbad
      obtain rfl := Except.ok.inj h
      simp only [Bool.or_eq_true, String.isEmpty_iff, List.contains_iff_mem, not_or] at hbad
      exact ⟨s, hs, rfl, hbad⟩
    · cases h
  · rintro ⟨s, hs, rfl, hempty, hslash⟩
    have hgood : ¬ ((usualExtension s).isEmpty || (usualExtension s).toList.contains '/') := by
      simp only [Bool.or_eq_true, String.isEmpty_iff, List.contains_iff_mem, not_or]
      exact ⟨hempty, hslash⟩
    rw [extension, hs]
    dsimp only
    rw [if_neg hgood]

theorem mapM_extension_eq_ok_iff {items : List Yaml.Value} {extensions : List String} :
    items.mapM (fun item => Settings.extension key (.value item)) = .ok extensions ↔
      MeanExtensions items extensions := by
  rw [mapM_eq_ok_iff, MeanExtensions]
  simp only [extension_eq_ok_iff]

theorem extensions_eq_ok_iff {usual : List String} :
    extensions key given = .ok usual ↔ MeansExtensions given usual := by
  have hparts : ∀ s, ((commaParts s).mapM fun part => extension key (.value (.text part)))
      = ((commaParts s).map Yaml.Value.text).mapM fun item => extension key (.value item) := by
    intro s
    rw [List.mapM_map, Function.comp_def]
  constructor
  · intro h
    unfold extensions at h
    split at h
    · rename_i s hs
      have heach : ((commaParts s).mapM fun part => extension key (.value (.text part)))
          = .ok usual := h
      rw [hparts, mapM_extension_eq_ok_iff] at heach
      exact MeansExtensions.text hs heach
    · exact MeansExtensions.list (mapM_extension_eq_ok_iff.mp h)
    · exact MeansExtensions.tuple (mapM_extension_eq_ok_iff.mp h)
    · cases h
  · intro h
    cases h with
    | @text given s usual hs heach =>
        have hresult := (hparts s).trans (mapM_extension_eq_ok_iff.mpr heach)
        unfold extensions
        rw [hs]
        exact hresult
    | list heach => exact mapM_extension_eq_ok_iff.mpr heach
    | tuple heach => exact mapM_extension_eq_ok_iff.mpr heach

theorem boolean_eq_ok_iff {choice : Bool} :
    boolean key given = .ok choice ↔ given = .value (.boolean choice) := by
  constructor
  · intro h
    unfold boolean at h
    split at h
    · cases h
      rfl
    · cases h
  · rintro rfl
    rfl

theorem text_eq_ok_iff {name : String} :
    text key given = .ok name ↔ ∃ s, given.text? = some s ∧ name = strip s ∧ name ≠ "" := by
  rw [text, ← solidText?_eq_some_iff]
  cases solidText? given with
  | none => simp
  | some found => simp

/-- A check gives what the setting takes the value for. -/
theorem check_eq_ok_iff (setting : Setting) (given : Given) (value : setting.Value) :
    setting.check given = .ok value ↔ setting.Accepts given value := by
  cases setting with
  | source => exact path_eq_ok_iff
  | target => exact path_eq_ok_iff
  | template =>
      have hpath : ∀ p, MeansPath given p ↔ path "template" given = .ok p :=
        fun _ => path_eq_ok_iff.symm
      simp only [Setting.check, Setting.Accepts, hpath]
      cases path "template" given with
      | error error => simp [Except.map]
      | ok p => simp [Except.map, eq_comm]
  | page => exact extension_eq_ok_iff
  | feed => exact extension_eq_ok_iff
  | clean => exact boolean_eq_ok_iff
  | highlight => exact boolean_eq_ok_iff
  | style => exact text_eq_ok_iff
  | raw => exact extensions_eq_ok_iff

/-! ## Complaints name their settings -/

theorem key?_of_path {error : SettingsError} (h : path key given = .error error) :
    error.key? = some key := by
  unfold path at h
  split at h
  · cases h
  · cases h
  · cases h
    rfl

theorem key?_of_extension {error : SettingsError} (h : extension key given = .error error) :
    error.key? = some key := by
  unfold extension at h
  split at h
  · simp only at h
    split_ifs at h
    cases h
    rfl
  · cases h
    rfl

theorem key?_of_extensions {error : SettingsError} (h : extensions key given = .error error) :
    error.key? = some key := by
  unfold extensions at h
  split at h
  · obtain ⟨part, -, hpart⟩ := mapM_eq_error h
    exact key?_of_extension hpart
  · obtain ⟨item, -, hitem⟩ := mapM_eq_error h
    exact key?_of_extension hitem
  · obtain ⟨item, -, hitem⟩ := mapM_eq_error h
    exact key?_of_extension hitem
  · cases h
    rfl

theorem key?_of_boolean {error : SettingsError} (h : boolean key given = .error error) :
    error.key? = some key := by
  unfold boolean at h
  split at h
  · cases h
  · cases h
    split <;> rfl

theorem key?_of_text {error : SettingsError} (h : text key given = .error error) :
    error.key? = some key := by
  unfold text at h
  split at h
  · cases h
  · cases h
    rfl

/-- A complaint of a check names the setting. -/
theorem key?_of_check {error : SettingsError} (h : setting.check given = .error error) :
    error.key? = some setting.key := by
  cases setting with
  | source => exact key?_of_path h
  | target => exact key?_of_path h
  | template =>
      refine key?_of_path (?_ : path "template" given = .error error)
      rw [← complaintOf_eq_some_iff] at h ⊢
      rwa [← complaintOf_map some]
  | page => exact key?_of_extension h
  | feed => exact key?_of_extension h
  | clean => exact key?_of_boolean h
  | highlight => exact key?_of_boolean h
  | style => exact key?_of_text h
  | raw => exact key?_of_extensions h

/-! ## Extensions -/

/-- An extension in its usual form. -/
structure IsTidy (extension : String) : Prop where
  notEmpty : extension ≠ ""
  noSlash : '/' ∉ extension.toList
  noDot : extension.toList.head? ≠ some '.'
  inLowerCase : lowerText extension = extension

theorem head?_dropWhile_dot (chars : List Char) :
    (chars.dropWhile (· = '.')).head? ≠ some '.' := by
  intro hdot
  have hfirst := List.head?_dropWhile_not (· = '.') chars
  rw [hdot] at hfirst
  exact absurd hfirst (by decide)

theorem isTidy_of_meansExtension {usual : String} (h : MeansExtension given usual) :
    IsTidy usual := by
  obtain ⟨s, -, rfl, hempty, hslash⟩ := h
  have hlower : lowerText (usualExtension s) = usualExtension s := by
    rw [usualExtension, lowerText_lowerText]
  refine ⟨hempty, hslash, ?_, hlower⟩
  rw [usualExtension]
  apply head?_lowerText
  rw [String.toList_ofList]
  exact head?_dropWhile_dot _

theorem isTidy_of_meansExtensions {usual : List String} (h : MeansExtensions given usual) :
    ∀ extension ∈ usual, IsTidy extension := by
  have heach : ∀ {items : List Yaml.Value} {usual : List String}, MeanExtensions items usual →
      ∀ extension ∈ usual, IsTidy extension := by
    intro items usual hmean
    induction hmean with
    | nil => exact List.forall_mem_nil _
    | cons hfirst _ ih => exact List.forall_mem_cons.mpr ⟨isTidy_of_meansExtension hfirst, ih⟩
  cases h with
  | text _ each => exact heach each
  | list each => exact heach each
  | tuple each => exact heach each

/-- The default extensions are in their usual form. -/
theorem isTidy_default :
    IsTidy (Setting.default .page) ∧ IsTidy (Setting.default .feed) ∧
      ∀ extension ∈ Setting.default .raw, IsTidy extension := by
  have htidy : ∀ extension ∈ ["html", "atom", "htm", "svg"], IsTidy extension := by
    intro extension hextension
    have hchecked : ∀ extension ∈ ["html", "atom", "htm", "svg"], extension ≠ "" ∧
        '/' ∉ extension.toList ∧ extension.toList.head? ≠ some '.' ∧
          lowerText extension = extension := by
      decide +kernel
    obtain ⟨hempty, hslash, hdot, hlower⟩ := hchecked extension hextension
    exact ⟨hempty, hslash, hdot, hlower⟩
  have hraw : Setting.default .raw ⊆ ["html", "atom", "htm", "svg"] := by decide
  constructor
  · exact htidy "html" (by decide)
  · constructor
    · exact htidy "atom" (by decide)
    · intro extension hextension
      exact htidy extension (hraw hextension)

end Settings

end StaticSite
