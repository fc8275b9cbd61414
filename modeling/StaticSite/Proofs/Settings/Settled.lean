import StaticSite.Proofs.Settings.Accepted
import StaticSite.Proofs.Settings.Loading

/-!
# What settings come to

Every setting is settled by itself: by the value that counts for it, if this is one that the setting
accepts, and else by its default if no value counts. A value that is given for this run counts
before the one in the configuration file. Null never counts when it is given for the run, and in the
file it does not count for a path.

So the settings that are loaded are known from the values that count, one by one; what does not
count changes nothing, not even the complaint about another value. There is a complaint exactly if a
value counts that its setting does not accept, and it names the first such setting. The one
exception is a choice for which a value counts that cannot be written.

## What this module delivers

- `Counts`, `Settled`: the value that counts for a setting, and what it comes to.
- `ofGiven_eq_ok_iff`: the checks of all settings, one by one.
- `FileSays`: the values in a configuration file.
- `Settles`, `Disregards`: what comes of loading settings, and what makes no difference to it.
- `load_settles`: loading settles every setting by the value that counts for it.
-/

set_option autoImplicit false

namespace StaticSite.Settings

open StaticSite.File StaticSite.Text

/-! ## The values that count -/

section

variable (overrides : List (String × Given)) (values : List (String × Yaml.Value))
  (setting : Setting)

/-- A value counts for a setting: the one that is given for this run, or else the one in the
configuration file. -/
inductive Counts : Given → Prop
  | run {given : Given} (here : overrides.lookup setting.key = some given)
      (set : given.isSome = true) : Counts given
  | file {value : Yaml.Value}
      (unset : ∀ given, overrides.lookup setting.key = some given → given.isSome = false)
      (here : values.lookup setting.key = some value)
      (set : setting.isPath = true → (Given.value value).isSome = true) : Counts (.value value)

/-- What a setting comes to: what it takes the value for that counts, or its default if none
does. -/
inductive Settled : setting.Value → Prop
  | accepted {given : Given} {value : setting.Value}
      (counts : Counts overrides values setting given) (accepts : setting.Accepts given value) :
      Settled value
  | default (none : ∀ given, ¬ Counts overrides values setting given) : Settled setting.default

/-- A value counts for a setting that does not take it for anything. -/
def Unsettled : Prop :=
  ∃ given, Counts overrides values setting given ∧ ∀ value, ¬ setting.Accepts given value

end

/-! ## Settings one by one -/

variable {key : String} {given : Given} {setting : Setting}

/-- The value that is checked for a setting. -/
def Setting.counted? (setting : Setting) (given? : String → Option Given) : Option Given :=
  if setting.isPath then (given? setting.key).filter Given.isSome else given? setting.key

variable {given? : String → Option Given} {root : Path} {settings : Settings}

/-- Settings are accepted if the checks of all of them give what they are. -/
theorem ofGiven_eq_ok_iff :
    ofGiven root given? = .ok settings ↔ settings.root = root ∧ ∀ setting : Setting,
      checked (setting.counted? given?) setting.check setting.default
        = .ok (setting.get settings) := by
  constructor
  · intro h
    -- one step for each setting, in the order of the keys
    obtain ⟨source, hsource, h⟩ := bind_eq_ok_iff.mp h
    obtain ⟨target, htarget, h⟩ := bind_eq_ok_iff.mp h
    obtain ⟨template, htemplate, h⟩ := bind_eq_ok_iff.mp h
    obtain ⟨page, hpage, h⟩ := bind_eq_ok_iff.mp h
    obtain ⟨feed, hfeed, h⟩ := bind_eq_ok_iff.mp h
    obtain ⟨clean, hclean, h⟩ := bind_eq_ok_iff.mp h
    obtain ⟨highlight, hhighlight, h⟩ := bind_eq_ok_iff.mp h
    obtain ⟨style, hstyle, h⟩ := bind_eq_ok_iff.mp h
    obtain ⟨raw, hraw, h⟩ := bind_eq_ok_iff.mp h
    cases h
    refine ⟨rfl, fun setting => ?_⟩
    cases setting with
    | source => exact hsource
    | target => exact htarget
    | template => exact htemplate
    | page => exact hpage
    | feed => exact hfeed
    | clean => exact hclean
    | highlight => exact hhighlight
    | style => exact hstyle
    | raw => exact hraw
  · rintro ⟨rfl, h⟩
    apply bind_eq_ok_iff.mpr ⟨_, h .source, _⟩
    apply bind_eq_ok_iff.mpr ⟨_, h .target, _⟩
    apply bind_eq_ok_iff.mpr ⟨_, h .template, _⟩
    apply bind_eq_ok_iff.mpr ⟨_, h .page, _⟩
    apply bind_eq_ok_iff.mpr ⟨_, h .feed, _⟩
    apply bind_eq_ok_iff.mpr ⟨_, h .clean, _⟩
    apply bind_eq_ok_iff.mpr ⟨_, h .highlight, _⟩
    apply bind_eq_ok_iff.mpr ⟨_, h .style, _⟩
    apply bind_eq_ok_iff.mpr ⟨_, h .raw, _⟩
    rfl

/-- What settings come to depends on the values that are checked alone. -/
theorem ofGiven_congr {others? : String → Option Given}
    (h : ∀ setting : Setting, setting.counted? given? = setting.counted? others?) :
    ofGiven root given? = ofGiven root others? := by
  have hsource : (given? "source_dir").filter Given.isSome
      = (others? "source_dir").filter Given.isSome := h .source
  have htarget : (given? "target_dir").filter Given.isSome
      = (others? "target_dir").filter Given.isSome := h .target
  have htemplate : (given? "template").filter Given.isSome
      = (others? "template").filter Given.isSome := h .template
  have hpage : given? "dist_ext" = others? "dist_ext" := h .page
  have hfeed : given? "feed_ext" = others? "feed_ext" := h .feed
  have hclean : given? "clean" = others? "clean" := h .clean
  have hhighlight : given? "highlight" = others? "highlight" := h .highlight
  have hstyle : given? "pygments_style" = others? "pygments_style" := h .style
  have hraw : given? "raw_include_extensions" = others? "raw_include_extensions" := h .raw
  simp only [ofGiven, hsource, htarget, htemplate, hpage, hfeed, hclean, hhighlight, hstyle, hraw]

theorem complaint?_key (setting : Setting) (given? : String → Option Given) :
    complaint? given? setting.key
      = (setting.counted? given?).bind fun given => complaintOf (setting.check given) := by
  cases setting with
  | source => exact complaint?_of_path (by decide) given?
  | target => exact complaint?_of_path (by decide) given?
  | template =>
      rw [Setting.key, complaint?_of_path (by decide) given?]
      exact congrArg (Option.bind _) (funext fun given => (complaintOf_map some _).symm)
  | page => rfl
  | feed => rfl
  | clean => rfl
  | highlight => rfl
  | style => rfl
  | raw => rfl

section

variable {overrides : List (String × Given)} {values : List (String × Yaml.Value)}

theorem effective?_eq_some_iff :
    effective? overrides values key = some given ↔
      (overrides.lookup key = some given ∧ given.isSome = true) ∨
        (∀ other, overrides.lookup key = some other → other.isSome = false) ∧
          ∃ value, values.lookup key = some value ∧ .value value = given := by
  rw [effective?, Option.or_eq_some_iff, Option.filter_eq_some_iff, Option.filter_eq_none_iff,
    Option.map_eq_some_iff]
  simp only [Bool.not_eq_true]

/-- The value that is checked is the one that counts. -/
theorem counted?_eq_some_iff :
    setting.counted? (effective? overrides values) = some given ↔
      Counts overrides values setting given := by
  have hcounts : setting.counted? (effective? overrides values) = some given ↔
      effective? overrides values setting.key = some given ∧
        (setting.isPath = true → given.isSome = true) := by
    rw [Setting.counted?]
    cases setting.isPath with
    | true => simp [Option.filter_eq_some_iff]
    | false => simp
  rw [hcounts, effective?_eq_some_iff]
  constructor
  · rintro ⟨⟨here, set⟩ | ⟨unset, value, here, rfl⟩, hpath⟩
    · exact Counts.run here set
    · exact Counts.file unset here hpath
  · intro h
    cases h with
    | run here set => exact ⟨.inl ⟨here, set⟩, fun _ => set⟩
    | file unset here hpath => exact ⟨.inr ⟨unset, _, here, rfl⟩, hpath⟩

theorem counted?_eq_none_iff :
    setting.counted? (effective? overrides values) = none ↔
      ∀ given, ¬ Counts overrides values setting given := by
  rw [Option.eq_none_iff_forall_ne_some]
  simp only [ne_eq, counted?_eq_some_iff]

/-- The check of a setting gives what the setting comes to. -/
theorem checked_eq_ok_iff {value : setting.Value} :
    checked (setting.counted? (effective? overrides values)) setting.check setting.default
        = .ok value ↔
      Settled overrides values setting value := by
  cases hcounted : setting.counted? (effective? overrides values) with
  | none =>
      have hnone := counted?_eq_none_iff.mp hcounted
      constructor
      · intro h
        cases h
        exact Settled.default hnone
      · intro h
        cases h with
        | accepted counts _ => exact absurd counts (hnone _)
        | default _ => rfl
  | some given =>
      have hcounts := counted?_eq_some_iff.mp hcounted
      refine (check_eq_ok_iff setting given value).trans ?_
      constructor
      · exact Settled.accepted hcounts
      · intro h
        cases h with
        | @accepted other _ counts accepts =>
            have hother := counted?_eq_some_iff.mpr counts
            rw [hcounted] at hother
            obtain rfl := Option.some.inj hother
            exact accepts
        | default none => exact absurd hcounts (none given)

/-- The values that count for a setting do so one at a time, so a setting that comes to something
has no other value that it does not accept. -/
theorem not_unsettled {value : setting.Value} (h : Settled overrides values setting value) :
    ¬ Unsettled overrides values setting := by
  rintro ⟨given, hcounts, hrefused⟩
  cases h with
  | @accepted other _ counts accepts =>
      have hgiven := counted?_eq_some_iff.mpr hcounts
      rw [counted?_eq_some_iff.mpr counts] at hgiven
      obtain rfl := Option.some.inj hgiven
      exact hrefused _ accepts
  | default none => exact none given hcounts

/-- There is a complaint about a setting if a value counts that it does not accept. -/
theorem complaint?_eq_some {complaint : SettingsError}
    (h : complaint? (effective? overrides values) setting.key = some complaint) :
    ∃ given, Counts overrides values setting given ∧ (∀ value, ¬ setting.Accepts given value) ∧
      complaint.key? = some setting.key := by
  rw [complaint?_key, Option.bind_eq_some_iff] at h
  obtain ⟨given, hcounted, hcomplaint⟩ := h
  rw [complaintOf_eq_some_iff] at hcomplaint
  have hcounts := counted?_eq_some_iff.mp hcounted
  have hnamed := key?_of_check hcomplaint
  refine ⟨given, hcounts, ?_, hnamed⟩
  intro value haccepts
  rw [← check_eq_ok_iff, hcomplaint] at haccepts
  cases haccepts

theorem complaint?_eq_none_iff :
    complaint? (effective? overrides values) setting.key = none ↔
      ¬ Unsettled overrides values setting := by
  constructor
  · rintro h ⟨given, hcounts, hrefused⟩
    rw [complaint?_key, counted?_eq_some_iff.mpr hcounts, Option.bind_some,
      complaintOf_eq_none_iff] at h
    obtain ⟨value, hvalue⟩ := h
    exact hrefused value ((check_eq_ok_iff setting given value).mp hvalue)
  · intro h
    cases hcomplaint : complaint? (effective? overrides values) setting.key with
    | none => rfl
    | some complaint =>
        obtain ⟨given, hcounts, hrefused, -⟩ := complaint?_eq_some hcomplaint
        exact absurd ⟨given, hcounts, hrefused⟩ h

end

/-! ## Files -/

/-- A configuration file says that settings have values. Without such a file no value is given; the
one that was asked for has to exist. -/
inductive FileSays (store : Store) (root : Path) (asked : Option Path) :
    List (String × Yaml.Value) → Prop
  | absent (unasked : asked = none) (missing : store.look (root.child fileName) = .ok none) :
      FileSays store root asked []
  | document {graph : Yaml.Graph} {values : List (String × Yaml.Value)}
      (holds : Holds store (configurationFile root asked) graph) (means : Means graph values) :
      FileSays store root asked values

variable {store : Store} {asked : Option Path} {values : List (String × Yaml.Value)}

theorem load_of_fileSays (h : FileSays store root asked values)
    (overrides : List (String × Given)) :
    load store root overrides asked
      = (ofGiven root (effective? overrides values)).mapError .settings := by
  cases h with
  | absent unasked missing =>
      subst unasked
      simp only [load, fileSettings, Option.getD_none, missing]
      rfl
  | document holds means =>
      rw [load_of_holds holds, ofGraph_of_means means]
      rfl

/-! ## Loading -/

/-- The same values count for a setting. -/
def CountsAlike (overrides : List (String × Given)) (values : List (String × Yaml.Value))
    (overrides' : List (String × Given)) (values' : List (String × Yaml.Value))
    (setting : Setting) : Prop :=
  ∀ given, Counts overrides values setting given ↔ Counts overrides' values' setting given

section

variable {overrides overrides' : List (String × Given)} {values' : List (String × Yaml.Value)}

theorem counted?_of_countsAlike (h : CountsAlike overrides values overrides' values' setting) :
    setting.counted? (effective? overrides values)
      = setting.counted? (effective? overrides' values') := by
  apply Option.ext
  intro given
  rw [counted?_eq_some_iff, counted?_eq_some_iff]
  exact h given

/-- A setting comes to the same by the same values, whatever counts for the others. -/
theorem eq_of_countsAlike {value value' : setting.Value}
    (h : CountsAlike overrides values overrides' values' setting)
    (hvalue : Settled overrides values setting value)
    (hvalue' : Settled overrides' values' setting value') : value = value' := by
  rw [← checked_eq_ok_iff] at hvalue hvalue'
  rw [counted?_of_countsAlike h, hvalue'] at hvalue
  exact (Except.ok.inj hvalue).symm

/-- A value that is given for this run counts for a setting. -/
def IsOverridden (overrides : List (String × Given)) (setting : Setting) : Prop :=
  ∃ given, overrides.lookup setting.key = some given ∧ given.isSome = true

/-- Where a value is given for this run, it does not matter what the file has. -/
theorem countsAlike_of_overridden
    (h : IsOverridden overrides setting ∨ values.lookup setting.key = values'.lookup setting.key) :
    CountsAlike overrides values overrides values' setting := by
  have heffective : effective? overrides values setting.key
      = effective? overrides values' setting.key := by
    rw [effective?, effective?]
    rcases h with ⟨given, hgiven, hset⟩ | hsame
    · rw [hgiven, Option.filter_some, if_pos hset, Option.some_or, Option.some_or]
    · rw [hsame]
  intro given
  rw [← counted?_eq_some_iff, ← counted?_eq_some_iff, Setting.counted?, Setting.counted?,
    heffective]

/-- A key of no setting is passed over among the values for a run. -/
theorem countsAlike_of_unknown (hkey : key ∉ knownKeys) (given : Given) (setting : Setting) :
    CountsAlike ((key, given) :: overrides) values overrides values setting := by
  have hother : ((key, given) :: overrides).lookup setting.key = overrides.lookup setting.key := by
    have hknown : setting.key ∈ knownKeys := by
      cases setting <;> decide
    have hne : (setting.key == key) = false := by
      rw [beq_eq_false_iff_ne]
      rintro rfl
      exact hkey hknown
    rw [List.lookup_cons, hne]
  intro other
  rw [← counted?_eq_some_iff, ← counted?_eq_some_iff, Setting.counted?, Setting.counted?,
    effective?, effective?, hother]

end

/-- A setting is refused: a value counts that it does not accept. The error names the setting, and
it is a report in words unless the setting is a choice and the value cannot be written. -/
structure Refused (overrides : List (String × Given)) (values : List (String × Yaml.Value))
    (setting : Setting) (error : SettingsLoadError) : Prop where
  unsettled : Unsettled overrides values setting
  named : ∃ complaint, error = .settings complaint ∧ complaint.key? = some setting.key
  report : error.IsReport ∨ error = .settings (.longNumber setting.key) ∧
    setting.isChoice = true ∧
      ∃ given, Counts overrides values setting given ∧ given.isWritable = false

/-- What comes of loading settings with values for this run and values in a file. -/
structure Settles (root : Path) (overrides : List (String × Given))
    (values : List (String × Yaml.Value)) (result : Except SettingsLoadError Settings) : Prop where
  /-- Every setting is what it comes to by itself. -/
  loads : ∀ settings, result = .ok settings ↔
    settings.root = root ∧ ∀ setting : Setting, Settled overrides values setting
      (setting.get settings)
  /-- There is an error if a value counts that its setting does not accept, and for no other
  reason. -/
  refuses : (∃ error, result = .error error) ↔ ∃ setting, Unsettled overrides values setting
  /-- The first such setting is refused. -/
  first : ∀ error, result = .error error → ∃ before setting later,
    Setting.all = before ++ setting :: later ∧
      (∀ earlier ∈ before, ¬ Unsettled overrides values earlier) ∧
      Refused overrides values setting error
  /-- All extensions are in their usual form. -/
  tidy : ∀ settings, result = .ok settings →
    ∀ extension ∈ settings.pageExtension :: settings.feedExtension :: settings.rawExtensions,
      IsTidy extension

theorem tidy_of_settled {overrides : List (String × Given)}
    (h : ∀ setting : Setting, Settled overrides values setting (setting.get settings)) :
    ∀ extension ∈ settings.pageExtension :: settings.feedExtension :: settings.rawExtensions,
      IsTidy extension := by
  obtain ⟨hpage, hfeed, hraw⟩ := isTidy_default
  have hpage' : ∀ {value}, Settled overrides values .page value → IsTidy value := by
    intro value hvalue
    cases hvalue with
    | accepted _ accepts => exact isTidy_of_meansExtension accepts
    | default _ => exact hpage
  have hfeed' : ∀ {value}, Settled overrides values .feed value → IsTidy value := by
    intro value hvalue
    cases hvalue with
    | accepted _ accepts => exact isTidy_of_meansExtension accepts
    | default _ => exact hfeed
  have hraw' : ∀ {value}, Settled overrides values .raw value →
      ∀ extension ∈ (show List String from value), IsTidy extension := by
    intro value hvalue
    cases hvalue with
    | accepted _ accepts => exact isTidy_of_meansExtensions accepts
    | default _ => exact hraw
  exact List.forall_mem_cons.mpr ⟨hpage' (h .page),
    List.forall_mem_cons.mpr ⟨hfeed' (h .feed), hraw' (h .raw)⟩⟩

/-- The complaint that is heard is about the first setting that is not settled. -/
theorem refused_of_ofGiven {overrides : List (String × Given)} {error : SettingsLoadError}
    (h : (ofGiven root (effective? overrides values)).mapError SettingsLoadError.settings
      = .error error) :
    ∃ before setting later, Setting.all = before ++ setting :: later ∧
      (∀ earlier ∈ before, ¬ Unsettled overrides values earlier) ∧
      Refused overrides values setting error := by
  obtain ⟨before, key, later, complaint, hkeys, hfine, hcomplaint, rfl⟩ :=
    (refused_of_values error).mp h
  have hall : knownKeys = Setting.all.map Setting.key := rfl
  rw [hall, List.map_eq_append_iff] at hkeys
  obtain ⟨front, back, hsplit, rfl, hback⟩ := hkeys
  obtain ⟨setting, rest, rfl, rfl, rfl⟩ := List.map_eq_cons_iff.mp hback
  obtain ⟨given, hcounts, hrefused, hnamed⟩ := complaint?_eq_some hcomplaint
  refine ⟨front, setting, rest, hsplit, ?_, ⟨given, hcounts, hrefused⟩,
    ⟨complaint, rfl, hnamed⟩, ?_⟩
  · intro earlier hearlier
    rw [← complaint?_eq_none_iff]
    exact hfine _ (List.mem_map_of_mem hearlier)
  · by_cases hlong : ∃ named, complaint = .longNumber named
    · obtain ⟨named, rfl⟩ := hlong
      obtain ⟨rfl, hchoice, other, hother, hunwritable⟩ :=
        complaint?_eq_longNumber_iff.mp hcomplaint
      have hkinds : setting.isChoice = true ∧ setting.isPath = false := by
        cases setting with
        | clean => exact ⟨rfl, rfl⟩
        | highlight => exact ⟨rfl, rfl⟩
        | _ => exact absurd hchoice (by decide)
      have hcounted := counted?_eq_some_iff.mpr hcounts
      rw [Setting.counted?, hkinds.2, if_neg Bool.false_ne_true, hother] at hcounted
      obtain rfl := Option.some.inj hcounted
      exact .inr ⟨rfl, hkinds.1, other, hcounts, hunwritable⟩
    · rw [not_exists] at hlong
      exact .inl (isReport_of_ne hlong)

/-- What does not count for settings makes no difference to what comes of loading them. -/
structure Disregards (store : Store) (root : Path) (asked : Option Path)
    (overrides : List (String × Given)) (values : List (String × Yaml.Value)) : Prop where
  /-- Keys of no setting may be given for a run. -/
  unknown : ∀ key given, key ∉ knownKeys →
    load store root ((key, given) :: overrides) asked = load store root overrides asked
  /-- A file may have anything where a value is given for the run. -/
  overridden : ∀ store' asked' values', FileSays store' root asked' values' →
    (∀ setting : Setting, IsOverridden overrides setting ∨
      values.lookup setting.key = values'.lookup setting.key) →
    load store' root overrides asked' = load store root overrides asked
  /-- It does not matter whether a value that counts comes from a file or not. -/
  alike : ∀ store' asked' values' overrides', FileSays store' root asked' values' →
    (∀ setting, CountsAlike overrides values overrides' values' setting) →
    load store' root overrides' asked' = load store root overrides asked
  /-- A setting does not change with what counts for another one. -/
  apart : ∀ store' asked' values' overrides', FileSays store' root asked' values' →
    ∀ setting settings settings', CountsAlike overrides values overrides' values' setting →
      load store root overrides asked = .ok settings →
      load store' root overrides' asked' = .ok settings' →
      setting.get settings = setting.get settings'

theorem load_eq_ok_iff (hfile : FileSays store root asked values)
    (overrides : List (String × Given)) :
    load store root overrides asked = .ok settings ↔ settings.root = root ∧
      ∀ setting : Setting, Settled overrides values setting (setting.get settings) := by
  rw [load_of_fileSays hfile, mapError_eq_ok_iff, ofGiven_eq_ok_iff]
  simp only [checked_eq_ok_iff]

theorem settles_of_fileSays (hfile : FileSays store root asked values)
    (overrides : List (String × Given)) :
    Settles root overrides values (load store root overrides asked) := by
  constructor
  case loads => exact fun settings => load_eq_ok_iff hfile overrides
  case refuses =>
    constructor
    · rintro ⟨error, herror⟩
      rw [load_of_fileSays hfile] at herror
      obtain ⟨before, setting, later, -, -, hrefused⟩ := refused_of_ofGiven herror
      exact ⟨setting, hrefused.unsettled⟩
    · rintro ⟨setting, hunsettled⟩
      cases hresult : load store root overrides asked with
      | error error => exact ⟨error, rfl⟩
      | ok settings =>
          have hsettled := ((load_eq_ok_iff hfile overrides).mp hresult).2 setting
          exact absurd hunsettled (not_unsettled hsettled)
  case first =>
    intro error herror
    rw [load_of_fileSays hfile] at herror
    exact refused_of_ofGiven herror
  case tidy =>
    intro settings hsettings
    exact tidy_of_settled ((load_eq_ok_iff hfile overrides).mp hsettings).2

theorem disregards_of_fileSays (hfile : FileSays store root asked values)
    (overrides : List (String × Given)) :
    Disregards store root asked overrides values := by
  -- loading depends on what is checked, and this is what counts
  have halike : ∀ {store' asked' values' overrides'}, FileSays store' root asked' values' →
      (∀ setting, CountsAlike overrides values overrides' values' setting) →
        load store' root overrides' asked' = load store root overrides asked := by
    intro store' asked' values' overrides' hfile' hsame
    rw [load_of_fileSays hfile, load_of_fileSays hfile',
      ofGiven_congr fun setting => counted?_of_countsAlike (hsame setting)]
  constructor
  case unknown =>
    intro key given hkey
    apply halike hfile
    intro setting other
    exact (countsAlike_of_unknown hkey given setting other).symm
  case overridden =>
    intro store' asked' values' hfile' hsame
    apply halike hfile'
    intro setting
    exact countsAlike_of_overridden (hsame setting)
  case alike =>
    intro store' asked' values' overrides' hfile' hsame
    exact halike hfile' hsame
  case apart =>
    intro store' asked' values' overrides' hfile' setting settings settings' hsame hloads hloads'
    apply eq_of_countsAlike hsame
    · exact ((load_eq_ok_iff hfile overrides).mp hloads).2 setting
    · exact ((load_eq_ok_iff hfile' overrides').mp hloads').2 setting

/-- Loading settles every setting by the value that counts for it, and by nothing else. -/
theorem load_settles (hfile : FileSays store root asked values)
    (overrides : List (String × Given)) :
    Settles root overrides values (load store root overrides asked) ∧
      Disregards store root asked overrides values :=
  ⟨settles_of_fileSays hfile overrides, disregards_of_fileSays hfile overrides⟩

/-! ## A file that does not count, and a number that cannot be written -/

/-- A directory with `"dist_ext": ~` in its configuration file. -/
def nullExtensionStore : Store where
  tree := .directory [("pagong.yaml",
    .file { bytes := [34, 100, 105, 115, 116, 95, 101, 120, 116, 34, 58, 32, 126] })]

/-- A mapping that gives null as the extension of pages. -/
def nullExtensionGraph : Yaml.Graph where
  objects := #[.mapping [(.atom (.text "dist_ext"), .atom .null)], .list [], .list []]
  root := .object 0

theorem fileSays_nullExtension :
    FileSays nullExtensionStore {} none [("dist_ext", .null)] := by
  have holds : Holds nullExtensionStore (configurationFile {} none) nullExtensionGraph :=
    ⟨"\"dist_ext\": ~", by rfl, by cbv⟩
  have named : Named [(.atom (.text "dist_ext"), .atom .null)] [("dist_ext", .atom .null)] :=
    List.Forall₂.cons ⟨rfl, rfl⟩ List.Forall₂.nil
  exact FileSays.document holds (Means.mapping rfl named (by decide))

/-- An extension that is given for the run, and a key of no setting. -/
def extensionOverrides : List (String × Given) :=
  [("dist_ext", .value (.text " .HTM")), ("colour", .value (.text "red"))]

/-- Null is no extension, but the one that is given for the run counts. -/
theorem load_settles_nullExtension :
    FileSays nullExtensionStore {} none [("dist_ext", .null)] ∧
      load nullExtensionStore {} extensionOverrides none
        = .ok { root := {}, pageExtension := "htm" } := by
  refine ⟨fileSays_nullExtension, ?_⟩
  apply ((load_settles fileSays_nullExtension extensionOverrides).1.loads _).mpr
  refine ⟨rfl, fun setting => ?_⟩
  have husual : usualExtension " .HTM" = "htm" := by decide +kernel
  have hnone : setting ≠ .page → ∀ given,
      ¬ Counts extensionOverrides [("dist_ext", .null)] setting given := by
    intro hpage
    rw [← counted?_eq_none_iff]
    cases setting with
    | page => exact absurd rfl hpage
    | _ => rfl
  cases setting with
  | page =>
      exact Settled.accepted (Counts.run rfl rfl)
        ⟨" .HTM", rfl, husual.symm, by decide, by decide⟩
  | _ => exact Settled.default (hnone (by decide))

/-- A number with more digits than can be written. -/
def longNumber : Given :=
  .value (.atom (.whole (Int.ofNat (Nat.pow 10 digitLimit))))

theorem isWritable_whole (n : Nat) : (Given.value (.atom (.whole (Int.ofNat n)))).isWritable
    = decide (n < Nat.pow 10 digitLimit) :=
  rfl

theorem isWritable_longNumber : longNumber.isWritable = false := by
  rw [longNumber, isWritable_whole]
  exact decide_eq_false (Nat.lt_irrefl _)

/-- The number is refused as a choice, but there is no report. -/
theorem load_longNumber :
    Unsettled [("clean", longNumber)] [] .clean ∧
      load { tree := .directory [] } {} [("clean", longNumber)] none
        = .error (.settings (.longNumber "clean")) ∧
      ¬ SettingsLoadError.IsReport (.settings (.longNumber "clean")) := by
  refine ⟨⟨longNumber, Counts.run rfl rfl, ?_⟩, ?_, id⟩
  · intro choice haccepts
    cases haccepts
  · have hfile : FileSays { tree := .directory [] } {} none [] := FileSays.absent rfl rfl
    rw [load_of_fileSays hfile, refused_of_values]
    have hcomplaint : complaint? (effective? [("clean", longNumber)] []) "clean"
        = some (.longNumber "clean") :=
      complaint?_eq_longNumber_iff.mpr ⟨rfl, by decide, longNumber, rfl, isWritable_longNumber⟩
    refine ⟨["source_dir", "target_dir", "template", "dist_ext", "feed_ext"], "clean",
      ["highlight", "pygments_style", "raw_include_extensions"], _, rfl, ?_, hcomplaint, rfl⟩
    simp only [List.forall_mem_cons]
    exact ⟨rfl, rfl, rfl, rfl, rfl, List.forall_mem_nil _⟩

end StaticSite.Settings
