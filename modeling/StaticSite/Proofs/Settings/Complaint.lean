import StaticSite.Proofs.Outcome
import StaticSite.Settings.Load

/-!
# What is wrong with settings

Settings are checked one after the other, each by the value that counts for it and by no other, and
the first complaint is the one that is heard. One complaint cannot be put into words: a choice that
is given a number too long to be written.

## What this module delivers

- `complaintOf`: the error of a check, if it has one.
- `Settings.complaint?`: what is wrong with the value that counts for a setting.
- `Settings.complaintOf_ofGiven`: settings are refused for the first complaint about a known key.
- `Settings.complaint?_eq_longNumber_iff`: the complaint that cannot be put into words.
-/

set_option autoImplicit false

namespace StaticSite

/-! ## Errors of checks -/

/-- The error of a check, if it has one. -/
def complaintOf {α : Type} : Except SettingsError α → Option SettingsError
  | .ok _ => none
  | .error error => some error

theorem complaintOf_eq_none_iff {α : Type} {x : Except SettingsError α} :
    complaintOf x = none ↔ ∃ a, x = .ok a := by
  cases x with
  | ok a =>
      constructor
      · intro _
        exact ⟨a, rfl⟩
      · intro _
        rfl
  | error error =>
      constructor
      · intro h
        cases h
      · rintro ⟨a, ha⟩
        cases ha

theorem complaintOf_eq_some_iff {α : Type} {x : Except SettingsError α} {error : SettingsError} :
    complaintOf x = some error ↔ x = .error error := by
  cases x with
  | ok a =>
      constructor
      · intro h
        cases h
      · intro h
        cases h
  | error other =>
      constructor
      · intro h
        cases h
        rfl
      · intro h
        cases h
        rfl

theorem complaintOf_map {α β : Type} (f : α → β) (x : Except SettingsError α) :
    complaintOf (x.map f) = complaintOf x := by
  cases x <;> rfl

/-- A check followed by work whose complaint does not depend on what the check gives. -/
theorem complaintOf_bind {α β : Type} {x : Except SettingsError α}
    {f : α → Except SettingsError β} {later : Option SettingsError}
    (h : ∀ a, complaintOf (f a) = later) : complaintOf (x >>= f) = (complaintOf x).or later := by
  cases x with
  | error error => rfl
  | ok a => exact h a

namespace Settings

theorem complaintOf_checked {α : Type} (given : Option Given)
    (check : Given → Except SettingsError α) (default : α) :
    complaintOf (checked given check default)
      = given.bind fun given => complaintOf (check given) := by
  cases given <;> rfl

/-! ## Complaints about values -/

/-- The settings that are paths. -/
def pathKeys : List String := ["source_dir", "target_dir", "template"]

/-- The settings that are extensions. -/
def extensionKeys : List String := ["dist_ext", "feed_ext"]

/-- The settings that are choices. -/
def choiceKeys : List String := ["clean", "highlight"]

/-- What is wrong with a value for a setting. -/
def complaintAbout (key : String) (given : Given) : Option SettingsError :=
  if key ∈ pathKeys then if given.isSome then complaintOf (path key given) else none
  else if key ∈ extensionKeys then complaintOf (extension key given)
  else if key ∈ choiceKeys then complaintOf (boolean key given)
  else if key = "pygments_style" then complaintOf (text key given)
  else complaintOf (extensions key given)

/-- What is wrong with the value that counts for a setting. -/
def complaint? (given? : String → Option Given) (key : String) : Option SettingsError :=
  (given? key).bind (complaintAbout key)

theorem complaint?_of_path {key : String} (hkey : key ∈ pathKeys) (given? : String → Option Given) :
    complaint? given? key
      = ((given? key).filter Given.isSome).bind fun given => complaintOf (path key given) := by
  rw [complaint?]
  cases given? key with
  | none => rfl
  | some given =>
      rw [Option.bind_some, complaintAbout, if_pos hkey, Option.filter_some]
      cases given.isSome <;> rfl

variable {root : StaticSite.File.Path} {given? : String → Option Given}

theorem complaintOf_checked_path {α : Type} {key : String} {check : Given → Except SettingsError α}
    (hkey : key ∈ pathKeys)
    (hcheck : ∀ given, complaintOf (check given) = complaintOf (path key given)) (default : α) :
    complaintOf (checked ((given? key).filter Given.isSome) check default)
      = complaint? given? key := by
  rw [complaintOf_checked, complaint?_of_path hkey]
  exact congrArg (Option.bind _) (funext hcheck)

theorem complaintOf_checked_value {α : Type} {key : String}
    {check : Given → Except SettingsError α}
    (hcheck : ∀ given, complaintOf (check given) = complaintAbout key given) (default : α) :
    complaintOf (checked (given? key) check default) = complaint? given? key := by
  rw [complaintOf_checked, complaint?]
  exact congrArg (Option.bind _) (funext hcheck)

/-- Checking one more setting before some others. -/
theorem complaintOf_step {α β : Type} {x : Except SettingsError α}
    {f : α → Except SettingsError β} {key : String} {keys : List String}
    (hx : complaintOf x = complaint? given? key)
    (hf : ∀ a, complaintOf (f a) = keys.findSome? (complaint? given?)) :
    complaintOf (x >>= f) = (key :: keys).findSome? (complaint? given?) := by
  rw [complaintOf_bind hf, hx, List.findSome?_cons]
  cases complaint? given? key <;> rfl

/-- Settings are refused for the first complaint about a known key, and for no other reason. -/
theorem complaintOf_ofGiven :
    complaintOf (ofGiven root given?) = knownKeys.findSome? (complaint? given?) := by
  -- one step for each setting, in the order of the keys
  apply complaintOf_step (complaintOf_checked_path (by decide) (fun _ => rfl) _)
  intro source
  apply complaintOf_step (complaintOf_checked_path (by decide) (fun _ => rfl) _)
  intro target
  apply complaintOf_step (complaintOf_checked_path (by decide) (fun _ => complaintOf_map _ _) _)
  intro template
  apply complaintOf_step (complaintOf_checked_value (fun _ => rfl) _)
  intro page
  apply complaintOf_step (complaintOf_checked_value (fun _ => rfl) _)
  intro feed
  apply complaintOf_step (complaintOf_checked_value (fun _ => rfl) _)
  intro clean
  apply complaintOf_step (complaintOf_checked_value (fun _ => rfl) _)
  intro highlight
  apply complaintOf_step (complaintOf_checked_value (fun _ => rfl) _)
  intro style
  apply complaintOf_step (complaintOf_checked_value (fun _ => rfl) _)
  intro raw
  rfl

/-- Settings that are accepted are those about which there is no complaint. -/
theorem exists_ofGiven_iff :
    (∃ settings, ofGiven root given? = .ok settings) ↔
      ∀ key ∈ knownKeys, complaint? given? key = none := by
  rw [← complaintOf_eq_none_iff, complaintOf_ofGiven, List.findSome?_eq_none_iff]

/-- Settings that are refused are refused for the first complaint. -/
theorem ofGiven_eq_error_iff {error : SettingsError} :
    ofGiven root given? = .error error ↔
      ∃ before key later, knownKeys = before ++ key :: later ∧
        complaint? given? key = some error ∧ ∀ other ∈ before, complaint? given? other = none := by
  rw [← complaintOf_eq_some_iff, complaintOf_ofGiven, List.findSome?_eq_some_iff]

/-! ## The complaint that cannot be put into words -/

theorem extension_ne_longNumber (key : String) (given : Given) (named : String) :
    complaintOf (extension key given) ≠ some (.longNumber named) := by
  unfold extension
  intro h
  split at h
  · dsimp only at h
    split at h <;> cases h
  · cases h

theorem mapM_ne_longNumber {α β : Type} {check : α → Except SettingsError β} {named : String}
    (hcheck : ∀ a, complaintOf (check a) ≠ some (.longNumber named)) (items : List α) :
    complaintOf (items.mapM check) ≠ some (.longNumber named) := by
  intro h
  obtain ⟨item, -, hitem⟩ := mapM_eq_error (complaintOf_eq_some_iff.mp h)
  exact hcheck item (complaintOf_eq_some_iff.mpr hitem)

theorem extensions_ne_longNumber (key : String) (given : Given) (named : String) :
    complaintOf (extensions key given) ≠ some (.longNumber named) := by
  unfold extensions
  split
  · exact mapM_ne_longNumber (fun _ => extension_ne_longNumber _ _ _) _
  · exact mapM_ne_longNumber (fun _ => extension_ne_longNumber _ _ _) _
  · exact mapM_ne_longNumber (fun _ => extension_ne_longNumber _ _ _) _
  · intro h
    cases h

theorem path_ne_longNumber (key : String) (given : Given) (named : String) :
    complaintOf (path key given) ≠ some (.longNumber named) := by
  unfold path
  intro h
  split at h <;> cases h

theorem text_ne_longNumber (key : String) (given : Given) (named : String) :
    complaintOf (text key given) ≠ some (.longNumber named) := by
  unfold text
  intro h
  split at h <;> cases h

theorem boolean_eq_longNumber_iff {key named : String} {given : Given} :
    complaintOf (boolean key given) = some (.longNumber named) ↔
      named = key ∧ given.isWritable = false := by
  unfold boolean
  split
  · constructor
    · intro h
      cases h
    · rintro ⟨-, h⟩
      cases h
  · cases hwritable : given.isWritable with
    | true => simp [complaintOf]
    | false => simp [complaintOf, eq_comm]

/-- There are no words for a complaint exactly if it is about a choice, for which a value counts
that cannot be written. -/
theorem complaint?_eq_longNumber_iff {key named : String} :
    complaint? given? key = some (.longNumber named) ↔
      named = key ∧ key ∈ choiceKeys ∧ ∃ given, given? key = some given ∧
        given.isWritable = false := by
  have habout : ∀ given, complaintAbout key given = some (.longNumber named) ↔
      named = key ∧ key ∈ choiceKeys ∧ given.isWritable = false := by
    intro given
    have hapart : key ∈ choiceKeys → key ∉ pathKeys ∧ key ∉ extensionKeys := by
      intro hkey
      simp only [choiceKeys, List.mem_cons, List.not_mem_nil, or_false] at hkey
      rcases hkey with rfl | rfl
      · decide
      · decide
    by_cases hchoice : key ∈ choiceKeys
    · obtain ⟨hpath, hextension⟩ := hapart hchoice
      rw [complaintAbout, if_neg hpath, if_neg hextension, if_pos hchoice,
        boolean_eq_longNumber_iff, and_iff_right hchoice]
    · rw [complaintAbout, if_neg hchoice]
      constructor
      · intro h
        split at h
        · split at h
          · exact absurd h (path_ne_longNumber _ _ _)
          · cases h
        · split at h
          · exact absurd h (extension_ne_longNumber _ _ _)
          · split at h
            · exact absurd h (text_ne_longNumber _ _ _)
            · exact absurd h (extensions_ne_longNumber _ _ _)
      · rintro ⟨-, hkey, -⟩
        exact absurd hkey hchoice
  rw [complaint?, Option.bind_eq_some_iff]
  constructor
  · rintro ⟨given, hgiven, hcomplaint⟩
    obtain ⟨hnamed, hkey, hlong⟩ := (habout given).mp hcomplaint
    exact ⟨hnamed, hkey, given, hgiven, hlong⟩
  · rintro ⟨hnamed, hkey, given, hgiven, hlong⟩
    exact ⟨given, hgiven, (habout given).mpr ⟨hnamed, hkey, hlong⟩⟩

end Settings

end StaticSite
