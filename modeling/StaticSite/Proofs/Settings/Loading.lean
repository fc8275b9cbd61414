import Mathlib
import StaticSite.Proofs.Settings.Complaint

/-!
# Configuration files

A configuration file that is read holds a document. What comes of loading settings depends on what
the document is: a mapping whose keys are all known, something that says nothing, or something else.
Whether it says something is asked before whether it is a mapping, so `false`, zero and what is
empty are taken for a file that says nothing; and unknown keys are reported as texts, so a key that
is no text has no report.

## What this module delivers

- `Settings.Holds`: a configuration file that is read holds a document.
- `Settings.Named`, `Settings.Means`: the settings in a document.
- `Settings.Ends`: the ways in which loading ends.
- `Settings.loaded`: what comes of loading settings, for every document.
-/

set_option autoImplicit false

namespace StaticSite

open StaticSite.File

/-- Whether an error is a report about settings, in words. -/
def SettingsLoadError.IsReport : SettingsLoadError → Prop
  | .settings (.longNumber _) => False
  | .settings _ => True
  | _ => False

namespace Settings

/-- The configuration file that is read. -/
def configurationFile (root : Path) (asked : Option Path) : Path :=
  asked.getD (root.child fileName)

/-- A file holds a document. -/
def Holds (store : Store) (file : Path) (graph : Yaml.Graph) : Prop :=
  ∃ text, store.readText file = .ok text ∧ Yaml.read text.toList = .ok graph

/-- The entries of a mapping have texts as keys. -/
def Named (entries : List (Yaml.Item × Yaml.Item)) (named : List (String × Yaml.Item)) : Prop :=
  List.Forall₂ (fun entry item => entry.1.text? = some item.1 ∧ entry.2 = item.2) entries named

/-- The keys that are not those of settings. -/
def unknownOf (named : List (String × Yaml.Item)) : List String :=
  (named.map Prod.fst).filter fun key => !knownKeys.contains key

/-- What a document says about settings: nothing, or the values of a mapping with known keys. -/
inductive Means (graph : Yaml.Graph) : List (String × Yaml.Value) → Prop
  | nothing (alone : graph.entries? = none) (silent : graph.isSet = false) : Means graph []
  | mapping {entries : List (Yaml.Item × Yaml.Item)} {named : List (String × Yaml.Item)}
      (mapping : graph.entries? = some entries) (names : Named entries named)
      (known : unknownOf named = []) :
      Means graph (named.map fun (key, item) => (key, graph.objects.value item))

variable {store : Store} {root file : Path} {asked : Option Path} {graph : Yaml.Graph}
  {entries : List (Yaml.Item × Yaml.Item)} {named : List (String × Yaml.Item)}

/-! ## Reading the file -/

/-- A file that is read is seen. -/
theorem look_of_readText {text : String} (h : store.readText file = .ok text) :
    ∃ node, store.look file = .ok (some node) := by
  rw [Store.readText, Store.read] at h
  cases hnode : store.node file with
  | error fault =>
      rw [hnode] at h
      cases h
  | ok node => exact ⟨node, by rw [Store.look, hnode]⟩

theorem fileSettings_of_holds (h : Holds store (configurationFile root asked) graph) :
    fileSettings store root asked = ofGraph (configurationFile root asked) graph := by
  obtain ⟨text, htext, hgraph⟩ := h
  obtain ⟨node, hnode⟩ := look_of_readText htext
  rw [configurationFile] at hnode htext
  simp only [fileSettings, hnode, readFile, htext, hgraph]
  rfl

/-! ## Keys -/

/-- A mapping with a key that is no text has no texts as keys. -/
theorem textKeys_of_odd (h : ∃ entry ∈ entries, entry.1.text? = none) :
    textKeys entries = .error .keyNotText := by
  induction entries with
  | nil =>
      obtain ⟨entry, hentry, -⟩ := h
      cases hentry
  | cons first rest ih =>
      obtain ⟨key, value⟩ := first
      rw [textKeys]
      cases hkey : key.text? with
      | none => rfl
      | some text =>
          -- the odd key is one of those behind
          obtain ⟨entry, hentry, hodd⟩ := h
          rcases List.mem_cons.mp hentry with rfl | hrest
          · rw [hkey] at hodd
            cases hodd
          · simp only [ih ⟨entry, hrest, hodd⟩]
            rfl

theorem textKeys_of_named (h : Named entries named) : textKeys entries = .ok named := by
  induction h with
  | nil => rfl
  | @cons entry item rest items hfirst _ ih =>
      obtain ⟨key, value⟩ := entry
      obtain ⟨text, other⟩ := item
      obtain ⟨hkey, rfl⟩ := hfirst
      simp only [textKeys, hkey, ih]
      rfl

/-- The keys of a mapping are texts, or one of them is not. -/
theorem odd_or_named (entries : List (Yaml.Item × Yaml.Item)) :
    (∃ entry ∈ entries, entry.1.text? = none) ∨ ∃ named, Named entries named := by
  induction entries with
  | nil => exact Or.inr ⟨[], List.Forall₂.nil⟩
  | cons entry rest ih =>
      cases hkey : entry.1.text? with
      | none => exact Or.inl ⟨entry, List.mem_cons_self, hkey⟩
      | some text =>
          rcases ih with ⟨other, hother, hodd⟩ | ⟨named, hnamed⟩
          · exact Or.inl ⟨other, List.mem_cons_of_mem entry hother, hodd⟩
          · exact Or.inr ⟨(text, entry.2) :: named, List.Forall₂.cons ⟨hkey, rfl⟩ hnamed⟩

/-! ## Documents -/

theorem ofGraph_of_odd (hmapping : graph.entries? = some entries)
    (h : ∃ entry ∈ entries, entry.1.text? = none) :
    ofGraph file graph = .error .keyNotText := by
  simp only [ofGraph, hmapping, textKeys_of_odd h]
  rfl

theorem pairwise_sorted (keys : List String) :
    (keys.mergeSort fun a b => decide (a ≤ b)).Pairwise (· ≤ ·) := by
  have hsorted : (keys.mergeSort fun a b => decide (a ≤ b)).Pairwise
      fun a b => decide (a ≤ b) = true := by
    apply List.pairwise_mergeSort
    · intro a b c hab hbc
      rw [decide_eq_true_eq] at hab hbc ⊢
      exact String.le_trans hab hbc
    · intro a b
      simp only [Bool.or_eq_true, decide_eq_true_eq]
      exact String.le_total a b
  apply hsorted.imp
  intro a b hab
  exact of_decide_eq_true hab

/-- Unknown keys are reported in order. -/
theorem ofGraph_of_unknown (hmapping : graph.entries? = some entries)
    (hnamed : Named entries named) (h : unknownOf named ≠ []) :
    ∃ keys, keys.Perm (unknownOf named) ∧ keys.Pairwise (· ≤ ·) ∧
      ofGraph file graph = .error (.settings (.unknownKeys file keys)) := by
  have hunknown : (unknownOf named).isEmpty = false := by
    rw [List.isEmpty_eq_false_iff]
    exact h
  refine ⟨(unknownOf named).mergeSort fun a b => decide (a ≤ b), List.mergeSort_perm _ _,
    pairwise_sorted _, ?_⟩
  rw [ofGraph, hmapping]
  simp only [textKeys_of_named hnamed]
  show (if (unknownOf named).isEmpty = true then _ else _) = _
  rw [if_neg (by simp [hunknown])]
  rfl

/-- The values of a mapping with known keys. -/
theorem ofGraph_of_known (hmapping : graph.entries? = some entries) (hnamed : Named entries named)
    (h : unknownOf named = []) : ofGraph file graph
      = .ok (named.map fun (key, item) => (key, graph.objects.value item)) := by
  rw [ofGraph, hmapping]
  simp only [textKeys_of_named hnamed]
  show (if (unknownOf named).isEmpty = true then _ else _) = _
  rw [h]
  rfl

theorem ofGraph_of_alone (halone : graph.entries? = none) :
    ofGraph file graph
      = if graph.isSet then .error (.settings (.notMapping file)) else .ok [] := by
  rw [ofGraph, halone]

/-- A document that says something about settings gives the values. -/
theorem ofGraph_of_means {values : List (String × Yaml.Value)} (h : Means graph values) :
    ofGraph file graph = .ok values := by
  cases h with
  | nothing alone silent =>
      rw [ofGraph_of_alone alone, silent]
      rfl
  | mapping mapping names known => exact ofGraph_of_known mapping names known

/-! ## Loading -/

/-- The ways in which loading ends: with settings, with a report about settings, or in one of two
other ways, in which there are no words for what is wrong. -/
inductive Ends (graph : Yaml.Graph) (overrides : List (String × Given)) :
    Except SettingsLoadError Settings → Prop
  | accepted (settings : Settings) : Ends graph overrides (.ok settings)
  | reported {error : SettingsLoadError} (report : error.IsReport) :
      Ends graph overrides (.error error)
  /-- A key is no text. -/
  | oddKey {entries : List (Yaml.Item × Yaml.Item)} (mapping : graph.entries? = some entries)
      (odd : ∃ entry ∈ entries, entry.1.text? = none) : Ends graph overrides (.error .keyNotText)
  /-- A choice is given something else, with a number in it that is too long to be written. -/
  | longNumber {key : String} {values : List (String × Yaml.Value)} {given : Given}
      (means : Means graph values) (choice : key ∈ choiceKeys)
      (counts : effective? overrides values key = some given)
      (long : given.isWritable = false) :
      Ends graph overrides (.error (.settings (.longNumber key)))

/-- What comes of loading settings with a document in the configuration file. -/
structure Loaded (file : Path) (graph : Yaml.Graph) (overrides : List (String × Given))
    (result : Except SettingsLoadError Settings) : Prop where
  /-- There are no other ways to end. -/
  ends : Ends graph overrides result
  /-- A document that says something is to be a mapping. -/
  notMapping : graph.entries? = none → graph.isSet = true →
    result = .error (.settings (.notMapping file))
  /-- A mapping is to have texts as keys. -/
  oddKey : ∀ entries, graph.entries? = some entries →
    (∃ entry ∈ entries, entry.1.text? = none) → result = .error .keyNotText
  /-- These are to be keys of settings. All that are not are reported, in order. -/
  unknownKeys : ∀ entries named, graph.entries? = some entries → Named entries named →
    unknownOf named ≠ [] → ∃ keys, keys.Perm (unknownOf named) ∧ keys.Pairwise (· ≤ ·) ∧
      result = .error (.settings (.unknownKeys file keys))
  /-- Values that count are to be fine. -/
  accepted : ∀ values, Means graph values →
    ((∃ settings, result = .ok settings) ↔
      ∀ key ∈ knownKeys, complaint? (effective? overrides values) key = none)
  /-- The first complaint is reported. -/
  refused : ∀ values, Means graph values → ∀ error, result = .error error ↔
    ∃ before key later complaint, knownKeys = before ++ key :: later ∧
      (∀ other ∈ before, complaint? (effective? overrides values) other = none) ∧
      complaint? (effective? overrides values) key = some complaint ∧
      error = .settings complaint

theorem load_of_holds (h : Holds store (configurationFile root asked) graph)
    (overrides : List (String × Given)) :
    load store root overrides asked =
      (ofGraph (configurationFile root asked) graph).bind fun values =>
        (ofGiven root (effective? overrides values)).mapError .settings := by
  rw [load, fileSettings_of_holds h]
  rfl

section

variable {overrides : List (String × Given)} {values : List (String × Yaml.Value)}

/-- The settings that values mean are accepted if no value has a complaint. -/
theorem accepted_of_values :
    (∃ settings, (ofGiven root (effective? overrides values)).mapError SettingsLoadError.settings
        = .ok settings) ↔
      ∀ key ∈ knownKeys, complaint? (effective? overrides values) key = none := by
  rw [← @exists_ofGiven_iff root]
  simp only [mapError_eq_ok_iff]

theorem refused_of_values (error : SettingsLoadError) :
    (ofGiven root (effective? overrides values)).mapError SettingsLoadError.settings
        = .error error ↔
      ∃ before key later complaint, knownKeys = before ++ key :: later ∧
        (∀ other ∈ before, complaint? (effective? overrides values) other = none) ∧
        complaint? (effective? overrides values) key = some complaint ∧
        error = .settings complaint := by
  have hfirst := fun complaint =>
    @ofGiven_eq_error_iff root (effective? overrides values) complaint
  cases hgiven : ofGiven root (effective? overrides values) with
  | ok settings =>
      constructor
      · intro h
        cases h
      · rintro ⟨before, key, later, complaint, hsplit, hfine, hcomplaint, -⟩
        have herror := (hfirst complaint).mpr ⟨before, key, later, hsplit, hcomplaint, hfine⟩
        rw [hgiven] at herror
        cases herror
  | error found =>
      constructor
      · intro h
        cases h
        obtain ⟨before, key, later, hsplit, hcomplaint, hfine⟩ := (hfirst found).mp hgiven
        exact ⟨before, key, later, found, hsplit, hfine, hcomplaint, rfl⟩
      · rintro ⟨before, key, later, complaint, hsplit, hfine, hcomplaint, rfl⟩
        have herror := (hfirst complaint).mpr ⟨before, key, later, hsplit, hcomplaint, hfine⟩
        rw [hgiven] at herror
        cases herror
        rfl

end

theorem isReport_of_ne {error : SettingsError} (h : ∀ key, error ≠ .longNumber key) :
    (SettingsLoadError.settings error).IsReport := by
  cases error with
  | longNumber key => exact absurd rfl (h key)
  | _ => trivial

/-- With values that a document means, loading ends in settings, in a report, or with a number that
is too long. -/
theorem ends_of_values {overrides : List (String × Given)} {values : List (String × Yaml.Value)}
    (hmeans : Means graph values) :
    Ends graph overrides
      ((ofGiven root (effective? overrides values)).mapError SettingsLoadError.settings) := by
  cases hgiven : ofGiven root (effective? overrides values) with
  | ok settings => exact Ends.accepted settings
  | error error =>
      obtain ⟨before, key, later, hsplit, hcomplaint, -⟩ := ofGiven_eq_error_iff.mp hgiven
      by_cases hlong : ∃ named, error = .longNumber named
      · obtain ⟨named, rfl⟩ := hlong
        obtain ⟨rfl, hchoice, given, hcounts, hunwritable⟩ :=
          complaint?_eq_longNumber_iff.mp hcomplaint
        exact Ends.longNumber hmeans hchoice hcounts hunwritable
      · rw [not_exists] at hlong
        exact Ends.reported (isReport_of_ne hlong)

/-- Loading settings ends as the document in the configuration file has it. -/
theorem loaded (h : Holds store (configurationFile root asked) graph)
    (overrides : List (String × Given)) :
    Loaded (configurationFile root asked) graph overrides
      (load store root overrides asked) := by
  rw [load_of_holds h]
  have hvalues : ∀ values, Means graph values →
      (ofGraph (configurationFile root asked) graph).bind (fun values =>
        (ofGiven root (effective? overrides values)).mapError SettingsLoadError.settings)
      = (ofGiven root (effective? overrides values)).mapError SettingsLoadError.settings := by
    intro values hmeans
    rw [ofGraph_of_means hmeans]
    rfl
  constructor
  case ends =>
    -- a document is a mapping or not, and what it is decides how loading ends
    cases hentries : graph.entries? with
    | none =>
        cases hset : graph.isSet with
        | true =>
            rw [ofGraph_of_alone hentries, hset]
            exact Ends.reported trivial
        | false =>
            have hmeans := Means.nothing hentries hset
            rw [hvalues [] hmeans]
            exact ends_of_values hmeans
    | some entries =>
        rcases odd_or_named entries with hodd | ⟨named, hnamed⟩
        · rw [ofGraph_of_odd hentries hodd]
          exact Ends.oddKey hentries hodd
        · by_cases hknown : unknownOf named = []
          · have hmeans := Means.mapping hentries hnamed hknown
            rw [hvalues _ hmeans]
            exact ends_of_values hmeans
          · obtain ⟨keys, -, -, hresult⟩ := ofGraph_of_unknown hentries hnamed hknown
            rw [hresult]
            exact Ends.reported trivial
  case notMapping =>
    intro halone hset
    rw [ofGraph_of_alone halone, hset]
    rfl
  case oddKey =>
    intro entries hentries hodd
    rw [ofGraph_of_odd hentries hodd]
    rfl
  case unknownKeys =>
    intro entries named hentries hnamed hunknown
    obtain ⟨keys, hperm, hsorted, hresult⟩ := ofGraph_of_unknown hentries hnamed hunknown
    refine ⟨keys, hperm, hsorted, ?_⟩
    rw [hresult]
    rfl
  case accepted =>
    intro values hmeans
    rw [hvalues values hmeans]
    exact accepted_of_values
  case refused =>
    intro values hmeans error
    rw [hvalues values hmeans]
    exact refused_of_values error

/-! ## Keys that are no texts, and documents that say nothing -/

/-- A directory with `~:` in its configuration file. -/
def nullKeyStore : Store where
  tree := .directory [("pagong.yaml", .file { bytes := [126, 58] })]

/-- A mapping with null as its only key. -/
def nullKeyGraph : Yaml.Graph where
  objects := #[.mapping [(.atom .null, .atom .null)], .list [], .list []]
  root := .object 0

theorem holds_nullKey : Holds nullKeyStore (configurationFile {} none) nullKeyGraph :=
  ⟨"~:", by rfl, by cbv⟩

theorem loaded_nullKey :
    Holds nullKeyStore (configurationFile {} none) nullKeyGraph ∧
      Loaded (configurationFile {} none) nullKeyGraph [] (load nullKeyStore {} [] none) :=
  ⟨holds_nullKey, loaded holds_nullKey []⟩

/-- A directory with `[]` in its configuration file. -/
def listStore : Store where
  tree := .directory [("pagong.yaml", .file { bytes := [91, 93] })]

/-- A list of nothing, which is neither a mapping nor null. -/
def listGraph : Yaml.Graph where
  objects := #[.list []]
  root := .object 0

theorem holds_list : Holds listStore (configurationFile {} none) listGraph :=
  ⟨"[]", by rfl, by cbv⟩

/-- A key that is no text is no key of a setting, and still there is no report. Nor is there one of
a list of nothing, which is taken for a file that says nothing. -/
theorem load_unreported :
    load nullKeyStore {} [] none = .error .keyNotText ∧ ¬ SettingsLoadError.keyNotText.IsReport ∧
      load listStore {} [] none = .ok { root := {} } := by
  refine ⟨?_, id, ?_⟩
  · rw [load_of_holds holds_nullKey]
    rfl
  · rw [load_of_holds holds_list]
    rfl

end Settings

end StaticSite
