import StaticSite.Proofs.Settings.Settled
import StaticSite.Proofs.Site.Sources
import StaticSite.Proofs.Template.Filling

/-!
# What cannot be loaded

A scan loads posts, feeds and templates, and the settings before. Each of them says for itself what
becomes of a file that is no good: it is put up with, or it ends the scan.

## What this module delivers

- `Settings.pageExtension_of_load`: the extension of pages that settings have.
- `Post.LoadFails`, `Post.load_eq_error`, `Feed.LoadFails`, `Feed.load_eq_error`: why a post or a
  feed cannot be loaded.
- `find_feed_eq_error`, `find_post_eq_error`, `find_ne_error`: which source files end a scan.
- `lookup_loadTemplates`, `loadTemplates_eq_error`: what becomes of the templates of posts.
- `loadDefaultTemplate_eq_error`: how the template of pages that ask for none ends a scan.
-/

set_option autoImplicit false

namespace StaticSite

open StaticSite.File StaticSite.Calendar

/-! ## The extension of pages -/

/-- Settings that are loaded have an extension of pages that a name can have. -/
theorem Settings.pageExtension_of_load {store : Store} {root : Path}
    {overrides : List (String × Given)} {asked : Option Path} {settings : Settings}
    (h : Settings.load store root overrides asked = .ok settings) :
    settings.pageExtension ≠ "" ∧ '/' ∉ settings.pageExtension.toList := by
  obtain ⟨values, -, h⟩ := bind_eq_ok_iff.mp h
  rw [mapError_eq_ok_iff, Settings.ofGiven_eq_ok_iff] at h
  have htidy := Settings.tidy_of_settled fun setting => Settings.checked_eq_ok_iff.mp (h.2 setting)
  have hpage := htidy settings.pageExtension List.mem_cons_self
  exact ⟨hpage.notEmpty, hpage.noSlash⟩

/-! ## Single files -/

section

variable {store : Store} {root path : Path} {extension : String}

theorem Post.readDate_eq_error {seconds : Int} {value : Option String} {error : LoadError}
    (h : (Post.readDate path seconds value).outcome = .error error) :
    ∃ fault, error = .noDate fault ∧ Date.ofSeconds seconds = .error fault := by
  have hseconds : ((Date.ofSeconds seconds).mapError LoadError.noDate) = .error error →
      ∃ fault, error = .noDate fault ∧ Date.ofSeconds seconds = .error fault := by
    intro hfails
    cases hdate : Date.ofSeconds seconds with
    | ok date =>
        rw [hdate] at hfails
        cases hfails
    | error fault =>
        rw [hdate] at hfails
        cases hfails
        exact ⟨fault, rfl, rfl⟩
  rw [Post.readDate] at h
  -- a date that is given and is none is passed over with a note, for the time of the file
  split at h
  · exact hseconds h
  · split at h
    · exact absurd h (by simp)
    · rcases Report.outcome_bind_eq_error.mp h with hnote | ⟨-, -, h⟩
      · exact absurd hnote (by simp)
      · exact hseconds h

/-- Why a post cannot be loaded. -/
inductive Post.LoadFails (store : Store) (root path : Path) (extension : String) :
    LoadError → Prop where
  | post (reason : PostError) : LoadFails store root path extension (.post reason)
  | nullCharacter (null : path.hasNull = true) : LoadFails store root path extension .nullCharacter
  | noAddress (address : Post.address? root path extension = none) :
      LoadFails store root path extension .noAddress
  /-- A time of the file has no date. -/
  | noDate {data : FileData} {fault : TimeFault} (read : store.read path = .ok data)
      (time : Date.ofSeconds data.created = .error fault ∨
        Date.ofSeconds data.modified = .error fault) :
      LoadFails store root path extension (.noDate fault)

theorem Post.readSource_eq_error {reason : LoadError}
    (h : Post.readSource store path = .error reason) :
    Post.LoadFails store root path extension reason := by
  rw [Post.readSource] at h
  split at h
  · rename_i hread
    cases h
    exact .nullCharacter (Store.read_eq_nullCharacter_iff.mp hread)
  · cases h
    exact .post _
  · split at h
    · cases h
    · cases h
      exact .post _

theorem Post.readSource_eq_ok {data : FileData} {text : String}
    (h : Post.readSource store path = .ok (data, text)) : store.read path = .ok data := by
  rw [Post.readSource] at h
  split at h
  · cases h
  · cases h
  · rename_i found hfound
    split at h
    · cases h
      exact hfound
    · cases h

theorem Post.load_eq_error {reason : LoadError}
    (h : (Post.load store root path extension).outcome = .error reason) :
    Post.LoadFails store root path extension reason := by
  rw [Post.load] at h
  rcases Report.outcome_bind_eq_error.mp h with hsource | ⟨⟨data, text⟩, hsource, h⟩
  · exact Post.readSource_eq_error hsource
  · have hread : store.read path = .ok data := Post.readSource_eq_ok hsource
    obtain ⟨division, -, h⟩ := (Report.outcome_bind_eq_error.mp h).resolve_left (by simp)
    cases division with
    | none =>
        cases h
        exact .post _
    | some division =>
        obtain ⟨metadata, markdown⟩ := division
        -- the dates come first, and the address last
        rcases Report.outcome_bind_eq_error.mp h with hdate | ⟨date, -, h⟩
        · obtain ⟨fault, rfl, hfault⟩ := Post.readDate_eq_error hdate
          exact .noDate hread (Or.inl hfault)
        rcases Report.outcome_bind_eq_error.mp h with hupdated | ⟨updated, -, h⟩
        · obtain ⟨fault, rfl, hfault⟩ := Post.readDate_eq_error hupdated
          exact .noDate hread (Or.inr hfault)
        cases haddress : Post.address? root path extension with
        | none =>
            rw [haddress] at h
            cases h
            exact .noAddress haddress
        | some uri =>
            rw [haddress] at h
            exact absurd h (by simp)

/-- Why a feed cannot be loaded. -/
inductive Feed.LoadFails (store : Store) (path : Path) : FeedLoadError → Prop where
  | feed (error : FeedError) : LoadFails store path (.feed error)
  | nullCharacter (null : path.hasNull = true) : LoadFails store path .nullCharacter
  /-- The file declares an encoding that cannot be read. -/
  | encoding {data : FileData} {error : Xml.ReadError} (read : store.read path = .ok data)
      (document : Xml.read data.bytes = .error error) (declared : error ≠ .malformed) :
      LoadFails store path (.encoding error)

theorem Feed.load_eq_error {reason : FeedLoadError} (h : Feed.load store path = .error reason) :
    Feed.LoadFails store path reason := by
  rw [Feed.load] at h
  split at h
  · rename_i hread
    cases h
    exact .nullCharacter (Store.read_eq_nullCharacter_iff.mp hread)
  · cases h
    exact .feed _
  · rename_i data hread
    split at h
    · cases h
      exact .feed _
    · rename_i error hother hxml
      cases h
      refine .encoding hread hxml ?_
      rintro rfl
      exact hother rfl
    · rename_i element hxml
      cases helement : Feed.ofElement path element with
      | error error =>
          rw [helement] at h
          cases h
          exact .feed error
      | ok feed =>
          rw [helement] at h
          cases h

/-- A file that declares an encoding that cannot be read is no feed for this reason. -/
theorem Feed.load_eq_encoding {data : FileData} {error : Xml.ReadError}
    (hread : store.read path = .ok data) (hdocument : Xml.read data.bytes = .error error)
    (hdeclared : error ≠ .malformed) : Feed.load store path = .error (.encoding error) := by
  simp only [Feed.load, hread, hdocument]

end

namespace Site

variable {store : Store} {settings : Settings} {root path : Path} {error : Error}

/-- A file with the extension of feeds ends a scan exactly if it is neither a feed nor for a known
reason none. -/
theorem find_feed_eq_error (hextension : fileExtension path = settings.feedExtension) :
    (find store settings root path).outcome = .error error ↔
      ∃ reason, error = .feed reason ∧ Feed.load store path = .error reason ∧
        ∀ other, reason ≠ .feed other := by
  rw [find, if_pos hextension]
  cases hload : Feed.load store path with
  | ok feed => simp
  | error reason =>
      cases reason with
      | feed other =>
          -- a file that is no feed is a copy
          constructor
          · intro h
            rcases Report.outcome_bind_eq_error.mp h with hnote | ⟨-, -, hpure⟩
            · exact absurd hnote (by simp)
            · exact absurd hpure (by simp)
          · rintro ⟨reason, -, hreason, hnone⟩
            exact absurd (Except.error.inj hreason).symm (hnone other)
      | nullCharacter => simp [eq_comm]
      | encoding other => simp [eq_comm]

/-- A file with the extension of posts ends a scan exactly if it cannot be loaded as a post. -/
theorem find_post_eq_error (hother : fileExtension path ≠ settings.feedExtension)
    (hextension : fileExtension path = postExtension) :
    (find store settings root path).outcome = .error error ↔
      ∃ reason, error = .post reason ∧
        (Post.load store root path settings.pageExtension).outcome = .error reason := by
  have hpost : ¬ (fileExtension path != postExtension) = true := by simp [hextension]
  rw [find, if_neg hother, if_neg hpost, Report.outcome_bind_eq_error, Report.outcome_map]
  cases (Post.load store root path settings.pageExtension).outcome with
  | ok post => simp [Except.mapError]
  | error reason => simp [Except.mapError, eq_comm]

/-- A file with neither extension never ends a scan. -/
theorem find_ne_error (hfeed : fileExtension path ≠ settings.feedExtension)
    (hpost : fileExtension path ≠ postExtension) :
    (find store settings root path).outcome ≠ .error error := by
  rw [find, if_neg hfeed, if_pos (by simpa using hpost)]
  simp

/-! ## Templates -/

/-- The templates that are loaded are those of the paths under which a text can be read. -/
theorem lookup_loadTemplates (path : Path) :
    ∀ {paths : List Path} {templates : List (Path × Template)},
      (loadTemplates store settings root paths).outcome = .ok templates →
        templates.lookup path = if path ∈ paths then (store.readText path).toOption.map fun text =>
          (Template.ofString text root (some path) settings.rawExtensions).value else none
  | [], templates, h => by
      cases h
      simp
  | first :: rest, templates, h => by
      rw [loadTemplates] at h
      split at h
      · rename_i text hread
        obtain ⟨template, htemplate, h⟩ := Report.outcome_bind_eq_ok.mp h
        obtain ⟨others, hothers, h⟩ := Report.outcome_bind_eq_ok.mp h
        cases htemplate
        cases h
        by_cases hpath : path = first
        · subst hpath
          simp [hread, Except.toOption, Noted.mapNotes]
        · have hbeq : (path == first) = false := by simpa using hpath
          simp only [List.lookup_cons, hbeq, lookup_loadTemplates path hothers, List.mem_cons,
            hpath, false_or]
      · cases h
      · -- a file that cannot be read is passed over with a note
        rename_i reason _ hread
        obtain ⟨-, -, h⟩ := Report.outcome_bind_eq_ok.mp h
        rw [lookup_loadTemplates path h]
        by_cases hpath : path = first
        · subst hpath
          simp [hread, Except.toOption]
        · simp [hpath]

/-- The templates of posts end a scan if the path of one of them holds a null character. -/
theorem loadTemplates_eq_error :
    ∀ {paths : List Path}, (loadTemplates store settings root paths).outcome = .error error →
      ∃ path ∈ paths, path.hasNull = true ∧ error = .template (.fault .nullCharacter path)
  | [], h => absurd h (by simp [loadTemplates])
  | first :: rest, h => by
      rw [loadTemplates] at h
      have hrest (hfails : (loadTemplates store settings root rest).outcome = .error error) :
          ∃ path ∈ first :: rest, path.hasNull = true ∧
            error = .template (.fault .nullCharacter path) := by
        obtain ⟨path, hpath, hnull⟩ := loadTemplates_eq_error hfails
        exact ⟨path, List.mem_cons_of_mem first hpath, hnull⟩
      split at h
      · obtain ⟨template, -, h⟩ := (Report.outcome_bind_eq_error.mp h).resolve_left (by simp)
        rcases Report.outcome_bind_eq_error.mp h with hfails | ⟨others, -, hpure⟩
        · exact hrest hfails
        · exact absurd hpure (by simp)
      · -- a null character is the one fault that is not passed over
        rename_i path hread
        cases h
        obtain ⟨hfault, rfl⟩ := Store.readText_eq_fault_iff.mp hread
        exact ⟨path, List.mem_cons_self, Store.read_eq_nullCharacter_iff.mp hfault, rfl⟩
      · obtain ⟨-, -, h⟩ := (Report.outcome_bind_eq_error.mp h).resolve_left (by simp)
        exact hrest h

/-- Where the templates of posts are loaded, none of their paths holds a null character. -/
theorem hasNull_of_loadTemplates :
    ∀ {paths : List Path} {templates : List (Path × Template)},
      (loadTemplates store settings root paths).outcome = .ok templates →
        ∀ path ∈ paths, path.hasNull = false
  | [], _, _, path, hpath => absurd hpath List.not_mem_nil
  | first :: rest, templates, h, path, hpath => by
      rw [loadTemplates] at h
      have hfirst (hread : store.readText first ≠ .error (.fault .nullCharacter first)) :
          first.hasNull = false := by
        rw [Bool.eq_false_iff]
        intro hnull
        have hfault : store.read first = .error .nullCharacter :=
          Store.read_eq_nullCharacter_iff.mpr hnull
        exact hread (Store.readText_eq_fault_iff.mpr ⟨hfault, rfl⟩)
      split at h
      · rename_i text hread
        obtain ⟨template, -, h⟩ := Report.outcome_bind_eq_ok.mp h
        obtain ⟨others, hothers, -⟩ := Report.outcome_bind_eq_ok.mp h
        rcases List.mem_cons.mp hpath with rfl | hlater
        · exact hfirst (by rw [hread]; simp)
        · exact hasNull_of_loadTemplates hothers path hlater
      · cases h
      · rename_i reason hother hread
        obtain ⟨-, -, h⟩ := Report.outcome_bind_eq_ok.mp h
        rcases List.mem_cons.mp hpath with rfl | hlater
        · exact hfirst fun hnull => hother path (Except.error.inj (hread.symm.trans hnull))
        · exact hasNull_of_loadTemplates h path hlater

/-- The error for a template of pages that ask for none. -/
def defaultTemplateError : TextError → Error
  | .fault .nullCharacter path => .template (.fault .nullCharacter path)
  | .fault fault path => .settings (.noTemplate path (fault.message path))
  | .encoding reason => .template (.encoding reason)

/-- The template of pages that ask for none ends a scan exactly if it cannot be read: with an error
of its own for a fault of the file system, and else with the reason itself. -/
theorem loadDefaultTemplate_eq_error :
    (loadDefaultTemplate store settings root).outcome = .error error ↔
      ∃ file reason, settings.templatePath = some file ∧ store.readText file = .error reason ∧
        error = defaultTemplateError reason := by
  rw [loadDefaultTemplate]
  cases settings.templatePath with
  | none => simp
  | some file =>
      simp only [Report.outcome_map, Template.load, Report.outcome_bind, Report.outcome_ofExcept,
        Report.outcome_ofNoted]
      cases hread : store.readText file with
      | ok text => simp [Except.bind, Except.mapError, hread]
      | error reason =>
          simp only [Except.bind, Except.mapError, Except.error.injEq, Option.some.injEq]
          constructor
          · intro h
            exact ⟨file, reason, rfl, hread, h.symm⟩
          · rintro ⟨_, _, rfl, hread', rfl⟩
            rw [hread] at hread'
            cases hread'
            rfl

end Site

end StaticSite
