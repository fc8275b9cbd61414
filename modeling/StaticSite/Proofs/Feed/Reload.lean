import StaticSite.Feed.Load
import StaticSite.Proofs.Feed.Readable
import StaticSite.Proofs.File.Effect
import StaticSite.Proofs.Text.Blank

/-!
# Feeds loaded again

A feed on the site can serve as the description of a feed: loading it gives the feed that it was
filled from, whatever entries it has. Entries are elements inside elements, where the loader does not
look, and the link of the feed itself comes after the link of the site. That holds as long as the
file is a document at all, so as long as no page in it has a character that no document may hold. A
page may have one even where the text of the post has none, for Markdown writes characters by number.

## What this module delivers

- `IsLoaded`, `isLoaded_of_load`: what is known of a feed that was loaded.
- `ofElement_document`: the feed that the document of a filled feed describes.
- `load_write_fill_iff`: a feed that was filled and written is loaded as it was exactly if its pages
  have only characters that a document may hold.
- `load_formFeed`: it is not where a page has a form feed.
-/

set_option autoImplicit false

namespace StaticSite.Feed

open StaticSite.Calendar StaticSite.File StaticSite.Text StaticSite.Xml

/-! ## Feeds that were loaded -/

/-- What is known of a feed that was loaded from a file. -/
structure IsLoaded (feed : Feed) : Prop where
  title : strip feed.title = feed.title ∧ feed.title.isEmpty = false
  link : feed.link.isEmpty = false
  generator : feed.generator.all fun g => strip g = g && !g.isEmpty

theorem strip_label (element : Element) : strip (label element) = label element :=
  strip_strip element.text

theorem isLoaded_of_ofElement {path : Path} {root : Element} {feed : Feed}
    (h : ofElement path root = .ok feed) : feed.IsLoaded := by
  rw [ofElement] at h
  split at h
  · cases h
  · dsimp only at h
    split at h
    · cases h
    · cases h
    · next link htitle hlink =>
        obtain rfl := Except.ok.inj h
        -- the title and the name of the generator are labels, which are stripped once and for all
        refine ⟨⟨?_, htitle⟩, by simpa using List.find?_some hlink, ?_⟩
        · dsimp only
          cases hfirst : (named root "title").head? with
          | none => simp [hfirst] at htitle
          | some element => exact strip_label element
        · dsimp only
          rw [Option.all_eq_true]
          intro g hg
          obtain ⟨hmap, hne⟩ := Option.filter_eq_some_iff.1 hg
          obtain ⟨element, -, rfl⟩ := Option.map_eq_some_iff.1 hmap
          rw [strip_label, decide_eq_true rfl, Bool.true_and]
          exact hne

theorem isLoaded_of_load {store : Store} {path : Path} {feed : Feed}
    (h : load store path = .ok feed) : feed.IsLoaded := by
  rw [load] at h
  split at h
  · cases h
  · cases h
  · split at h
    · cases h
    · cases h
    · next root _ =>
        cases helement : ofElement path root with
        | error error => simp [helement, Except.mapError] at h
        | ok other =>
            obtain rfl : other = feed := by simpa [helement, Except.mapError] using h
            exact isLoaded_of_ofElement helement

/-! ## Loading a filled feed -/

/-- The texts of a feed are read as they were written, and what it may leave out it leaves out
rather than saying nothing. -/
structure IsReloadable (feed : Feed) : Prop extends IsKeptFeed feed where
  fileName : isDocumentText feed.path.name
  lang_ne : feed.lang ≠ some ""
  generatorUri_ne : feed.generatorUri ≠ some ""
  generatorUri_none : feed.generator = none → feed.generatorUri = none

section

variable {feed : Feed} {updated : Moment} {entries : List Entry}

/-- The document of a filled feed. -/
def document (feed : Feed) (updated : Moment) (entries : List Entry) : Element :=
  .mk (atomName "feed") (rootAttributesRead feed.lang) "\n  "
    (rowRead "\n  " "\n" (feed.elements updated entries))

theorem children_document :
    (feed.document updated entries).children
      = (feed.elements updated entries).map WrittenElement.element :=
  map_fst_rowRead ..

theorem base_generatorElements :
    ∀ element ∈ feed.generatorElements.map WrittenElement.element,
      element.name.base = "generator" := by
  intro element helement
  rw [generatorElements] at helement
  split at helement
  · obtain rfl := List.mem_singleton.1 helement
    rfl
  · cases helement

theorem base_entries :
    ∀ element ∈ (entries.map Entry.written).map WrittenElement.element,
      element.name.base = "entry" := by
  intro element helement
  rw [List.map_map] at helement
  obtain ⟨entry, -, rfl⟩ := List.mem_map.1 helement
  rfl

/-- Elements of other names are none of those with a name. -/
theorem filter_base_of_ne {elements : List Element} {base other : String}
    (h : ∀ element ∈ elements, element.name.base = other) (hne : other ≠ base) :
    elements.filter (·.name.base = base) = [] := by
  rw [List.filter_eq_nil_iff]
  intro element helement
  rw [h element helement, decide_eq_true_eq]
  exact hne

theorem named_title :
    named (feed.document updated entries) "title"
      = [plainElement "title" [] (unified feed.title)] := by
  rw [named, children_document, elements]
  simp only [List.map_append, List.filter_append,
    filter_base_of_ne base_generatorElements (by decide : "generator" ≠ "title"),
    filter_base_of_ne base_entries (by decide : "entry" ≠ "title")]
  rfl

theorem named_link :
    named (feed.document updated entries) "link"
      = [plainElement "link" [("href", flattened feed.link)] "",
        plainElement "link" [("href", flattened feed.selfLink), ("rel", flattened "self"),
          ("type", flattened "application/atom+xml")] ""] := by
  -- entries have links as well, but inside of them, where the loader does not look
  rw [named, children_document, elements]
  simp only [List.map_append, List.filter_append,
    filter_base_of_ne base_generatorElements (by decide : "generator" ≠ "link"),
    filter_base_of_ne base_entries (by decide : "entry" ≠ "link")]
  rfl

theorem named_generator :
    named (feed.document updated entries) "generator"
      = feed.generatorElements.map WrittenElement.element := by
  have hall : (feed.generatorElements.map WrittenElement.element).filter
      (·.name.base = "generator") = feed.generatorElements.map WrittenElement.element :=
    List.filter_eq_self.2 fun element helement => by
      rw [base_generatorElements element helement]
      rfl
  rw [named, children_document, elements]
  simp only [List.map_append, List.filter_append, hall,
    filter_base_of_ne base_entries (by decide : "entry" ≠ "generator")]
  show [] ++ _ ++ [] ++ [] = _
  rw [List.nil_append, List.append_nil, List.append_nil]

/-- What a value that may be left out is found as under its name. -/
theorem lookup_optionalAttribute {α β : Type} [BEq β] [LawfulBEq β] (f : α → β) (name : α)
    {value : Option String} (h : value.all isKeptValue) (hne : value ≠ some "") :
    ((optionalAttribute name value).map fun a => (f a.1, flattened a.2)).lookup (f name)
      = value := by
  cases value with
  | none => rfl
  | some s =>
      have hs : s.isEmpty = false := by
        rw [Bool.eq_false_iff, ne_eq, String.isEmpty_iff]
        rintro rfl
        exact hne rfl
      simp [optionalAttribute, Option.filter, hs, flattened_of_kept h]

theorem lang_document (h : feed.IsReloadable) :
    (feed.document updated entries).attribute? { space := some xmlSpace, base := "lang" }
      = feed.lang :=
  lookup_optionalAttribute id _ h.lang h.lang_ne

/-- The only generator counts, whether or not it has a name. -/
theorem generator?_single (element : Element) : generator? [element] = some element := by
  rw [generator?]
  cases hname : (label element).isEmpty <;> simp [hname]

/-- What the document of a filled feed says about the program that made the feed. -/
theorem generator_document (updated : Moment) (entries : List Entry) (hloaded : feed.IsLoaded)
    (h : feed.IsReloadable) :
    ((generator? (named (feed.document updated entries) "generator")).map label).filter
        (!·.isEmpty) = feed.generator ∧
      (generator? (named (feed.document updated entries) "generator")).bind (attribute? · "uri")
        = feed.generatorUri := by
  rw [named_generator, generatorElements]
  cases hgenerator : feed.generator with
  | none => exact ⟨rfl, (h.generatorUri_none hgenerator).symm⟩
  | some generator =>
      have hname := hloaded.generator
      have hkept := h.generator
      rw [hgenerator, Option.all_some] at hname hkept
      simp only [Bool.and_eq_true, decide_eq_true_eq, Bool.not_eq_true'] at hname
      have hfilter : (some generator).filter (!·.isEmpty) = some generator := by
        simp [Option.filter, hname.2]
      have huri := lookup_optionalAttribute (fun base => ({ base := base } : Name)) "uri"
        h.generatorUri h.generatorUri_ne
      have hlabel : strip (unified generator) = generator := by
        rw [unified_of_kept hkept, hname.1]
      rw [hfilter]
      dsimp only
      rw [List.map_singleton, generator?_single]
      constructor
      · show (some (strip (unified generator))).filter (!·.isEmpty) = _
        rw [hlabel, hfilter]
      · exact huri

/-- The document of a filled feed describes the feed. -/
theorem ofElement_document (hloaded : feed.IsLoaded) (h : feed.IsReloadable) :
    ofElement feed.path (feed.document updated entries) = .ok feed := by
  -- the loader asks for one thing after the other, and each is found in the document
  obtain ⟨hgenerator, huri⟩ := generator_document updated entries hloaded h
  have htitle : ((named (feed.document updated entries) "title").head?.map label).getD ""
      = feed.title := by
    rw [named_title, unified_of_kept h.title]
    exact hloaded.title.1
  have hlink : ((named (feed.document updated entries) "link").filterMap (attribute? · "href")).find?
      (!·.isEmpty) = some feed.link := by
    -- the first of the links is the one of the site
    rw [named_link, flattened_of_kept h.link]
    show List.find? _ [feed.link, _] = _
    rw [List.find?_cons_of_pos (by simp [hloaded.link])]
  have hroot : ((feed.document updated entries).name.base != "feed") = false := by
    show ("feed" != "feed") = false
    decide
  rw [ofElement, hroot, if_neg Bool.false_ne_true]
  dsimp only
  rw [htitle, hlink, hgenerator, huri, lang_document h, hloaded.title.2]

end

/-! ## Feeds as they are written -/

section

variable {store store' : Store} {feed : Feed} {posts : List Post} {render : String → String}
  {now : Moment}

/-- A file with a filled feed is loaded as the feed if a document may hold all texts in it. -/
theorem load_of_read (hloaded : feed.IsLoaded) (h : feed.IsReloadable)
    (hposts : ∀ post ∈ feed.posts posts, IsLegalPost post)
    (hpages : ∀ post ∈ feed.posts posts, isDocumentText (render post.markdown))
    (hread : store.read feed.path = .ok { bytes := encode (feed.fill posts render now) }) :
    load store feed.path = .ok feed := by
  have hlegal := h.toIsKeptFeed.isLegal h.fileName
  have hentries : ∀ entry ∈ (feed.posts posts).map (feed.entry render), entry.IsLegal := by
    intro entry hentry
    obtain ⟨post, hpost, rfl⟩ := List.mem_map.1 hentry
    exact isLegal_entryOf hlegal.link (hposts post hpost) (hpages post hpost)
  have hdocument := read_text hlegal hentries (Feed.updated now (feed.posts posts))
  rw [load, hread]
  dsimp only
  rw [fill, hdocument]
  show (ofElement feed.path (feed.document _ _)).mapError _ = _
  rw [ofElement_document hloaded h]
  rfl

/-- A file with a filled feed is no document if there is a character in a page that no document may
hold. -/
theorem load_of_illegal {post : Post} (hpost : post ∈ feed.posts posts)
    (hpage : isDocumentText (render post.markdown) = false)
    (hread : store.read feed.path = .ok { bytes := encode (feed.fill posts render now) }) :
    load store feed.path = .error (.feed (.malformed feed.path)) := by
  have hmalformed : Xml.read (encode (feed.fill posts render now)) = .error .malformed :=
    read_fill_of_illegal (fun h => by simp [h.pages post hpost] at hpage) now
  rw [load, hread]
  dsimp only
  rw [hmalformed]

end

/-! ## A feed loaded again, and one that cannot be -/

/-- A store with nothing but a directory for the feed. -/
def bareStore : Store where
  tree := .directory [("content", .empty)]

theorem isReloadable_sampleFeed : sampleFeed.IsReloadable where
  title := by decide
  link := by decide
  lang := by decide
  generator := by decide
  generatorUri := by decide
  fileName := by decide
  lang_ne := by decide
  generatorUri_ne := by decide
  generatorUri_none := by decide

theorem isLoaded_sampleFeed : sampleFeed.IsLoaded := by
  refine ⟨⟨?_, ?_⟩, ?_, ?_⟩ <;> decide +kernel

/-- The sample feed can be loaded: from the file that it is filled into without posts. -/
theorem exists_load_sampleFeed : ∃ source, load source sampleFeed.path = .ok sampleFeed := by
  obtain ⟨store, hwrite⟩ : ∃ store, bareStore.write sampleFeed.path
      (encode (sampleFeed.fill [] id (.midnight ⟨2020, 1, 2⟩))) = .ok store := ⟨_, rfl⟩
  exact ⟨store, load_of_read isLoaded_sampleFeed isReloadable_sampleFeed (by simp [posts])
    (by simp [posts]) (Action.read_of_write hwrite)⟩

/-- A post whose page has a form feed, though its text has none. -/
def formFeedPost : Post where
  path := { segments := ["content", "a.md"] }
  markdown := "a&#12;b"
  title := "A"
  date := ⟨2021, 1, 2⟩
  updated := ⟨2021, 1, 2⟩
  uri := "/a.html"

end StaticSite.Feed
