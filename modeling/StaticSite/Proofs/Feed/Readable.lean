import StaticSite.Html.Renderer
import StaticSite.Proofs.Feed.Filled

/-!
# Feeds that can be read

A feed that was filled with posts is a document if a document may hold every text in it. An escape
takes care of the five characters that mean something in a document and leaves all others alone, so
a single character that no document may hold, in a single post, leaves the whole feed unreadable.

## What this module delivers

- `isDocumentText_entryText_iff`, `isDocumentText_text_iff`: the text of a feed is made of
  characters that a document may hold exactly if the texts are that are put into it.
- `AreLegal`, `read_fill_of_illegal`, `readable_fill_iff`: which feeds can be read.
- `read_fill_formFeed`: one that cannot.
-/

set_option autoImplicit false

namespace StaticSite.Feed

open StaticSite.Calendar StaticSite.File StaticSite.Xml

/-! ## Legal texts -/

/-- What is left out because it says nothing is legal. -/
theorem all_isDocumentText_of_filter {value : Option String}
    (h : value.filter (!·.isEmpty) = none) : value.all isDocumentText := by
  cases value with
  | none => rfl
  | some s =>
      have hempty : s = "" := by simpa [Option.filter] using h
      rw [hempty]
      rfl

section

variable {name : String} (hname : isDocumentText name)

include hname

theorem isDocumentText_attributeText (value : String) :
    isDocumentText (attributeText name value) = isDocumentText value := by
  have hmarks : ∀ s ∈ [" ", "=\"", "\""], isDocumentText s := by decide
  simp only [attributeText, isDocumentText_append, isDocumentText_escape, hname,
    hmarks " " (by decide), hmarks "=\"" (by decide), hmarks "\"" (by decide), Bool.true_and,
    Bool.and_true]

theorem isDocumentText_optionalText (value : Option String) :
    isDocumentText (optionalText name value) = value.all isDocumentText := by
  rw [optionalText]
  cases hvalue : value.filter (!·.isEmpty) with
  | some s =>
      obtain ⟨rfl, -⟩ := Option.filter_eq_some_iff.1 hvalue
      exact isDocumentText_attributeText hname s
  | none =>
      rw [all_isDocumentText_of_filter hvalue]
      rfl

theorem isDocumentText_elementText (attributes content : String) :
    isDocumentText (elementText name attributes content)
      = (isDocumentText attributes && isDocumentText content) := by
  have hmarks : ∀ s ∈ ["<", ">", "</", ">\n"], isDocumentText s := by decide
  simp only [elementText, isDocumentText_append, isDocumentText_escape, hname,
    hmarks "<" (by decide), hmarks ">" (by decide), hmarks "</" (by decide),
    hmarks ">\n" (by decide), Bool.true_and, Bool.and_true]

theorem isDocumentText_emptyText (attributes : String) :
    isDocumentText (emptyText name attributes) = isDocumentText attributes := by
  have hmarks : ∀ s ∈ ["<", "/>\n"], isDocumentText s := by decide
  simp only [emptyText, isDocumentText_append, hname, hmarks "<" (by decide),
    hmarks "/>\n" (by decide), Bool.true_and, Bool.and_true]

end

/-- The text of an entry is legal exactly if the texts of the entry are. -/
theorem isDocumentText_entryText_iff (entry : Entry) :
    isDocumentText entry.text ↔ entry.IsLegal := by
  have hmarks : ∀ s ∈ ["  <entry>\n", "    ", "  </entry>\n", "", "html"], isDocumentText s := by
    decide
  have hnames : ∀ s ∈ ["title", "id", "link", "href", "updated", "published", "category", "term",
      "content", "type"], isDocumentText s := by decide
  have hcategory : isDocumentText (if entry.category.isEmpty then ""
      else "    " ++ emptyText "category" (attributeText "term" entry.category))
      = isDocumentText entry.category := by
    split
    · rename_i hempty
      rw [String.isEmpty_iff.1 hempty]
    · rw [isDocumentText_append, hmarks "    " (by decide), Bool.true_and,
        isDocumentText_emptyText (hnames "category" (by decide)),
        isDocumentText_attributeText (hnames "term" (by decide))]
  unfold Entry.text
  simp only [isDocumentText_append, hcategory, hmarks "  <entry>\n" (by decide),
    hmarks "    " (by decide), hmarks "  </entry>\n" (by decide), hmarks "" (by decide),
    hmarks "html" (by decide), isDocumentText_elementText (hnames "title" (by decide)),
    isDocumentText_elementText (hnames "id" (by decide)),
    isDocumentText_elementText (hnames "updated" (by decide)),
    isDocumentText_elementText (hnames "published" (by decide)),
    isDocumentText_elementText (hnames "content" (by decide)),
    isDocumentText_emptyText (hnames "link" (by decide)),
    isDocumentText_attributeText (hnames "href" (by decide)),
    isDocumentText_attributeText (hnames "type" (by decide)), isDocumentText_momentText,
    Bool.true_and, Bool.and_true, Bool.and_eq_true]
  constructor
  · rintro ⟨⟨⟨⟨htitle, hid⟩, -⟩, hcategory⟩, hcontent⟩
    exact ⟨hid, htitle, hcategory, hcontent⟩
  · rintro ⟨hid, htitle, hcategory, hcontent⟩
    exact ⟨⟨⟨⟨htitle, hid⟩, hid⟩, hcategory⟩, hcontent⟩

theorem isDocumentText_entriesText_iff (entries : List Entry) :
    isDocumentText (String.join (entries.map Entry.text)) ↔ ∀ entry ∈ entries, entry.IsLegal := by
  induction entries with
  | nil => exact ⟨fun _ => List.forall_mem_nil _, fun _ => rfl⟩
  | cons entry others ih =>
      rw [List.map_cons, String.join_cons, isDocumentText_append, Bool.and_eq_true, ih,
        isDocumentText_entryText_iff, List.forall_mem_cons]

/-! ## Legal feeds -/

/-- Whether a document may hold all texts that a feed puts into it. The address of the generator is
one of them only if the generator has a name. -/
structure IsFillable (feed : Feed) : Prop where
  title : isDocumentText feed.title
  link : isDocumentText feed.link
  fileName : isDocumentText feed.path.name
  lang : feed.lang.all isDocumentText
  generator : ∀ generator ∈ feed.generator.filter (!·.isEmpty),
    isDocumentText generator ∧ feed.generatorUri.all isDocumentText

theorem isDocumentText_generatorText_iff (feed : Feed) :
    isDocumentText feed.generatorText ↔ ∀ generator ∈ feed.generator.filter (!·.isEmpty),
      isDocumentText generator ∧ feed.generatorUri.all isDocumentText := by
  have hmarks : ∀ s ∈ ["  ", "generator", "uri"], isDocumentText s := by decide
  rw [generatorText]
  cases feed.generator.filter (!·.isEmpty) with
  | none => exact ⟨fun _ _ hmem => absurd hmem (by simp), fun _ => rfl⟩
  | some generator =>
      simp only [isDocumentText_append, hmarks "  " (by decide), Bool.true_and,
        isDocumentText_elementText (hmarks "generator" (by decide)),
        isDocumentText_optionalText (hmarks "uri" (by decide)), Bool.and_eq_true]
      simp [and_comm]

/-- The address of a feed itself holds no characters but those of the address of the site, of the
name of its file, and a slash. -/
theorem isDocumentText_selfLink {feed : Feed} (hlink : isDocumentText feed.link) :
    isDocumentText feed.selfLink ↔ isDocumentText feed.path.name := by
  constructor
  · intro hself
    rw [selfLink, isDocumentText_append, Bool.and_eq_true] at hself
    exact hself.2
  · exact fun hname => all_selfLink hlink hname (by decide)

/-- The text of a feed is legal exactly if the texts are that are put into it. -/
theorem isDocumentText_text_iff (feed : Feed) (updated : Moment) (entries : List Entry) :
    isDocumentText (feed.text updated entries) ↔
      feed.IsFillable ∧ ∀ entry ∈ entries, entry.IsLegal := by
  have hmarks : ∀ s ∈ ["<?xml version=\"1.0\" encoding=\"utf-8\"?>\n",
      "<feed xmlns=\"http://www.w3.org/2005/Atom\"", ">\n", "  ", "", "self",
      "application/atom+xml", "</feed>"], isDocumentText s := by decide +kernel
  have hnames : ∀ s ∈ ["xml:lang", "title", "id", "updated", "link", "href", "rel", "type"],
      isDocumentText s := by decide
  unfold text
  simp only [isDocumentText_append,
    hmarks "<?xml version=\"1.0\" encoding=\"utf-8\"?>\n" (by decide),
    hmarks "<feed xmlns=\"http://www.w3.org/2005/Atom\"" (by decide), hmarks ">\n" (by decide),
    hmarks "  " (by decide), hmarks "" (by decide), hmarks "self" (by decide),
    hmarks "application/atom+xml" (by decide), hmarks "</feed>" (by decide),
    isDocumentText_optionalText (hnames "xml:lang" (by decide)),
    isDocumentText_elementText (hnames "title" (by decide)),
    isDocumentText_elementText (hnames "id" (by decide)),
    isDocumentText_elementText (hnames "updated" (by decide)),
    isDocumentText_emptyText (hnames "link" (by decide)),
    isDocumentText_attributeText (hnames "href" (by decide)),
    isDocumentText_attributeText (hnames "rel" (by decide)),
    isDocumentText_attributeText (hnames "type" (by decide)), isDocumentText_momentText,
    Bool.true_and, Bool.and_true, Bool.and_eq_true]
  rw [isDocumentText_entriesText_iff, isDocumentText_generatorText_iff]
  constructor
  · rintro ⟨⟨⟨⟨⟨⟨hlang, htitle⟩, hlink⟩, hgenerator⟩, -⟩, hself⟩, hentries⟩
    exact ⟨⟨htitle, hlink, (isDocumentText_selfLink hlink).1 hself, hlang, hgenerator⟩, hentries⟩
  · rintro ⟨⟨htitle, hlink, hname, hlang, hgenerator⟩, hentries⟩
    exact ⟨⟨⟨⟨⟨⟨hlang, htitle⟩, hlink⟩, hgenerator⟩, hlink⟩,
      (isDocumentText_selfLink hlink).2 hname⟩, hentries⟩

/-! ## Feeds that can be read -/

/-- A text of a feed with a character that no document may hold is no document. -/
theorem read_text_of_illegal {feed : Feed} {updated : Moment} {entries : List Entry}
    (h : isDocumentText (feed.text updated entries) = false) :
    Xml.read (encode (feed.text updated entries)) = .error .malformed := by
  obtain ⟨c, hmem, hillegal⟩ : ∃ c ∈ (feed.text updated entries).toList,
      isDocumentChar c = false := by
    simpa [isDocumentText] using h
  rw [toList_text, List.mem_append] at hmem
  rcases hmem with hdeclaration | hmem
  · have hall : declarationText.all isDocumentChar := by decide
    exact absurd (List.all_eq_true.1 hall c hdeclaration) (by simp [hillegal])
  · have hmalformed := read_of_illegal hmem hillegal
    rwa [← toList_text, String.ofList_toList] at hmalformed

/-- A text of a feed with legal texts is a document. -/
theorem exists_read_text {feed : Feed} {entries : List Entry} (hfeed : feed.IsFillable)
    (hentries : ∀ entry ∈ entries, entry.IsLegal) (updated : Moment) :
    ∃ root, Xml.read (encode (feed.text updated entries)) = .ok root := by
  obtain ⟨htitle, hlink, hname, hlang, hgenerator⟩ := hfeed
  cases hnamed : feed.generator.filter (!·.isEmpty) with
  | some generator =>
      obtain ⟨hlegal, huri⟩ := hgenerator generator hnamed
      have hall : feed.generator.all isDocumentText := by
        rw [(Option.filter_eq_some_iff.1 hnamed).1]
        exact hlegal
      exact ⟨_, read_text ⟨htitle, hlink, hlang, hall, huri, hname⟩ hentries updated⟩
  | none =>
      -- the address of a generator without a name is not written, so there might as well be none
      have hgenerator : feed.generatorText = { feed with generatorUri := none }.generatorText := by
        rw [generatorText, generatorText, hnamed]
      have hwritten : feed.text updated entries
          = { feed with generatorUri := none }.text updated entries := by
        unfold text
        rw [hgenerator]
        rfl
      have hlegal : IsLegal { feed with generatorUri := none } :=
        ⟨htitle, hlink, hlang, all_isDocumentText_of_filter hnamed, rfl, hname⟩
      rw [hwritten]
      exact ⟨_, read_text hlegal hentries updated⟩

/-- Whether a document may hold all texts that a feed is filled with. -/
structure AreLegal (feed : Feed) (posts : List Post) (render : String → String) : Prop where
  fillable : feed.IsFillable
  metadata : ∀ post ∈ feed.posts posts, IsLegalPost post
  pages : ∀ post ∈ feed.posts posts, isDocumentText (render post.markdown)

section

variable {feed : Feed} {posts : List Post} {render : String → String}

theorem isDocumentText_fill_iff (feed : Feed) (posts : List Post) (render : String → String)
    (now : Moment) :
    isDocumentText (feed.fill posts render now) ↔ AreLegal feed posts render := by
  rw [fill, isDocumentText_text_iff, List.forall_mem_map]
  constructor
  · rintro ⟨hfeed, hentries⟩
    refine ⟨hfeed, fun post hpost => ?_, fun post hpost => (hentries post hpost).content⟩
    obtain ⟨hid, htitle, hcategory, -⟩ := hentries post hpost
    have huri : isDocumentText (feed.link ++ post.uri) := hid
    rw [isDocumentText_append, Bool.and_eq_true] at huri
    exact ⟨htitle, huri.2, hcategory⟩
  · rintro ⟨hfeed, hposts, hpages⟩
    exact ⟨hfeed, fun post hpost => isLegal_entryOf hfeed.link (hposts post hpost)
      (hpages post hpost)⟩

/-- A feed cannot be read if one of the texts that it is filled with has a character that no
document may hold. -/
theorem read_fill_of_illegal (h : ¬ AreLegal feed posts render) (now : Moment) :
    Xml.read (encode (feed.fill posts render now)) = .error .malformed := by
  rw [← isDocumentText_fill_iff feed posts render now, Bool.not_eq_true] at h
  exact read_text_of_illegal h

end

/-- A feed that was filled with posts is a document exactly if a document may hold all texts that it
was filled with, and is malformed otherwise. -/
theorem readable_fill_iff (feed : Feed) (posts : List Post) (render : String → String)
    (now : Moment) :
    ((∃ root, Xml.read (encode (feed.fill posts render now)) = .ok root) ↔
      AreLegal feed posts render) ∧
      (Xml.read (encode (feed.fill posts render now)) = .error .malformed ↔
        ¬ AreLegal feed posts render) := by
  have hread : AreLegal feed posts render →
      ∃ root, Xml.read (encode (feed.fill posts render now)) = .ok root := by
    intro h
    have htext := (isDocumentText_fill_iff feed posts render now).2 h
    obtain ⟨hfeed, hentries⟩ := (isDocumentText_text_iff _ _ _).1 htext
    exact exists_read_text hfeed hentries _
  refine ⟨⟨fun ⟨root, hroot⟩ => ?_, hread⟩, fun herror h => ?_, fun h => read_fill_of_illegal h now⟩
  · by_contra h
    exact absurd (hroot.symm.trans (read_fill_of_illegal h now)) nofun
  · obtain ⟨root, hroot⟩ := hread h
    exact absurd (hroot.symm.trans herror) nofun

/-! ## A feed that cannot be read -/

/-- A post with a form feed in its text. -/
def rawFormFeedPost : Post where
  path := { segments := ["content", "a.md"] }
  markdown := "a\x0cb"
  title := "A"
  date := ⟨2021, 1, 2⟩
  updated := ⟨2021, 1, 2⟩
  uri := "/a.html"

/-- A feed with such a post cannot be read, although it can be read without the post. -/
theorem read_fill_formFeed :
    Xml.read (encode (sampleFeed.fill [rawFormFeedPost] (Html.Renderer.markdown {})
        (.midnight ⟨2020, 1, 2⟩))) = .error .malformed ∧
      ∃ root, Xml.read (encode (sampleFeed.fill [] (Html.Renderer.markdown {})
        (.midnight ⟨2020, 1, 2⟩))) = .ok root := by
  constructor
  · -- the page of the post has the form feed of its text
    refine read_fill_of_illegal (fun h => ?_) _
    have hpage := h.pages rawFormFeedPost (by decide +kernel)
    revert hpage
    decide +kernel
  · refine exists_read_text ⟨by decide, by decide, by decide, by decide, ?_⟩ (by simp [posts]) _
    decide

end StaticSite.Feed
