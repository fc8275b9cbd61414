import StaticSite.Proofs.Feed.Document

/-!
# Filled feeds read back

A feed that was filled with posts is an XML document. Read as such, it says what the feed says about
itself and has an entry for each post under the directory of the feed, in their order, with all that
was known of the post and with the page as text. The feed was last changed when the latest of these
posts was.

## What this module delivers

- `isKept`, `isKeptValue`: texts that are read as they were written, as content and as values.
- `lastDate?_eq_some`: the last of some dates is one of them and none is later.
- `Tells`, `TellsEntry`: what a document says about a feed and its posts.
- `read_fill`: a filled feed is read as a document that says so.
-/

set_option autoImplicit false

namespace StaticSite.Feed

open StaticSite.Calendar StaticSite.File StaticSite.Text StaticSite.Xml

/-! ## Texts that are read as they were written -/

/-- Whether a character in content is read as it was written. -/
def isKeptChar (c : Char) : Bool :=
  isDocumentChar c && c != '\r'

/-- Whether a text is read as it was written. -/
def isKept (s : String) : Bool :=
  s.toList.all isKeptChar

/-- Whether a character in a value is read as it was written: the only white space is spaces. -/
def isKeptValueChar (c : Char) : Bool :=
  isDocumentChar c && (c = ' ' || !isSpace c)

/-- Whether a value is read as it was written. -/
def isKeptValue (s : String) : Bool :=
  s.toList.all isKeptValueChar

theorem isDocumentText_of_kept {s : String} (h : isKept s) : isDocumentText s := by
  refine List.all_eq_true.2 fun c hc => ?_
  have hkept := List.all_eq_true.1 h c hc
  rw [isKeptChar, Bool.and_eq_true] at hkept
  exact hkept.1

theorem unified_of_kept {s : String} (h : isKept s) : unified s = s := by
  refine unified_of_not_mem fun hmem => ?_
  exact absurd (List.all_eq_true.1 h _ hmem) (by decide)

theorem isKept_of_value {s : String} (h : isKeptValue s) : isKept s := by
  refine List.all_eq_true.2 fun c hc => ?_
  have hvalue := List.all_eq_true.1 h c hc
  simp only [isKeptValueChar, Bool.and_eq_true] at hvalue
  rw [isKeptChar, hvalue.1, Bool.true_and, bne_iff_ne]
  rintro rfl
  exact absurd hvalue.2 (by decide)

theorem flattened_of_kept {s : String} (h : isKeptValue s) : flattened s = s := by
  have hspaced : Declared.spaced s.toList = s.toList := by
    conv_rhs => rw [← List.map_id s.toList]
    refine List.map_congr_left fun c hc => ?_
    have hvalue := List.all_eq_true.1 h c hc
    simp only [isKeptValueChar, Bool.and_eq_true, Bool.or_eq_true, decide_eq_true_eq,
      Bool.not_eq_true'] at hvalue
    rcases hvalue.2 with rfl | hspace
    · rfl
    · rw [if_neg (by simp [hspace])]
      rfl
  have hunified := congrArg String.toList (unified_of_kept (isKept_of_value h))
  rw [toList_unified] at hunified
  rw [flattened, hunified, hspaced, String.ofList_toList]

theorem isKeptValue_append {s t : String} (hs : isKeptValue s) (ht : isKeptValue t) :
    isKeptValue (s ++ t) := by
  rw [isKeptValue, String.toList_append, List.all_append, Bool.and_eq_true]
  exact ⟨hs, ht⟩

theorem isKept_momentText (m : Moment) : isKept m.text := by
  refine List.all_eq_true.2 fun c hc => ?_
  obtain ⟨hlegal, hspace⟩ :=
    isDocumentChar_of_isClockChar (List.all_eq_true.1 (all_momentText m) c hc)
  rw [isKeptChar, hlegal, Bool.true_and, bne_iff_ne]
  rintro rfl
  exact absurd hspace (by decide)

/-! ## What a document says about a feed -/

/-- An element of a feed with attributes and text, and nothing else in it. -/
def plainElement (base : String) (attributes : List (String × String)) (text : String) : Element :=
  .mk (atomName base) (attributes.map fun a => ({ base := a.1 }, a.2)) text []

/-- A date as a moment: the beginning of the day in universal time. -/
def midnightText (date : Date) : String :=
  date.text ++ "T00:00:00+00:00"

/-- A time is the last update of some posts: the one of a post that no other is later than, or now
if there are no posts. -/
def IsLastUpdate (now : Moment) (posts : List Post) (time : String) : Prop :=
  (posts = [] → time = now.text) ∧
    (posts ≠ [] → ∃ last ∈ posts, time = midnightText last.updated ∧
      ∀ post ∈ posts, ¬ last.updated.sortKey < post.updated.sortKey)

/-- An element is the entry of a feed for a post. -/
structure TellsEntry (feed : Feed) (render : String → String) (post : Post) (entry : Element) :
    Prop where
  name : entry.name = atomName "entry"
  attributes : entry.attributes = []
  children : entry.children =
    [plainElement "title" [] post.title,
      plainElement "id" [] (feed.link ++ post.uri),
      plainElement "link" [("href", feed.link ++ post.uri)] "",
      plainElement "updated" [] (midnightText post.updated),
      plainElement "published" [] (midnightText post.date)]
    ++ (if post.category.isEmpty then [] else [plainElement "category" [("term", post.category)] ""])
    ++ [plainElement "content" [("type", "html")] (render post.markdown)]

/-- An element says about a feed what the feed says, and has the entries for its posts: those whose
files are under the directory of the feed. -/
structure Tells (feed : Feed) (posts : List Post) (render : String → String) (now : Moment)
    (root : Element) : Prop where
  name : root.name = atomName "feed"
  attributes : root.attributes = optionalAttribute { space := some xmlSpace, base := "lang" } feed.lang
  children : ∃ time entries,
    IsLastUpdate now (posts.filter (·.path.isUnder feed.path.parent)) time ∧
    List.Forall₂ (TellsEntry feed render) (posts.filter (·.path.isUnder feed.path.parent))
      entries ∧
    root.children =
      [plainElement "title" [] feed.title, plainElement "id" [] feed.link,
        plainElement "updated" [] time]
      ++ ((feed.generator.filter (!·.isEmpty)).map fun generator =>
          plainElement "generator" (optionalAttribute "uri" feed.generatorUri) generator).toList
      ++ [plainElement "link" [("href", feed.link)] "",
        plainElement "link"
          [("href", feed.selfLink), ("rel", "self"), ("type", "application/atom+xml")] ""]
      ++ entries

/-- The texts of a feed are read as they were written. -/
structure IsKeptFeed (feed : Feed) : Prop where
  title : isKept feed.title
  link : isKeptValue feed.link
  lang : feed.lang.all isKeptValue
  generator : feed.generator.all isKept
  generatorUri : feed.generatorUri.all isKeptValue

/-- The texts of a feed, of its posts and of their pages are read as they were written. -/
structure AreKept (feed : Feed) (posts : List Post) (render : String → String) : Prop
    extends IsKeptFeed feed where
  fileName : isKeptValue feed.path.name
  posts : ∀ post ∈ feed.posts posts, isKept post.title ∧ isKeptValue post.uri ∧
    isKeptValue post.category ∧ isKept (render post.markdown)

/-! ## The last update -/

/-- The last of some dates is one of them, and none of them is later. -/
theorem lastDate?_eq_some {dates : List Date} {last : Date} (h : lastDate? dates = some last) :
    last ∈ dates ∧ ∀ d ∈ dates, ¬ last.sortKey < d.sortKey := by
  cases dates with
  | nil => cases h
  | cons date others =>
      obtain rfl : others.foldl Date.latest date = last := Option.some.inj h
      exact foldl_latest_spec others date

theorem midnight_text (date : Date) : (Moment.midnight date).text = midnightText date := by
  have hclock : (Moment.midnight date).clockText = "00:00:00" := by
    show padded 2 0 ++ ":" ++ padded 2 0 ++ ":" ++ padded 2 0 ++ "" = "00:00:00"
    decide
  rw [Moment.text, hclock, midnightText, String.append_assoc, String.append_assoc]
  rfl

/-- The time of the last update of posts is written as the moment it is. -/
theorem isLastUpdate_updated (now : Moment) (posts : List Post) :
    IsLastUpdate now posts (updated now posts).text := by
  constructor
  · rintro rfl
    rfl
  · -- there are posts, so there is a last date
    intro hposts
    obtain ⟨last, hlast⟩ : ∃ last, lastDate? (posts.map (·.updated)) = some last := by
      cases posts with
      | nil => exact absurd rfl hposts
      | cons post others => exact ⟨_, rfl⟩
    obtain ⟨hmem, hle⟩ := lastDate?_eq_some hlast
    obtain ⟨post, hpost, rfl⟩ := List.mem_map.1 hmem
    refine ⟨post, hpost, ?_, fun p hp => hle p.updated (List.mem_map_of_mem hp)⟩
    rw [updated, hlast]
    exact midnight_text post.updated

/-! ## Reading -/

section

variable {base text : String} {attributes : List (String × String)} {hbase : isLetterName base}
  {hnames : arePlainNames (attributes.map (·.1))}

theorem attributesRead_of_kept (h : ∀ a ∈ attributes, isKeptValue a.2) :
    WrittenElement.attributesRead attributes = attributes.map fun a => ({ base := a.1 }, a.2) :=
  List.map_congr_left fun a ha => by rw [flattened_of_kept (h a ha)]

theorem element_leaf (htext : isKept text) (h : ∀ a ∈ attributes, isKeptValue a.2) :
    (.leaf base attributes text hbase hnames : WrittenElement feedScope).element
      = plainElement base attributes text := by
  show Element.mk (atomName base) _ _ [] = _
  rw [attributesRead_of_kept h, unified_of_kept htext]
  rfl

theorem element_empty (h : ∀ a ∈ attributes, isKeptValue a.2) :
    (.empty base attributes hbase hnames : WrittenElement feedScope).element
      = plainElement base attributes "" := by
  show Element.mk (atomName base) _ "" [] = _
  rw [attributesRead_of_kept h]
  rfl

theorem element_text (htext : isKept text) {hnames : arePlainNames []} :
    (.leaf base [] text hbase hnames : WrittenElement feedScope).element
      = plainElement base [] text :=
  element_leaf htext (by simp)

theorem element_single {name value : String} {hname : arePlainNames [name]} (h : isKeptValue value) :
    (.empty base [(name, value)] hbase hname : WrittenElement feedScope).element
      = plainElement base [(name, value)] "" :=
  element_empty (by simpa using h)

end

variable {feed : Feed} {render : String → String} {posts : List Post}

/-- The entry of a post is read as such. -/
theorem tellsEntry_written {post : Post} (hlink : isKeptValue feed.link)
    (hpost : isKept post.title ∧ isKeptValue post.uri ∧ isKeptValue post.category ∧
      isKept (render post.markdown)) :
    TellsEntry feed render post (feed.entry render post).written.element := by
  obtain ⟨htitle, huri, hcategory, hcontent⟩ := hpost
  have hid : isKeptValue (feed.link ++ post.uri) := isKeptValue_append hlink huri
  refine ⟨rfl, rfl, ?_⟩
  show (rowRead "\n    " "\n  " (feed.entry render post).elements).map (·.1) = _
  rw [map_fst_rowRead, Entry.elements, List.map_append, List.map_append]
  -- what every entry has, the category of the post if it has one, and the page
  refine congrArg₂ (· ++ ·) (congrArg₂ (· ++ ·) ?_ ?_) ?_
  · rw [← midnight_text, ← midnight_text]
    simp only [List.map_cons, List.map_nil, element_text (isKept_momentText _)]
    simp only [entry, element_text htitle, element_text (isKept_of_value hid), element_single hid]
  · show List.map _ (if post.category.isEmpty then [] else _) = _
    split
    · rfl
    · exact congrArg (fun e => [e]) (element_single hcategory)
  · exact congrArg (fun e => [e]) (element_leaf hcontent (by decide))

/-- The element for the program that made a feed. -/
theorem map_element_generatorElements (hgenerator : feed.generator.all isKept)
    (huri : feed.generatorUri.all isKeptValue) :
    feed.generatorElements.map WrittenElement.element
      = ((feed.generator.filter (!·.isEmpty)).map fun generator =>
        plainElement "generator" (optionalAttribute "uri" feed.generatorUri) generator).toList := by
  rw [generatorElements]
  cases h : feed.generator.filter (!·.isEmpty) with
  | none => rfl
  | some generator =>
      rw [(Option.filter_eq_some_iff.1 h).1] at hgenerator
      exact congrArg (fun e => [e])
        (element_leaf hgenerator fun a ha => of_mem_optionalAttribute huri ha)

theorem rootAttributesRead_of_kept {lang : Option String} (h : lang.all isKeptValue) :
    rootAttributesRead lang = optionalAttribute { space := some xmlSpace, base := "lang" } lang := by
  rw [rootAttributesRead]
  conv_rhs => rw [← List.map_id (optionalAttribute _ lang)]
  exact List.map_congr_left fun a ha => by
    rw [flattened_of_kept (of_mem_optionalAttribute h ha)]
    rfl

theorem all_imp {p q : String → Bool} (h : ∀ s, p s → q s) {value : Option String}
    (hvalue : value.all p) : value.all q := by
  cases value with
  | none => rfl
  | some s => exact h s hvalue

theorem IsKeptFeed.isLegal (h : IsKeptFeed feed) (hname : isDocumentText feed.path.name) :
    feed.IsLegal where
  title := isDocumentText_of_kept h.title
  link := isDocumentText_of_kept (isKept_of_value h.link)
  lang := all_imp (fun _ hs => isDocumentText_of_kept (isKept_of_value hs)) h.lang
  generator := all_imp (fun _ hs => isDocumentText_of_kept hs) h.generator
  generatorUri := all_imp (fun _ hs => isDocumentText_of_kept (isKept_of_value hs)) h.generatorUri
  fileName := hname

theorem AreKept.isLegal_entry (h : AreKept feed posts render) :
    ∀ entry ∈ (feed.posts posts).map (feed.entry render), entry.IsLegal := by
  intro entry hentry
  obtain ⟨post, hpost, rfl⟩ := List.mem_map.1 hentry
  obtain ⟨htitle, huri, hcategory, hcontent⟩ := h.posts post hpost
  have htexts : IsLegalPost post :=
    ⟨isDocumentText_of_kept htitle, isDocumentText_of_kept (isKept_of_value huri),
      isDocumentText_of_kept (isKept_of_value hcategory)⟩
  exact isLegal_entryOf (isDocumentText_of_kept (isKept_of_value h.link)) htexts
    (isDocumentText_of_kept hcontent)

/-- A filled feed is read as a document that says what the feed and its posts say. -/
theorem read_fill (now : Moment) (h : AreKept feed posts render) :
    ∃ root, Xml.read (encode (feed.fill posts render now)) = .ok root ∧
      Tells feed posts render now root := by
  have hself : isKeptValue feed.selfLink := all_selfLink h.link h.fileName (by decide)
  have hselfAttributes : ∀ a ∈ [("href", feed.selfLink), ("rel", "self"),
      ("type", "application/atom+xml")], isKeptValue a.2 := by
    intro a ha
    simp only [List.mem_cons, List.not_mem_nil, or_false] at ha
    rcases ha with rfl | rfl | rfl
    · exact hself
    · decide
    · decide
  have hname := isDocumentText_of_kept (isKept_of_value h.fileName)
  refine ⟨_, read_text (h.isLegal hname) h.isLegal_entry _, rfl, rootAttributesRead_of_kept h.lang,
    (updated now (feed.posts posts)).text,
    ((feed.posts posts).map (feed.entry render)).map (·.written.element),
    isLastUpdate_updated now _, ?_, ?_⟩
  · -- post by post
    rw [List.map_map, List.forall₂_map_right_iff]
    exact List.forall₂_same.2 fun post hpost => tellsEntry_written h.link (h.posts post hpost)
  · -- element by element
    show (rowRead "\n  " "\n" _).map (·.1) = _
    rw [map_fst_rowRead, elements]
    simp only [List.map_append, List.map_cons, List.map_nil, List.map_map,
      map_element_generatorElements h.generator h.generatorUri,
      element_text h.title, element_text (isKept_of_value h.link),
      element_text (isKept_momentText _), element_single h.link, element_empty hselfAttributes]
    rfl

/-- A feed that says all that a feed can say. -/
def sampleFeed : Feed where
  path := { segments := ["content", "feed.atom"] }
  title := "Notes & \"queries\""
  link := "https://example.org/?a=1&b=2/"
  lang := some "en"
  generator := some "<site>"
  generatorUri := some "https://example.org/site"

/-- Two posts under the directory of the feed and one elsewhere. -/
def samplePosts : List Post :=
  [{ path := { segments := ["content", "a.md"] }, markdown := "a < b", title := "Less",
     date := ⟨2021, 1, 2⟩, updated := ⟨2021, 3, 4⟩, category := "maths", uri := "/a.html" },
    { path := { segments := ["drafts", "b.md"] }, date := ⟨2022, 1, 1⟩, updated := ⟨2022, 1, 1⟩ },
    { path := { segments := ["content", "c", "d.md"] }, markdown := "]]>", title := "'End'",
      date := ⟨2020, 5, 6⟩, updated := ⟨2020, 5, 6⟩, uri := "/c/d.html" }]

theorem read_sampleFill :
    AreKept sampleFeed samplePosts (fun s => "<p>" ++ s ++ "</p>\n") ∧
      ∃ root, Xml.read (encode (sampleFeed.fill samplePosts (fun s => "<p>" ++ s ++ "</p>\n")
          (.midnight ⟨2020, 1, 2⟩))) = .ok root ∧
        Tells sampleFeed samplePosts (fun s => "<p>" ++ s ++ "</p>\n") (.midnight ⟨2020, 1, 2⟩)
          root := by
  have hkept : AreKept sampleFeed samplePosts (fun s => "<p>" ++ s ++ "</p>\n") :=
    ⟨⟨by decide, by decide, by decide, by decide, by decide⟩, by decide, by decide +kernel⟩
  exact ⟨hkept, read_fill _ hkept⟩

end StaticSite.Feed
