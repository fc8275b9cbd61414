import StaticSite.Feed.Fill
import StaticSite.Proofs.Calendar.DateText
import StaticSite.Proofs.Xml.Layout

/-!
# Feeds as documents

The text of a feed is a document laid out in lines: the root element holds what the feed says about
itself and an entry for each post, and an entry holds what it says in turn. Read as a document, it
gives these elements back.

## What this module delivers

- `feedScope`, `begins_feed`: the root element declares the default space of all elements.
- `Entry.elements`, `elements`: the elements of an entry and of a feed, as they are written.
- `toList_entryText`, `toList_text`: the text of a feed is the document with these elements.
- `read_text`: the text of a feed is read as the root element with these elements inside.
-/

set_option autoImplicit false

namespace StaticSite.Feed

open StaticSite.Calendar StaticSite.File StaticSite.Xml

/-! ## The root element -/

/-- The space of the elements of a feed. -/
def atomSpace : String :=
  "http://www.w3.org/2005/Atom"

/-- The scope inside the root element. -/
def feedScope : Scope :=
  (none, some atomSpace) :: Scope.outermost

/-- A value that says something, with a name. -/
def optionalAttribute {α : Type} (name : α) (value : Option String) : List (α × String) :=
  ((value.filter (!·.isEmpty)).map (name, ·)).toList

/-- The attributes of the root element. -/
def rootAttributes (lang : Option String) : PlainAttributes :=
  (⟨none, "xmlns"⟩, atomSpace) :: optionalAttribute ⟨some "xml", "lang"⟩ lang

/-- The attributes of the root element as they are read. -/
def rootAttributesRead (lang : Option String) : List (Name × String) :=
  (optionalAttribute { space := some xmlSpace, base := "lang" } lang).map
    fun a => (a.1, flattened a.2)

/-- The name of an element of a feed. -/
def atomName (base : String) : Name :=
  { space := some atomSpace, base := base }

theorem arePlainNames_optional {name : String} (h : arePlainNames [name]) {value : Option String} :
    arePlainNames ((optionalAttribute name value).map (·.1)) := by
  rw [optionalAttribute]
  cases value.filter (!·.isEmpty) with
  | none => exact (by decide : arePlainNames [])
  | some value => exact h

theorem flattened_atomSpace : flattened atomSpace = atomSpace := by
  decide +kernel

theorem declare?_atomSpace : Scope.outermost.declare? none atomSpace = some feedScope := by
  decide +kernel

/-- The root element declares the default space and may say which language the feed is in. -/
theorem begins_feed (lang : Option String) :
    Begins .outermost ⟨none, "feed"⟩ (rootAttributes lang) (atomName "feed")
      (rootAttributesRead lang) feedScope := by
  have hnames : ((rootAttributes lang).map (·.1)).Nodup := by
    cases h : lang.filter (!·.isEmpty) <;> simp [rootAttributes, optionalAttribute, h]
  have hdeclare : Scope.outermost.enter? [((⟨none, "xmlns"⟩ : QualifiedName), atomSpace)]
      = some feedScope := by
    show (Scope.outermost.declare? none atomSpace).bind some = _
    rw [declare?_atomSpace]
    rfl
  rw [Begins, Tag.begin?, attributesOf?_written hnames]
  cases h : lang.filter (!·.isEmpty) with
  | none =>
      simp only [rootAttributes, rootAttributesRead, optionalAttribute, h, Option.map_none,
        Option.toList_none, List.map_cons, List.map_nil, flattened_atomSpace]
      simp only [Option.bind_eq_bind, Option.bind_some, hdeclare]
      rfl
  | some value =>
      have henter : Scope.outermost.enter?
          [((⟨none, "xmlns"⟩ : QualifiedName), atomSpace), (⟨some "xml", "lang"⟩, flattened value)]
          = some feedScope := by
        show ((Scope.outermost.declare? none atomSpace).bind some) = _
        rw [declare?_atomSpace]
        rfl
      simp only [rootAttributes, rootAttributesRead, optionalAttribute, h, Option.map_some,
        Option.toList_some, List.map_cons, List.map_nil, flattened_atomSpace]
      simp only [Option.bind_eq_bind, Option.bind_some, henter]
      rfl

/-! ## What is written for elements -/

theorem toList_attributeText (name value : String) :
    (attributeText name value).toList = spellAttribute (⟨none, name⟩, value) := by
  simp [attributeText, spellAttribute, QualifiedName.spell, escape, String.toList_append]

theorem toList_optionalText (name : String) (value : Option String) :
    (optionalText name value).toList
      = (unqualified (optionalAttribute name value)).flatMap spellAttribute := by
  rw [optionalText, optionalAttribute]
  cases value.filter (!·.isEmpty) with
  | none => rfl
  | some value => simp [toList_attributeText, unqualified]

section

variable {base : String} {attributes : List (String × String)} {written : String}

theorem toList_elementText {text : String} {hbase : isLetterName base}
    {hnames : arePlainNames (attributes.map (·.1))}
    (h : written.toList = (unqualified attributes).flatMap spellAttribute) :
    (elementText base written text).toList
      = (.leaf base attributes text hbase hnames : WrittenElement feedScope).spelled ++ ['\n'] := by
  simp [elementText, WrittenElement.leaf, Segment.spell, Segment.spellTag, Segment.text, spellHead,
    QualifiedName.spell, escape, String.toList_append, h]

theorem toList_emptyText {hbase : isLetterName base} {hnames : arePlainNames (attributes.map (·.1))}
    (h : written.toList = (unqualified attributes).flatMap spellAttribute) :
    (emptyText base written).toList
      = (.empty base attributes hbase hnames : WrittenElement feedScope).spelled ++ ['\n'] := by
  simp [emptyText, WrittenElement.empty, Segment.spellTag, spellHead, QualifiedName.spell,
    String.toList_append, h]

end

/-! ## Entries -/

/-- The elements of an entry. -/
def Entry.elements (entry : Entry) : List (WrittenElement feedScope) :=
  [.leaf "title" [] entry.title (by decide) (by decide),
    .leaf "id" [] entry.id (by decide) (by decide),
    .empty "link" [("href", entry.id)] (by decide) (by decide : arePlainNames ["href"]),
    .leaf "updated" [] (Moment.midnight entry.updated).text (by decide) (by decide),
    .leaf "published" [] (Moment.midnight entry.published).text (by decide) (by decide)]
  ++ (if entry.category.isEmpty then []
    else [.empty "category" [("term", entry.category)] (by decide)
      (by decide : arePlainNames ["term"])])
  ++ [.leaf "content" [("type", "html")] entry.content (by decide)
    (by decide : arePlainNames ["type"])]

/-- An entry with what is written for it. -/
def Entry.written (entry : Entry) : WrittenElement feedScope :=
  .branch "entry" "\n    " "\n  " entry.elements (by decide)

theorem toList_attribute (name value : String) :
    (attributeText name value).toList = (unqualified [(name, value)]).flatMap spellAttribute := by
  rw [toList_attributeText]
  simp [unqualified]

/-- A leaf without attributes. -/
theorem toList_plainText (base text : String) (hbase : isLetterName base) :
    (elementText base "" text).toList
      = (.leaf base [] text hbase (by decide) : WrittenElement feedScope).spelled ++ ['\n'] :=
  toList_elementText rfl

/-- An element that holds nothing and has one attribute. -/
theorem toList_singleText (base name value : String) (hbase : isLetterName base)
    (hname : arePlainNames [name]) :
    (emptyText base (attributeText name value)).toList
      = (.empty base [(name, value)] hbase hname : WrittenElement feedScope).spelled ++ ['\n'] :=
  have hnames : arePlainNames ([(name, value)].map (·.1)) := hname
  @toList_emptyText _ _ _ hbase hnames (toList_attribute name value)

/-- The lines inside an entry. -/
theorem toList_entryLines (entry : Entry) :
    ("    " ++ elementText "title" "" entry.title ++
      "    " ++ elementText "id" "" entry.id ++
      "    " ++ emptyText "link" (attributeText "href" entry.id) ++
      "    " ++ elementText "updated" "" (Moment.midnight entry.updated).text ++
      "    " ++ elementText "published" "" (Moment.midnight entry.published).text ++
      (if entry.category.isEmpty then ""
        else "    " ++ emptyText "category" (attributeText "term" entry.category)) ++
      "    " ++ elementText "content" (attributeText "type" "html") entry.content).toList
      = lines "    ".toList entry.elements := by
  have hcategory : (if entry.category.isEmpty then ""
        else "    " ++ emptyText "category" (attributeText "term" entry.category)).toList
      = lines "    ".toList (if entry.category.isEmpty then []
        else [(.empty "category" [("term", entry.category)] (by decide)
          (by decide : arePlainNames ["term"]) : WrittenElement feedScope)]) := by
    cases entry.category.isEmpty with
    | true => rfl
    | false =>
        simp only [Bool.false_eq_true, if_false, String.toList_append, lines_cons]
        rw [toList_singleText "category" "term" _ (by decide) (by decide)]
        simp [lines]
  have hcontent : (elementText "content" (attributeText "type" "html") entry.content).toList
      = (.leaf "content" [("type", "html")] entry.content (by decide)
          (by decide : arePlainNames ["type"]) : WrittenElement feedScope).spelled ++ ['\n'] :=
    toList_elementText (toList_attribute "type" "html")
  simp only [String.toList_append, hcategory, hcontent]
  rw [toList_plainText "title" _ (by decide), toList_plainText "id" _ (by decide),
    toList_plainText "updated" _ (by decide), toList_plainText "published" _ (by decide),
    toList_singleText "link" "href" _ (by decide) (by decide)]
  simp only [Entry.elements, lines_append, lines_cons, List.append_assoc]
  simp [lines]

theorem toList_entryText (entry : Entry) :
    entry.text.toList = "  ".toList ++ (entry.written.spelled ++ ['\n']) := by
  have hbetween : "\n    ".toList = '\n' :: "    ".toList := rfl
  have hlast : "\n  ".toList = '\n' :: "  ".toList := rfl
  have helements : entry.elements ≠ [] := by
    simp [Entry.elements]
  have hindent : ∀ c ∈ "    ".toList, isEscaped c = false := by simp [isEscaped]
  have houtdent : ∀ c ∈ "  ".toList, isEscaped c = false := by simp [isEscaped]
  have hspelled := WrittenElement.spelled_branch (by decide : isLetterName "entry") hindent
    houtdent hbetween hlast helements
  have hlines := toList_entryLines entry
  unfold Entry.written
  rw [hspelled, ← hlines]
  unfold Entry.text
  simp only [String.toList_append, List.append_assoc]
  simp

theorem toList_entriesText (entries : List Entry) :
    (String.join (entries.map Entry.text)).toList
      = lines "  ".toList (entries.map Entry.written) := by
  induction entries with
  | nil => rfl
  | cons entry others ih =>
      rw [List.map_cons, List.map_cons, lines_cons, String.join_cons, String.toList_append, ih,
        toList_entryText, List.append_assoc]

/-! ## Feeds -/

/-- The element for the program that made a feed, if it has a name. -/
def generatorElements (feed : Feed) : List (WrittenElement feedScope) :=
  match feed.generator.filter (!·.isEmpty) with
  | some generator =>
    [.leaf "generator" (optionalAttribute "uri" feed.generatorUri) generator (by decide)
      (arePlainNames_optional (by decide))]
  | none => []

/-- The elements of a feed. -/
def elements (feed : Feed) (updated : Moment) (entries : List Entry) :
    List (WrittenElement feedScope) :=
  [.leaf "title" [] feed.title (by decide) (by decide),
    .leaf "id" [] feed.link (by decide) (by decide),
    .leaf "updated" [] updated.text (by decide) (by decide)]
  ++ feed.generatorElements
  ++ [.empty "link" [("href", feed.link)] (by decide) (by decide : arePlainNames ["href"]),
    .empty "link" [("href", feed.selfLink), ("rel", "self"), ("type", "application/atom+xml")]
      (by decide) (by decide : arePlainNames ["href", "rel", "type"])]
  ++ entries.map Entry.written

theorem toList_generatorText (feed : Feed) :
    feed.generatorText.toList = lines "  ".toList feed.generatorElements := by
  rw [generatorText, generatorElements]
  cases feed.generator.filter (!·.isEmpty) with
  | none => rfl
  | some generator =>
      simp only [String.toList_append, lines_cons]
      have helement : (elementText "generator" (optionalText "uri" feed.generatorUri)
            generator).toList
          = (.leaf "generator" (optionalAttribute "uri" feed.generatorUri) generator (by decide)
              (arePlainNames_optional (by decide)) : WrittenElement feedScope).spelled ++ ['\n'] :=
        toList_elementText (toList_optionalText "uri" feed.generatorUri)
      rw [helement]
      simp [lines]

theorem toList_selfLinkText (feed : Feed) :
    (emptyText "link" (attributeText "href" feed.selfLink ++ attributeText "rel" "self" ++
      attributeText "type" "application/atom+xml")).toList
      = (.empty "link"
          [("href", feed.selfLink), ("rel", "self"), ("type", "application/atom+xml")]
          (by decide) (by decide : arePlainNames ["href", "rel", "type"])
          : WrittenElement feedScope).spelled ++ ['\n'] := by
  refine toList_emptyText ?_
  simp only [String.toList_append, toList_attributeText]
  simp [unqualified]

/-- The text of a feed is the declaration and the root element with the lines of the elements. -/
theorem toList_text (feed : Feed) (updated : Moment) (entries : List Entry) :
    (feed.text updated entries).toList
      = declarationText ++ '\n' :: '<' :: (spellHead ⟨none, "feed"⟩ (rootAttributes feed.lang)
          ++ '>' :: '\n' :: (lines "  ".toList (feed.elements updated entries)
            ++ '<' :: '/' :: ("feed".toList ++ ['>']))) := by
  have hlang : (optionalText "xml:lang" feed.lang).toList
      = (optionalAttribute (⟨some "xml", "lang"⟩ : QualifiedName) feed.lang).flatMap
          spellAttribute := by
    rw [optionalText, optionalAttribute]
    cases feed.lang.filter (!·.isEmpty) with
    | none => rfl
    | some value => simp [toList_attributeText, spellAttribute, QualifiedName.spell]
  have hhead : spellHead ⟨none, "feed"⟩ (rootAttributes feed.lang)
      = "feed xmlns=\"http://www.w3.org/2005/Atom\"".toList
        ++ (optionalText "xml:lang" feed.lang).toList := by
    rw [hlang]
    rfl
  unfold elements
  simp only [lines_append, lines_cons, ← toList_generatorText, ← toList_entriesText,
    ← toList_selfLinkText, ← toList_singleText, ← toList_plainText, hhead]
  unfold text
  -- what is left is to compare the pieces around the elements, so their letters need no looking at
  have hdeclaration : "<?xml version=\"1.0\" encoding=\"utf-8\"?>\n".toList
      = declarationText ++ ['\n'] := rfl
  have hopen : "<feed xmlns=\"http://www.w3.org/2005/Atom\"".toList
      = '<' :: "feed xmlns=\"http://www.w3.org/2005/Atom\"".toList := rfl
  have hend : ">\n".toList = ['>', '\n'] := rfl
  have hclose : "</feed>".toList = '<' :: '/' :: ("feed".toList ++ ['>']) := rfl
  simp only [String.toList_append, hdeclaration, hopen, hend, hclose]
  generalize "feed xmlns=\"http://www.w3.org/2005/Atom\"".toList = head
  generalize declarationText = declaration
  generalize "feed".toList = tag
  simp only [lines_nil, List.append_assoc, List.cons_append, List.nil_append]

/-! ## Reading -/

/-- Whether a document may hold all texts of an entry. -/
structure Entry.IsLegal (entry : Entry) : Prop where
  id : isDocumentText entry.id
  title : isDocumentText entry.title
  category : isDocumentText entry.category
  content : isDocumentText entry.content

/-- Whether a document may hold all texts of a feed. -/
structure IsLegal (feed : Feed) : Prop where
  title : isDocumentText feed.title
  link : isDocumentText feed.link
  lang : feed.lang.all isDocumentText
  generator : feed.generator.all isDocumentText
  generatorUri : feed.generatorUri.all isDocumentText
  fileName : isDocumentText feed.path.name

section

variable {feed : Feed} {render : String → String}

/-- The texts of a post that an entry has besides the page. -/
structure IsLegalPost (post : Post) : Prop where
  title : isDocumentText post.title
  uri : isDocumentText post.uri
  category : isDocumentText post.category

theorem isLegal_entryOf {post : Post} (hlink : isDocumentText feed.link) (h : IsLegalPost post)
    (hpage : isDocumentText (render post.markdown)) : (feed.entry render post).IsLegal where
  id := by
    show isDocumentText (feed.link ++ post.uri)
    rw [isDocumentText_append, Bool.and_eq_true]
    exact ⟨hlink, h.uri⟩
  title := h.title
  category := h.category
  content := hpage

end

/-- The values of an attribute that may be left out. -/
theorem of_mem_optionalAttribute {α : Type} {name : α} {value : Option String}
    {p : String → Bool} (h : value.all p) {a : α × String} (ha : a ∈ optionalAttribute name value) :
    p a.2 := by
  rw [optionalAttribute, Option.mem_toList, Option.map_eq_some_iff] at ha
  obtain ⟨s, hs, rfl⟩ := ha
  rw [(Option.filter_eq_some_iff.1 hs).1] at h
  exact h

/-- The address of a feed itself is made of the address of the site and the name of its file. -/
theorem all_selfLink {feed : Feed} {p : Char → Bool} (hlink : feed.link.toList.all p)
    (hname : feed.path.name.toList.all p) (hslash : p '/') : feed.selfLink.toList.all p := by
  have hsub : ∀ c ∈ Text.stripEndBy (· = '/') feed.link.toList, c ∈ feed.link.toList := by
    intro c hc
    rw [Text.stripEndBy, List.mem_reverse] at hc
    exact List.mem_reverse.1 ((List.dropWhile_sublist _).subset hc)
  rw [selfLink, String.toList_append, String.toList_append, String.toList_ofList, List.all_append,
    List.all_append, hname, Bool.and_true, Bool.and_eq_true, List.all_eq_true]
  exact ⟨fun c hc => List.all_eq_true.1 hlink c (hsub c hc), by simpa using hslash⟩

section

variable {base : String} {attributes : List (String × String)} {hbase : isLetterName base}
  {hnames : arePlainNames (attributes.map (·.1))}

theorem isLegal_leaf {text : String} (htext : isDocumentText text)
    (h : ∀ a ∈ attributes, isDocumentText a.2) :
    (.leaf base attributes text hbase hnames : WrittenElement feedScope).isLegal := by
  show (isDocumentText text && (unqualified attributes).all (isDocumentText ·.2)) = true
  rw [htext, Bool.true_and, unqualified, List.all_map, List.all_eq_true]
  exact h

theorem isLegal_empty (h : ∀ a ∈ attributes, isDocumentText a.2) :
    (.empty base attributes hbase hnames : WrittenElement feedScope).isLegal := by
  show (unqualified attributes).all (isDocumentText ·.2) = true
  rw [unqualified, List.all_map, List.all_eq_true]
  exact h

end

theorem isDocumentChar_of_isClockChar {c : Char} (h : isClockChar c) :
    isDocumentChar c ∧ isSpace c = false := by
  simp only [isClockChar, Bool.or_eq_true, decide_eq_true_eq] at h
  rcases h with ((((hdigit | rfl) | rfl) | rfl) | rfl) | rfl
  · have hrange : 48 ≤ c.toNat ∧ c.toNat ≤ 57 := by
      simpa [Char.isDigit, UInt32.le_iff_toNat_le] using hdigit
    constructor
    · simp only [isDocumentChar, Bool.or_eq_true, Bool.and_eq_true, decide_eq_true_eq, bne_iff_ne]
      omega
    · by_contra hspace
      simp only [isSpace, Bool.not_eq_false, Bool.or_eq_true, decide_eq_true_eq] at hspace
      rcases hspace with ((rfl | rfl) | rfl) | rfl <;> exact absurd hrange (by decide)
  all_goals decide

/-- A document may hold all moments: they are written with digits and few other characters. -/
theorem isDocumentText_momentText (m : Moment) : isDocumentText m.text :=
  List.all_eq_true.2 fun c hc =>
    (isDocumentChar_of_isClockChar (List.all_eq_true.1 (all_momentText m) c hc)).1

theorem isLegal_entry {entry : Entry} (h : entry.IsLegal) : entry.written.isLegal := by
  have helements : ∀ w ∈ entry.elements, w.isLegal := by
    intro w hw
    simp only [Entry.elements, List.mem_append, List.mem_cons, List.not_mem_nil, or_false] at hw
    rcases hw with ((rfl | rfl | rfl | rfl | rfl) | hcategory) | rfl
    · exact isLegal_leaf h.title (by simp)
    · exact isLegal_leaf h.id (by simp)
    · exact isLegal_empty (by simpa using h.id)
    · exact isLegal_leaf (isDocumentText_momentText _) (by simp)
    · exact isLegal_leaf (isDocumentText_momentText _) (by simp)
    · split at hcategory
      · simp at hcategory
      · obtain rfl := List.mem_singleton.1 hcategory
        exact isLegal_empty (by simpa using h.category)
    · exact isLegal_leaf h.content (by decide)
  show (isDocumentText "\n    " && isDocumentText "\n  "
    && entry.elements.all WrittenElement.isLegal) = true
  rw [List.all_eq_true.2 helements]
  decide

theorem isLegal_elements {feed : Feed} {entries : List Entry} (hfeed : feed.IsLegal)
    (hentries : ∀ entry ∈ entries, entry.IsLegal) (updated : Moment) :
    ∀ w ∈ feed.elements updated entries, w.isLegal := by
  have hself : isDocumentText feed.selfLink := all_selfLink hfeed.link hfeed.fileName (by decide)
  intro w hw
  simp only [elements, List.mem_append, List.mem_cons, List.not_mem_nil, or_false] at hw
  rcases hw with (((rfl | rfl | rfl) | hgenerator) | rfl | rfl) | hentry
  · exact isLegal_leaf hfeed.title (by simp)
  · exact isLegal_leaf hfeed.link (by simp)
  · exact isLegal_leaf (isDocumentText_momentText _) (by simp)
  · rw [generatorElements] at hgenerator
    split at hgenerator
    · next generator hsome =>
        obtain rfl := List.mem_singleton.1 hgenerator
        have hlegal := hfeed.generator
        rw [(Option.filter_eq_some_iff.1 hsome).1] at hlegal
        exact isLegal_leaf hlegal fun a ha => of_mem_optionalAttribute hfeed.generatorUri ha
    · simp at hgenerator
  · exact isLegal_empty (by simpa using hfeed.link)
  · refine isLegal_empty fun a ha => ?_
    simp only [List.mem_cons, List.not_mem_nil, or_false] at ha
    rcases ha with rfl | rfl | rfl
    · exact hself
    · decide
    · decide
  · obtain ⟨entry, hmem, rfl⟩ := List.mem_map.1 hentry
    exact isLegal_entry (hentries entry hmem)

/-- The text of a feed is read as the root element with the elements of the feed inside. -/
theorem read_text {feed : Feed} {entries : List Entry} (hfeed : feed.IsLegal)
    (hentries : ∀ entry ∈ entries, entry.IsLegal) (updated : Moment) :
    Xml.read (encode (feed.text updated entries))
      = .ok (.mk (atomName "feed") (rootAttributesRead feed.lang) "\n  "
          (rowRead "\n  " "\n" (feed.elements updated entries))) := by
  have hgiven : ∀ a ∈ rootAttributes feed.lang, a.1.isLetters ∧ isDocumentText a.2 := by
    intro a ha
    rcases List.mem_cons.1 ha with rfl | ha
    · exact ⟨by decide, by decide⟩
    · refine ⟨?_, of_mem_optionalAttribute hfeed.lang ha⟩
      rw [optionalAttribute, Option.mem_toList, Option.map_eq_some_iff] at ha
      obtain ⟨value, -, rfl⟩ := ha
      exact (by decide : (⟨some "xml", "lang"⟩ : QualifiedName).isLetters)
  have hread := read_document (begins_feed feed.lang) (by decide) hgiven
    (isLegal_elements hfeed hentries updated) (by simp [elements])
  rw [← String.ofList_toList (s := feed.text updated entries), toList_text]
  exact hread

end StaticSite.Feed
