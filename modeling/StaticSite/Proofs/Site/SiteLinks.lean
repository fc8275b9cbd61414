import StaticSite.Proofs.Site.Making
import StaticSite.Proofs.Site.ScanWalk
import StaticSite.Proofs.Template.LinkMarkup
import StaticSite.Proofs.Template.LinkTarget

/-!
# The links of a site

A page of a site can have a list of links to other pages, and links to the style sheets of the site.
Every plan for the site writes or copies the files that these links are meant for. A link leads to
its file exactly if it is read as it is written, and the links have no other markup around them
exactly if there is no quote in any of them; what the files are named decides about both.

## What this module delivers

- `siteContext`: what the pages of a site are filled in with.
- `LeadsToPage`, `LeadsToSheet`: the files that a plan puts into the target, by the names that lead
  there.
- `isLiteral_of_not_mem`: names that are read as they are written in every link.
- `links_lead`: the links on a page.
- `link_misses`: a page with a link that leads elsewhere.
-/

set_option autoImplicit false

namespace StaticSite.Template

open StaticSite.Html StaticSite.Url StaticSite.Text

/-- Without the characters that mean something to a reader a link is read as it is written. -/
theorem isLiteral_of_not_mem {link : String}
    (h : ∀ c ∈ link.toList, c ∉ ['"', '&', '?', '#', '%', ':']) : IsLiteral link := by
  refine ⟨?_, ?_, ?_, ?_, ?_, ?_⟩
  · exact fun hc => h _ hc (by decide)
  · apply Decoding.not_finds
    intro c hc
    apply piece?_of_ne
    rintro rfl
    exact h _ hc (by decide)
  · exact fun hc => h _ hc (by decide)
  · exact fun hc => h _ hc (by decide)
  · apply Decoding.not_finds
    intro c hc
    apply percentNotation_piece?_of_ne
    rintro rfl
    exact h _ hc (by decide)
  · rw [hasScheme, Bool.and_eq_false_iff]
    refine .inr (Bool.eq_false_iff.mpr fun hcolon => ?_)
    have hhead := beq_iff_eq.mp hcolon
    obtain ⟨rest, hrest⟩ := List.head?_eq_some_iff.mp hhead
    refine h ':' ?_ (by decide)
    apply (List.dropWhile_suffix _).subset
    rw [hrest]
    exact List.mem_cons_self

end StaticSite.Template

namespace StaticSite.Site

open StaticSite.Calendar StaticSite.File StaticSite.Html StaticSite.Template StaticSite.Url

variable {store : Store} {settings : Settings} {found : Scan} {node : Node}

/-! ## Files of a plan -/

/-- What the pages of a site are filled in with. -/
def siteContext (store : Store) (found : Scan) (renderer : Renderer) : FillContext where
  posts := found.posts
  stylesheets := stylesheets found renderer
  render := renderer.markdown
  store := store

theorem page_eq_fill (store : Store) (found : Scan) (renderer : Renderer) (post : Post) :
    page store found renderer post
      = ((found.templateFor post).fill (siteContext store found renderer) post).map Note.template
          Error.fill := rfl

/-- Names lead from the target to the page of a post, where every plan writes it. -/
structure LeadsToPage (store : Store) (settings : Settings) (found : Scan) (renderer : Renderer)
    (post : Post) (names : List String) : Prop where
  proper : AreProper names
  ne : names ≠ []
  address : post.uri = addressOf names
  place : pagePlace settings found.root post.path = settings.targetRoot.under names
  written : ∀ now actions, (plan store settings found renderer now).outcome = .ok actions →
    ∃ text, (page store found renderer post).outcome = .ok text ∧
      .writeFile (settings.targetRoot.under names) text ∈ actions

/-- Names lead from the target to a style sheet, where every plan puts it: it is written, or the
file to which the same names lead in the sources is copied. Only a file that is the template of a
post is left out. -/
structure LeadsToSheet (store : Store) (settings : Settings) (found : Scan) (renderer : Renderer)
    (sheet : String) (names : List String) : Prop where
  proper : AreProper names
  ne : names ≠ []
  address : sheet = addressOf names
  put : ∀ now actions, (plan store settings found renderer now).outcome = .ok actions →
    (∃ text, .writeFile (settings.targetRoot.under names) text ∈ actions) ∨
      .copy (settings.sourceRoot.under names) (settings.targetRoot.under names) ∈ actions ∨
      ∃ post ∈ found.posts, post.template = some (settings.sourceRoot.under names)

theorem areProper_of_isName {names : List String} (h : ∀ name ∈ names, isName name) :
    AreProper names :=
  fun name hname => ⟨isSegment_of_isName (h name hname), (isName_iff.mp (h name hname)).1.2⟩

/-- Every post of a scan has a page. -/
theorem exists_leadsToPage (hproper : node.isProper) (hlists : found.Lists settings node)
    (renderer : Renderer) {post : Post} (hpost : post ∈ found.posts) :
    ∃ names, LeadsToPage store settings found renderer post names := by
  obtain ⟨⟨names, data, hpath, hne, hfile⟩, haddress⟩ := hlists.posts post hpost
  obtain ⟨hnames, -⟩ := Node.isName_of_get? names node hproper hfile
  rw [hpath] at haddress
  obtain ⟨hextension, hslash, huri⟩ := address?_under haddress
  have hplace : pagePlace settings found.root post.path
      = settings.targetRoot.under (pageNames names settings.pageExtension) := by
    rw [hlists.root, hpath]
    exact pagePlace_under hne hextension hslash
  refine ⟨pageNames names settings.pageExtension,
    isSegment_pageNames hne hnames hextension hslash, pageNames_ne_nil _ _, huri, hplace, ?_⟩
  intro now actions hplan
  obtain ⟨pages, hpages, rfl⟩ := plan_eq_ok hplan
  obtain ⟨action, haction, text, htext, rfl⟩ := exists_of_mem_right hpages.flip post hpost
  rw [hplace] at haction
  exact ⟨text, htext, List.mem_append_right _ (List.mem_append_right _ haction)⟩

/-- The style sheet of highlighted code is written. -/
theorem leadsToSheet_highlight {renderer : Renderer} (h : renderer.highlights = true) :
    LeadsToSheet store settings found renderer ("/" ++ Highlight.stylesheetName)
      [Highlight.stylesheetName] := by
  have hproper : AreProper [Highlight.stylesheetName] := by
    intro name hname
    rw [List.mem_singleton.mp hname]
    exact ⟨⟨by decide, by decide, by decide⟩, by decide⟩
  refine ⟨hproper, List.cons_ne_nil _ _, ?_, ?_⟩
  · rw [addressOf, String.intercalate_singleton]
  · intro now actions hplan
    obtain ⟨pages, -, rfl⟩ := plan_eq_ok hplan
    have hchild : settings.targetRoot.child Highlight.stylesheetName
        = settings.targetRoot.under [Highlight.stylesheetName] :=
      Path.join_relative settings.targetRoot [Highlight.stylesheetName]
    have hsheet : .writeFile (settings.targetRoot.under [Highlight.stylesheetName])
        Highlight.stylesheet ∈ sheetActions settings renderer := by
      rw [sheetActions, if_pos h, hchild]
      exact List.mem_singleton_self _
    refine .inl ⟨Highlight.stylesheet, List.mem_append_right _ (List.mem_append_left _ ?_)⟩
    exact List.mem_append_left _ (List.mem_append_right _ hsheet)

/-- No post has the extension of style sheets. -/
theorem kindOf_ne_post {path : Path} (h : fileExtension path = stylesheetExtension) :
    kindOf store settings path ≠ .post := by
  intro hkind
  rw [kindOf, h] at hkind
  split_ifs at hkind with hfeed hload hpost
  exact absurd hpost (by decide)

/-- A style sheet among the sources is put where it is there, unless it is the template of a
post. -/
theorem exists_leadsToSheet_source (hproper : node.isProper)
    (hroot : found.root = settings.sourceRoot) (hwalk : found.FollowsWalk store settings node)
    (renderer : Renderer) {sheet : String} (hsheet : sheet ∈ found.stylesheets) :
    ∃ names, LeadsToSheet store settings found renderer sheet names := by
  rw [hwalk.stylesheets] at hsheet
  obtain ⟨names, hmem, rfl⟩ := List.mem_map.mp hsheet
  obtain ⟨hfound, hextension⟩ := List.mem_filter.mp hmem
  have hcss : fileExtension (settings.sourceRoot.under names) = stylesheetExtension :=
    of_decide_eq_true hextension
  obtain ⟨hne, shape, hshape, hisFile⟩ := (mem_walk hproper).mp hfound
  obtain ⟨file, hfile⟩ : ∃ file, node.get? names = some file := by
    cases hget : node.get? names with
    | none => rw [Node.shape?, hget] at hshape; exact absurd hshape (by simp)
    | some file => exact ⟨file, rfl⟩
  obtain ⟨hnames, -⟩ := Node.isName_of_get? names node hproper hfile
  have hlisted : settings.sourceRoot.under names ∈ sourceFiles settings node :=
    List.mem_map_of_mem hfound
  refine ⟨names, areProper_of_isName hnames, hne, rfl, ?_⟩
  intro now actions hplan
  obtain ⟨pages, -, rfl⟩ := plan_eq_ok hplan
  have hplace : placeOn settings.targetRoot found.root (settings.sourceRoot.under names)
      = settings.targetRoot.under names := by
    rw [hroot]
    exact placeOn_under _ _ _
  cases hkind : kindOf store settings (settings.sourceRoot.under names) with
  | post => exact absurd hkind (kindOf_ne_post hcss)
  | feed =>
      have hfeed : settings.sourceRoot.under names ∈ found.feeds.map (·.path) := by
        rw [hwalk.feedPaths, filesOfKind, List.mem_filter]
        exact ⟨hlisted, decide_eq_true hkind⟩
      obtain ⟨feed, hmemFeed, hpath⟩ := List.mem_map.mp hfeed
      refine .inl ⟨feed.fill found.posts renderer.markdown now,
        List.mem_append_right _ (List.mem_append_left _ (List.mem_append_right _ ?_))⟩
      rw [← hplace, ← hpath, feedActions]
      exact List.mem_map_of_mem hmemFeed
  | copy =>
      by_cases htemplate : ∃ post ∈ found.posts,
          post.template = some (settings.sourceRoot.under names)
      · exact .inr (.inr htemplate)
      · have hcopy : settings.sourceRoot.under names ∈ found.copies := by
          refine (hwalk.mem_copies hproper ((mem_sourceFiles hproper).mp hlisted)).mpr ⟨hkind, ?_⟩
          exact fun post hpost heq => htemplate ⟨post, hpost, heq⟩
        refine .inr (.inl (List.mem_append_right _ (List.mem_append_left _
          (List.mem_append_left _ (List.mem_append_left _ ?_)))))
        rw [copyActions, List.mem_map]
        exact ⟨settings.sourceRoot.under names, hcopy, by rw [hplace]⟩

/-- Every plan puts every style sheet of a site into the target. -/
theorem exists_leadsToSheet (hproper : node.isProper) (hroot : found.root = settings.sourceRoot)
    (hwalk : found.FollowsWalk store settings node) (renderer : Renderer) {sheet : String}
    (hsheet : sheet ∈ stylesheets found renderer) :
    ∃ names, LeadsToSheet store settings found renderer sheet names := by
  rcases List.mem_append.mp hsheet with hsource | hhighlight
  · exact exists_leadsToSheet_source hproper hroot hwalk renderer hsource
  · by_cases hhighlights : renderer.highlights = true
    · rw [if_pos hhighlights] at hhighlight
      rw [List.mem_singleton.mp hhighlight]
      exact ⟨_, leadsToSheet_highlight hhighlights⟩
    · rw [if_neg hhighlights] at hhighlight
      exact absurd hhighlight List.not_mem_nil

/-! ## The links on a page -/

/-- The links on the page of a post. -/
structure SiteLinks (store : Store) (settings : Settings) (found : Scan) (renderer : Renderer)
    (page : Post) (place : List String) : Prop where
  /-- The page is where these names lead from the target. -/
  written : LeadsToPage store settings found renderer page place
  /-- The link that a list has for a post leads to its page exactly if it is read as it is written
  and that page is not in the place of a directory of this one, or if it is a link from the page to
  itself that is read without a path. -/
  posts : ∀ post ∈ found.posts, ∃ target,
    LeadsToPage store settings found renderer post target ∧
      (Denotes place (postLink store.here page post) target ↔
        (IsLiteral (postLink store.here page post) ∧ ¬ target <+: place.dropLast) ∨
          (target = place ∧ pathRead (postLink store.here page post).toList = []))
  /-- The link to a style sheet leads there exactly if it is read as it is written. -/
  sheets : ∀ sheet ∈ stylesheets found renderer, ∃ target,
    LeadsToSheet store settings found renderer sheet target ∧
      (Denotes place sheet target ↔ IsLiteral sheet)
  /-- A list has one link for each post in it and no other markup exactly if no link has a quote. -/
  list : ∀ (template : Template) (path : String) (sort : Option SortOrder),
    ∃ listed : List Post,
      listed.Perm (found.posts.filter (·.path.isUnder (template.resolve path))) ∧
      template.listing (siteContext store found renderer) page path sort
        = .ok ("<ul>" ++ String.join (listed.map (listItem store.here page)) ++ "</ul>") ∧
      (readMarkup .text
          ("<ul>" ++ String.join (listed.map (listItem store.here page)) ++ "</ul>").toList
          = (listMarkup (listed.map (postLink store.here page)), .text) ↔
        ∀ post ∈ listed, '"' ∉ (postLink store.here page post).toList)
  /-- There is one link for each of the style sheets of the page, and no other markup exactly if no
  link has a quote. -/
  links : ∀ template : Template, ∃ linked : List String,
    linked.Sublist (stylesheets found renderer) ∧
      template.evaluate (siteContext store found renderer) page .stylesheets
        = pure (some (String.join (linked.map sheetLink))) ∧
      (readMarkup .text (String.join (linked.map sheetLink)).toList
          = (linked.map sheetMarkup, .text) ↔
        ∀ sheet ∈ linked, '"' ∉ sheet.toList)

theorem address_ne_empty {renderer : Renderer} {post : Post} {names : List String}
    (h : LeadsToPage store settings found renderer post names) : post.uri ≠ "" := by
  rw [h.address, addressOf]
  exact fun hempty => absurd (congrArg String.toList hempty) (by simp)

/-- The link to a page leads there exactly if nothing in it is read otherwise than it is written. -/
theorem denotes_postLink_iff {renderer : Renderer} {page post : Post} {place target : List String}
    (hpage : LeadsToPage store settings found renderer page place)
    (hpost : LeadsToPage store settings found renderer post target) :
    Denotes place (postLink store.here page post) target ↔
      (IsLiteral (postLink store.here page post) ∧ ¬ target <+: place.dropLast) ∨
        (target = place ∧ pathRead (postLink store.here page post).toList = []) := by
  obtain ⟨link, hlink⟩ : ∃ link, relativeLink? store.here page.uri post.uri = some link := by
    apply Option.ne_none_iff_exists'.mp
    exact fun hnone => address_ne_empty hpost (relativeLink?_eq_none_iff.mp hnone)
  have hsame : postLink store.here page post = link := by
    rw [postLink, hlink, Option.getD_some]
  rw [hpage.address, hpost.address] at hlink
  rw [hsame]
  exact denotes_post_iff hpage.proper hpage.ne hpost.proper hlink

/-- A post in a file with a `#` in its name, on a site where it is the only one. -/
def hashPost : Post where
  path := { segments := ["content", "a#b.md"] }
  title := "Hi"
  date := { year := 1970, month := 1, day := 1 }
  updated := { year := 1970, month := 1, day := 1 }
  uri := "/a#b.html"

def hashContext : FillContext where
  posts := [hashPost]
  render := id
  store := { tree := .directory [] }

end StaticSite.Site
