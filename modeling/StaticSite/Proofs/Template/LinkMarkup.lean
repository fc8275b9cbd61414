import Mathlib.Data.List.Basic
import Mathlib.Tactic.SplitIfs
import StaticSite.Proofs.Template.Listing
import StaticSite.Proofs.Template.Stylesheets

/-!
# The markup of links

What a directive puts into a page for links is read by a reader of pages, who takes everything for
markup that can be taken for it: a value may stand between quotes of either kind or without any, and
behind a value the next attribute may follow at once. Titles are escaped, links are not, so there is
one link for each post or style sheet and no other markup exactly if no link has a quote in it.

## What this module delivers

- `MarkupMode.step`, `readMarkup`: the reader as a machine, whose mode is the tag under way.
- `readMarkup_append`, `readMarkup_of_not_mem`, `readMarkup_quoted`: what is read piece by piece.
- `step_carries`, `readMarkup_carries`: attributes that have been read stay in the tag.
- `readMarkup_items_iff`: texts with a link each, one after the other.
- `markup_list_iff`, `markup_sheets_iff`: the markup of a list of posts and of the links to style
  sheets.
-/

set_option autoImplicit false

namespace StaticSite.Html

/-! ## The reader -/

/-- A piece of markup. Only the first attribute of a name counts. -/
inductive FoundMarkup where
  | opening (name : String) (attributes : List (String × String))
  | closing (name : String)
  /-- A comment, a declaration or the like. -/
  | other
deriving DecidableEq, Repr

/-- A tag under way: its name, and the attributes that are read to their end. -/
structure StartedTag where
  isClosing : Bool
  name : List Char
  attributes : List (String × String) := []
deriving DecidableEq, Repr

/-- The tag with one more attribute. -/
def StartedTag.add (tag : StartedTag) (name value : List Char) : StartedTag :=
  { tag with attributes := tag.attributes ++ [(String.ofList name, String.ofList value)] }

/-- The tag when it is read to its end. -/
def StartedTag.finish (tag : StartedTag) : FoundMarkup :=
  if tag.isClosing then .closing (String.ofList tag.name)
  else .opening (String.ofList tag.name) tag.attributes

/-- What is under way. -/
inductive MarkupMode where
  | text
  /-- After a `<`. -/
  | bracket
  /-- After a `<` and a slash. -/
  | slash
  | tagName (tag : StartedTag)
  /-- Before an attribute or the end of the tag. -/
  | between (tag : StartedTag)
  /-- In the name of an attribute. -/
  | entry (tag : StartedTag) (name : List Char)
  /-- Behind a blank after the name of an attribute. -/
  | behindName (tag : StartedTag) (name : List Char)
  /-- After the `=` of an attribute. -/
  | equals (tag : StartedTag) (name : List Char)
  | quoted (tag : StartedTag) (name : List Char) (quote : Char) (value : List Char)
  | bare (tag : StartedTag) (name value : List Char)
  /-- Behind the closing quote of a value. -/
  | behindValue (tag : StartedTag)
  /-- After a slash in a tag. -/
  | emptyTag (tag : StartedTag)
  /-- In a comment or the like, where the reader does not look for its end. -/
  | lost
deriving DecidableEq, Repr

/-- A blank in a tag. -/
def isTagBlank (c : Char) : Bool :=
  c == ' ' || c == '\t' || c == '\n' || c == '\x0c'

/-- Reads a character before an attribute or the end of the tag. -/
def stepBetween (tag : StartedTag) (c : Char) : List FoundMarkup × MarkupMode :=
  if isTagBlank c then ([], .between tag)
  else if c = '/' then ([], .emptyTag tag)
  else if c = '>' then ([tag.finish], .text)
  else ([], .entry tag [c.toLower])

/-- Reads a character: the markup that it completes and the mode after it. -/
def MarkupMode.step : MarkupMode → Char → List FoundMarkup × MarkupMode
  | .text, c => if c = '<' then ([], .bracket) else ([], .text)
  | .bracket, c =>
      if c = '/' then ([], .slash)
      else if c.isAlpha then ([], .tagName ⟨false, [c.toLower], []⟩)
      else if c = '!' ∨ c = '?' then ([.other], .lost)
      else if c = '<' then ([], .bracket)
      else ([], .text)
  | .slash, c =>
      if c.isAlpha then ([], .tagName ⟨true, [c.toLower], []⟩)
      else if c = '>' then ([], .text)
      else ([.other], .lost)
  | .tagName tag, c =>
      if isTagBlank c then ([], .between tag)
      else if c = '/' then ([], .emptyTag tag)
      else if c = '>' then ([tag.finish], .text)
      else ([], .tagName { tag with name := tag.name ++ [c.toLower] })
  | .between tag, c => stepBetween tag c
  | .entry tag name, c =>
      if isTagBlank c then ([], .behindName tag name)
      else if c = '/' then ([], .emptyTag (tag.add name []))
      else if c = '>' then ([(tag.add name []).finish], .text)
      else if c = '=' then ([], .equals tag name)
      else ([], .entry tag (name ++ [c.toLower]))
  | .behindName tag name, c =>
      if isTagBlank c then ([], .behindName tag name)
      else if c = '=' then ([], .equals tag name)
      else stepBetween (tag.add name []) c
  | .equals tag name, c =>
      if isTagBlank c then ([], .equals tag name)
      else if c = '"' ∨ c = '\'' then ([], .quoted tag name c [])
      else if c = '>' then ([(tag.add name []).finish], .text)
      else ([], .bare tag name [c])
  | .quoted tag name quote value, c =>
      if c = quote then ([], .behindValue (tag.add name value))
      else ([], .quoted tag name quote (value ++ [c]))
  | .bare tag name value, c =>
      if isTagBlank c then ([], .between (tag.add name value))
      else if c = '>' then ([(tag.add name value).finish], .text)
      else ([], .bare tag name (value ++ [c]))
  | .behindValue tag, c => stepBetween tag c
  | .emptyTag tag, c => stepBetween tag c
  | .lost, _ => ([], .lost)

/-- Reads a text: the markup in it and the mode after it. -/
def readMarkup : MarkupMode → List Char → List FoundMarkup × MarkupMode
  | mode, [] => ([], mode)
  | mode, c :: rest =>
      ((mode.step c).1 ++ (readMarkup (mode.step c).2 rest).1, (readMarkup (mode.step c).2 rest).2)

variable {mode middle last : MarkupMode} {found more : List FoundMarkup} {tag : StartedTag}
  {s t name : List Char}

/-- Reading two texts one after the other is reading them at once. -/
theorem readMarkup_append (mode : MarkupMode) (s t : List Char) :
    readMarkup mode (s ++ t)
      = ((readMarkup mode s).1 ++ (readMarkup (readMarkup mode s).2 t).1,
          (readMarkup (readMarkup mode s).2 t).2) := by
  induction s generalizing mode with
  | nil => rfl
  | cons c rest ih => rw [List.cons_append, readMarkup, ih, readMarkup, List.append_assoc]

theorem readMarkup_append_of (h : readMarkup mode s = (found, middle)) (t : List Char) :
    readMarkup mode (s ++ t)
      = (found ++ (readMarkup middle t).1, (readMarkup middle t).2) := by
  rw [readMarkup_append, h]

/-- There is no markup in a text without a `<`. -/
theorem readMarkup_of_not_mem (h : '<' ∉ s) : readMarkup .text s = ([], .text) := by
  induction s with
  | nil => rfl
  | cons c rest ih =>
      rw [List.mem_cons, not_or] at h
      have hstep : MarkupMode.text.step c = ([], .text) := if_neg fun hc => h.1 hc.symm
      rw [readMarkup, hstep, ih h.2]
      rfl

/-- A value goes on up to the next quote. -/
theorem readMarkup_quoted (h : '"' ∉ s) (tag : StartedTag) (name : List Char) :
    ∀ value, readMarkup (.quoted tag name '"' value) s
      = ([], .quoted tag name '"' (value ++ s)) := by
  induction s with
  | nil =>
      intro value
      rw [List.append_nil]
      rfl
  | cons c rest ih =>
      intro value
      rw [List.mem_cons, not_or] at h
      have hstep : (MarkupMode.quoted tag name '"' value).step c
          = ([], .quoted tag name '"' (value ++ [c])) := if_neg fun hc => h.1 hc.symm
      rw [readMarkup, hstep, ih h.2, List.append_assoc]
      rfl

/-! ## Attributes that stay -/

/-- An opening tag is under way that has some attributes already. -/
def MarkupMode.Carries (attributes : List (String × String)) : MarkupMode → Prop
  | .between tag | .entry tag _ | .behindName tag _ | .equals tag _ | .quoted tag _ _ _
  | .bare tag _ _ | .behindValue tag | .emptyTag tag =>
      tag.isClosing = false ∧ attributes <+: tag.attributes
  | _ => False

variable {attributes : List (String × String)}

/-- What is read next is a tag with some attributes, or it is not read to its end. -/
def FindsWith (attributes : List (String × String)) (found : List FoundMarkup) (mode : MarkupMode) :
    Prop :=
  (found = [] ∧ mode.Carries attributes) ∨
    ∃ name all, found = [.opening name all] ∧ attributes <+: all

theorem carries_add (h : tag.isClosing = false ∧ attributes <+: tag.attributes)
    (name value : List Char) :
    (tag.add name value).isClosing = false ∧ attributes <+: (tag.add name value).attributes :=
  ⟨h.1, h.2.trans (List.prefix_append _ _)⟩

theorem findsWith_finish (h : tag.isClosing = false ∧ attributes <+: tag.attributes)
    (mode : MarkupMode) : FindsWith attributes [tag.finish] mode := by
  refine .inr ⟨String.ofList tag.name, tag.attributes, ?_, h.2⟩
  rw [StartedTag.finish, h.1, if_neg Bool.false_ne_true]

theorem stepBetween_carries (h : tag.isClosing = false ∧ attributes <+: tag.attributes) (c : Char) :
    FindsWith attributes (stepBetween tag c).1 (stepBetween tag c).2 := by
  rw [stepBetween]
  split_ifs
  · exact .inl ⟨rfl, h⟩
  · exact .inl ⟨rfl, h⟩
  · exact findsWith_finish h _
  · exact .inl ⟨rfl, h⟩

/-- A character in a tag leaves the attributes in it that it has. -/
theorem step_carries (h : mode.Carries attributes) (c : Char) :
    FindsWith attributes (mode.step c).1 (mode.step c).2 := by
  cases mode with
  | text => exact h.elim
  | bracket => exact h.elim
  | slash => exact h.elim
  | tagName tag => exact h.elim
  | lost => exact h.elim
  | between tag => exact stepBetween_carries h c
  | behindValue tag => exact stepBetween_carries h c
  | emptyTag tag => exact stepBetween_carries h c
  | entry tag name =>
      rw [MarkupMode.step]
      split_ifs
      · exact .inl ⟨rfl, h⟩
      · exact .inl ⟨rfl, carries_add h name []⟩
      · exact findsWith_finish (carries_add h name []) _
      · exact .inl ⟨rfl, h⟩
      · exact .inl ⟨rfl, h⟩
  | behindName tag name =>
      rw [MarkupMode.step]
      split_ifs
      · exact .inl ⟨rfl, h⟩
      · exact .inl ⟨rfl, h⟩
      · exact stepBetween_carries (carries_add h name []) c
  | equals tag name =>
      rw [MarkupMode.step]
      split_ifs
      · exact .inl ⟨rfl, h⟩
      · exact .inl ⟨rfl, h⟩
      · exact findsWith_finish (carries_add h name []) _
      · exact .inl ⟨rfl, h⟩
  | quoted tag name quote value =>
      rw [MarkupMode.step]
      split_ifs
      · exact .inl ⟨rfl, carries_add h name value⟩
      · exact .inl ⟨rfl, h⟩
  | bare tag name value =>
      rw [MarkupMode.step]
      split_ifs
      · exact .inl ⟨rfl, carries_add h name value⟩
      · exact findsWith_finish (carries_add h name value) _
      · exact .inl ⟨rfl, h⟩

/-- The next piece of markup, if there is one, is a tag with these attributes in front. -/
theorem readMarkup_carries (h : mode.Carries attributes) (s : List Char) :
    ∀ next ∈ (readMarkup mode s).1.head?,
      ∃ name all, next = .opening name all ∧ attributes <+: all := by
  induction s generalizing mode with
  | nil =>
      intro next hnext
      exact absurd hnext (by simp [readMarkup])
  | cons c rest ih =>
      intro next hnext
      rw [readMarkup] at hnext
      rcases step_carries h c with ⟨hnone, hcarries⟩ | ⟨name, all, hfound, hbegins⟩
      · rw [hnone] at hnext
        exact ih hcarries next hnext
      · rw [hfound] at hnext
        obtain rfl : .opening name all = next := Option.some.inj hnext
        exact ⟨name, all, rfl, hbegins⟩

/-! ## Texts with a link -/

/-- A text with a link in it, which stands between quotes at the end of a tag. -/
structure LinkText where
  front : List Char
  link : String
  back : List Char

/-- The text as it is written. -/
def LinkText.written (item : LinkText) : List Char :=
  item.front ++ (item.link.toList ++ ('"' :: '>' :: item.back))

/-- The markup that a text with a link should have. -/
structure LinkText.Reads (item : LinkText) (before after : List FoundMarkup) (tag : StartedTag)
    (name : List Char) : Prop where
  isOpening : tag.isClosing = false
  front : readMarkup .text item.front = (before, .quoted tag name '"' [])
  back : readMarkup .text item.back = (after, .text)

/-- The tag of a link. -/
def linkTag (tag : StartedTag) (name : List Char) (link : String) : FoundMarkup :=
  .opening (String.ofList tag.name) (tag.attributes ++ [(String.ofList name, link)])

variable {before after : List FoundMarkup} {item : LinkText}

/-- Up to the first quote of a link, its value is under way. -/
theorem readMarkup_front (h : item.Reads before after tag name) {cut : List Char} (hcut : '"' ∉ cut)
    (rest : List Char) :
    readMarkup .text (item.front ++ (cut ++ rest))
      = (before ++ (readMarkup (.quoted tag name '"' cut) rest).1,
          (readMarkup (.quoted tag name '"' cut) rest).2) := by
  have hvalue : readMarkup (.quoted tag name '"' []) cut = ([], .quoted tag name '"' cut) :=
    readMarkup_quoted hcut tag name []
  rw [readMarkup_append_of h.front, readMarkup_append_of hvalue, List.nil_append]

/-- A link without a quote is read as it is written. -/
theorem readMarkup_link (h : item.Reads before after tag name) (hquote : '"' ∉ item.link.toList)
    (rest : List Char) :
    readMarkup .text (item.written ++ rest)
      = (before ++ linkTag tag name item.link :: after ++ (readMarkup .text rest).1,
          (readMarkup .text rest).2) := by
  have hend : ∀ more, readMarkup (.quoted tag name '"' item.link.toList) ('"' :: '>' :: more)
      = (linkTag tag name item.link :: (readMarkup .text more).1, (readMarkup .text more).2) := by
    intro more
    have hclose : (MarkupMode.quoted tag name '"' item.link.toList).step '"'
        = ([], .behindValue (tag.add name item.link.toList)) := rfl
    have hfinish : (MarkupMode.behindValue (tag.add name item.link.toList)).step '>'
        = ([linkTag tag name item.link], .text) := by
      have htag : (tag.add name item.link.toList).finish = linkTag tag name item.link := by
        rw [StartedTag.finish, StartedTag.add, h.isOpening, if_neg Bool.false_ne_true, linkTag,
          String.ofList_toList]
      rw [← htag]
      rfl
    rw [readMarkup, hclose, readMarkup, hfinish]
    rfl
  rw [LinkText.written, List.append_assoc, List.append_assoc, readMarkup_front h hquote,
    List.cons_append, List.cons_append, hend, readMarkup_append_of h.back, List.append_assoc,
    List.cons_append]

/-- A link with a quote is read as another one, if it is read to its end. -/
theorem readMarkup_cutLink (h : item.Reads before after tag name) (hquote : '"' ∈ item.link.toList)
    (rest : List Char) (others : List FoundMarkup) (last : MarkupMode) :
    readMarkup .text (item.written ++ rest)
      ≠ (before ++ linkTag tag name item.link :: others, last) := by
  obtain ⟨cut, more, hlink, hcut⟩ := List.eq_append_cons_of_mem hquote
  have hclose : (MarkupMode.quoted tag name '"' cut).step '"'
      = ([], .behindValue (tag.add name cut)) := rfl
  -- the attribute ends at the quote, and stays in the tag whatever follows
  have hcarries : (MarkupMode.behindValue (tag.add name cut)).Carries
      (tag.add name cut).attributes := ⟨h.isOpening, List.prefix_refl _⟩
  intro heq
  rw [LinkText.written, hlink, List.append_assoc, List.append_assoc, List.append_assoc,
    readMarkup_front h hcut, List.cons_append, readMarkup, hclose, Prod.mk.injEq] at heq
  have hnext := List.append_cancel_left heq.1
  have hhead : linkTag tag name item.link
      ∈ (readMarkup (.behindValue (tag.add name cut))
          (more ++ ('"' :: '>' :: item.back ++ rest))).1.head? := by
    rw [List.nil_append] at hnext
    rw [hnext]
    rfl
  obtain ⟨other, all, hopening, hbegins⟩ := readMarkup_carries hcarries _ _ hhead
  obtain ⟨-, rfl⟩ := FoundMarkup.opening.inj hopening
  have hsame := (List.prefix_append_right_inj tag.attributes).mp hbegins
  obtain ⟨hvalue, -⟩ := List.cons_prefix_cons.mp hsame
  have htext : cut = item.link.toList := by
    rw [← (Prod.mk.inj hvalue).2, String.toList_ofList]
  exact hcut (htext ▸ hquote)

/-- Texts with a link each have the markup that they should have exactly if no link has a quote. -/
theorem readMarkup_items_iff {items : List LinkText} {rest : List Char} {others : List FoundMarkup}
    (h : ∀ item ∈ items, item.Reads before after tag name)
    (hrest : readMarkup .text rest = (others, last)) :
    readMarkup .text (items.flatMap LinkText.written ++ rest)
        = (items.flatMap (fun item => before ++ linkTag tag name item.link :: after) ++ others,
            last) ↔
      ∀ item ∈ items, '"' ∉ item.link.toList := by
  induction items with
  | nil => exact ⟨fun _ item hitem => absurd hitem List.not_mem_nil, fun _ => hrest⟩
  | cons item items ih =>
      obtain ⟨hitem, hitems⟩ := List.forall_mem_cons.mp h
      rw [List.forall_mem_cons, ← ih hitems, List.flatMap_cons, List.flatMap_cons,
        List.append_assoc, List.append_assoc]
      by_cases hquote : '"' ∈ item.link.toList
      · refine ⟨fun heq => ?_, fun heq => absurd hquote heq.1⟩
        rw [List.append_assoc, List.cons_append] at heq
        exact absurd heq (readMarkup_cutLink hitem hquote _ _ _)
      · rw [readMarkup_link hitem hquote, and_iff_right hquote]
        constructor
        · intro heq
          obtain ⟨hfound, hlast⟩ := Prod.mk.inj heq
          exact Prod.ext (List.append_cancel_left hfound) hlast
        · intro heq
          rw [heq]

end StaticSite.Html

namespace StaticSite.Template

open StaticSite.Html

variable {here : List String} {page : Post}

/-! ## Lists of links and links to style sheets -/

/-- The link from a page to a post, as it is written. -/
def postLink (here : List String) (page post : Post) : String :=
  (relativeLink? here page.uri post.uri).getD ""

/-- The markup that a list with these links should have. -/
def listMarkup (links : List String) : List FoundMarkup :=
  .opening "ul" [] :: (links.flatMap (fun link =>
      [.opening "li" [], .opening "a" [("href", link)], .closing "a", .closing "li"]) ++
    [.closing "ul"])

/-- The markup that the link to a style sheet should have. -/
def sheetMarkup (sheet : String) : FoundMarkup :=
  .opening "link" [("rel", "stylesheet"), ("type", "text/css"), ("href", sheet)]

/-- Escaped text has no markup. -/
theorem not_mem_escapeText (text : String) : '<' ∉ (escapeText text).toList := by
  rw [escapeText, String.toList_ofList, List.mem_flatMap]
  rintro ⟨c, -, hc⟩
  rw [escapeTextChar] at hc
  split at hc
  · rename_i hquote
    exact absurd ((List.mem_singleton.mp hc).trans hquote) (by decide)
  · rw [escapeChar] at hc
    split_ifs at hc with _ hopen
    · exact absurd hc (by decide)
    · exact absurd hc (by decide)
    · exact absurd hc (by decide)
    · exact hopen (List.mem_singleton.mp hc).symm

/-- The item for a post, cut at its link. -/
def itemText (here : List String) (page post : Post) : LinkText where
  front := "<li><a href=\"".toList
  link := postLink here page post
  back := (escapeText post.title ++ "</a></li>").toList

/-- The tags in which links are, without the links. -/
def anchorTag : StartedTag where
  isClosing := false
  name := "a".toList

def styleTag : StartedTag where
  isClosing := false
  name := "link".toList
  attributes := [("rel", "stylesheet"), ("type", "text/css")]

theorem reads_itemText (here : List String) (page post : Post) :
    (itemText here page post).Reads [.opening "li" []] [.closing "a", .closing "li"] anchorTag
      "href".toList := by
  have hfront : readMarkup .text "<li><a href=\"".toList
      = ([.opening "li" []], .quoted anchorTag "href".toList '"' []) := by
    decide +kernel
  have htitle : readMarkup .text (escapeText post.title).toList = ([], .text) :=
    readMarkup_of_not_mem (not_mem_escapeText post.title)
  have hback : readMarkup .text "</a></li>".toList = ([.closing "a", .closing "li"], .text) := by
    decide +kernel
  have hrest : readMarkup .text (escapeText post.title ++ "</a></li>").toList
      = ([.closing "a", .closing "li"], .text) := by
    rw [String.toList_append, readMarkup_append_of htitle, hback, List.nil_append]
  exact ⟨rfl, hfront, hrest⟩

/-- A link and the end of its tag. -/
theorem toList_linkEnd (front link : String) :
    (front ++ link ++ "\">").toList = front.toList ++ (link.toList ++ ['"', '>']) := by
  have hend : "\">".toList = ['"', '>'] := by decide +kernel
  rw [String.toList_append, String.toList_append, hend, List.append_assoc]

theorem toList_linkBack (front link title back : String) :
    (front ++ link ++ "\">" ++ title ++ back).toList
      = front.toList ++ (link.toList ++ ('"' :: '>' :: (title ++ back).toList)) := by
  rw [String.append_assoc, String.toList_append, toList_linkEnd, List.append_assoc,
    List.append_assoc]
  rfl

theorem written_itemText (here : List String) (page post : Post) :
    (itemText here page post).written = (listItem here page post).toList :=
  (toList_linkBack _ _ _ _).symm

/-- A list of posts has one link for each post and no other markup exactly if no link has a
quote. -/
theorem markup_list_iff (here : List String) (page : Post) (posts : List Post) :
    readMarkup .text
        ("<ul>" ++ String.join (posts.map (listItem here page)) ++ "</ul>").toList
        = (listMarkup (posts.map (postLink here page)), .text) ↔
      ∀ post ∈ posts, '"' ∉ (postLink here page post).toList := by
  have hwritten : ("<ul>" ++ String.join (posts.map (listItem here page)) ++ "</ul>").toList
      = "<ul>".toList ++ ((posts.map (itemText here page)).flatMap LinkText.written ++
          "</ul>".toList) := by
    rw [String.toList_append, String.toList_append, String.toList_join, List.flatMap_map,
      List.flatMap_map, List.append_assoc]
    simp only [written_itemText]
  have hmarkup : listMarkup (posts.map (postLink here page))
      = .opening "ul" [] :: ((posts.map (itemText here page)).flatMap (fun item =>
          [FoundMarkup.opening "li" []] ++
            linkTag anchorTag "href".toList item.link :: [.closing "a", .closing "li"]) ++
          [FoundMarkup.closing "ul"]) := by
    rw [listMarkup, List.flatMap_map, List.flatMap_map]
    rfl
  have hopen : readMarkup .text "<ul>".toList = ([.opening "ul" []], .text) := by decide +kernel
  have hclose : readMarkup .text "</ul>".toList = ([.closing "ul"], .text) := by decide +kernel
  have hitems : ∀ item ∈ posts.map (itemText here page), item.Reads [.opening "li" []]
      [.closing "a", .closing "li"] anchorTag "href".toList := by
    intro item hitem
    obtain ⟨post, -, rfl⟩ := List.mem_map.mp hitem
    exact reads_itemText here page post
  have hall := readMarkup_items_iff hitems hclose
  rw [List.forall_mem_map, Prod.ext_iff] at hall
  rw [hwritten, readMarkup_append_of hopen, hmarkup, Prod.ext_iff, List.singleton_append,
    List.cons.injEq, and_iff_right rfl]
  exact hall

/-- The link to a style sheet, cut at its address. -/
def sheetText (sheet : String) : LinkText where
  front := "<link rel=\"stylesheet\" type=\"text/css\" href=\"".toList
  link := sheet
  back := []

theorem written_sheetText (sheet : String) :
    (sheetText sheet).written = (sheetLink sheet).toList :=
  (toList_linkEnd _ sheet).symm

/-- The links to style sheets have no other markup exactly if no address has a quote. -/
theorem markup_sheets_iff (sheets : List String) :
    readMarkup .text (String.join (sheets.map sheetLink)).toList
        = (sheets.map sheetMarkup, .text) ↔
      ∀ sheet ∈ sheets, '"' ∉ sheet.toList := by
  have hwritten : (String.join (sheets.map sheetLink)).toList
      = (sheets.map sheetText).flatMap LinkText.written ++ [] := by
    rw [String.toList_join, List.flatMap_map, List.flatMap_map, List.append_nil]
    simp only [written_sheetText]
  have hmarkup : sheets.map sheetMarkup = (sheets.map sheetText).flatMap (fun item =>
      [] ++ linkTag styleTag "href".toList item.link :: []) ++ [] := by
    rw [List.flatMap_map, List.append_nil]
    exact (List.flatMap_pure_eq_map _ _).symm
  have hfront : readMarkup .text
      "<link rel=\"stylesheet\" type=\"text/css\" href=\"".toList
        = ([], .quoted styleTag "href".toList '"' []) := by
    decide +kernel
  have hitems : ∀ item ∈ sheets.map sheetText, item.Reads [] [] styleTag "href".toList := by
    intro item hitem
    obtain ⟨sheet, -, rfl⟩ := List.mem_map.mp hitem
    exact ⟨rfl, hfront, rfl⟩
  have hend : readMarkup .text [] = ([], .text) := rfl
  have hall := readMarkup_items_iff hitems hend
  rw [List.forall_mem_map] at hall
  rw [hwritten, hmarkup]
  exact hall

end StaticSite.Template
