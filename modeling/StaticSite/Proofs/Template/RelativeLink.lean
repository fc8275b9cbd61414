import StaticSite.Proofs.Template.LinkTarget

/-!
# The shortest way from page to page

The link from one page to another is followed from the directory of the page: it takes the place of
the last segment of the page's address, and what is written then is read segment by segment. It
leads to the other page, and it goes back no further than it has to, which is to the last directory
that is on the ways to both.

This holds for pages at any depth, for a page at the top, for a target that is itself a directory
over the page, and for names that begin like others.

## What this module delivers

- `segments`, `IsPlaced`: addresses, segment by segment.
- `followed`, `normalised`: a link seen from an address, and where it leads.
- `IsCommonWay`: how far two ways go together.
- `Connects`, `relativeLink?_connects`: the link between two pages.
-/

set_option autoImplicit false

namespace StaticSite.Template

open StaticSite.Text StaticSite.File StaticSite.Url

/-! ## Segments -/

/-- What slashes separate in an address. -/
def segments (address : String) : List String :=
  (splitAt '/' address.toList).map String.ofList

/-- An address that leads down from the top of the site, with nothing in it that leads nowhere or
back. -/
structure IsPlaced (address : String) : Prop where
  /-- A slash comes first. -/
  fromTop : (segments address).head? = some ""
  /-- Something follows the slash. -/
  someName : (segments address).tail ≠ []
  plain : ∀ name ∈ (segments address).tail, name ≠ "" ∧ name ≠ "." ∧ name ≠ ".."

/-- What a text that ends in another one is cut into. -/
theorem splitAt_joinWith_concat {c : Char} {pieces : List (List Char)}
    (h : ∀ piece ∈ pieces, c ∉ piece) (last : List Char) :
    splitAt c (joinWith [c] (pieces ++ [last])) = pieces ++ splitAt c last := by
  induction pieces with
  | nil => rfl
  | cons piece rest ih =>
      obtain ⟨hpiece, hrest⟩ := List.forall_mem_cons.mp h
      have hsome : rest ++ [last] ≠ [] :=
        List.append_ne_nil_of_right_ne_nil rest (List.cons_ne_nil last [])
      obtain ⟨second, others, hnames⟩ := List.exists_cons_of_ne_nil hsome
      rw [List.cons_append, hnames, joinWith_cons_cons, ← hnames, splitAt_append hpiece, ih hrest,
        List.cons_append]

theorem toList_segments (address : String) :
    (segments address).map String.toList = splitAt '/' address.toList := by
  rw [segments, List.map_map]
  simp

theorem noSlash_of_mem_segments {address name : String} (h : name ∈ segments address) :
    '/' ∉ name.toList := by
  apply not_mem_of_mem_splitAt (s := address.toList)
  rw [← toList_segments]
  exact List.mem_map_of_mem h

/-- Names with slashes between them have the segments of the last one in the end. -/
theorem segments_intercalate_concat {names : List String}
    (h : ∀ name ∈ names, '/' ∉ name.toList) (last : String) :
    segments (String.intercalate "/" (names ++ [last])) = names ++ segments last := by
  have hpieces : ∀ piece ∈ names.map String.toList, '/' ∉ piece := by
    intro piece hpiece
    obtain ⟨name, hname, rfl⟩ := List.mem_map.mp hpiece
    exact h name hname
  rw [segments, toList_intercalate, List.map_append, List.map_singleton,
    splitAt_joinWith_concat hpieces, List.map_append, List.map_map]
  simp [segments]

theorem segments_of_noSlash {name : String} (h : '/' ∉ name.toList) : segments name = [name] := by
  rw [segments, splitAt_of_not_mem h, List.map_singleton, String.ofList_toList]

/-- Names are the segments of what is written for them. -/
theorem segments_intercalate {names : List String} (h : ∀ name ∈ names, '/' ∉ name.toList)
    (hne : names ≠ []) : segments (String.intercalate "/" names) = names := by
  obtain ⟨front, last, rfl⟩ := List.eq_nil_or_concat names |>.resolve_left hne
  rw [List.concat_eq_append] at h ⊢
  rw [segments_intercalate_concat fun name hname => h name (List.mem_append_left _ hname),
    segments_of_noSlash (h last (by simp))]

/-- An address without empty segments does not begin with a slash. -/
theorem head?_ne_slash {address : String} (h : "" ∉ segments address) :
    address.toList.head? ≠ some '/' := by
  intro hslash
  obtain ⟨rest, hchars⟩ := List.head?_eq_some_iff.mp hslash
  apply h
  rw [segments, hchars, ← List.nil_append ('/' :: rest), splitAt_append List.not_mem_nil]
  exact List.mem_cons_self

/-! ## Placed addresses -/

section

variable {address : String} (h : IsPlaced address)

include h

theorem IsPlaced.segments_eq : segments address = "" :: (segments address).tail := by
  obtain ⟨rest, hrest⟩ := List.head?_eq_some_iff.mp h.fromTop
  rw [hrest, List.tail_cons]

theorem IsPlaced.areProper : AreProper (segments address).tail := by
  intro name hname
  obtain ⟨hempty, hdot, hback⟩ := h.plain name hname
  exact ⟨⟨hempty, hdot, noSlash_of_mem_segments (List.mem_of_mem_tail hname)⟩, hback⟩

/-- A placed address is told by its names. -/
theorem IsPlaced.eq_addressOf : address = addressOf (segments address).tail := by
  apply String.toList_inj.mp
  obtain ⟨name, rest, hnames⟩ := List.exists_cons_of_ne_nil h.someName
  have hpieces := toList_segments address
  rw [h.segments_eq, hnames, List.map_cons, List.map_cons] at hpieces
  rw [toList_addressOf, toList_intercalate, hnames, List.map_cons, ← joinWith_splitAt '/'
    address.toList, ← hpieces, joinWith_cons_cons]
  rfl

end

/-! ## Following links -/

/-- Where a segment leads from a place: `.` and an empty one lead nowhere, and `..` leads back. -/
def walk (place : List String) (segment : String) : List String :=
  if segment = "" ∨ segment = "." then place
  else if segment = ".." then place.dropLast
  else place ++ [segment]

/-- The address of where an address leads from the top. -/
def normalised (address : String) : String :=
  addressOf ((segments address).foldl walk [])

/-- A link as an address, in the directory of the address that it is seen from. -/
def followed (source link : String) : String :=
  String.intercalate "/" ((segments source).dropLast ++ [link])

theorem segments_followed (source link : String) :
    segments (followed source link) = (segments source).dropLast ++ segments link := by
  apply segments_intercalate_concat
  intro name hname
  exact noSlash_of_mem_segments ((List.dropLast_sublist _).subset hname)

/-- Names lead down. -/
theorem foldl_walk_down {names : List String} (h : AreProper names) (place : List String) :
    names.foldl walk place = place ++ names := by
  induction names generalizing place with
  | nil => exact (List.append_nil place).symm
  | cons name rest ih =>
      obtain ⟨⟨hname, hback⟩, hrest⟩ := List.forall_mem_cons.mp h
      have hstep : walk place name = place ++ [name] := by
        rw [walk, if_neg (not_or.mpr ⟨hname.notEmpty, hname.notDot⟩), if_neg hback]
      rw [List.foldl_cons, hstep, ih hrest, List.append_assoc, List.singleton_append]

/-- As many steps back as there are names lead back over these. -/
theorem foldl_walk_up (common up : List String) :
    (List.replicate up.length "..").foldl walk (common ++ up) = common := by
  induction up using List.reverseRecOn with
  | nil => exact List.append_nil common
  | append_singleton front last ih =>
      have hback : walk (common ++ (front ++ [last])) ".." = common ++ front := by
        rw [walk, if_neg (by decide), if_pos rfl, ← List.append_assoc, List.dropLast_concat]
      rw [List.length_append, List.length_singleton, List.replicate_succ, List.foldl_cons, hback,
        ih]

/-! ## The link between two pages -/

/-- How far two ways from the top go together. -/
structure IsCommonWay (common way other : List String) : Prop where
  onWay : common <+: way
  onOther : common <+: other
  longest : ∀ front, front <+: way → front <+: other → front <+: common

/-- Ways go together up to where they part. -/
theorem isCommonWay_append {up down : List String} (common : List String)
    (hpart : ∀ front, front <+: up → front <+: down → front = []) :
    IsCommonWay common (common ++ up) (common ++ down) := by
  refine ⟨List.prefix_append common up, List.prefix_append common down, ?_⟩
  intro front hup hdown
  rcases List.prefix_or_prefix_of_prefix hup (List.prefix_append common up) with hfront | hfront
  · exact hfront
  · -- what goes beyond the common way would be on both of the others
    obtain ⟨more, rfl⟩ := hfront
    rw [List.prefix_append_right_inj] at hup hdown
    have hnone : common ++ more = common := by
      rw [hpart more hup hdown, List.append_nil]
    exact ⟨[], (List.append_nil _).trans hnone⟩

/-- A link connects an address with another one: it is seen from the directory of the first, leads
to the second, and goes back no further than it has to. -/
structure Connects (source link target : String) : Prop where
  noSlash : link.toList.head? ≠ some '/'
  leads : normalised (followed source link) = target
  /-- The steps back come first, one for each name of the directory that is not on the way. -/
  climbs : ∃ common down,
    IsCommonWay common (segments source).tail.dropLast (segments target).tail ∧
      segments link
        = List.replicate ((segments source).tail.dropLast.length - common.length) ".." ++ down ∧
      ".." ∉ down

/-- The segments of the link between two pages: steps back, and then names or a single dot. -/
theorem segments_relativeLink (up : List String) {down : List String} (hdown : AreProper down) :
    ∃ rest, segments (if up = [] ∧ down = [] then "."
        else String.intercalate "/" (List.replicate up.length ".." ++ down))
          = List.replicate up.length ".." ++ rest ∧
      "" ∉ rest ∧ ".." ∉ rest ∧ ∀ place, rest.foldl walk place = place ++ down := by
  split
  · rename_i hnone
    obtain ⟨rfl, rfl⟩ := hnone
    refine ⟨["."], segments_of_noSlash (by decide), by decide, by decide, fun place => ?_⟩
    exact (List.append_nil place).symm
  · rename_i hsome
    refine ⟨down, segments_intercalate ?_ ?_, ?_, ?_, foldl_walk_down hdown⟩
    · intro name hname
      rcases List.mem_append.mp hname with hup | hname
      · rw [List.eq_of_mem_replicate hup]
        decide
      · exact (hdown name hname).1.noSlash
    · intro hempty
      obtain ⟨hup, hnames⟩ := List.append_eq_nil_iff.mp hempty
      have hlength : up.length = 0 := by simpa using congrArg List.length hup
      exact hsome ⟨List.length_eq_zero_iff.mp hlength, hnames⟩
    · exact fun hname => (hdown "" hname).1.notEmpty rfl
    · exact fun hname => (hdown ".." hname).2 rfl

/-- Between any two placed addresses there is a link, and it is the shortest way. -/
theorem relativeLink?_connects {source target : String} (hsource : IsPlaced source)
    (htarget : IsPlaced target) (here : List String) :
    ∃ link, relativeLink? here source target = some link ∧ Connects source link target := by
  obtain ⟨common, up, down, hup, hdown, hpart, hlink⟩ :=
    relativeLink?_addressOf here hsource.areProper hsource.someName htarget.areProper
  rw [← hsource.eq_addressOf, ← htarget.eq_addressOf] at hlink
  have hproper : AreProper down := fun name hname =>
    htarget.areProper name (hdown ▸ List.mem_append_right common hname)
  obtain ⟨rest, hsegments, hempty, hback, hrest⟩ := segments_relativeLink up hproper
  refine ⟨_, hlink, ?_, ?_, common, rest, ?_, ?_, hback⟩
  · apply head?_ne_slash
    rw [hsegments]
    intro hname
    rcases List.mem_append.mp hname with hname | hname
    · exact absurd (List.eq_of_mem_replicate hname) (by decide)
    · exact hempty hname
  · -- down into the directory, back over `up`, and down again
    have hdirectory : AreProper (common ++ up) := fun name hname =>
      hsource.areProper name ((List.dropLast_sublist _).subset (hup ▸ hname))
    have htop : (segments source).dropLast = "" :: (common ++ up) := by
      rw [hsource.segments_eq, List.dropLast_cons_of_ne_nil hsource.someName, hup]
    have hstart : walk [] "" = [] := rfl
    rw [normalised, segments_followed, hsegments, htop, List.foldl_append, List.foldl_cons, hstart,
      foldl_walk_down hdirectory, List.nil_append, List.foldl_append, foldl_walk_up, hrest, ← hdown,
      ← htarget.eq_addressOf]
  · rw [hup, hdown]
    exact isCommonWay_append common hpart
  · rw [hsegments, hup, List.length_append, Nat.add_sub_cancel_left]

/-- The address of a page and one whose names begin like names of the first. -/
theorem relativeLink?_connects_blog :
    IsPlaced "/blog/2021/post.html" ∧ IsPlaced "/blog/20" ∧
      Connects "/blog/2021/post.html" "../20" "/blog/20" := by
  have hsource : IsPlaced "/blog/2021/post.html" := ⟨by decide, by decide, by decide⟩
  have htarget : IsPlaced "/blog/20" := ⟨by decide, by decide, by decide⟩
  refine ⟨hsource, htarget, ?_⟩
  obtain ⟨link, hlink, hconnects⟩ := relativeLink?_connects hsource htarget []
  have hvalue : relativeLink? [] "/blog/2021/post.html" "/blog/20" = some "../20" := by decide
  rw [hvalue] at hlink
  obtain rfl := Option.some.inj hlink
  exact hconnects

/-- A directory over the page. -/
example : relativeLink? [] "/blog/2021/post.html" "/blog" = some ".." := by decide

end StaticSite.Template
