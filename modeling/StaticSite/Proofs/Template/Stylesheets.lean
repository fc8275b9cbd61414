import StaticSite.Proofs.File.Spelling
import StaticSite.Template.Basic

/-!
# Style sheets of a page

A directive puts in the links to the style sheets of a page. A style sheet should be one of the page
if its directory is the directory of the page or one above it. The directive goes by characters and
not by names: it asks whether the address of the page begins with the text of the directory. So all
style sheets that should be linked are linked, but a directory counts as one above the page also if
its last name is only the beginning of a name in the address.

## What this module delivers

- `joinWith_prefix_iff`: when a text of names begins with another one.
- `directoryOf`, `IsAbove`, `IsStray`: directories above a page, and those that are taken for one.
- `stylesheetLinks_eq`: the links are those of the style sheets that pass the test, in order.
- `stylesheets_linked`: exactly which style sheets are linked.
- `stylesheets_stray`: a page that gets the style sheet of another directory.
-/

set_option autoImplicit false

namespace StaticSite.Text

/-! ## Texts that begin alike -/

variable {c : Char} {s t : List Char} {names others : List (List Char)}

/-- A text without a separator begins with another one up to the first separator, if at all. -/
theorem prefix_append_cons_iff (hs : c ∉ s) (rest : List Char) :
    s <+: t ++ c :: rest ↔ s <+: t := by
  refine ⟨fun h => ?_, fun h => h.trans (List.prefix_append t _)⟩
  rcases Nat.lt_or_ge t.length s.length with hlonger | hle
  · -- a longer text would have the separator
    have hend : t ++ [c] <+: t ++ c :: rest := ⟨rest, by simp⟩
    have hinside : t ++ [c] <+: s :=
      List.prefix_of_prefix_length_le hend h (by simp; omega)
    exact absurd (hinside.subset (by simp)) hs
  · exact List.prefix_of_prefix_length_le h (List.prefix_append t _) hle

/-- Texts that begin alike up to a separator have the same first name. -/
theorem append_cons_prefix_iff (hs : c ∉ s) (ht : c ∉ t) (x y : List Char) :
    s ++ c :: x <+: t ++ c :: y ↔ s = t ∧ x <+: y := by
  constructor
  · rintro ⟨more, h⟩
    rw [List.append_assoc, List.cons_append] at h
    have hpieces := congrArg (splitAt c) h
    rw [splitAt_append hs, splitAt_append ht] at hpieces
    obtain rfl := (List.cons.inj hpieces).1
    exact ⟨rfl, more, (List.cons.inj (List.append_cancel_left h)).2⟩
  · rintro ⟨rfl, more, rfl⟩
    exact ⟨more, by simp⟩

/-- A text of one name begins the texts of names whose first name it begins. -/
theorem joinWith_singleton_prefix_iff {first other : List Char} (hfirst : c ∉ first)
    (others : List (List Char)) :
    joinWith [c] [first] <+: joinWith [c] (other :: others) ↔ first <+: other := by
  cases others with
  | nil => rfl
  | cons second others =>
      rw [joinWith_cons_cons]
      exact prefix_append_cons_iff hfirst _

/-- A text of more names than one begins with its first name, as a whole. -/
theorem joinWith_cons_cons_prefix_iff {first second other : List Char} (hfirst : c ∉ first)
    (hother : c ∉ other) :
    joinWith [c] (first :: second :: names) <+: joinWith [c] (other :: others) ↔
      others ≠ [] ∧ first = other ∧ joinWith [c] (second :: names) <+: joinWith [c] others := by
  cases others with
  | nil =>
      -- a single name has no separator
      rw [joinWith_cons_cons]
      refine ⟨fun h => absurd (h.subset (by simp)) hother, fun h => absurd rfl h.1⟩
  | cons third others =>
      rw [joinWith_cons_cons, joinWith_cons_cons, append_cons_prefix_iff hfirst hother]
      simp

/-- A text of names begins with another one exactly if its names do, where the last name of the
other text may be the beginning of a name. -/
theorem joinWith_prefix_iff (hnames : ∀ name ∈ names, c ∉ name)
    (hothers : ∀ name ∈ others, c ∉ name) (hne : others ≠ []) :
    joinWith [c] names <+: joinWith [c] others ↔
      names = [] ∨ ∃ before last name behind,
        names = before ++ [last] ∧ others = before ++ name :: behind ∧ last <+: name := by
  induction names generalizing others with
  | nil => simp [joinWith]
  | cons first names ih =>
      obtain ⟨other, others, rfl⟩ := List.exists_cons_of_ne_nil hne
      have hfirst := hnames first List.mem_cons_self
      have hother := hothers other List.mem_cons_self
      cases names with
      | nil =>
          rw [joinWith_singleton_prefix_iff hfirst]
          constructor
          · exact fun h => .inr ⟨[], first, other, others, rfl, rfl, h⟩
          · rintro (h | ⟨before, last, name, behind, hsplit, hsplit', h⟩)
            · exact absurd h (by simp)
            · obtain ⟨rfl, rfl⟩ : before = [] ∧ last = first := by
                cases before <;> simp_all
              obtain ⟨rfl, rfl⟩ := List.cons.inj hsplit'
              exact h
      | cons second names =>
          have hrest : ∀ name ∈ second :: names, c ∉ name :=
            fun name hname => hnames name (List.mem_cons_of_mem first hname)
          rw [joinWith_cons_cons_prefix_iff hfirst hother]
          constructor
          · rintro ⟨hne', rfl, h⟩
            have hothers' : ∀ name ∈ others, c ∉ name :=
              fun name hname => hothers name (List.mem_cons_of_mem first hname)
            rcases (ih hrest hothers' hne').mp h with hnil |
              ⟨before, last, name, behind, hsplit, hsplit', hlast⟩
            · exact absurd hnil (by simp)
            · exact .inr ⟨first :: before, last, name, behind, by rw [hsplit]; rfl,
                by rw [hsplit']; rfl, hlast⟩
          · rintro (h | ⟨before, last, name, behind, hsplit, hsplit', hlast⟩)
            · exact absurd h (by simp)
            · cases before with
              | nil => exact absurd hsplit (by simp)
              | cons head before =>
                  obtain ⟨rfl, hnames'⟩ := List.cons.inj hsplit
                  obtain ⟨rfl, rfl⟩ := List.cons.inj hsplit'
                  have hothers' : ∀ other ∈ before ++ name :: behind, c ∉ other :=
                    fun piece hpiece => hothers piece (List.mem_cons_of_mem _ hpiece)
                  have hne' : before ++ name :: behind ≠ [] := by simp
                  exact ⟨hne', rfl, (ih hrest hothers' hne').mpr
                    (.inr ⟨before, last, name, behind, hnames', rfl, hlast⟩)⟩

end StaticSite.Text

namespace StaticSite.Template

open StaticSite.Text

/-! ## Directories of addresses -/

/-- The names in an address, the last one that of the page. An address that begins with a slash has
an empty name in front. -/
def namesOf (address : String) : List (List Char) :=
  splitAt '/' address.toList

/-- The names of the directory that an address is in. -/
def directoryOf (address : String) : List (List Char) :=
  (namesOf address).dropLast

/-- The directory of a style sheet is that of a page or one above it. -/
def IsAbove (sheet address : String) : Prop :=
  directoryOf sheet <+: directoryOf address

/-- The directory of a style sheet is not above a page, but would be if its last name went on: it
stands beside a directory above the page, or beside the page or in its place, and its last name
begins like the name there. -/
def IsStray (sheet address : String) : Prop :=
  ∃ before last name behind, directoryOf sheet = before ++ [last] ∧
    namesOf address = before ++ name :: behind ∧ last <+: name ∧ (last = name → behind = [])

variable {sheet address : String}

instance (sheet address : String) : Decidable (IsAbove sheet address) :=
  inferInstanceAs (Decidable (directoryOf sheet <+: directoryOf address))

/-- The text of a directory begins an address exactly if it is above the page or taken for that. -/
theorem directory_prefix_iff :
    (cutAtLast? '/' sheet.toList).elim [] (·.1) <+: address.toList ↔
      IsAbove sheet address ∨ IsStray sheet address := by
  have hsheet : ∀ name ∈ directoryOf sheet, '/' ∉ name := fun name hname =>
    not_mem_of_mem_splitAt ((List.dropLast_sublist (namesOf sheet)).subset hname)
  have hall : ∀ name ∈ namesOf address, '/' ∉ name := fun name hname =>
    not_mem_of_mem_splitAt hname
  have hne : namesOf address ≠ [] := splitAt_ne_nil '/' address.toList
  have htext : joinWith ['/'] (namesOf address) = address.toList := joinWith_splitAt '/' _
  rw [cutAtLast?_elim, ← htext]
  refine (joinWith_prefix_iff hsheet hall hne).trans ?_
  constructor
  · rintro (hempty | ⟨before, last, name, behind, hsplit, hsplit', hlast⟩)
    · exact .inl (by rw [IsAbove, hempty]; exact List.nil_prefix)
    · by_cases hsame : last = name → behind = []
      · exact .inr ⟨before, last, name, behind, hsplit, hsplit', hlast, hsame⟩
      · -- the last name is that of a directory above the page
        obtain ⟨rfl, hbehind⟩ := Classical.not_imp.mp hsame
        refine .inl ?_
        rw [IsAbove, directoryOf, directoryOf, hsplit',
          List.dropLast_append_of_ne_nil (List.cons_ne_nil last behind),
          List.dropLast_cons_of_ne_nil hbehind,
          show (namesOf sheet).dropLast = before ++ [last] from hsplit]
        exact ⟨behind.dropLast, List.append_assoc before [last] behind.dropLast⟩
  · rintro (habove | ⟨before, last, name, behind, hsplit, hsplit', hlast, -⟩)
    · rcases List.eq_nil_or_concat (directoryOf sheet) with hempty | ⟨before, last, hsplit⟩
      · exact .inl hempty
      · rw [List.concat_eq_append] at hsplit
        obtain ⟨behind, hbehind⟩ := habove.trans (List.dropLast_prefix (namesOf address))
        refine .inr ⟨before, last, last, behind, hsplit, ?_, List.prefix_refl last⟩
        rw [← hbehind, hsplit, List.append_assoc, List.singleton_append]
    · exact .inr ⟨before, last, name, behind, hsplit, hsplit', hlast⟩

/-- A directory that is only taken for one above a page is none. -/
theorem not_isAbove_of_isStray (h : IsStray sheet address) : ¬ IsAbove sheet address := by
  obtain ⟨before, last, name, behind, hsplit, hsplit', -, hsame⟩ := h
  rintro ⟨more, hmore⟩
  rw [directoryOf, directoryOf, hsplit',
    List.dropLast_append_of_ne_nil (List.cons_ne_nil name behind),
    show (namesOf sheet).dropLast = before ++ [last] from hsplit, List.append_assoc,
    List.singleton_append] at hmore
  have hbehind := List.append_cancel_left hmore
  cases behind with
  | nil => exact absurd hbehind (by simp)
  | cons next behind => exact absurd (hsame (List.cons.inj hbehind).1) (by simp)

/-! ## Links -/

/-- The link to a style sheet, as it is written on a page. -/
def sheetLink (sheet : String) : String :=
  "<link rel=\"stylesheet\" type=\"text/css\" href=\"" ++ sheet ++ "\">"

open Classical in
/-- The links are those to the style sheets in directories above the page and to those in stray
ones, each in its place. -/
theorem stylesheetLinks_eq (page : Post) (sheets : List String) :
    stylesheetLinks page sheets = String.join ((sheets.filter fun sheet =>
      IsAbove sheet page.uri ∨ IsStray sheet page.uri).map sheetLink) := by
  rw [stylesheetLinks, ← List.filterMap_eq_map, List.filterMap_filter]
  congr 2
  funext sheet
  have hpasses : ((cutAtLast? '/' sheet.toList).elim [] (·.1)).isPrefixOf page.uri.toList = true ↔
      decide (IsAbove sheet page.uri ∨ IsStray sheet page.uri) = true := by
    rw [List.isPrefixOf_iff_prefix, decide_eq_true_iff]
    exact directory_prefix_iff
  exact ite_congr (propext hpasses) (fun _ => rfl) (fun _ => rfl)

/-- What the directive for style sheets links on a page. -/
structure LinksSheets (template : Template) (context : FillContext) (page : Post)
    (linked : List String) : Prop where
  /-- The directive means a link to each of the style sheets and nothing else. -/
  value : template.evaluate context page .stylesheets
    = pure (some (String.join (linked.map sheetLink)))
  /-- The style sheets are linked in the order in which they are given, each as often as it is
  given. -/
  order : linked = context.stylesheets.filter fun sheet => decide (sheet ∈ linked)
  /-- The style sheets of the page's directory and of those above it are linked. -/
  above : ∀ sheet ∈ context.stylesheets, IsAbove sheet page.uri → sheet ∈ linked
  /-- All others are in directories that are taken for one above the page and are none. -/
  others : ∀ sheet ∈ context.stylesheets, ¬ IsAbove sheet page.uri →
    (sheet ∈ linked ↔ IsStray sheet page.uri)
  /-- Where no directory is taken for one above the page, the style sheets are the right ones. -/
  noStray : (∀ sheet ∈ context.stylesheets, ¬ IsStray sheet page.uri) →
    linked = context.stylesheets.filter fun sheet => decide (IsAbove sheet page.uri)

/-- The style sheets of a page are those in directories above it and those in directories whose last
name is the beginning of a name in its address. -/
theorem stylesheets_linked (template : Template) (context : FillContext) (page : Post) :
    ∃ linked, LinksSheets template context page linked := by
  classical
  let isLinked (sheet : String) : Prop := IsAbove sheet page.uri ∨ IsStray sheet page.uri
  let linked := context.stylesheets.filter fun sheet => isLinked sheet
  have hmem : ∀ sheet ∈ context.stylesheets, sheet ∈ linked ↔ isLinked sheet := by
    intro sheet hsheet
    rw [List.mem_filter, and_iff_right hsheet, decide_eq_true_iff]
  refine ⟨linked, ?_, ?_, ?_, ?_, ?_⟩
  · rw [evaluate, stylesheetLinks_eq]
  · refine List.filter_congr fun sheet hsheet => ?_
    rw [Bool.eq_iff_iff, decide_eq_true_iff, decide_eq_true_iff]
    exact (hmem sheet hsheet).symm
  · exact fun sheet hsheet habove => (hmem sheet hsheet).mpr (.inl habove)
  · exact fun sheet hsheet habove => (hmem sheet hsheet).trans (or_iff_right habove)
  · intro hnone
    refine List.filter_congr fun sheet hsheet => ?_
    rw [Bool.eq_iff_iff, decide_eq_true_iff, decide_eq_true_iff]
    exact or_iff_left (hnone sheet hsheet)

/-! ## A directory with a longer name -/

/-- A page in a directory whose name begins with that of another directory. -/
def bloggingPage : Post where
  path := { segments := ["content", "blogging", "a.md"] }
  date := { year := 1970, month := 1, day := 1 }
  updated := { year := 1970, month := 1, day := 1 }
  uri := "/blogging/a.html"

/-- A template, and the style sheet of the other directory. -/
def sheetTemplate : Template where
  pieces := []
  root := { segments := ["content"] }
  rawExtensions := []

def sheetContext : FillContext where
  stylesheets := ["/blog/style.css"]
  render := id
  store := { tree := .directory [] }

/-- The style sheet of a directory is linked on a page of another one, which is not below it. -/
theorem stylesheets_stray :
    directoryOf "/blog/style.css" = [[], "blog".toList] ∧
    directoryOf bloggingPage.uri = [[], "blogging".toList] ∧
    ¬ IsAbove "/blog/style.css" bloggingPage.uri ∧
    sheetTemplate.evaluate sheetContext bloggingPage .stylesheets
      = pure (some "<link rel=\"stylesheet\" type=\"text/css\" href=\"/blog/style.css\">") := by
  refine ⟨by decide, by decide, by decide, ?_⟩
  rfl

end StaticSite.Template
