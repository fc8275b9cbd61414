import StaticSite.Proofs.File.Spelling
import StaticSite.Proofs.Site.Sources
import StaticSite.Site.Plan

/-!
# Where pages are

The page of a post is in the same directory of the target as its file is in the sources, under the
name of the file with another extension. The address of the post says the same: read as a path from
the target, without the slash that it begins with, it is the path of the page.

## What this module delivers

- `Path.relativeTo?_under`, `Path.join_relative`: paths below a directory, and back.
- `Path.stem_spec`: what is left of a name without its extension.
- `pageNames`: the names that lead to a page.
- `pagePlace_under`, `child_uri`: the path of a page, by its file and by its address.
-/

set_option autoImplicit false

namespace StaticSite

open StaticSite.File StaticSite.Text

/-! ## Relative paths -/

namespace File.Path

/-- Names that are added to a path are the path relative to it. -/
theorem relativeTo?_under (root : Path) (names : List String) :
    (root.under names).relativeTo? root = some { segments := names } := by
  have hpre : root.segments.isPrefixOf (root.segments ++ names) = true :=
    List.isPrefixOf_iff_prefix.mpr (List.prefix_append root.segments names)
  rw [relativeTo?, under]
  simp [hpre]

theorem join_relative (p : Path) (names : List String) :
    p.join { segments := names } = p.under names := by
  rw [join, isAbsolute, under]
  simp

/-! ## Names without their extension -/

theorem cutAtLast?_eq_some {c : Char} {s : List Char} :
    ∀ {before after : List Char}, cutAtLast? c s = some (before, after) →
      s = before ++ c :: after := by
  induction s with
  | nil =>
      intro before after h
      exact absurd h (by simp [cutAtLast?])
  | cons d rest ih =>
      intro before after h
      rw [cutAtLast?] at h
      cases hrest : cutAtLast? c rest with
      | some cut =>
          obtain ⟨front, back⟩ := cut
          simp only [hrest, Option.some.injEq, Prod.mk.injEq] at h
          obtain ⟨rfl, rfl⟩ := h
          rw [ih hrest, List.cons_append]
      | none =>
          simp only [hrest] at h
          by_cases hd : d = c
          · rw [if_pos hd, Option.some.injEq, Prod.mk.injEq] at h
            obtain ⟨rfl, rfl⟩ := h
            rw [hd, List.nil_append]
          · rw [if_neg hd] at h
            exact absurd h (by simp)

/-- A name without its extension is a front of the name, and is empty only if the name is. -/
theorem stem_spec (p : Path) :
    p.stem.toList <+: p.name.toList ∧ (p.stem = "" → p.name = "") := by
  rw [stem]
  cases hsplit : splitName? p.name.toList with
  | none => exact ⟨List.prefix_refl _, id⟩
  | some parts =>
      obtain ⟨front, back⟩ := parts
      rw [splitName?] at hsplit
      cases hcut : cutAtLast? '.' p.name.toList with
      | none => simp [hcut] at hsplit
      | some cut =>
          obtain ⟨before, after⟩ := cut
          cases before with
          | nil => simp [hcut] at hsplit
          | cons first others =>
              cases after with
              | nil => simp [hcut] at hsplit
              | cons second more =>
                  simp only [hcut, Option.some.injEq, Prod.mk.injEq] at hsplit
                  obtain ⟨rfl, rfl⟩ := hsplit
                  rw [cutAtLast?_eq_some hcut]
                  refine ⟨?_, ?_⟩
                  · simp only [String.toList_ofList]
                    exact List.prefix_append _ _
                  · intro hempty
                    have hlist := congrArg String.toList hempty
                    simp at hlist

/-- A path gets another extension if it has a name and the extension is one. -/
theorem withExtension?_eq_some {p q : Path} {extension : String} :
    p.withExtension? extension = some q ↔
      (p.segments ≠ [] ∧ extension ≠ "" ∧ '/' ∉ extension.toList) ∧
        q = { p with segments := p.segments.dropLast ++ [p.stem ++ "." ++ extension] } := by
  rw [withExtension?]
  by_cases hbad : (p.segments.isEmpty || extension.isEmpty || extension.toList.contains '/') = true
  · rw [if_pos hbad]
    simp only [Bool.or_eq_true, List.isEmpty_iff, String.isEmpty_iff, List.contains_iff_mem] at hbad
    simp only [reduceCtorEq, false_iff]
    rintro ⟨⟨hsegments, hempty, hslash⟩, -⟩
    rcases hbad with (h | h) | h
    · exact hsegments h
    · exact hempty h
    · exact hslash h
  · rw [if_neg hbad, Option.some.injEq, eq_comm]
    simp only [Bool.or_eq_true, List.isEmpty_iff, String.isEmpty_iff, List.contains_iff_mem,
      not_or] at hbad
    simp only [ne_eq, hbad, not_false_eq_true, and_self, true_and]

end File.Path

namespace Site

/-! ## Pages -/

/-- The names that lead to the page for a file, from those that lead to the file. -/
def pageNames (names : List String) (extension : String) : List String :=
  names.dropLast ++ [({ segments := names } : Path).stem ++ "." ++ extension]

variable {settings : Settings} {root path : Path} {names : List String} {extension uri : String}

theorem dropLast_pageNames (names : List String) (extension : String) :
    (pageNames names extension).dropLast = names.dropLast := by
  rw [pageNames, List.dropLast_concat]

theorem pageNames_ne_nil (names : List String) (extension : String) :
    pageNames names extension ≠ [] := by
  simp [pageNames]

/-- A file has a page with an address if the extension of pages is one. -/
theorem address?_under
    (h : Post.address? root (root.under names) extension = some uri) :
    extension ≠ "" ∧ '/' ∉ extension.toList ∧
      uri = "/" ++ String.intercalate "/" (pageNames names extension) := by
  rw [Post.address?, Path.relativeTo?_under, Option.bind_some, Option.map_eq_some_iff] at h
  obtain ⟨place, hplace, rfl⟩ := h
  obtain ⟨⟨-, hextension, hslash⟩, rfl⟩ := Path.withExtension?_eq_some.mp hplace
  refine ⟨hextension, hslash, ?_⟩
  rw [Path.text, pageNames]
  simp
  rfl

/-- What a name that something can have is not. -/
theorem isName_iff {name : String} :
    isName name ↔ ((name ≠ "" ∧ name ≠ ".") ∧ name ≠ "..") ∧
      ('/' ∉ name.toList ∧ '\x00' ∉ name.toList) ∧ name.utf8ByteSize ≤ Store.nameLimit := by
  simp only [isName, Bool.and_eq_true, Bool.not_eq_true', Bool.or_eq_false_iff,
    beq_eq_false_iff_ne, List.contains_eq_mem, decide_eq_false_iff_not, decide_eq_true_eq,
    and_assoc, ne_eq]

theorem isSegment_of_isName {name : String} (h : isName name) : isSegment name := by
  obtain ⟨⟨⟨hempty, hdot⟩, -⟩, ⟨hslash, -⟩, -⟩ := isName_iff.mp h
  exact ⟨hempty, hdot, hslash⟩

/-- Proper names lead from a directory to what is below it. -/
theorem areNames_of_isName (h : ∀ name ∈ names, isName name) : areNames names := by
  intro name hname
  obtain ⟨⟨-, hback⟩, -, hshort⟩ := isName_iff.mp (h name hname)
  exact ⟨hback, hshort⟩

/-- The name of a page is one that is read as it is written, and does not lead back. -/
theorem isSegment_pageName {p : Path} (hname : p.name ≠ "") (hslash : '/' ∉ p.name.toList)
    (hextension : extension ≠ "") (hslash' : '/' ∉ extension.toList) :
    isSegment (p.stem ++ "." ++ extension) ∧ p.stem ++ "." ++ extension ≠ ".." := by
  obtain ⟨hpre, hempty⟩ := p.stem_spec
  have hstem : p.stem ≠ "" := fun h => hname (hempty h)
  have hchars : (p.stem ++ "." ++ extension).toList
      = p.stem.toList ++ '.' :: extension.toList := by
    rw [String.toList_append, String.toList_append, List.append_assoc]
    rfl
  -- something stands before the dot and something after it
  have hlength : 3 ≤ (p.stem ++ "." ++ extension).toList.length := by
    have hfront : 0 < p.stem.toList.length := by
      rw [List.length_pos_iff]
      exact fun h => hstem (String.toList_inj.mp h)
    have hback : 0 < extension.toList.length := by
      rw [List.length_pos_iff]
      exact fun h => hextension (String.toList_inj.mp h)
    rw [hchars, List.length_append, List.length_cons]
    omega
  have hother : ∀ short : String, short.toList.length < 3 → p.stem ++ "." ++ extension ≠ short := by
    rintro short hshort rfl
    omega
  refine ⟨⟨hother "" (by decide), hother "." (by decide), ?_⟩, hother ".." (by decide)⟩
  rw [hchars, List.mem_append, List.mem_cons]
  rintro (hfront | hdot | hback)
  · exact hslash (hpre.subset hfront)
  · exact absurd hdot (by decide)
  · exact hslash' hback

/-- Names that lead to a page are read as they are written, and none leads back. -/
theorem isSegment_pageNames (hne : names ≠ []) (hnames : ∀ name ∈ names, isName name)
    (hextension : extension ≠ "") (hslash : '/' ∉ extension.toList) :
    ∀ name ∈ pageNames names extension, isSegment name ∧ name ≠ ".." := by
  intro name hname
  rcases List.mem_append.mp hname with hbefore | hlast
  · have hproper := hnames name ((List.dropLast_sublist names).subset hbefore)
    exact ⟨isSegment_of_isName hproper, (isName_iff.mp hproper).1.2⟩
  · rw [List.mem_singleton.mp hlast]
    have hfile : ({ segments := names } : Path).name = names.getLast hne := by
      rw [Path.name, List.getLast?_eq_some_getLast hne, Option.getD_some]
    have hsegment : isSegment (names.getLast hne) :=
      isSegment_of_isName (hnames _ (List.getLast_mem hne))
    refine isSegment_pageName ?_ ?_ hextension hslash
    · rw [hfile]
      exact hsegment.notEmpty
    · rw [hfile]
      exact hsegment.noSlash

/-- A page is where its file says. -/
theorem pagePlace_under (hne : names ≠ []) (hextension : settings.pageExtension ≠ "")
    (hslash : '/' ∉ settings.pageExtension.toList) :
    pagePlace settings root (root.under names)
      = settings.targetRoot.under (pageNames names settings.pageExtension) := by
  have hplace : ({ segments := names } : Path).withExtension? settings.pageExtension
      = some { segments := pageNames names settings.pageExtension } :=
    Path.withExtension?_eq_some.mpr ⟨⟨hne, hextension, hslash⟩, rfl⟩
  rw [pagePlace]
  simp only [Path.relativeTo?_under, Option.getD_some, hplace]
  exact Path.join_relative _ _

/-- A page is where the address of its post says: the address without its slash is read as a path
from the target. -/
theorem child_uri (target : Path) (hne : names ≠ []) (hnames : ∀ name ∈ names, isName name)
    (h : Post.address? root (root.under names) extension = some uri) :
    target.child (String.ofList uri.toList.tail) = target.under (pageNames names extension) := by
  obtain ⟨hextension, hslash, rfl⟩ := address?_under h
  have hsegments := isSegment_pageNames hne hnames hextension hslash
  have htail : String.ofList
      ("/" ++ String.intercalate "/" (pageNames names extension)).toList.tail
        = ({ segments := pageNames names extension } : Path).text := by
    rw [String.toList_append]
    show String.ofList (String.intercalate "/" (pageNames names extension)).toList = _
    rw [String.ofList_toList, Path.text]
    simp [Anchor.text, pageNames_ne_nil]
  rw [htail, Path.child, Path.ofString_text fun name hname => (hsegments name hname).1,
    Path.join_relative]

end Site

end StaticSite
