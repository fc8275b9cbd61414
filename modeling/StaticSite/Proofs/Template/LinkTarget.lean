import StaticSite.Proofs.Text.Blank
import StaticSite.Proofs.Url.Resolution
import StaticSite.Template.Link

/-!
# Where links lead

A reader takes a link out of an attribute value and follows it from the page. The link is written
without any escapes. So it leads where it should exactly if no character in it means anything to the
reader, whatever the names are.

The reason is that every step of the reader either leaves a text as it is or makes it shorter:
something that is read otherwise than it is written has too few characters for the names that it
should lead to.

## What this module delivers

- `IsLiteral`: links that are read as they are written.
- `Denotes`: where a link leads.
- `denotes_sheet_iff`: the links from the top of the site, as style sheets have them.
- `relativeLink?_addressOf`, `denotes_post_iff`: the links from page to page.
-/

set_option autoImplicit false

namespace StaticSite.Template

open StaticSite.Text StaticSite.File StaticSite.Html StaticSite.Url

/-! ## Links that are read as they are written -/

/-- A link that is read as it is written. -/
structure IsLiteral (link : String) : Prop where
  /-- The attribute does not end in the link. -/
  noQuote : '"' ∉ link.toList
  /-- No `&` begins a character reference. -/
  noReference : attributeReferences.finds link.toList = false
  noQuery : '?' ∉ link.toList
  noFragment : '#' ∉ link.toList
  /-- No `%` begins an escape. -/
  noEscape : percentNotation.finds link.toList = false
  noScheme : hasScheme link.toList = false

/-- Nothing in a text ends an attribute value, a reference or a path. -/
@[mk_iff]
structure IsPlainText (s : List Char) : Prop where
  noQuote : '"' ∉ s
  noReference : attributeReferences.finds s = false
  noQuery : '?' ∉ s
  noFragment : '#' ∉ s

theorem isLiteral_iff {link : String} :
    IsLiteral link ↔ IsPlainText link.toList ∧ percentNotation.finds link.toList = false ∧
      hasScheme link.toList = false :=
  ⟨fun h => ⟨⟨h.noQuote, h.noReference, h.noQuery, h.noFragment⟩, h.noEscape, h.noScheme⟩,
    fun ⟨hplain, hescape, hscheme⟩ => ⟨hplain.noQuote, hplain.noReference, hplain.noQuery,
      hplain.noFragment, hescape, hscheme⟩⟩

/-- The path that is read for what follows the opening quote of an attribute. -/
def pathRead (s : List Char) : List Char :=
  pathOf (attributeValue s)

variable {s front : List Char}

theorem pathRead_of_isPlainText (h : IsPlainText s) : attributeValue s = s ∧ pathRead s = s := by
  have hvalue : attributeValue s = s := attributeValue_of_plain h.noQuote h.noReference
  refine ⟨hvalue, ?_⟩
  rw [pathRead, hvalue]
  exact pathOf_of_not_mem h.noQuery h.noFragment

/-- A text that is not plain is read as a shorter one. -/
theorem length_pathRead_lt (h : ¬ IsPlainText s) : (pathRead s).length < s.length := by
  have hpath : (pathRead s).length ≤ (attributeValue s).length :=
    (List.takeWhile_prefix _).length_le
  by_cases hvalue : '"' ∈ s ∨ attributeReferences.finds s
  · exact Nat.lt_of_le_of_lt hpath (length_attributeValue_lt hvalue)
  · obtain ⟨hquote, hreference⟩ := not_or.mp hvalue
    have hreference' := Bool.eq_false_iff.mpr hreference
    have hsame : attributeValue s = s := attributeValue_of_plain hquote hreference'
    rw [pathRead, hsame]
    apply length_pathOf_lt
    by_contra hmarks
    obtain ⟨hquery, hfragment⟩ := not_or.mp hmarks
    exact h ⟨hquote, hreference', hquery, hfragment⟩

theorem pathRead_eq_iff : pathRead s = s ↔ IsPlainText s := by
  refine ⟨fun h => ?_, fun h => (pathRead_of_isPlainText h).2⟩
  by_contra hplain
  have hshort := length_pathRead_lt hplain
  rw [h] at hshort
  exact absurd hshort (Nat.lt_irrefl _)

theorem length_pathRead_or (s : List Char) : (pathRead s).length < s.length ∨ pathRead s = s := by
  by_cases h : IsPlainText s
  · exact .inr (pathRead_eq_iff.mpr h)
  · exact .inl (length_pathRead_lt h)

theorem length_pathRead_le (s : List Char) : (pathRead s).length ≤ s.length := by
  rcases length_pathRead_or s with hshort | hsame
  · exact Nat.le_of_lt hshort
  · rw [hsame]

/-- Dots and slashes. -/
def AreDotsAndSlashes (front : List Char) : Prop :=
  ∀ c ∈ front, c = '.' ∨ c = '/'

section

variable (hfront : AreDotsAndSlashes front)

include hfront

theorem ne_of_areDotsAndSlashes {d : Char} (hdot : d ≠ '.') (hslash : d ≠ '/') : d ∉ front := by
  intro hd
  rcases hfront d hd with h | h
  · exact hdot h
  · exact hslash h

/-- No escape begins in dots and slashes. -/
theorem finds_percentNotation_dots (s : List Char) :
    percentNotation.finds (front ++ s) = percentNotation.finds s := by
  apply Decoding.finds_append
  intro c hc
  apply percentNotation_piece?_of_ne
  rintro rfl
  exact ne_of_areDotsAndSlashes hfront (by decide) (by decide) hc

/-- Dots and slashes in front leave a text as plain as it is. -/
theorem isPlainText_dots_iff (s : List Char) : IsPlainText (front ++ s) ↔ IsPlainText s := by
  have hmem : ∀ {d : Char}, d ≠ '.' → d ≠ '/' → (d ∈ front ++ s ↔ d ∈ s) := by
    intro d hdot hslash
    rw [List.mem_append, or_iff_right (ne_of_areDotsAndSlashes hfront hdot hslash)]
  have hreference : attributeReferences.finds (front ++ s) = attributeReferences.finds s := by
    apply Decoding.finds_append
    intro c hc
    apply piece?_of_ne
    rintro rfl
    exact ne_of_areDotsAndSlashes hfront (by decide) (by decide) hc
  rw [isPlainText_iff, isPlainText_iff, hreference, hmem (by decide) (by decide),
    hmem (by decide) (by decide), hmem (by decide) (by decide)]

/-- Dots and slashes are read as they are. -/
theorem attributeValue_dots (s : List Char) :
    attributeValue (front ++ s) = front ++ attributeValue s := by
  apply attributeValue_append
  intro c hc
  rcases hfront c hc with rfl | rfl <;> exact ⟨by decide, by decide⟩

theorem pathRead_dots (s : List Char) : pathRead (front ++ s) = front ++ pathRead s := by
  rw [pathRead, attributeValue_dots hfront]
  apply List.takeWhile_append_of_pos
  intro c hc
  rcases hfront c hc with rfl | rfl <;> decide

/-- Whether a link with dots and slashes in front is read as it is written depends on what follows
them, and on whether there is a scheme. -/
theorem isLiteral_dots_iff {link : String} (hlink : link.toList = front ++ s) :
    IsLiteral link ↔ (pathRead s = s ∧ percentNotation.finds s = false) ∧
      hasScheme link.toList = false := by
  rw [isLiteral_iff, hlink, isPlainText_dots_iff hfront, finds_percentNotation_dots hfront,
    pathRead_eq_iff, and_assoc]

end

/-! ## Links to style sheets -/

/-- The address of what names lead to from the top of the site. -/
def addressOf (names : List String) : String :=
  "/" ++ String.intercalate "/" names

theorem toList_addressOf (names : List String) :
    (addressOf names).toList = '/' :: (String.intercalate "/" names).toList := by
  rw [addressOf, String.toList_append]
  rfl

/-- A link on a page leads to a file: what is read for it, seen from the page, is where the file
is. -/
def Denotes (page : List String) (link : String) (file : List String) : Prop :=
  resolve? (page.map encode) (attributeValue link.toList) = some (file.map encode)

instance (page : List String) (link : String) (file : List String) :
    Decidable (Denotes page link file) :=
  inferInstanceAs (Decidable (_ = _))

variable {page file : List String} {link : String}

/-- What is written for names does not begin with a slash. -/
theorem head?_intercalate (h : AreProper file) :
    (String.intercalate "/" file).toList.head? ≠ some '/' := by
  cases file with
  | nil => simp
  | cons name rest =>
      obtain ⟨first, others, htext, hfirst⟩ :=
        toList_intercalate_cons (h name List.mem_cons_self).1 rest
      rw [htext, List.head?_cons]
      exact fun hsame => hfirst (Option.some.inj hsame)

/-- A link from the top of the site leads where its names say exactly if it is read as it is
written. -/
theorem denotes_sheet_iff (page : List String) (hfile : AreProper file) (hne : file ≠ []) :
    Denotes page (addressOf file) file ↔ IsLiteral (addressOf file) := by
  have hfront : AreDotsAndSlashes ['/'] := fun c hc => .inr (List.mem_singleton.mp hc)
  have hlink : (addressOf file).toList = ['/'] ++ (String.intercalate "/" file).toList :=
    toList_addressOf file
  have hscheme : ∀ rest, hasScheme ('/' :: rest) = false := not_hasScheme_cons rfl
  have hliteral := isLiteral_dots_iff hfront hlink
  rw [hlink, List.singleton_append, hscheme, and_iff_left rfl] at hliteral
  rw [hliteral, Denotes, hlink, attributeValue_dots hfront, List.singleton_append]
  have hpath : pathOf ('/' :: attributeValue (String.intercalate "/" file).toList)
      = '/' :: pathRead (String.intercalate "/" file).toList :=
    List.takeWhile_cons_of_pos (by decide)
  rw [resolve?_from_top (hscheme _) hpath]
  by_cases hslash : (pathRead (String.intercalate "/" file).toList).head? = some '/'
  · -- a second slash can only come from a reference
    rw [if_pos hslash]
    refine ⟨fun h => absurd h (by simp), fun h => ?_⟩
    rw [h.1] at hslash
    exact absurd hslash (head?_intercalate hfile)
  · rw [if_neg hslash, Option.some.injEq]
    exact descend_pathNames_iff [] hfile hne (length_pathRead_or _)

/-! ## The link from one page to another -/

variable {here names : List String}

/-- The names in an address are those that it is written with. -/
theorem addressNames_addressOf (here : List String) (h : AreProper names) :
    addressNames here (addressOf names) = names := by
  have hfold : ∀ start : List String,
      names.foldl (fun names name => if name = ".." then names.dropLast else names ++ [name]) start
        = start ++ names := by
    induction names with
    | nil => exact fun start => (List.append_nil start).symm
    | cons name rest ih =>
        intro start
        obtain ⟨⟨-, hback⟩, hrest⟩ := List.forall_mem_cons.mp h
        rw [List.foldl_cons, if_neg hback, ih hrest, List.append_assoc, List.singleton_append]
  rw [addressNames, toList_addressOf, readSegments_slash,
    readSegments_intercalate fun name hname => (h name hname).1, List.head?_cons]
  simp only [beq_self_eq_true, if_true]
  exact hfold []

theorem intercalate_ne_nil (h : AreProper names) (hne : names ≠ []) :
    (String.intercalate "/" names).toList ≠ [] := by
  obtain ⟨name, rest, rfl⟩ := List.exists_cons_of_ne_nil hne
  obtain ⟨first, others, htext, -⟩ := toList_intercalate_cons (h name List.mem_cons_self).1 rest
  rw [htext]
  exact List.cons_ne_nil first others

/-- What is written for names does not end with a slash. -/
theorem getLast?_intercalate (h : AreProper names) :
    (String.intercalate "/" names).toList.getLast? ≠ some '/' := by
  induction names with
  | nil => simp
  | cons name rest ih =>
      obtain ⟨⟨hname, -⟩, hrest⟩ := List.forall_mem_cons.mp h
      cases rest with
      | nil =>
          rw [String.intercalate_singleton]
          exact fun hlast => hname.noSlash (List.mem_of_getLast? hlast)
      | cons second rest =>
          have hsome := intercalate_ne_nil hrest (List.cons_ne_nil second rest)
          rw [String.intercalate_cons_cons, String.toList_append,
            List.getLast?_append_of_ne_nil _ hsome]
          exact ih hrest

/-- Cutting off the slashes behind the directory of an address leaves the address of the
directory. -/
theorem addressDirectory_addressOf (h : AreProper names) (hne : names ≠ []) :
    addressDirectory (addressOf names) = addressOf names.dropLast := by
  have hfront : AreProper names.dropLast := fun name hname =>
    h name ((List.dropLast_sublist names).subset hname)
  have hbefore : (cutAtLast? '/' (addressOf names).toList).elim [] (·.1)
      = joinWith ['/'] ([] :: names.dropLast.map String.toList) := by
    have hsplit : splitAt '/' (addressOf names).toList = [] :: names.map String.toList := by
      rw [toList_addressOf, ← splitAt_intercalate h hne]
      exact splitAt_append List.not_mem_nil _
    rw [cutAtLast?_elim, hsplit, List.dropLast_cons_of_ne_nil (by simpa using hne),
      List.map_dropLast]
  have hdirectory : addressDirectory (addressOf names)
      = if (stripEndBy (· == '/') (joinWith ['/'] ([] :: names.dropLast.map String.toList))).isEmpty
        then "/"
        else String.ofList
          (stripEndBy (· == '/') (joinWith ['/'] ([] :: names.dropLast.map String.toList))) := by
    rw [addressDirectory, ← hbefore]
    cases cutAtLast? '/' (addressOf names).toList with
    | none => rfl
    | some cut => rfl
  rw [hdirectory]
  cases hnames : names.dropLast with
  | nil => rfl
  | cons name rest =>
      rw [hnames] at hfront
      have hjoined : joinWith ['/'] ([] :: (name :: rest).map String.toList)
          = (addressOf (name :: rest)).toList := by
        rw [List.map_cons, joinWith_cons_cons, ← List.map_cons, ← toList_intercalate,
          toList_addressOf]
        rfl
      have hkept : stripEndBy (· == '/') (addressOf (name :: rest)).toList
          = (addressOf (name :: rest)).toList := by
        apply stripEndBy_of_getLast?
        intro c hc
        rw [addressOf, String.toList_append, List.getLast?_append_of_ne_nil _
          (intercalate_ne_nil hfront (List.cons_ne_nil name rest))] at hc
        rw [beq_eq_false_iff_ne]
        rintro rfl
        exact getLast?_intercalate hfront hc
      rw [hjoined, hkept, String.ofList_toList, if_neg]
      rw [addressOf, String.toList_append]
      simp

/-- Names are cut where they part. -/
theorem dropCommon_spec (names others : List String) :
    ∃ common, names = common ++ (dropCommon names others).1 ∧
      others = common ++ (dropCommon names others).2 ∧
      ∀ front, front <+: (dropCommon names others).1 → front <+: (dropCommon names others).2 →
        front = [] := by
  induction names generalizing others with
  | nil =>
      refine ⟨[], ?_, ?_, ?_⟩
      · cases others <;> rfl
      · cases others <;> rfl
      · cases others with
        | nil => exact fun front hfront _ => List.prefix_nil.mp hfront
        | cons other rest => exact fun front hfront _ => List.prefix_nil.mp hfront
  | cons name names ih =>
      cases others with
      | nil => exact ⟨[], rfl, rfl, fun front _ hfront => List.prefix_nil.mp hfront⟩
      | cons other others =>
          rw [dropCommon]
          split
          · rename_i hsame
            obtain ⟨common, hnames, hothers, hpart⟩ := ih others
            refine ⟨name :: common, ?_, ?_, hpart⟩
            · rw [List.cons_append, ← hnames]
            · rw [List.cons_append, ← hothers, hsame]
          · rename_i hother
            refine ⟨[], rfl, rfl, fun front hfront hfront' => ?_⟩
            cases front with
            | nil => rfl
            | cons first rest =>
                have hname := (List.cons_prefix_cons.mp hfront).1
                exact absurd (hname.symm.trans (List.cons_prefix_cons.mp hfront').1) hother

/-- The way from the directory of a page to a file: back over the names that are not on both ways,
and down. -/
theorem relativeLink?_addressOf (here : List String) (hpage : AreProper page) (hne : page ≠ [])
    (hfile : AreProper file) :
    ∃ common up down, page.dropLast = common ++ up ∧ file = common ++ down ∧
      (∀ front, front <+: up → front <+: down → front = []) ∧
      relativeLink? here (addressOf page) (addressOf file)
        = some (if up = [] ∧ down = [] then "."
          else String.intercalate "/" (List.replicate up.length ".." ++ down)) := by
  have hdirectory : AreProper page.dropLast := fun name hname =>
    hpage name ((List.dropLast_sublist page).subset hname)
  obtain ⟨common, hup, hdown, hpart⟩ := dropCommon_spec page.dropLast file
  have hlink : relativeLink? here (addressOf page) (addressOf file)
      = some (if (dropCommon page.dropLast file).1 = [] ∧ (dropCommon page.dropLast file).2 = []
        then "." else String.intercalate "/"
          (List.replicate (dropCommon page.dropLast file).1.length ".." ++
            (dropCommon page.dropLast file).2)) := by
    have hsome : (addressOf file).isEmpty = false := by
      rw [← Bool.not_eq_true, String.isEmpty_iff, addressOf]
      exact fun h => absurd (congrArg String.toList h) (by simp)
    rw [relativeLink?, hsome, addressDirectory_addressOf hpage hne,
      addressNames_addressOf here hdirectory, addressNames_addressOf here hfile]
    simp [List.map_const']
  exact ⟨common, _, _, hup, hdown, hpart, hlink⟩

/-- As many steps back as a number says. -/
def backwards : Nat → List Char
  | 0 => []
  | n + 1 => '.' :: '.' :: '/' :: backwards n

theorem areDotsAndSlashes_backwards (n : Nat) : AreDotsAndSlashes (backwards n) := by
  induction n with
  | zero => exact fun c hc => absurd hc List.not_mem_nil
  | succ n ih =>
      intro c hc
      simp only [backwards, List.mem_cons] at hc
      rcases hc with rfl | rfl | rfl | hrest
      · exact .inl rfl
      · exact .inl rfl
      · exact .inr rfl
      · exact ih c hrest

theorem toList_backwards (n : Nat) {down : List String} (hne : down ≠ []) :
    (String.intercalate "/" (List.replicate n ".." ++ down)).toList
      = backwards n ++ (String.intercalate "/" down).toList := by
  induction n with
  | zero => rfl
  | succ n ih =>
      obtain ⟨second, rest, hnames⟩ :=
        List.exists_cons_of_ne_nil (List.append_ne_nil_of_right_ne_nil (List.replicate n "..") hne)
      rw [List.replicate_succ, List.cons_append, hnames, String.intercalate_cons_cons, ← hnames,
        String.toList_append, String.toList_append, ih]
      rfl

theorem pathNames_backwards (n : Nat) (s : List Char) :
    pathNames (backwards n ++ s) = List.replicate n dots ++ pathNames s := by
  induction n with
  | zero => rfl
  | succ n ih =>
      have hnoSlash : '/' ∉ ['.', '.'] := by decide
      have hsplit : splitAt '/' (backwards (n + 1) ++ s)
          = ['.', '.'] :: splitAt '/' (backwards n ++ s) :=
        splitAt_append hnoSlash _
      have hdots : percentNotation.read ['.', '.'] = dots := by decide
      rw [pathNames, hsplit, List.map_cons, hdots, List.replicate_succ, List.cons_append, ← ih]
      rfl

/-- A link whose path begins with a dot is followed from the directory of the page. -/
theorem resolve?_dot {value rest : List Char} (hvalue : value = '.' :: rest)
    (place : List (List UInt8)) :
    resolve? place value = some (descend place.dropLast (pathNames (pathOf value))) := by
  subst hvalue
  have hpath : pathOf ('.' :: rest) = '.' :: pathOf rest :=
    List.takeWhile_cons_of_pos (by decide)
  refine resolve?_from_directory (not_hasScheme_cons rfl rest) ?_ ?_ place
  · rw [hpath]
    exact List.cons_ne_nil _ _
  · rw [hpath, List.head?_cons]
    decide

/-- A link to a directory leads to no file. -/
theorem not_denotes_directory {n : Nat} {last : List Char} (page : List String)
    (hfile : AreProper file) (hlink : link.toList = backwards n ++ last)
    (hlast : last = ['.'] ∨ last = ['.', '.']) : ¬ Denotes page link file := by
  intro h
  have hfront := areDotsAndSlashes_backwards n
  have hplain : pathRead last = last := by
    rcases hlast with rfl | rfl <;> decide
  obtain ⟨rest, hrest⟩ : ∃ rest, attributeValue link.toList = '.' :: rest := by
    rw [hlink, attributeValue_dots hfront]
    cases n with
    | zero => rcases hlast with rfl | rfl <;> exact ⟨_, rfl⟩
    | succ n => exact ⟨_, rfl⟩
  have hpath : pathOf (attributeValue link.toList) = backwards n ++ last := by
    rw [← pathRead, hlink, pathRead_dots hfront, hplain]
  have hnames : pathNames last = [dot] ∨ pathNames last = [dots] := by
    rcases hlast with rfl | rfl
    · exact .inl (by decide)
    · exact .inr (by decide)
  rw [Denotes, resolve?_dot hrest, hpath, pathNames_backwards, Option.some.injEq, descend,
    if_pos] at h
  · -- the last name would be empty
    have hempty : [] ∈ file.map encode := by
      rw [← h]
      exact List.mem_append_right _ List.mem_cons_self
    obtain ⟨name, hname, hbytes⟩ := List.mem_map.mp hempty
    exact (hfile name hname).1.notEmpty (encode_injective (hbytes.trans (by decide)))
  · rcases hnames with hdot | hdots
    · exact .inl (by rw [hdot, List.getLast?_concat])
    · exact .inr (by rw [hdots, List.getLast?_concat])

section

variable {common up down : List String} (hdown : AreProper down) (hne : down ≠ [])

include hdown hne

/-- A link that goes back first leads to its file exactly if it is read as it is written. -/
theorem denotes_back_iff (hback : up ≠ []) (hpage : page.dropLast = common ++ up)
    (hlink : link.toList = backwards up.length ++ (String.intercalate "/" down).toList) :
    Denotes page link (common ++ down) ↔ IsLiteral link := by
  have hfront := areDotsAndSlashes_backwards up.length
  have hdots : ∀ rest, ∃ more, backwards up.length ++ rest = '.' :: more := by
    intro rest
    obtain ⟨name, others, rfl⟩ := List.exists_cons_of_ne_nil hback
    exact ⟨_, rfl⟩
  obtain ⟨more, hmore⟩ := hdots (attributeValue (String.intercalate "/" down).toList)
  have hvalue : attributeValue link.toList = '.' :: more := by
    rw [hlink, attributeValue_dots hfront, hmore]
  have hpath : pathOf (attributeValue link.toList)
      = backwards up.length ++ pathRead (String.intercalate "/" down).toList := by
    rw [← pathRead, hlink, pathRead_dots hfront]
  have hscheme : hasScheme link.toList = false := by
    obtain ⟨others, hothers⟩ := hdots (String.intercalate "/" down).toList
    rw [hlink, hothers]
    exact not_hasScheme_cons rfl others
  have hnames : pathNames (pathRead (String.intercalate "/" down).toList) ≠ [] := by
    rw [pathNames]
    exact fun h => splitAt_ne_nil _ _ (List.map_eq_nil_iff.mp h)
  have hreached : descend (page.map encode).dropLast
      (pathNames (pathOf (attributeValue link.toList)))
        = descend (common.map encode)
            (pathNames (pathRead (String.intercalate "/" down).toList)) := by
    rw [hpath, pathNames_backwards, ← List.map_dropLast, hpage, List.map_append,
      ← List.length_map encode, descend_up _ _ hnames]
  rw [Denotes, resolve?_dot hvalue, hreached, Option.some.injEq,
    descend_pathNames_iff common hdown hne (length_pathRead_or _), isLiteral_dots_iff hfront hlink,
    and_iff_left hscheme]

/-- A link that only leads down leads to its file exactly if it is read as it is written, or if the
file is the page itself and the link is read without a path. -/
theorem denotes_down_iff (hpage : page.dropLast = common)
    (hlink : link.toList = (String.intercalate "/" down).toList) :
    Denotes page link (common ++ down) ↔
      IsLiteral link ∨ common ++ down = page ∧ pathRead link.toList = [] := by
  have hnone : AreDotsAndSlashes [] := fun c hc => absurd hc List.not_mem_nil
  have hliteral := isLiteral_dots_iff hnone (hlink.trans (List.nil_append _).symm)
  have hreached := descend_pathNames_iff common hdown hne
    (length_pathRead_or (String.intercalate "/" down).toList)
  rw [Denotes, hlink]
  rw [hlink] at hliteral
  rw [hliteral]
  constructor
  · intro h
    rcases resolve?_eq_some h with ⟨hempty, hfile⟩ | ⟨rest, hrest, hfile⟩ | ⟨hscheme, hfile⟩
    · exact .inr ⟨List.map_injective_iff.mpr encode_injective hfile, hempty⟩
    · -- what follows the slash is too short
      refine absurd hfile.symm (descend_ne_of_length_lt common hdown hne ?_)
      have hlength := length_pathRead_le (String.intercalate "/" down).toList
      rw [pathRead, hrest, List.length_cons] at hlength
      exact hlength
    · rw [← List.map_dropLast, hpage] at hfile
      obtain ⟨hsame, hplain⟩ := hreached.mp hfile.symm
      rw [(pathRead_of_isPlainText (pathRead_eq_iff.mp hsame)).1] at hscheme
      exact .inl ⟨⟨hsame, hplain⟩, hscheme⟩
  · rintro (⟨⟨hsame, hplain⟩, hscheme⟩ | ⟨hfile, hempty⟩)
    · have hvalue := (pathRead_of_isPlainText (pathRead_eq_iff.mp hsame)).1
      have hpath : pathOf (String.intercalate "/" down).toList
          = (String.intercalate "/" down).toList := by
        rw [pathRead, hvalue] at hsame
        exact hsame
      have hsome : pathOf (String.intercalate "/" down).toList ≠ [] := by
        rw [hpath]
        exact intercalate_ne_nil hdown hne
      have hslash : (pathOf (String.intercalate "/" down).toList).head? ≠ some '/' := by
        rw [hpath]
        exact head?_intercalate hdown
      rw [hvalue, resolve?_from_directory hscheme hsome hslash, ← List.map_dropLast, hpage, hpath]
      rw [hsame] at hreached
      exact congrArg some (hreached.mpr ⟨rfl, hplain⟩)
    · rw [hfile]
      exact resolve?_of_empty (not_hasScheme_of_pathOf hempty) hempty _

end

/-- The link from a page to another one leads there exactly if it is read as it is written and the
other page is not in the place of a directory of this one. A page is also linked to itself by a link
that is read without a path. -/
theorem denotes_post_iff {here : List String} (hpage : AreProper page) (hne : page ≠ [])
    (hfile : AreProper file)
    (hlink : relativeLink? here (addressOf page) (addressOf file) = some link) :
    Denotes page link file ↔
      (IsLiteral link ∧ ¬ file <+: page.dropLast) ∨ (file = page ∧ pathRead link.toList = []) := by
  obtain ⟨common, up, down, hup, hfileNames, hpart, htext⟩ :=
    relativeLink?_addressOf here hpage hne hfile
  obtain rfl := Option.some.inj (hlink.symm.trans htext)
  have hdirectory : down = [] ↔ file <+: page.dropLast := by
    rw [hup, hfileNames, List.prefix_append_right_inj]
    refine ⟨?_, fun hbegins => hpart down hbegins (List.prefix_refl down)⟩
    rintro rfl
    exact List.nil_prefix
  by_cases hnone : down = []
  · -- the link is one to a directory above the page
    have hbegins := hdirectory.mp hnone
    have hother : file ≠ page := by
      rintro rfl
      have hlength := hbegins.length_le
      rw [List.length_dropLast] at hlength
      have hpositive := List.length_pos_iff.mpr hne
      omega
    have hnot : ¬ Denotes page (if up = [] ∧ down = [] then "."
        else String.intercalate "/" (List.replicate up.length ".." ++ down)) file := by
      rcases List.eq_nil_or_concat up with rfl | ⟨others, last, rfl⟩
      · rw [if_pos ⟨rfl, hnone⟩]
        exact not_denotes_directory (n := 0) page hfile rfl (.inl rfl)
      · rw [if_neg (by simp), hnone, List.append_nil, List.concat_eq_append, List.length_append,
          List.length_singleton, List.replicate_succ']
        refine not_denotes_directory page hfile (toList_backwards others.length ?_) (.inr rfl)
        exact List.cons_ne_nil ".." []
    refine ⟨fun h => absurd h hnot, ?_⟩
    rintro (⟨-, h⟩ | ⟨h, -⟩)
    · exact absurd hbegins h
    · exact absurd h hother
  · have hfront : AreProper down := by
      rw [hfileNames] at hfile
      exact fun name hname => hfile name (List.mem_append_right common hname)
    rw [if_neg fun h => hnone h.2, ← hdirectory, and_iff_left hnone]
    have hchars := toList_backwards up.length hnone
    generalize String.intercalate "/" (List.replicate up.length ".." ++ down) = link at *
    subst hfileNames
    by_cases hback : up = []
    · subst hback
      rw [List.append_nil] at hup
      exact denotes_down_iff hfront hnone hup hchars
    · rw [denotes_back_iff hfront hnone hback hup hchars]
      refine (or_iff_left ?_).symm
      rintro ⟨-, hempty⟩
      obtain ⟨name, others, rfl⟩ := List.exists_cons_of_ne_nil hback
      rw [hchars, pathRead_dots (areDotsAndSlashes_backwards _)] at hempty
      exact absurd hempty (by simp [backwards])

end StaticSite.Template
