import StaticSite.Proofs.Html.Landmark

/-!
# The tags of headings on a page

A page is searched for the tags with which headings begin: a `<h` with the digits or the sign of a
number behind it. The search knows nothing else of a page, so it finds such a tag wherever one
stands. A text is calm if it has none and none can begin at its end: the search goes over it as if
it were not there.

## What this module delivers

- `HeadingTag`, `headingTagsOn`: the search.
- `IsCalm`, with `IsCalm.append`: texts in which nothing is found.
- `calm_quotable`: what is written without brackets is calm, payloads and numbers among it.
- `headingTagsFrom_headingStart`: the front of a heading is found, with its level and its class.
-/

set_option autoImplicit false

namespace StaticSite.Html

/-! ## The search -/

/-- The tag with which a heading begins: the number in its name, and whether the class of a title is
its first attribute. -/
structure HeadingTag where
  level : String
  isTitle : Bool
deriving DecidableEq, Repr

/-- Whether a character may stand in a number. -/
def isNumeral (c : Char) : Bool :=
  c.isDigit || c == '-'

/-- The tags of headings in a text, in order. -/
def headingTagsFrom : List Char → List HeadingTag
  | [] => []
  | '<' :: 'h' :: rest =>
      let level := rest.takeWhile isNumeral
      if level.isEmpty then headingTagsFrom rest
      else ⟨String.ofList level, " class=\"title\"".toList.isPrefixOf (rest.dropWhile isNumeral)⟩ ::
        headingTagsFrom rest
  | _ :: rest => headingTagsFrom rest

/-- The tags of headings on a page, in order. -/
def headingTagsOn (page : String) : List HeadingTag :=
  headingTagsFrom page.toList

theorem headingTagsFrom_cons {c : Char} (h : c ≠ '<') (rest : List Char) :
    headingTagsFrom (c :: rest) = headingTagsFrom rest := by
  rw [headingTagsFrom]
  rintro others rfl
  exact absurd rfl h

/-! ## Calm texts -/

/-- A text that the search goes over as if it were not there, whatever follows. -/
def IsCalm (text : String) : Prop :=
  ∀ rest, headingTagsFrom (text.toList ++ rest) = headingTagsFrom rest

theorem IsCalm.empty : IsCalm "" :=
  fun _ => rfl

theorem IsCalm.append {text more : String} (h : IsCalm text) (h' : IsCalm more) :
    IsCalm (text ++ more) := by
  intro rest
  rw [String.toList_append, List.append_assoc, h, h']

/-- Text without brackets is calm. -/
theorem calm_quotable {text : String} (h : isQuotable text.toList) : IsCalm text := by
  suffices hlist : ∀ chars : List Char, isQuotable chars → ∀ rest,
      headingTagsFrom (chars ++ rest) = headingTagsFrom rest from hlist text.toList h
  -- a tag begins with a bracket, so at no character of the text does one begin
  intro chars
  induction chars with
  | nil => exact fun _ _ => rfl
  | cons c others ih =>
      intro hchars rest
      rw [isQuotable_iff] at hchars
      have hothers : isQuotable others :=
        (isQuotable_iff others).mpr fun d hd => hchars d (List.mem_cons_of_mem c hd)
      rw [List.cons_append, headingTagsFrom_cons (hchars c List.mem_cons_self).1, ih hothers]

theorem calm_escape (text : String) : IsCalm (escape text) :=
  calm_quotable (quotable_escape text)

theorem calm_int (i : Int) : IsCalm (toString i) :=
  calm_quotable (quotable_of_plain (plain_int i))

theorem calm_nat (n : Nat) : IsCalm (toString n) :=
  calm_quotable (quotable_of_plain (plain_nat n))

/-- The identifier of a heading and the link to the heading are calm. -/
theorem calm_identifierText {identifier : String} (h : isPlain identifier.toList) :
    IsCalm (Writer.identifierText identifier) := by
  have hidentifier := calm_quotable (quotable_of_plain h)
  have hend : IsCalm "\">" := fun _ => rfl
  have hlink : IsCalm "<a class=\"anchor\" href=\"#" := fun _ => rfl
  have hsign : IsCalm "\">¶</a>" := fun _ => rfl
  exact (hidentifier.append hend).append ((hlink.append hidentifier).append hsign)

/-! ## The front of a heading -/

theorem isNumeral_int (i : Int) : ∀ c ∈ (toString i).toList, isNumeral c := by
  have hnat : ∀ n : Nat, ∀ c ∈ (toString n).toList, isNumeral c := by
    intro n c hc
    rw [Nat.toString_eq_repr, Nat.toList_repr] at hc
    have hdigit := Nat.isDigit_of_mem_toDigits (by decide) (by decide) hc
    simp [isNumeral, hdigit]
  cases i with
  | ofNat n => exact hnat n
  | negSucc n =>
      intro c hc
      have hparts : toString (Int.negSucc n) = "-" ++ toString (n + 1) := rfl
      rw [hparts, String.toList_append, List.mem_append] at hc
      rcases hc with hsign | hdigits
      · rw [List.mem_singleton.mp hsign]
        rfl
      · exact hnat (n + 1) c hdigits

theorem toString_int_ne_nil (i : Int) : (toString i).toList ≠ [] := by
  have hnat : ∀ n : Nat, (toString n).toList ≠ [] := by
    intro n hnil
    rw [Nat.toString_eq_repr, Nat.toList_repr] at hnil
    exact Nat.toDigits_ne_nil hnil
  cases i with
  | ofNat n => exact hnat n
  | negSucc n =>
      have hparts : toString (Int.negSucc n) = "-" ++ toString (n + 1) := rfl
      rw [hparts, String.toList_append]
      exact List.append_ne_nil_of_left_ne_nil (by decide) _

/-- The front of a heading is found, with its level and its class, and nothing else is found in it.
-/
theorem headingTagsFrom_headingStart (level : Int) (titled : Bool) (rest : List Char) :
    headingTagsFrom ((headingStart level titled).toList ++ rest)
      = ⟨toString level, !titled⟩ :: headingTagsFrom rest := by
  -- behind the number stands a blank, with the class of a title or without
  have hafter : ∃ after, (if titled then "" else " class=\"title\"") ++ " id=\"" = " " ++ after ∧
      IsCalm (" " ++ after) ∧
      " class=\"title\"".toList.isPrefixOf ((" " ++ after).toList ++ rest) = !titled := by
    cases titled with
    | true => exact ⟨"id=\"", by decide, fun _ => rfl, rfl⟩
    | false => exact ⟨"class=\"title\" id=\"", by decide, fun _ => rfl, rfl⟩
  obtain ⟨after, hparts, hcalm, hclass⟩ := hafter
  have hstart : (headingStart level titled).toList ++ rest
      = '<' :: 'h' :: ((toString level).toList ++ ((" " ++ after).toList ++ rest)) := by
    rw [headingStart, String.append_assoc, hparts]
    simp [String.toList_append]
  have hblank : (" " ++ after).toList ++ rest = ' ' :: (after.toList ++ rest) := by
    simp [String.toList_append]
  -- a blank is no numeral, so the number ends where the name of the tag does
  have hnumerals := isNumeral_int level
  have htake : ((toString level).toList ++ ((" " ++ after).toList ++ rest)).takeWhile isNumeral
      = (toString level).toList := by
    rw [List.takeWhile_append_of_pos hnumerals, hblank]
    simp [isNumeral]
  have hdrop : ((toString level).toList ++ ((" " ++ after).toList ++ rest)).dropWhile isNumeral
      = (" " ++ after).toList ++ rest := by
    rw [List.dropWhile_append_of_pos hnumerals, hblank]
    simp [isNumeral]
  have hsome : (toString level).toList.isEmpty = false :=
    List.isEmpty_eq_false_iff.mpr (toString_int_ne_nil level)
  rw [hstart, headingTagsFrom, htake, hdrop, hclass, String.ofList_toList, calm_int level, hcalm,
    hsome, if_neg Bool.false_ne_true]

end StaticSite.Html
