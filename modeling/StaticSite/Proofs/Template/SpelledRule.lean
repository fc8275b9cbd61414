import Mathlib.Data.List.Chain
import StaticSite.Proofs.Template.Division
import StaticSite.Proofs.Template.SpelledValue

/-!
# Written rules

A rule is written as a row of values: its name, and its arguments in the order in which they are
read. However each value is written, reading the row gives the rule, and nothing about it is worth a
note. Where every character stands behind a backslash, no value can end the directive that it is a
part of, whatever the value holds.

## What this module delivers

- `Rule.values`, `Rule.IsBounded`: the row of a rule, and the limit of a depth.
- `readRule_of_spells`: a rule is read back from its row.
- `readPieces_directive`: a directive that holds no closing mark, between texts without one that
  opens.
- `readRule_writeRow`: the main statement, for a rule on its own and in a template.
-/

set_option autoImplicit false

namespace StaticSite

/-- Work that makes no note may be left out of sight. -/
theorem Noted.pure_bind {ν α β : Type} (a : α) (f : α → Noted ν β) :
    (pure a >>= f : Noted ν β) = f a := rfl

namespace Template

open StaticSite.Text

/-! ## Rows of rules -/

/-- An order as arguments of a list. -/
def SortOrder.values (sort : SortOrder) : List String :=
  ["sort", sort.key, if sort.ascending then "asc" else "desc"]

/-- The name of a rule. -/
def Rule.name : Rule → String
  | .contents => "CONTENTS"
  | .stylesheets => "CSS"
  | .toc _ => "TOC"
  | .listing _ _ => "LIST"
  | .metadata _ => "META"
  | .inclusion _ => "INCLUDE"

/-- The arguments of a rule, in the order in which they are read. -/
def Rule.arguments : Rule → List String
  | .contents => []
  | .stylesheets => []
  | .toc maxDepth => [toString maxDepth]
  | .listing path sort => path :: sort.elim [] SortOrder.values
  | .metadata key => [key]
  | .inclusion path => [path]

/-- The row of values that a rule is written as. -/
def Rule.values (rule : Rule) : List String :=
  rule.name :: rule.arguments

/-- Whether the depth of a rule, if it has one, is one that can be asked for. -/
def Rule.IsBounded : Rule → Prop
  | .toc maxDepth => maxDepth ≤ depthLimit
  | _ => True

/-! ## Reading a row -/

section

variable {directive : String} {text : List Char} {value : String} {values : List String}

/-- The first argument of a row is read without a note. -/
theorem next_of_spells (directive : String)
    (h : Spells text ((value :: values).map String.toList)) :
    ∃ rest, Arguments.next ⟨directive, text⟩ = pure (some value, ⟨directive, rest⟩) ∧
      Spells rest (values.map String.toList) := by
  obtain ⟨rest, hread, hrest⟩ := nextValue?_of_spells h
  refine ⟨rest, ?_, hrest⟩
  rw [Arguments.next, hread]
  simp only [String.ofList_toList, List.map_nil]
  rfl

/-- After the last argument there is none. -/
theorem next_of_spells_nil (h : Spells text []) :
    Arguments.next ⟨directive, text⟩ = pure (none, ⟨directive, []⟩) := by
  rw [Arguments.next, nextValue?_of_spells_nil h]

theorem readInteger?_of_le {n : Nat} (h : n ≤ depthLimit) :
    readInteger? (toString n) = some (.ofNat n) := by
  have hall : ∀ n < 256, readInteger? (toString n) = some (.ofNat n) := by decide +kernel
  exact hall n (Nat.lt_succ_of_le h)

theorem readDepth_of_le {n : Nat} (h : n ≤ depthLimit) :
    readDepth directive (some (toString n)) = pure n := by
  rw [readDepth, readInteger?_of_le h]
  simp only [h, if_true]

theorem readOrder?_values (ascending : Bool) :
    readOrder? (some (if ascending then "asc" else "desc")) = some ascending := by
  cases ascending <;> rfl

/-- The end of a list leaves the order that was given last. -/
theorem readSorts_of_spells_nil (fuel : Nat) (sort : Option SortOrder) (h : Spells text []) :
    readSorts fuel sort ⟨directive, text⟩ = pure sort := by
  cases fuel with
  | zero => rfl
  | succ fuel => rw [readSorts, next_of_spells_nil h, Noted.pure_bind]

/-- An order at the end of a list is read. -/
theorem readSorts_of_spells (fuel : Nat) (sort : SortOrder)
    (h : Spells text (sort.values.map String.toList)) :
    readSorts (fuel + 1) none ⟨directive, text⟩ = pure (some sort) := by
  obtain ⟨behindWord, hword, hspells⟩ := next_of_spells directive h
  obtain ⟨behindKey, hkey, hspells⟩ := next_of_spells directive hspells
  obtain ⟨behindOrder, horder, hspells⟩ := next_of_spells directive hspells
  simp only [readSorts, hword, Noted.pure_bind, hkey, horder, readOrder?_values]
  exact readSorts_of_spells_nil fuel _ hspells

/-- A rule is read back from a row that writes it, and no note is made. -/
theorem readRule_of_spells {rule : Rule} (hbounded : rule.IsBounded)
    (h : Spells text (rule.values.map String.toList)) :
    readRule (String.ofList text) = pure (some rule) := by
  obtain ⟨behindName, hname, hspells⟩ := next_of_spells (String.ofList text) h
  cases rule with
  | contents => simp only [readRule, String.toList_ofList, hname, Rule.name, Noted.pure_bind]
  | stylesheets => simp only [readRule, String.toList_ofList, hname, Rule.name, Noted.pure_bind]
  | toc maxDepth =>
      obtain ⟨rest, hdepth, -⟩ := next_of_spells (String.ofList text) hspells
      simp only [readRule, String.toList_ofList, hname, Rule.name, Noted.pure_bind, hdepth,
        readDepth_of_le hbounded]
  | metadata key =>
      obtain ⟨rest, hkey, -⟩ := next_of_spells (String.ofList text) hspells
      simp only [readRule, String.toList_ofList, hname, Rule.name, Noted.pure_bind, hkey,
        Option.map_some]
  | inclusion path =>
      obtain ⟨rest, hpath, -⟩ := next_of_spells (String.ofList text) hspells
      simp only [readRule, String.toList_ofList, hname, Rule.name, Noted.pure_bind, hpath,
        Option.map_some]
  | listing path sort =>
      obtain ⟨rest, hpath, hspells⟩ := next_of_spells (String.ofList text) hspells
      simp only [readRule, String.toList_ofList, hname, Rule.name, Noted.pure_bind, hpath]
      cases sort with
      | none => rw [readSorts_of_spells_nil _ _ hspells, Noted.pure_bind]
      | some sort => rw [readSorts_of_spells _ sort hspells, Noted.pure_bind]

end

/-! ## Marks in a row -/

/-- Two characters that cannot stand next to each other in a closing mark's front. -/
def Apart (c d : Char) : Prop :=
  ¬ (c = '/' ∧ d = 'P')

theorem apart_of_ne {c d : Char} (h : d ≠ 'P') : Apart c d :=
  fun hboth => h hboth.2

/-- A text may go on behind a space. -/
theorem isChain_append_space {s t : List Char} (hs : s.IsChain Apart) (ht : t.IsChain Apart) :
    (s ++ ' ' :: t).IsChain Apart := by
  refine List.isChain_append.mpr ⟨hs, ?_, ?_⟩
  · exact ht.cons fun d _ => fun hboth => absurd hboth.1 (by decide)
  · rintro c - d ⟨⟩
    exact apart_of_ne (by decide)

/-- Behind a backslash no character of a value meets the next one. -/
theorem isChain_cautious (value : List Char) :
    (Writing.cautious.write value).IsChain Apart := by
  have hinner : ∀ value : List Char,
      (value.flatMap Writing.cautious.escape ++ ['"']).IsChain Apart := by
    intro value
    induction value with
    | nil => exact .singleton _
    | cons c rest ih =>
        refine (ih.cons fun d hd => apart_of_ne ?_).cons fun d _ => fun hboth =>
          absurd hboth.1 (by decide)
        -- the character is followed by the next backslash or by the closing quote
        cases rest with
        | nil =>
            obtain rfl : '"' = d := by simpa using hd
            decide
        | cons e rest =>
            obtain rfl : '\\' = d := by simpa [Writing.escape] using hd
            decide
  exact (hinner value).cons fun d _ => fun hboth => absurd hboth.1 (by decide)

/-- No row of values behind backslashes holds the front of a closing mark. -/
theorem isChain_writeRow : ∀ values : List String,
    (writeRow (values.map fun value => (.cautious, value))).IsChain Apart
  | [] => .nil
  | [value] => isChain_cautious value.toList
  | first :: second :: others => by
      have hothers := isChain_writeRow (second :: others)
      have hrow := isChain_append_space (isChain_cautious first.toList) hothers
      simpa [writeRow, joinWith] using hrow

/-- A text that holds no front of a closing mark and ends in a space does not hold a closing mark,
and none begins in it. -/
theorem not_occursAt_closingMark {front : List Char} (h : front.IsChain Apart) (after : List Char) :
    ∀ n < (front ++ [' ']).length, ¬ OccursAt closingMark (front ++ [' '] ++ after) n := by
  induction front with
  | nil =>
      intro n hn hoccurs
      obtain rfl : n = 0 := by simpa using hn
      simp [OccursAt, closingMark] at hoccurs
  | cons c rest ih =>
      obtain ⟨hnext, hrest⟩ := List.isChain_cons.mp h
      intro n hn hoccurs
      cases n with
      | succ n => exact ih hrest n (by simpa using hn) hoccurs
      | zero =>
          cases rest with
          | nil => simp [OccursAt, closingMark] at hoccurs
          | cons d rest =>
              simp only [OccursAt, closingMark, List.drop_zero, List.cons_append] at hoccurs
              obtain ⟨hc, hoccurs⟩ := List.cons_prefix_cons.mp hoccurs
              obtain ⟨hd, -⟩ := List.cons_prefix_cons.mp hoccurs
              exact hnext d rfl ⟨hc.symm, hd.symm⟩

/-! ## Directives in a template -/

/-- A directive as a template spells it, with its row of values set apart from the marks. -/
def directiveText (row : List Char) : List Char :=
  openingMark ++ (' ' :: (row ++ [' ']) ++ closingMark)

/-- A text without an opening mark is literal text. -/
theorem readPieces_of_noDirective {source : Option String} {place : Nat} {s : List Char}
    (h : ∀ n, ¬ OccursAt openingMark s n) : readPieces source place s = pure [.literal s] := by
  have hcut : cutAtDirective s = .noDirective := by
    rw [cutAtDirective, cutAtWord?_eq_none_iff.mpr h]
  rw [readPieces]
  split
  · rfl
  · next before hother => rw [hcut] at hother; exact Cut.noConfusion hother
  · next before body rest hother => rw [hcut] at hother; exact Cut.noConfusion hother

/-- A template is read on behind a directive that means a rule. -/
theorem readPieces_of_cut {source : Option String} {place : Nat} {s before body rest : List Char}
    {rule : Rule} (h : cutAtDirective s = .directive before body rest)
    (hrule : readRule (String.ofList body) = pure (some rule)) :
    readPieces source place s =
      (readPieces source
        (place + before.length + openingMark.length + body.length + closingMark.length) rest >>=
          fun pieces => pure (.literal before :: .directive body (some rule) :: pieces)) := by
  rw [readPieces]
  split
  · next hother => rw [h] at hother; exact Cut.noConfusion hother
  · next other hother => rw [h] at hother; exact Cut.noConfusion hother
  · next before' body' rest' hsame =>
      rw [h, Cut.directive.injEq] at hsame
      obtain ⟨rfl, rfl, rfl⟩ := hsame
      simp only [hrule, Noted.pure_bind, Option.isNone_some, Bool.false_eq_true, if_false]

/-- A template that is a directive between texts without an opening mark. -/
theorem readPieces_directive (source : Option String) {before body after : List Char}
    {rule : Rule}
    (hbefore : ∀ n, ¬ OccursAt openingMark before n) (hafter : ∀ n, ¬ OccursAt openingMark after n)
    (hcloses : ∀ n < body.length, ¬ OccursAt closingMark (body ++ (closingMark ++ after)) n)
    (hrule : readRule (String.ofList body) = pure (some rule)) (place : Nat) :
    readPieces source place (before ++ (openingMark ++ (body ++ (closingMark ++ after))))
      = pure [.literal before, .directive body (some rule), .literal after] := by
  have hopens : ∀ n < before.length, ¬ OccursAt openingMark
      (before ++ (openingMark ++ (body ++ (closingMark ++ after)))) n :=
    not_occursAt_of_head (by decide) hbefore _
  have hcut : cutAtDirective (before ++ (openingMark ++ (body ++ (closingMark ++ after))))
      = .directive before body after := by
    rw [cutAtDirective, cutAtWord?_eq_some_iff.mpr ⟨rfl, hopens⟩]
    simp only [cutAtWord?_eq_some_iff.mpr ⟨rfl, hcloses⟩]
  rw [readPieces_of_cut hcut hrule, readPieces_of_noDirective hafter]
  rfl

/-! ## The rule that was written -/

/-- The row of a rule with every character behind a backslash. -/
def Rule.cautiousRow (rule : Rule) : List Char :=
  writeRow (rule.values.map fun value => (.cautious, value))

section

variable {rule : Rule} (hbounded : rule.IsBounded)

include hbounded

/-- However the values of a row are written, the rule is read back, with blanks around the row or
without. -/
theorem readRule_of_row {row : List (Writing × String)} (hrow : row.map Prod.snd = rule.values)
    (hsuits : ∀ item ∈ row, item.1.Suits item.2.toList) {gap : List Char}
    (hgap : ∀ c ∈ gap, isBlank c) :
    readRule (String.ofList (gap ++ (writeRow row ++ gap))) = pure (some rule) := by
  have hspells := (spells_writeRow hsuits).before hgap
  have hvalues : row.map (fun item => item.2.toList) = rule.values.map String.toList := by
    rw [← hrow, List.map_map]
    rfl
  rw [hvalues] at hspells
  exact readRule_of_spells hbounded (hspells.behind hgap)

/-- The same for the row in which every character stands behind a backslash. -/
theorem readRule_cautiousRow {gap : List Char} (hgap : ∀ c ∈ gap, isBlank c) :
    readRule (String.ofList (gap ++ (rule.cautiousRow ++ gap))) = pure (some rule) := by
  refine readRule_of_row hbounded ?_ ?_ hgap
  · rw [List.map_map]
    exact List.map_id _
  · intro item hitem
    obtain ⟨value, -, rfl⟩ := List.mem_map.mp hitem
    trivial

/-- A template that is a directive with this row between texts without an opening mark. -/
theorem readPieces_directiveText {source : Option String} {before after : List Char}
    (hbefore : ∀ n, ¬ OccursAt openingMark before n)
    (hafter : ∀ n, ¬ OccursAt openingMark after n) (place : Nat) :
    readPieces source place (before ++ (directiveText rule.cautiousRow ++ after))
      = pure [.literal before, .directive (' ' :: rule.cautiousRow ++ [' ']) (some rule),
          .literal after] := by
  have hspace : ∀ c ∈ [' '], isBlank c := by
    rintro c (_ | ⟨_, ⟨⟩⟩)
    rfl
  have hread : readRule (String.ofList (' ' :: rule.cautiousRow ++ [' '])) = pure (some rule) := by
    have hboth := readRule_cautiousRow hbounded hspace
    rwa [List.singleton_append] at hboth
  have hfront : (' ' :: rule.cautiousRow).IsChain Apart :=
    isChain_append_space .nil (isChain_writeRow rule.values)
  have hpieces := readPieces_directive source hbefore hafter
    (not_occursAt_closingMark hfront (closingMark ++ after)) hread place
  rw [← hpieces, directiveText]
  simp only [List.append_assoc, List.cons_append]

end

/-- A rule is read back, without a note, from its name and its arguments with every character behind
a backslash, and from any row in which each of them is written in a way that suits it. In a
template, between texts without an opening mark, the cautious row makes one directive: it takes up
what was written between these texts, and means the rule. -/
theorem readRule_writeRow (rule : Rule) (hbounded : rule.IsBounded) :
    readRule (String.ofList rule.cautiousRow) = pure (some rule) ∧
      (∀ row : List (Writing × String), row.map Prod.snd = rule.values →
        (∀ item ∈ row, item.1.Suits item.2.toList) →
          readRule (String.ofList (writeRow row)) = pure (some rule)) ∧
      ∀ (source : Option String) (before after : List Char),
        (∀ n, ¬ OccursAt openingMark before n) → (∀ n, ¬ OccursAt openingMark after n) →
          ∃ pieces, readPieces source 0 (before ++ (directiveText rule.cautiousRow ++ after))
              = pure pieces ∧
            replacements 0 pieces = [{
              start := before.length
              stop := before.length + (directiveText rule.cautiousRow).length
              rule := rule }] := by
  have hnone : ∀ c ∈ ([] : List Char), isBlank c := fun c hc => absurd hc List.not_mem_nil
  refine ⟨?_, ?_, ?_⟩
  · have hread := readRule_cautiousRow hbounded hnone
    rwa [List.nil_append, List.append_nil] at hread
  · intro row hrow hsuits
    have hread := readRule_of_row hbounded hrow hsuits hnone
    rwa [List.nil_append, List.append_nil] at hread
  · intro source before after hbefore hafter
    refine ⟨_, readPieces_directiveText hbounded hbefore hafter 0, ?_⟩
    simp only [replacements, Piece.text, directiveText, Nat.zero_add, List.append_assoc,
      List.cons_append, List.nil_append]

/-- The greatest depth, with a bare name and with backslashes all over, and a list whose path holds
both marks, a quote and a backslash. -/
theorem readRule_writeRow_samples :
    (readRule "TOC \"255\"" = pure (some (.toc 255)) ∧
      ∃ pieces,
        readPieces none 0 "<p><!--P/ \"\\T\\O\\C\" \"\\2\\5\\5\" /P--></p>".toList
          = pure pieces ∧
        replacements 0 pieces = [{ start := 3, stop := 33, rule := .toc 255 }]) ∧
      readRule "LIST \"/P--> \\\"a\\\\b <!--P/\" sort \"\" desc"
        = pure (some (.listing "/P--> \"a\\b <!--P/" (some ⟨"", false⟩))) := by
  obtain ⟨-, hdepth, hplaced⟩ := readRule_writeRow (.toc 255) (Nat.le_refl 255)
  obtain ⟨-, hlist, -⟩ :=
    readRule_writeRow (.listing "/P--> \"a\\b <!--P/" (some ⟨"", false⟩)) trivial
  have htest : ∀ word ∈ ["TOC", "LIST", "sort", "desc"],
      word.toList ≠ [] ∧ word.toList.any isBlank = false ∧ word.toList.head? ≠ some '"' := by
    decide
  have hword : ∀ word ∈ ["TOC", "LIST", "sort", "desc"], IsWord word.toList := by
    intro word hword
    obtain ⟨hne, hblank, hquote⟩ := htest word hword
    exact ⟨hne, fun c hc => eq_false_of_ne_true (List.any_eq_false.mp hblank c hc), hquote⟩
  refine ⟨⟨hdepth [(.bare, "TOC"), (.sparing, "255")] rfl ?_, ?_⟩,
    hlist [(.bare, "LIST"), (.sparing, "/P--> \"a\\b <!--P/"), (.bare, "sort"), (.sparing, ""),
      (.bare, "desc")] rfl ?_⟩
  · rw [List.forall_mem_cons, List.forall_mem_singleton]
    exact ⟨hword "TOC" (by simp), trivial⟩
  · exact hplaced none "<p>".toList "</p>".toList (cutAtWord?_eq_none_iff.mp (by decide))
      (cutAtWord?_eq_none_iff.mp (by decide))
  · simp only [List.forall_mem_cons]
    exact ⟨hword "LIST" (by simp), trivial, hword "sort" (by simp), trivial,
      hword "desc" (by simp), nofun⟩

end Template

end StaticSite
