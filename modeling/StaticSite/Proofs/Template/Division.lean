import StaticSite.Proofs.Text.Occurrence
import StaticSite.Template.Piece

/-!
# The division of a template

The text of a template is literal text and directives by turns. A directive runs from the leftmost
opening mark that is not yet used up through the first closing mark after it, and the text ends in
literal text without an opening mark that a closing mark follows.

## What this module delivers

- `Divided s parts last`: the text `s` is the parts, each a literal text and a directive, and then
  the literal text `last`.
- `Divided.unique`: a text is divided in one way only.
- `exists_divided`: reading a template ends with the pieces of its division.
- `replacements_pieces`: the rules found in a template are those of the directives that mean one, in
  order, with the stretches of the text that these directives take up.
-/

set_option autoImplicit false

namespace StaticSite.Template

open StaticSite.Text

/-! ## Division -/

/-- The body of a directive with the literal text before it. -/
structure Part where
  before : List Char
  body : List Char

namespace Part

/-- The directive as it stands in the text. -/
def directive (part : Part) : List Char :=
  openingMark ++ (part.body ++ closingMark)

/-- The rule that the directive means, if it means one. -/
def rule? (part : Part) : Option Rule :=
  (readRule (String.ofList part.body)).value

end Part

/-- No opening mark in a text is followed by a closing mark. -/
def NoDirective (s : List Char) : Prop :=
  ∀ m n, OccursAt openingMark s m → m + openingMark.length ≤ n → ¬ OccursAt closingMark s n

/-- A text as literal texts and directives by turns, up to a last literal text. -/
inductive Divided : List Char → List Part → List Char → Prop
  | last {s : List Char} (none : NoDirective s) : Divided s [] s
  /-- The opening mark is the leftmost one, and the closing mark the first after it. -/
  | part {s : List Char} {part : Part} {rest last : List Char} {parts : List Part}
      (text : s = part.before ++ (openingMark ++ (part.body ++ (closingMark ++ rest))))
      (opens : ∀ n < part.before.length, ¬ OccursAt openingMark s n)
      (closes : ∀ n < part.body.length,
        ¬ OccursAt closingMark (part.body ++ (closingMark ++ rest)) n)
      (tail : Divided rest parts last) : Divided s (part :: parts) last

/-- A text without a directive is not a part and a rest. -/
theorem NoDirective.not_part {s rest : List Char} {part : Part} (h : NoDirective s)
    (text : s = part.before ++ (openingMark ++ (part.body ++ (closingMark ++ rest)))) : False := by
  subst text
  apply h _ _ (occursAt_append part.before openingMark _) (Nat.le_add_right _ part.body.length)
  rw [Nat.add_assoc, occursAt_append_iff, occursAt_append_iff]
  exact occursAt_append part.body closingMark rest

/-- A text is divided in one way only. -/
theorem Divided.unique {s last last' : List Char} {parts parts' : List Part}
    (h : Divided s parts last) (h' : Divided s parts' last') : parts = parts' ∧ last = last' := by
  induction h generalizing parts' with
  | last none =>
      cases h' with
      | last _ => exact ⟨rfl, rfl⟩
      | part text _ _ _ => exact absurd text fun text => none.not_part text
  | @part s part rest last parts text opens closes tail ih =>
      cases h' with
      | last none => exact absurd text fun text => none.not_part text
      | @part _ part' rest' _ parts' text' opens' closes' tail' =>
          -- the marks stand at the same places, the opening one first
          obtain ⟨hbefore, hafter⟩ := eq_of_leftmost (text ▸ text') (text ▸ opens) (text' ▸ opens')
          obtain ⟨hbody, hrest⟩ := eq_of_leftmost hafter closes closes'
          subst hrest
          obtain ⟨rfl, rfl⟩ := ih tail'
          obtain ⟨before, body⟩ := part
          obtain ⟨before', body'⟩ := part'
          exact ⟨by simp_all, rfl⟩

/-! ## Reading -/

/-- A text without an opening mark has no directive. -/
theorem noDirective_of_noDirective {s : List Char} (h : cutAtDirective s = .noDirective) :
    NoDirective s := by
  rw [cutAtDirective] at h
  split at h
  · next hopen =>
      intro m n hm
      exact absurd hm (cutAtWord?_eq_none_iff.1 hopen m)
  · next before after hopen => split at h <;> simp at h

/-- A text whose first opening mark is never closed has no directive. -/
theorem noDirective_of_unclosed {s before : List Char} (h : cutAtDirective s = .unclosed before) :
    NoDirective s := by
  rw [cutAtDirective] at h
  split at h
  · simp at h
  · next before after hopen =>
      split at h
      · next hclose =>
          obtain ⟨rfl, hfirst⟩ := cutAtWord?_eq_some_iff.1 hopen
          intro m n hm hn hclosed
          -- a closing mark after any opening mark stands after the leftmost one too
          have hm' : before.length ≤ m := Nat.le_of_not_lt fun hlt => hfirst m hlt hm
          obtain ⟨k, rfl⟩ : ∃ k, n = before.length + (openingMark.length + k) :=
            ⟨n - (before.length + openingMark.length), by omega⟩
          rw [occursAt_append_iff, occursAt_append_iff] at hclosed
          exact cutAtWord?_eq_none_iff.1 hclose k hclosed
      · simp at h

/-- A cut at a directive takes the leftmost opening mark and the first closing mark after it. -/
theorem cutAtDirective_eq_directive {s before body rest : List Char}
    (h : cutAtDirective s = .directive before body rest) :
    s = before ++ (openingMark ++ (body ++ (closingMark ++ rest))) ∧
      (∀ n < before.length, ¬ OccursAt openingMark s n) ∧
      (∀ n < body.length, ¬ OccursAt closingMark (body ++ (closingMark ++ rest)) n) := by
  rw [cutAtDirective] at h
  split at h
  · simp at h
  · next before' after hopen =>
      split at h
      · simp at h
      · next body' rest' hclose =>
          simp only [Cut.directive.injEq] at h
          obtain ⟨rfl, rfl, rfl⟩ := h
          obtain ⟨rfl, hopens⟩ := cutAtWord?_eq_some_iff.1 hopen
          obtain ⟨rfl, hcloses⟩ := cutAtWord?_eq_some_iff.1 hclose
          exact ⟨rfl, hopens, hcloses⟩

/-- The pieces of a divided text. -/
def piecesOf : List Part → List Char → List Piece
  | [], last => [.literal last]
  | part :: parts, last =>
    .literal part.before :: .directive part.body part.rule? :: piecesOf parts last

/-- Reading a template ends with the pieces of its division. -/
theorem exists_divided (source : Option String) (place : Nat) (s : List Char) :
    ∃ parts last, Divided s parts last ∧ (readPieces source place s).value = piecesOf parts last := by
  fun_induction readPieces source place s with
  | case1 place s hcut => exact ⟨[], s, .last (noDirective_of_noDirective hcut), rfl⟩
  | case2 place s before hcut => exact ⟨[], s, .last (noDirective_of_unclosed hcut), rfl⟩
  | case3 place s before body rest hcut _ text ih =>
      obtain ⟨htext, hopens, hcloses⟩ := cutAtDirective_eq_directive hcut
      obtain ⟨parts, last, hdivided, hpieces⟩ := ih
      refine ⟨⟨before, body⟩ :: parts, last, .part htext hopens hcloses hdivided, ?_⟩
      simp only [piecesOf, ← hpieces, Part.rule?, Noted.value_bind]
      split <;> rfl

/-! ## Stretches -/

/-- The stretches of the text that the directives of parts take up. The first part begins at a
place. -/
def stretches : Nat → List Part → List (Nat × Nat)
  | _, [] => []
  | place, part :: parts =>
    let start := place + part.before.length
    let stop := start + part.directive.length
    (start, stop) :: stretches stop parts

/-- The rules that directives mean, with the stretches that these take up. -/
def rulesAt (place : Nat) (parts : List Part) : List Replacement :=
  ((stretches place parts).zip parts).filterMap fun ((start, stop), part) =>
    part.rule?.map fun rule => { start := start, stop := stop, rule := rule }

/-- The rules found in the pieces of a division are those of its directives that mean one. -/
theorem replacements_pieces (parts : List Part) (last : List Char) (place : Nat) :
    replacements place (piecesOf parts last) = rulesAt place parts := by
  induction parts generalizing place with
  | nil => rfl
  | cons part parts ih =>
      have htext : ∀ rule, (Piece.directive part.body rule).text = part.directive := by
        intro rule
        simp [Piece.text, Part.directive, List.append_assoc]
      cases hrule : part.rule? with
      | none =>
          simp only [piecesOf, replacements, hrule, htext, ih]
          simp [rulesAt, stretches, hrule, Piece.text]
      | some rule =>
          simp only [piecesOf, replacements, hrule, htext, ih]
          simp [rulesAt, stretches, hrule, Piece.text]

end StaticSite.Template
