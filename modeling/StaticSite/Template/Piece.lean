import StaticSite.Template.Rule

/-!
# Templates in pieces

The text of a template is literal text with directives in it. A directive begins with the opening
mark and ends with the first closing mark after it; what stands between is read as a rule. The
pieces of a template put together are its text again, so every directive has a place in the text.
-/

set_option autoImplicit false

namespace StaticSite.Template

open StaticSite.Text

/-- The mark that begins a directive. -/
def openingMark : List Char :=
  "<!--P/".toList

/-- The mark that ends a directive. -/
def closingMark : List Char :=
  "/P-->".toList

/-- A piece of a template. A directive that means no rule is a piece of its own all the same. -/
inductive Piece where
  | literal (text : List Char)
  | directive (body : List Char) (rule : Option Rule)
deriving DecidableEq, Repr

/-- A piece as it stands in the template. -/
def Piece.text : Piece → List Char
  | literal text => text
  | directive body _ => openingMark ++ body ++ closingMark

/-- A template cut at its first directive: what is before, the body, and what is after. -/
inductive Cut where
  | noDirective
  /-- There is an opening mark after some text, but no closing mark after it. -/
  | unclosed (before : List Char)
  | directive (before body rest : List Char)

/-- Cuts a template at its first directive. -/
def cutAtDirective (s : List Char) : Cut :=
  match cutAtWord? openingMark s with
  | none => .noDirective
  | some (before, after) =>
    match cutAtWord? closingMark after with
    | none => .unclosed before
    | some (body, rest) => .directive before body rest

/-- A cut keeps every character. -/
theorem eq_of_cutAtDirective {s before body rest : List Char}
    (h : cutAtDirective s = .directive before body rest) :
    s = before ++ openingMark ++ body ++ closingMark ++ rest := by
  unfold cutAtDirective at h
  split at h
  · simp at h
  · next outer =>
    split at h
    · simp at h
    · next inner =>
      simp only [Cut.directive.injEq] at h
      obtain ⟨rfl, rfl, rfl⟩ := h
      rw [cutAtWord?_eq_some outer, cutAtWord?_eq_some inner]
      simp [List.append_assoc]

/-- What follows a directive is shorter than the template. -/
theorem length_lt_of_cutAtDirective {s before body rest : List Char}
    (h : cutAtDirective s = .directive before body rest) : rest.length < s.length := by
  have : 0 < openingMark.length := by decide
  rw [eq_of_cutAtDirective h]
  simp only [List.length_append]
  omega

/-- Reads a template from a place on. `source` says where it is from. -/
def readPieces (source : Option String) (place : Nat) (s : List Char) :
    Noted Note (List Piece) :=
  match h : cutAtDirective s with
  | .noDirective => pure [.literal s]
  | .unclosed before => do
    Noted.note (.unclosedDirective (place + before.length + openingMark.length) source)
    pure [.literal s]
  | .directive before body rest => do
    have := length_lt_of_cutAtDirective h
    let text := String.ofList body
    let rule ← readRule text
    if rule.isNone then Noted.note (.unknownDirective text source)
    let next := place + before.length + openingMark.length + body.length + closingMark.length
    let pieces ← readPieces source next rest
    pure (.literal before :: .directive body rule :: pieces)
termination_by s.length

/-- A rule with the stretch of the template that it replaces. -/
structure Replacement where
  start : Nat
  stop : Nat
  rule : Rule
deriving DecidableEq, Repr

/-- The rules of a template's pieces, which begin at a place. -/
def replacements (place : Nat) : List Piece → List Replacement
  | [] => []
  | piece :: rest =>
    let next := place + piece.text.length
    match piece with
    | .directive _ (some rule) => ⟨place, next, rule⟩ :: replacements next rest
    | _ => replacements next rest

end StaticSite.Template
