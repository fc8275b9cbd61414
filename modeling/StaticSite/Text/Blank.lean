import StaticSite.Text.CodeRange

/-!
# Blanks

The characters that separate words, in every script, and the operations that cut them off the ends
of a text. The four ASCII separators from 0x1c to 0x1f and the next-line control 0x85 are blanks;
the zero-width space is not.
-/

set_option autoImplicit false

namespace StaticSite.Text

/-- The code points of blanks, in increasing order. -/
def blankRanges : List CodeRange :=
  [(0x09, 0x0d), (0x1c, 0x20), (0x85, 0x85), (0xa0, 0xa0), (0x1680, 0x1680), (0x2000, 0x200a),
   (0x2028, 0x2029), (0x202f, 0x202f), (0x205f, 0x205f), (0x3000, 0x3000)]

/-- Whether a character is a blank. -/
def isBlank (c : Char) : Bool :=
  inRanges blankRanges c.toNat

/-- Every blank of ASCII text is a blank here. -/
theorem isBlank_of_isWhitespace {c : Char} (h : c.isWhitespace = true) : isBlank c = true := by
  simp only [Char.isWhitespace, Bool.or_eq_true, decide_eq_true_eq] at h
  rcases h with ((rfl | rfl) | rfl) | rfl <;> rfl

/-- Cuts characters of a class off the end of a text. -/
def stripEndBy (p : Char → Bool) (s : List Char) : List Char :=
  (s.reverse.dropWhile p).reverse

/-- Cuts characters of a class off both ends of a text. -/
def stripBy (p : Char → Bool) (s : List Char) : List Char :=
  stripEndBy p (s.dropWhile p)

/-- Cuts blanks off both ends of a text. -/
def strip (s : String) : String :=
  String.ofList (stripBy isBlank s.toList)

/-- Replaces every run of characters of a class by a single space. -/
def collapseBy (p : Char → Bool) : List Char → List Char
  | [] => []
  | c :: rest =>
    if p c then ' ' :: collapseBy p (rest.dropWhile p)
    else c :: collapseBy p rest
termination_by s => s.length
decreasing_by
  · have := (List.dropWhile_sublist (l := rest) p).length_le
    simp only [List.length_cons]; omega
  · simp

end StaticSite.Text
