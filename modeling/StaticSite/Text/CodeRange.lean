/-!
# Ranges of code points

A character class is given by the closed ranges of code points it consists of, in increasing
order. `inRanges` decides membership and stops at the first range that begins later.
-/

set_option autoImplicit false

namespace StaticSite.Text

/-- A closed range of code points, given by its two ends. -/
abbrev CodeRange := Nat × Nat

/-- Whether a code point lies in one of the ranges, which are listed in increasing order. -/
def inRanges : List CodeRange → Nat → Bool
  | [], _ => false
  | (first, last) :: rest, code =>
    if code < first then false else if code ≤ last then true else inRanges rest code

end StaticSite.Text
