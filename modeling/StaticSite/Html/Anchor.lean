import StaticSite.Text.Case
import StaticSite.Text.CharacterClass

/-!
# Anchors and footnote numbers

Two registers that live for one page. `Anchors` hands out the identifiers of headings: the first
heading of a name gets the name, later ones the name with the least free number from 2 on.
`FootnoteNumbers` numbers footnotes by the order in which their labels are first met.
-/

set_option autoImplicit false

namespace StaticSite.Html

open StaticSite.Text

/-- The identifier alphabet: letters and digits in lower case, and one `_` for every other run.
`separated` tells whether the last character written is such a `_`. -/
def anchorChars (separated : Bool) : List Char → List Char
  | [] => []
  | c :: rest =>
    if isAlphanumeric c then lower c ++ anchorChars false rest
    else if separated then anchorChars true rest
    else '_' :: anchorChars true rest

/-- The identifier that a heading's text suggests. -/
def anchorName (text : String) : String :=
  String.ofList (anchorChars false text.toList)

/-- The identifiers issued so far on a page, latest first. -/
structure Anchors where
  issued : List String := []

namespace Anchors

/-- The number of identifiers issued. -/
def size (anchors : Anchors) : Nat :=
  anchors.issued.length

/-- Whether an identifier was issued. -/
def contains (anchors : Anchors) (identifier : String) : Bool :=
  anchors.issued.contains identifier

/-- The `k`-th candidate for a name: the name itself for 1, then the name with its number. -/
def candidate (name : String) (k : Nat) : String :=
  if k ≤ 1 then name else name ++ "_" ++ toString k

/-- The first candidate from the `k`-th on that was not issued. As many failures as there are
issued identifiers cannot all be followed by one more, so `tries` counts down from that number. -/
def firstFree (issued : List String) (name : String) : (tries k : Nat) → String
  | 0, k => candidate name k
  | tries + 1, k =>
    if issued.contains (candidate name k) then firstFree issued name tries (k + 1)
    else candidate name k

/-- Issues an identifier for a heading's text. -/
def allocate (anchors : Anchors) (text : String) : String × Anchors :=
  let identifier := firstFree anchors.issued (anchorName text) anchors.size 1
  (identifier, { issued := identifier :: anchors.issued })

end Anchors

/-- The labels of the footnotes met so far on a page, in order. -/
structure FootnoteNumbers where
  labels : List String := []

/-- The number of a label, which takes the next number if it was not met before. -/
def FootnoteNumbers.number (numbers : FootnoteNumbers) (label : String) : Nat × FootnoteNumbers :=
  match numbers.labels.idxOf? label with
  | some i => (i + 1, numbers)
  | none => (numbers.labels.length + 1, { labels := numbers.labels ++ [label] })

end StaticSite.Html
