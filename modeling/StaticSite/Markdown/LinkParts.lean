import StaticSite.Markdown.CharacterReference
import StaticSite.Markdown.Line
import StaticSite.Text.Blank
import StaticSite.Text.Case
import StaticSite.Url.Address

/-!
# Parts of a link

The pieces from which links, images and reference definitions are put together: a destination, a
title, and the key under which a reference is looked up.
-/

set_option autoImplicit false

namespace StaticSite.Markdown

open StaticSite.Text

/-- What a reference or a link leads to. -/
structure Target where
  dest : String
  title : String
deriving DecidableEq, Repr

/-- The key of a reference: its label with white space collapsed and case ignored. -/
def referenceKey (label : List Char) : List Char :=
  (collapseBy isWhiteSpace (stripBy isWhiteSpace label)).flatMap caseless

/-! ## Destinations -/

/-- The place of the bracket that closes a destination in brackets. A line end or another opening
bracket means that there is none. -/
def bracketEnd? (src : Source) (stop i : Nat) : Option Nat :=
  if _h : i < stop then
    match src[i]? with
    | some '\n' => none
    | some '<' => none
    | some '>' => some i
    | some '\\' => if i + 1 < stop then bracketEnd? src stop (i + 2) else none
    | some _ => bracketEnd? src stop (i + 1)
    | none => none
  else none
termination_by stop - i

/-- The end of a destination without brackets, which ends at a blank, a control character or a
parenthesis that closes none of its own; `depth` of its own are open. A destination with more than
32 open at once, or with one left open, is none. -/
def bareEnd? (src : Source) (stop i depth : Nat) : Option Nat :=
  let ended := if depth = 0 then some i else none
  if _h : i < stop then
    match src[i]? with
    | some '\\' =>
      if i + 1 < stop then
        if src.isAt (i + 1) ' ' then ended else bareEnd? src stop (i + 2) depth
      else bareEnd? src stop (i + 1) depth
    | some '(' => if 32 ≤ depth then none else bareEnd? src stop (i + 1) (depth + 1)
    | some ')' => if depth = 0 then ended else bareEnd? src stop (i + 1) (depth - 1)
    | some c =>
      if c.toNat ≤ 0x20 || c.toNat = 0x7f then ended else bareEnd? src stop (i + 1) depth
    | none => ended
  else ended
termination_by stop - i

/-- Reads a destination: its text as written, resolved, and the place after it. -/
def readDestination? (src : Source) (stop start : Nat) : Option (List Char × Nat) :=
  if src.isAt start '<' then
    (bracketEnd? src stop (start + 1)).map fun i =>
      (resolveQuoted (src.chars (start + 1) i), i + 1)
  else
    match bareEnd? src stop start 0 with
    | some i => if i = start then none else some (resolveQuoted (src.chars start i), i)
    | none => none

/-! ## Titles -/

/-- What was found of a title: all of it, its beginning, or no title. -/
inductive TitleReading where
  | complete (title : List Char) (next : Nat)
  | unfinished (title : List Char) (closer : Char)
  | absent

/-- Reads a title up to its closing character. `before` is what earlier lines held of it, and
`start` is where this part begins. -/
def readTitleFrom (src : Source) (stop : Nat) (closer : Char) (before : List Char) (start i : Nat) :
    TitleReading :=
  if _h : i < stop then
    match src[i]? with
    | some c =>
      if c = closer then .complete (before ++ resolveQuoted (src.chars start i)) (i + 1)
      else if c = '(' ∧ closer = ')' then .absent
      else if c = '\\' ∧ i + 1 < stop then readTitleFrom src stop closer before start (i + 2)
      else readTitleFrom src stop closer before start (i + 1)
    | none => .absent
  else .unfinished (before ++ resolveQuoted (src.chars start i)) closer
termination_by stop - i

/-- Reads a title that begins at a place. -/
def readTitle (src : Source) (stop i : Nat) : TitleReading :=
  if i < stop then
    match src[i]? with
    | some '"' => readTitleFrom src stop '"' [] (i + 1) (i + 1)
    | some '\'' => readTitleFrom src stop '\'' [] (i + 1) (i + 1)
    | some '(' => readTitleFrom src stop ')' [] (i + 1) (i + 1)
    | _ => .absent
  else .absent

end StaticSite.Markdown
