import StaticSite.Markdown.NamedCharacter
import StaticSite.Text.CharacterClass
import StaticSite.Url.Percent

/-!
# Escapes and character references

Characters written by a backslash, by name or by number. In running text a number that belongs to no
character writes the replacement character; in addresses and titles such a reference is no
reference.
-/

set_option autoImplicit false

namespace StaticSite.Markdown

open StaticSite.Text StaticSite.Url

/-- Whether a number may stand in a reference: it belongs to a character that is no control
character and no non-character. -/
def isReferable (code : Nat) : Bool :=
  !(0xd800 ≤ code && code ≤ 0xdfff) && !(0xfdd0 ≤ code && code ≤ 0xfdef) &&
  code % 0x10000 != 0xffff && code % 0x10000 != 0xfffe && !(code ≤ 0x08) && code != 0x0b &&
  !(0x0e ≤ code && code ≤ 0x1f) && !(0x7f ≤ code && code ≤ 0x9f) && code ≤ 0x10ffff

/-- The number that digits write in a base. -/
def numberIn (base : Nat) (digits : List Char) : Nat :=
  digits.foldl (fun n c => base * n + (hexValue? c).getD 0) 0

/-- The code of a numeric reference, given what stands between `#` and `;`: at most `decimal`
decimal digits, or `x` and at most `hexadecimal` hexadecimal ones. -/
def numericCode? (decimal hexadecimal : Nat) (body : List Char) : Option Nat :=
  match body with
  | [] => none
  | c :: digits =>
    if c == 'x' || c == 'X' then
      if digits.isEmpty || hexadecimal < digits.length ||
          !digits.all (hexValue? · |>.isSome) then none
      else some (numberIn 16 digits)
    else if decimal < body.length || !body.all Char.isDigit then none
    else some (numberIn 10 body)

/-- Whether a text may be the name of a character. -/
def isReferenceName (body : List Char) : Bool :=
  match body with
  | [] => false
  | c :: rest => c.isAlpha && 1 ≤ rest.length && rest.length ≤ 31 && rest.all Char.isAlphanum

/-- The longest body that a reference can have. -/
def longestReference : Nat := 33

/-- What stands before the semicolon that ends a reference, if the semicolon comes soon enough. -/
def referenceBody? (s : List Char) : Option (List Char) :=
  let body := (s.take longestReference).takeWhile (· != ';')
  if (s.drop body.length).head? == some ';' then some body else none

/-- Reads a reference in running text, given what follows the `&`: the text it stands for and the
number of characters up to and including the semicolon. -/
def textReference? (s : List Char) : Option (String × Nat) :=
  match referenceBody? s with
  | some ('#' :: digits) =>
    match numericCode? 7 6 digits with
    | some code =>
      some (String.singleton (if isReferable code then Char.ofNat code else '\uFFFD'),
        digits.length + 2)
    | none => none
  | some body =>
    if isReferenceName body then
      (namedCharacter? (String.ofList body)).map fun text => (text, body.length + 1)
    else none
  | none => none

/-- Reads a reference in an address or a title, given what follows the `&`. -/
def quotedReference? (s : List Char) : Option (String × Nat) :=
  match referenceBody? s with
  | some ('#' :: digits) =>
    match numericCode? 8 8 digits with
    | some code =>
      if isReferable code then some (String.singleton (Char.ofNat code), digits.length + 2)
      else none
    | none => none
  | some body =>
    if isReferenceName body then
      (namedCharacter? (String.ofList body)).map fun text => (text, body.length + 1)
    else none
  | none => none

/-- Resolves the escapes and references of an address or a title. -/
def resolveQuoted : List Char → List Char
  | [] => []
  | '\\' :: c :: rest =>
    if isAsciiPunctuation c then c :: resolveQuoted rest else '\\' :: resolveQuoted (c :: rest)
  | '&' :: rest =>
    match quotedReference? rest with
    | some (text, n) => text.toList ++ resolveQuoted (rest.drop n)
    | none => '&' :: resolveQuoted rest
  | c :: rest => c :: resolveQuoted rest
termination_by s => s.length
decreasing_by all_goals (simp only [List.length_cons, List.length_drop]; omega)

end StaticSite.Markdown
