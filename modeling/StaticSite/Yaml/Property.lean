import StaticSite.File.Utf8
import StaticSite.Text.Integer
import StaticSite.Yaml.Scalar
import StaticSite.Yaml.ScalarText

/-!
# Names, tags and directives

What is written about values rather than in them: the names under which they can be used again, the
tags that say what kind they are, and the directives before a document.
-/

set_option autoImplicit false

namespace StaticSite.Yaml

open Lexer
open StaticSite.Text (readUnsigned)

/-! ## Names -/

/-- Whether a character may be in a name. -/
def isNameChar (c : Char) : Bool :=
  !(",[]\x7b\x7d".toList.contains c) && c != '\ufeff' &&
    (('!' ≤ c && c ≤ '~') || (0xa0 ≤ c.toNat && c.toNat != 0xfffe && c.toNat != 0xffff))

/-- Whether a name may end before a character. -/
def endsName (c : Option Char) : Bool :=
  isBreakOrEnd c || c.any fun c => " \t\r?:,[]\x7b\x7d%@\x60".toList.contains c

/-- A name after its mark. -/
def name : Lexer String := do
  skip
  let s ← takeWhile isNameChar
  require (!s.isEmpty)
  require (endsName (← peek))
  pure (String.ofList s)

/-! ## Tags -/

/-- Whether a character may be in the handle of a tag. -/
def isHandleChar (c : Char) : Bool :=
  c.isAlphanum || c = '-' || c = '_'

/-- Whether a character may be in a tag as it is. -/
def isTagChar (isOld : Bool) (c : Char) : Bool :=
  c.isAlphanum || "-;/?:@&=+$,_.!~*'()[]".toList.contains c || (c = '#' && !isOld)

/-- The two digits of a byte that is given by number. -/
def byteDigits : Lexer (List Char × UInt8) := do
  let digits ← take 2
  match hexNumber? digits with
  | some n => do
    require (digits.length = 2)
    pure (digits, UInt8.ofNat n)
  | none => malformed

/-- Bytes that are given by number, each after a percent sign, as they are written. Together they
have to be text. -/
def escapedBytes : Lexer (List Char) := do
  let found ← go (← bound)
  match StaticSite.File.decode (found.map (·.2)) with
  | .ok _ => pure (found.flatMap fun (digits, _) => '%' :: digits)
  | .error _ => malformed
where
  /-- Reads a limited number of bytes. -/
  go : Nat → Lexer (List (List Char × UInt8))
    | 0 => malformed
    | limit + 1 => do
      if (← peek) = some '%' then
        skip
        let byte ← byteDigits
        let rest ← go limit
        pure (byte :: rest)
      else pure []

/-- The text of a tag as it is written, which is not empty. -/
def tagText (isOld : Bool) : Lexer String := do
  let s ← go (← bound)
  require (!s.isEmpty)
  pure (String.ofList s)
where
  /-- Reads a limited number of parts. -/
  go : Nat → Lexer (List Char)
    | 0 => malformed
    | limit + 1 => do
      let plain ← takeWhile (isTagChar isOld)
      if (← peek) = some '%' then
        let escaped ← escapedBytes
        let rest ← go limit
        pure (plain ++ escaped ++ rest)
      else pure plain

/-- The handle of a tag. -/
def tagHandle : Lexer String := do
  expect '!'
  if (← peek) = some ' ' then pure "!"
  else
    let s ← takeWhile isHandleChar
    expect '!'
    pure (String.ofList ('!' :: s ++ ['!']))

/-- Whether there is another exclamation mark in a tag, after the first one. -/
def hasHandle (s : List Char) : Bool :=
  (s.drop 1).takeWhile (fun c => !(c = ' ' || isBreak c)) |>.contains '!'

/-- A tag. Two exclamation marks at its front are one handle, unless a third one makes the second
one the front of another handle. -/
def tag (isOld : Bool) : Lexer TagName := do
  let isDoubled := (← peek 1) = some '!'
  if isDoubled then skip
  let found ← match ← peek 1 with
    | some '<' => do
      skip 2
      let suffix ← tagText isOld
      expect '>'
      pure { handle := none, suffix := suffix }
    | c =>
      if isSeparator c then do
        skip
        pure { handle := none, suffix := "!" }
      else do
        let handle ← if hasHandle (← get).rest then tagHandle else do
          skip
          pure (if isDoubled then "!!" else "!")
        let suffix ← tagText isOld
        pure { handle := some handle, suffix := suffix }
  require (isSpaceOrEnd (← peek))
  pure found

/-! ## Directives -/

/-- A number of a version. -/
def versionNumber : Lexer Nat := do
  let digits ← takeWhile Char.isDigit
  require (!digits.isEmpty)
  match readUnsigned 10 digits with
  | some n => pure n
  | none => throw .badValue

/-- A directive. -/
def directive (isOld : Bool) : Lexer Directive := do
  skip
  let name ← takeWhile fun c => isHandleChar c || c = ':' || c = '.'
  require (!name.isEmpty)
  require (isSpaceOrEnd (← peek))
  let found ← match String.ofList name with
    | "YAML" => do
      skipSpaces
      let major ← versionNumber
      expect '.'
      let minor ← versionNumber
      require (isSpaceOrEnd (← peek))
      pure (Directive.version major minor)
    | "TAG" => do
      skipSpaces
      let handle ← tagHandle
      require ((← peek) = some ' ')
      skipSpaces
      let leading ← tagText isOld
      require (isSpaceOrEnd (← peek))
      pure (Directive.handle handle leading)
    | _ => do
      skipWhile (!isBreak ·)
      pure Directive.other
  skipSpaces
  skipComment
  require (isBreakOrEnd (← peek))
  discard lineBreak
  pure found

end StaticSite.Yaml
