import StaticSite.Url.Percent

/-!
# Escapes

Ways of putting arbitrary text into a page. `escape` writes text and attribute values: the four
characters with a meaning of their own become entities. `escapeText` leaves quotes alone.
`escapeHref` writes addresses: every character outside the URL alphabet becomes its UTF-8 bytes in
percent notation, percent signs already present are kept, and the two characters of the alphabet
that mean something in HTML become entities. All work character by character, so they distribute
over concatenation.
-/

set_option autoImplicit false

namespace StaticSite.Html

/-- The written form of a character of text. -/
def escapeChar (c : Char) : List Char :=
  if c = '&' then "&amp;".toList
  else if c = '<' then "&lt;".toList
  else if c = '>' then "&gt;".toList
  else if c = '"' then "&quot;".toList
  else [c]

/-- Writes text so that it is read back as text, also inside a quoted attribute. -/
def escape (text : String) : String :=
  String.ofList (text.toList.flatMap escapeChar)

/-- The written form of a character of text between tags. -/
def escapeTextChar (c : Char) : List Char :=
  if c = '"' then [c] else escapeChar c

/-- Writes text so that it is read back as text between tags, where quotes need no escape. -/
def escapeText (text : String) : String :=
  String.ofList (text.toList.flatMap escapeTextChar)

/-- The characters of an address that are written as they are, besides letters and digits. -/
def hrefPunctuation : List Char :=
  "!#$%()*+,-./:;=?@_~".toList

/-- The written form of a character of an address. -/
def escapeHrefChar (c : Char) : List Char :=
  if c = '&' then "&amp;".toList
  else if c = '\'' then "&#x27;".toList
  else if c.isAlphanum || hrefPunctuation.contains c then [c]
  else StaticSite.Url.percentChar c

/-- Writes an address for a `href` or `src` attribute. -/
def escapeHref (address : String) : String :=
  String.ofList (address.toList.flatMap escapeHrefChar)

theorem escape_append (s t : String) : escape (s ++ t) = escape s ++ escape t := by
  simp [escape, String.toList_append, List.flatMap_append, String.ofList_append]

theorem escapeHref_append (s t : String) :
    escapeHref (s ++ t) = escapeHref s ++ escapeHref t := by
  simp [escapeHref, String.toList_append, List.flatMap_append, String.ofList_append]

end StaticSite.Html
