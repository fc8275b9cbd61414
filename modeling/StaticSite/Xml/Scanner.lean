import StaticSite.Text.Split
import StaticSite.Xml.Character

/-!
# Scanners

A scanner reads from the front of a text, whose names are made of some letters. It gives what it
read and the text that is left, or nothing if the text does not begin as it should. Scanners are put
together with `do`; `many` repeats one.
-/

set_option autoImplicit false

namespace StaticSite.Xml

open StaticSite.Text

/-- A way to read from the front of a text. -/
abbrev Scanner (α : Type) := ReaderT NameLetters (StateT (List Char) Option) α

namespace Scanner

variable {α : Type}

/-- The next character, which stays where it is. -/
def peek? : Scanner (Option Char) :=
  fun _ s => some (s.head?, s)

/-- The text that is left, which stays where it is. -/
def rest : Scanner (List Char) :=
  fun _ s => some (s, s)

/-- Any character. -/
def anyChar : Scanner Char
  | _, c :: rest => some (c, rest)
  | _, [] => none

/-- A word, if the text begins with it. -/
def hasWord (word : String) : Scanner Bool :=
  fun _ s => match dropWord? word.toList s with
    | some rest => some (true, rest)
    | none => some (false, s)

/-- A word that has to be there. -/
def word (word : String) : Scanner Unit :=
  fun _ s => (dropWord? word.toList s).map ((), ·)

/-- The characters of a class at the front of the text. -/
def charsOf (p : Char → Bool) : Scanner (List Char) :=
  fun _ s => some (s.span p)

/-- The text before a word that has to come; the word is read, too. -/
def before (word : String) : Scanner (List Char) :=
  fun _ s => cutAtWord? word.toList s

/-- White space, if there is any. -/
def space : Scanner Unit :=
  discard (charsOf isSpace)

/-- White space that has to be there. -/
def someSpace : Scanner Unit := do
  guard (!(← charsOf isSpace).isEmpty)

/-- The letters that names are made of. -/
def letters : Scanner NameLetters :=
  read

/-- A result that is known, or nothing. -/
def ofOption (result : Option α) : Scanner α :=
  fun _ s => result.map (·, s)

/-- A name. -/
def name : Scanner String := do
  let letters ← letters
  let first ← anyChar
  guard (isNameStart letters first)
  let rest ← charsOf (isNameChar letters)
  pure (String.ofList (first :: rest))

/-- Repeats a scanner until it gives nothing. Every repetition has to read something, so that there
are no more of them than characters. -/
def many (step : Scanner (Option α)) : Scanner (List α) :=
  fun letters s => go (s.length + 1) letters s
where
  /-- Repeats the scanner a limited number of times. -/
  go : Nat → Scanner (List α)
    | 0 => failure
    | limit + 1 => do
      match ← step with
      | some a => do
        let rest ← go limit
        pure (a :: rest)
      | none => pure []

/-- What a scanner makes of a whole text. -/
def all? (scanner : Scanner α) (letters : NameLetters) (s : List Char) : Option α :=
  match scanner letters s with
  | some (a, []) => some a
  | _ => none

end Scanner

end StaticSite.Xml
