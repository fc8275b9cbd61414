import StaticSite.File.Path
import StaticSite.Noted
import StaticSite.Text.Blank
import StaticSite.Text.Printable

/-!
# Metadata

A source file may begin with a block of metadata: an opening fence, lines with a key and a value,
and a closing fence. What follows the block is the text of the post. A file without an opening fence
on its first line has no metadata, and a block that is never closed is an error.
-/

set_option autoImplicit false

namespace StaticSite

open StaticSite.Text StaticSite.File

/-- What is noted about posts. -/
inductive PostNote where
  | lineIgnored (line : String) (source : Option String)
  | badDate (value : String) (path : Path)
deriving DecidableEq, Repr

/-- A note in words. -/
def PostNote.message : PostNote → String
  | lineIgnored line source =>
    "meta line without separator ignored: " ++ quoted line ++ " (" ++ source.getD "None" ++ ")"
  | badDate value path => "invalid date value " ++ quoted value ++ " in " ++ path.text

namespace Metadata

/-- The line that begins a block of metadata. -/
def openingFence : List Char :=
  "\x60\x60\x60meta".toList

/-- The line that ends a block of metadata. -/
def closingFence : List Char :=
  "\x60\x60\x60".toList

/-- Sets the value of a key, which keeps its place if it has one. -/
def set (key value : String) : List (String × String) → List (String × String)
  | [] => [(key, value)]
  | (other, old) :: rest =>
    if other = key then (key, value) :: rest else (other, old) :: set key value rest

/-- Cuts a line at its first `=` or `:`. -/
def cutLine? : List Char → Option (List Char × List Char)
  | [] => none
  | c :: rest =>
    if c = '=' || c = ':' then some ([], rest)
    else (cutLine? rest).map fun (before, after) => (c :: before, after)

/-- The key and the value of a line. -/
def readLine? (line : List Char) : Option (String × String) :=
  (cutLine? line).map fun (key, value) =>
    (String.ofList (stripBy isBlank key), String.ofList (stripBy isBlank value))

/-- A line without the carriage returns at its end. -/
def withoutReturns (line : List Char) : List Char :=
  stripEndBy (· == '\r') line

/-- Cuts the first line off a text; there is no rest after the last line. -/
def cutLineEnd : List Char → List Char × Option (List Char)
  | [] => ([], none)
  | c :: rest =>
    if c = '\n' then ([], some rest)
    else
      let (line, rest) := cutLineEnd rest
      (c :: line, rest)

theorem length_cutLineEnd {s line rest : List Char} (h : cutLineEnd s = (line, some rest)) :
    rest.length < s.length := by
  induction s generalizing line with
  | nil => simp [cutLineEnd] at h
  | cons c s ih =>
    by_cases hc : c = '\n'
    · simp [cutLineEnd, hc] at h
      simp [h.2]
    · cases hs : cutLineEnd s with
      | mk l r =>
        simp [cutLineEnd, hc, hs] at h
        have := @ih l (by rw [hs, h.2])
        simp only [List.length_cons]
        omega

/-- Whether a line ends a block. -/
def isClosing (line : List Char) : Bool :=
  withoutReturns line == closingFence

/-- Enters a line of a block into the metadata so far. A line without a separator is ignored. -/
def enterLine (source : Option String) (metadata : List (String × String)) (line : List Char) :
    Noted PostNote (List (String × String)) :=
  let line := withoutReturns line
  match readLine? line with
  | some (key, value) => pure (set key value metadata)
  | none =>
    if line.all isBlank then pure metadata
    else { value := metadata, notes := [.lineIgnored (String.ofList line) source] }

/-- Reads the lines of a block up to its end, onto the metadata so far: the metadata and the text
after the block, or nothing if the block does not end. -/
def readBlock (source : Option String) (metadata : List (String × String)) (s : List Char) :
    Noted PostNote (Option (List (String × String) × List Char)) :=
  match h : cutLineEnd s with
  | (line, none) =>
    if isClosing line then pure (some (metadata, []))
    else do
      let _ ← enterLine source metadata line
      pure none
  | (line, some rest) =>
    if isClosing line then pure (some (metadata, rest))
    else do
      have := length_cutLineEnd h
      let metadata ← enterLine source metadata line
      readBlock source metadata rest
termination_by s.length

/-- Separates a text into its metadata and the rest, or nothing if a block of metadata does not end.
-/
def split (source : Option String) (text : String) :
    Noted PostNote (Option (List (String × String) × String)) :=
  match cutLineEnd text.toList with
  | (line, rest) =>
    if withoutReturns line ≠ openingFence then pure (some ([], text))
    else
      match rest with
      | none => pure none
      | some rest => do
        let block ← readBlock source [] rest
        pure (block.map fun (metadata, body) => (metadata, String.ofList body))

/-- The texts of a list, each once. -/
def distinct : List String → List String
  | [] => []
  | s :: rest => s :: (distinct rest).filter (· != s)

/-- The tags in a list with commas, without blanks around them, each once. -/
def readTags (value : String) : List String :=
  distinct (((splitAt ',' value.toList).map fun tag => String.ofList (stripBy isBlank tag)).filter
    fun tag => !tag.isEmpty)

end Metadata

end StaticSite
