import StaticSite.Text.Blank

/-!
# Values of directives

A directive is a row of values with blanks between them. A value is a word, or any text in double
quotes, in which a backslash stands before a quote or a backslash that belongs to the text. Quotes
that are never closed reach to the end and leave a flaw.
-/

set_option autoImplicit false

namespace StaticSite.Template

open StaticSite.Text

/-- What is missing where a text ends inside quotes. -/
inductive QuoteFlaw where
  | openEscape
  | openQuote
deriving DecidableEq, Repr

/-- A value read off the front of a text, and the rest of the text. -/
structure ValueRead where
  value : List Char
  flaws : List QuoteFlaw := []
  rest : List Char
deriving DecidableEq, Repr

/-- Puts a character before a value. -/
def ValueRead.cons (c : Char) (read : ValueRead) : ValueRead :=
  { read with value := c :: read.value }

/-- Reads a value whose opening quote has been read. -/
def readQuoted : List Char → ValueRead
  | [] => { value := [], flaws := [.openQuote], rest := [] }
  | ['\\'] => { value := [], flaws := [.openEscape, .openQuote], rest := [] }
  | '\\' :: c :: rest => (readQuoted rest).cons c
  | '"' :: rest => { value := [], rest := rest }
  | c :: rest => (readQuoted rest).cons c

/-- Reads the next value, if there is anything but blanks. -/
def nextValue? (s : List Char) : Option ValueRead :=
  match s.dropWhile isBlank with
  | [] => none
  | '"' :: rest => some (readQuoted rest)
  | word =>
    some { value := word.takeWhile (!isBlank ·), rest := word.dropWhile (!isBlank ·) }

theorem length_rest_readQuoted (s : List Char) : (readQuoted s).rest.length ≤ s.length := by
  fun_induction readQuoted s <;> simp_all [ValueRead.cons] <;> omega

/-- Each value uses up some of the text. -/
theorem length_rest_lt_of_nextValue? {s : List Char} {read : ValueRead}
    (h : nextValue? s = some read) : read.rest.length < s.length := by
  have shorter := (List.dropWhile_sublist (l := s) isBlank).length_le
  unfold nextValue? at h
  split at h
  · simp at h
  · next rest eq =>
    have := length_rest_readQuoted rest
    simp only [Option.some.injEq] at h
    subst h
    rw [eq] at shorter
    simp only [List.length_cons] at shorter
    omega
  · next word nonempty _ =>
    simp only [Option.some.injEq] at h
    subst h
    cases hw : s.dropWhile isBlank with
    | nil => exact absurd hw (by simpa using nonempty)
    | cons c rest =>
      have hc : isBlank c = false := by
        have := List.head?_dropWhile_not isBlank s
        simpa [hw] using this
      have := (List.dropWhile_sublist (l := rest) (!isBlank ·)).length_le
      rw [hw] at shorter
      simp only [List.length_cons] at shorter
      simp only [List.dropWhile_cons, hc, Bool.not_false, if_true]
      omega

/-- All values of a text. -/
def readValues (s : List Char) : List ValueRead :=
  match h : nextValue? s with
  | none => []
  | some read =>
    have := length_rest_lt_of_nextValue? h
    read :: readValues read.rest
termination_by s.length

end StaticSite.Template
