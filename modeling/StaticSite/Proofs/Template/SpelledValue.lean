import StaticSite.Template.Value
import StaticSite.Text.Split

/-!
# Written values

A value can be written in double quotes, with a backslash before each quote and each backslash of
the value and, if one likes, before other characters too. A value that is a word without a quote in
front can be written as it is. Values stand in a row with blanks between them; after a closing quote
the blanks may be missing.

## What this module delivers

- `Enquoted`: the texts that stand for a value between double quotes.
- `Spells`: the texts that write a row of values.
- `readQuoted_of_enquoted`, `nextValue?_of_spells`, `nextValue?_of_spells_nil`: the values are read
  back one by one, without a flaw.
- `Writing`, `writeRow`: a value behind backslashes, with as few of them as it needs, or as it is.
- `spells_writeRow`: each value of a row may be written in any of these ways that suits it.
-/

set_option autoImplicit false

namespace StaticSite.Template

open StaticSite.Text

/-! ## Values in quotes -/

/-- A text stands for a value between double quotes. A quote or a backslash needs a backslash in
front, and any character may have one. -/
inductive Enquoted : List Char → List Char → Prop
  | nil : Enquoted [] []
  | plain {c : Char} {inner value : List Char} (hquote : c ≠ '"') (hescape : c ≠ '\\')
      (rest : Enquoted inner value) : Enquoted (c :: inner) (c :: value)
  | escaped (c : Char) {inner value : List Char} (rest : Enquoted inner value) :
      Enquoted ('\\' :: c :: inner) (c :: value)

/-- What stands for a value is read before whatever follows it. -/
theorem readQuoted_append {inner value : List Char} (h : Enquoted inner value) (s : List Char) :
    readQuoted (inner ++ s)
      = { readQuoted s with value := value ++ (readQuoted s).value } := by
  induction h with
  | nil => rfl
  | @plain c inner value hquote hescape _ ih =>
      have hcons : readQuoted (c :: (inner ++ s)) = (readQuoted (inner ++ s)).cons c := by
        rw [readQuoted]
        · exact fun heq _ => hescape heq
        · exact fun _ _ heq _ => hescape heq
        · exact hquote
      rw [List.cons_append, hcons, ih]
      rfl
  | escaped c _ ih =>
      rw [List.cons_append, List.cons_append, readQuoted, ih]
      rfl

/-- What stands between quotes is read up to the closing one, whatever follows it. -/
theorem readQuoted_of_enquoted {inner value : List Char} (h : Enquoted inner value)
    (rest : List Char) :
    readQuoted (inner ++ '"' :: rest) = { value := value, flaws := [], rest := rest } := by
  have hend : readQuoted ('"' :: rest) = { value := [], flaws := [], rest := rest } := rfl
  rw [readQuoted_append h, hend, List.append_nil]

/-! ## Rows of values -/

/-- A word: it can be written as it is. -/
structure IsWord (value : List Char) : Prop where
  nonempty : value ≠ []
  noBlank : ∀ c ∈ value, isBlank c = false
  noQuote : value.head? ≠ some '"'

/-- A text writes a row of values. After a word there is a blank or nothing. -/
inductive Spells : List Char → List (List Char) → Prop
  | blanks {gap : List Char} (hgap : ∀ c ∈ gap, isBlank c) : Spells gap []
  | quoted {gap inner value rest : List Char} {values : List (List Char)}
      (hgap : ∀ c ∈ gap, isBlank c) (hinner : Enquoted inner value) (hrest : Spells rest values) :
      Spells (gap ++ '"' :: (inner ++ '"' :: rest)) (value :: values)
  | word {gap value rest : List Char} {values : List (List Char)} (hgap : ∀ c ∈ gap, isBlank c)
      (hword : IsWord value) (hend : ∀ c ∈ rest.head?, isBlank c) (hrest : Spells rest values) :
      Spells (gap ++ (value ++ rest)) (value :: values)

/-- Blanks alone have no value. -/
theorem nextValue?_of_spells_nil {text : List Char} (h : Spells text []) :
    nextValue? text = none := by
  cases h with
  | blanks hgap =>
      have hnothing : text.dropWhile isBlank = [] := by
        rw [← List.append_nil text, List.dropWhile_append_of_pos hgap, List.dropWhile_nil]
      rw [nextValue?, hnothing]

/-- A word ends where the rest begins, with a blank or nothing. -/
theorem span_word {value rest : List Char} (hword : IsWord value)
    (hend : ∀ c ∈ rest.head?, isBlank c) :
    (value ++ rest).takeWhile (!isBlank ·) = value ∧
      (value ++ rest).dropWhile (!isBlank ·) = rest := by
  have hkept : ∀ c ∈ value, (!isBlank c) = true := fun c hc => by simp [hword.noBlank c hc]
  rw [List.takeWhile_append_of_pos hkept, List.dropWhile_append_of_pos hkept]
  cases rest with
  | nil => simp
  | cons c others =>
      have hblank := hend c rfl
      simp [hblank]

/-- What begins with a word is read up to the end of the word. -/
theorem nextValue?_word {gap value rest : List Char} (hgap : ∀ c ∈ gap, isBlank c)
    (hword : IsWord value) (hend : ∀ c ∈ rest.head?, isBlank c) :
    nextValue? (gap ++ (value ++ rest)) = some { value := value, flaws := [], rest := rest } := by
  obtain ⟨htake, hdrop⟩ := span_word hword hend
  obtain ⟨hnonempty, hnoBlank, hnoQuote⟩ := hword
  cases value with
  | nil => exact absurd rfl hnonempty
  | cons c others =>
      have hfront : (gap ++ (c :: others ++ rest)).dropWhile isBlank = c :: others ++ rest := by
        rw [List.dropWhile_append_of_pos hgap, List.cons_append,
          List.dropWhile_cons_of_neg (by simp [hnoBlank c])]
      rw [nextValue?, hfront]
      split
      · rename_i hnil
        exact absurd hnil (List.cons_ne_nil c _)
      · rename_i quoted hquote
        exact absurd (congrArg some (List.cons.inj hquote).1) hnoQuote
      · rw [htake, hdrop]

/-- Behind a quote the reader reads up to the closing one. -/
theorem nextValue?_quote {gap : List Char} (hgap : ∀ c ∈ gap, isBlank c) (inner : List Char) :
    nextValue? (gap ++ '"' :: inner) = some (readQuoted inner) := by
  have hfront : (gap ++ '"' :: inner).dropWhile isBlank = '"' :: inner := by
    rw [List.dropWhile_append_of_pos hgap, List.dropWhile_cons_of_neg (by decide)]
  rw [nextValue?, hfront]
  rfl

/-- The first value of a row is read without a flaw, and the others are left to be read. -/
theorem nextValue?_of_spells {text value : List Char} {values : List (List Char)}
    (h : Spells text (value :: values)) :
    ∃ rest, nextValue? text = some { value := value, flaws := [], rest := rest } ∧
      Spells rest values := by
  cases h with
  | @quoted gap inner _ rest _ hgap hinner hrest =>
      refine ⟨rest, ?_, hrest⟩
      rw [nextValue?_quote hgap, readQuoted_of_enquoted hinner rest]
  | @word gap _ rest _ hgap hword hend hrest =>
      exact ⟨rest, nextValue?_word hgap hword hend, hrest⟩

/-! ## Blanks around a row -/

/-- Blanks may stand before a row of values. -/
theorem Spells.behind {gap text : List Char} {values : List (List Char)}
    (hgap : ∀ c ∈ gap, isBlank c) (h : Spells text values) : Spells (gap ++ text) values := by
  have hboth : ∀ {own : List Char}, (∀ c ∈ own, isBlank c) → ∀ c ∈ gap ++ own, isBlank c := by
    intro own hown c hc
    rcases List.mem_append.mp hc with hc | hc
    · exact hgap c hc
    · exact hown c hc
  cases h with
  | blanks hown => exact .blanks (hboth hown)
  | quoted hown hinner hrest =>
      rw [← List.append_assoc]
      exact .quoted (hboth hown) hinner hrest
  | word hown hword hend hrest =>
      rw [← List.append_assoc]
      exact .word (hboth hown) hword hend hrest

/-- Blanks may stand after a row of values. -/
theorem Spells.before {gap text : List Char} {values : List (List Char)}
    (hgap : ∀ c ∈ gap, isBlank c) (h : Spells text values) : Spells (text ++ gap) values := by
  induction h with
  | blanks hown =>
      refine .blanks fun c hc => ?_
      rcases List.mem_append.mp hc with hc | hc
      · exact hown c hc
      · exact hgap c hc
  | quoted hown hinner _ ih =>
      simp only [List.append_assoc, List.cons_append]
      exact .quoted hown hinner ih
  | @word _ _ rest _ hown hword hend _ ih =>
      simp only [List.append_assoc]
      refine .word hown hword ?_ ih
      intro c hc
      cases rest with
      | nil => exact hgap c (List.mem_of_head? hc)
      | cons d others => exact hend c hc

/-! ## Ways to write values -/

/-- A way to write a value. -/
inductive Writing where
  /-- In quotes, every character behind a backslash. -/
  | cautious
  /-- In quotes, only quotes and backslashes behind a backslash. -/
  | sparing
  /-- As it is. -/
  | bare
deriving DecidableEq, Repr

namespace Writing

/-- The characters that stand for a character between quotes. -/
def escape : Writing → Char → List Char
  | cautious, c => ['\\', c]
  | sparing, c => if c = '"' ∨ c = '\\' then ['\\', c] else [c]
  | bare, c => [c]

/-- A value as it is written. -/
def write (writing : Writing) (value : List Char) : List Char :=
  match writing with
  | bare => value
  | _ => '"' :: (value.flatMap writing.escape ++ ['"'])

/-- Whether a value can be written in a way. -/
def Suits : Writing → List Char → Prop
  | bare, value => IsWord value
  | _, _ => True

end Writing

theorem enquoted_cautious (value : List Char) :
    Enquoted (value.flatMap Writing.cautious.escape) value := by
  induction value with
  | nil => exact .nil
  | cons c rest ih => exact .escaped c ih

theorem enquoted_sparing (value : List Char) :
    Enquoted (value.flatMap Writing.sparing.escape) value := by
  induction value with
  | nil => exact .nil
  | cons c rest ih =>
      rw [List.flatMap_cons, Writing.escape]
      split
      · exact .escaped c ih
      · rename_i hplain
        rw [not_or] at hplain
        exact .plain hplain.1 hplain.2 ih

/-- A value written in a way that suits it, before other values. A closing quote sets it apart from
them, and a word needs a blank. -/
theorem spells_write {writing : Writing} {value rest : List Char} {values : List (List Char)}
    (hsuits : writing.Suits value) (hend : writing = .bare → ∀ c ∈ rest.head?, isBlank c)
    (hrest : Spells rest values) :
    Spells (writing.write value ++ rest) (value :: values) := by
  have hnone : ∀ c ∈ ([] : List Char), isBlank c := by simp
  cases writing with
  | cautious =>
      have hspells := Spells.quoted hnone (enquoted_cautious value) hrest
      simpa [Writing.write] using hspells
  | sparing =>
      have hspells := Spells.quoted hnone (enquoted_sparing value) hrest
      simpa [Writing.write] using hspells
  | bare => exact Spells.word hnone hsuits (hend rfl) hrest

/-- Values as they are written, each in its way, with a space between two. -/
def writeRow (row : List (Writing × String)) : List Char :=
  joinWith [' '] (row.map fun (writing, value) => writing.write value.toList)

/-- A row of values that are written in ways that suit them. -/
theorem spells_writeRow :
    ∀ {row : List (Writing × String)}, (∀ item ∈ row, item.1.Suits item.2.toList) →
      Spells (writeRow row) (row.map fun item => item.2.toList)
  | [], _ => .blanks (by simp [writeRow, joinWith])
  | [item], hsuits => by
      have hnothing : Spells [] [] := .blanks (by simp)
      have hlast := spells_write (hsuits item List.mem_cons_self) (fun _ => by simp) hnothing
      simpa [writeRow, joinWith] using hlast
  | first :: second :: others, hsuits => by
      have hothers := spells_writeRow fun item hitem =>
        hsuits item (List.mem_cons_of_mem first hitem)
      have hspace : ∀ c ∈ [' '], isBlank c := by
        intro c hc
        rw [List.mem_singleton.mp hc]
        rfl
      have hbehind := hothers.behind hspace
      have hend : ∀ c ∈ ([' '] ++ writeRow (second :: others)).head?, isBlank c := by
        rintro c ⟨⟩
        rfl
      have hrow := spells_write (hsuits first List.mem_cons_self) (fun _ => hend) hbehind
      simpa [writeRow, joinWith] using hrow

end StaticSite.Template
