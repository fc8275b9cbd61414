import Mathlib.Data.List.TakeWhile
import StaticSite.Proofs.Template.SpelledRule

/-!
# Values read one after the other

A reader goes through a text from call to call. What is left of the text is all that it remembers. A
call that gives a value moves it on, and a call that gives none means that only blanks were left, so
that no later call gives a value either.

Every text can be read. It is a row of values, or it breaks off inside quotes: behind the values of
a row there is one whose closing quote is missing. Only then something is noted.

## What this module delivers

- `Unclosed`, `BreaksOff`: texts that end inside quotes.
- `ReadsQuoted`, `ReadsNext`, with `readsQuoted_readQuoted` and `readsNext_nextValue?`: all that one
  call can meet, and what it gives.
- `length_readValues`, `readValues_of_spells`, `exists_flaw_iff`: the values of a text, and where
  one of them has a flaw.
- `Arguments.after`, `Arguments.place`: the reader after some calls, and how far it has come.
- `Arguments.next_after`, `Arguments.goesThrough`: the calls on any text.
- `WrittenValue`, `IsRow`, `spells_row`: rows as they are written.
- `Arguments.reads`: the main statement.
-/

set_option autoImplicit false

namespace StaticSite.Template

open StaticSite.Text

/-! ## Texts that end inside quotes -/

/-- A text behind an opening quote stands for a value, and there is no closing quote. It may end
with half an escape. -/
inductive Unclosed : (inner value : List Char) → List QuoteFlaw → Prop
  | quote {inner value : List Char} (hinner : Enquoted inner value) :
      Unclosed inner value [.openQuote]
  | escape {inner value : List Char} (hinner : Enquoted inner value) :
      Unclosed (inner ++ ['\\']) value [.openEscape, .openQuote]

/-- A text ends inside the quotes of a value, behind a row of values. -/
inductive BreaksOff : List Char → Prop
  | here {gap inner value : List Char} {flaws : List QuoteFlaw} (hgap : ∀ c ∈ gap, isBlank c)
      (hinner : Unclosed inner value flaws) : BreaksOff (gap ++ '"' :: inner)
  | quoted {gap inner value rest : List Char} (hgap : ∀ c ∈ gap, isBlank c)
      (hinner : Enquoted inner value) (hrest : BreaksOff rest) :
      BreaksOff (gap ++ '"' :: (inner ++ '"' :: rest))
  | word {gap value rest : List Char} (hgap : ∀ c ∈ gap, isBlank c) (hword : IsWord value)
      (hend : ∀ c ∈ rest.head?, isBlank c) (hrest : BreaksOff rest) :
      BreaksOff (gap ++ (value ++ rest))

theorem Unclosed.ne_nil {inner value : List Char} {flaws : List QuoteFlaw}
    (h : Unclosed inner value flaws) : flaws ≠ [] := by
  cases h <;> exact List.cons_ne_nil _ _

/-! ## One call -/

/-- What a reader can meet behind an opening quote, and what it reads there. -/
inductive ReadsQuoted : List Char → ValueRead → Prop
  | closed {inner value : List Char} (hinner : Enquoted inner value) (rest : List Char) :
      ReadsQuoted (inner ++ '"' :: rest) { value := value, flaws := [], rest := rest }
  | unclosed {inner value : List Char} {flaws : List QuoteFlaw}
      (hinner : Unclosed inner value flaws) :
      ReadsQuoted inner { value := value, flaws := flaws, rest := [] }

/-- What a reader can meet, and what a call reads. -/
inductive ReadsNext : List Char → Option ValueRead → Prop
  | nothing {gap : List Char} (hgap : ∀ c ∈ gap, isBlank c) : ReadsNext gap none
  | quoted {gap inner : List Char} {read : ValueRead} (hgap : ∀ c ∈ gap, isBlank c)
      (hinner : ReadsQuoted inner read) : ReadsNext (gap ++ '"' :: inner) (some read)
  | word {gap value rest : List Char} (hgap : ∀ c ∈ gap, isBlank c) (hword : IsWord value)
      (hend : ∀ c ∈ rest.head?, isBlank c) :
      ReadsNext (gap ++ (value ++ rest)) (some { value := value, flaws := [], rest := rest })

theorem ReadsQuoted.plain {c : Char} (hquote : c ≠ '"') (hescape : c ≠ '\\') {s : List Char}
    {read : ValueRead} (h : ReadsQuoted s read) : ReadsQuoted (c :: s) (read.cons c) := by
  cases h with
  | closed hinner rest => exact .closed (.plain hquote hescape hinner) rest
  | unclosed hinner =>
      cases hinner with
      | quote hinner => exact .unclosed (.quote (.plain hquote hescape hinner))
      | escape hinner => exact .unclosed (.escape (.plain hquote hescape hinner))

theorem ReadsQuoted.escaped (c : Char) {s : List Char} {read : ValueRead}
    (h : ReadsQuoted s read) : ReadsQuoted ('\\' :: c :: s) (read.cons c) := by
  cases h with
  | closed hinner rest => exact .closed (.escaped c hinner) rest
  | unclosed hinner =>
      cases hinner with
      | quote hinner => exact .unclosed (.quote (.escaped c hinner))
      | escape hinner => exact .unclosed (.escape (.escaped c hinner))

/-- Whatever stands behind an opening quote is read. -/
theorem readsQuoted_readQuoted (s : List Char) : ReadsQuoted s (readQuoted s) := by
  fun_induction readQuoted s with
  | case1 => exact .unclosed (.quote .nil)
  | case2 => exact .unclosed (.escape .nil)
  | case3 c rest ih => exact ih.escaped c
  | case4 rest => exact .closed .nil rest
  | case5 c rest hlast hescape hquote ih =>
      refine ih.plain hquote ?_
      -- a backslash is followed by a character or by nothing
      rintro rfl
      cases rest with
      | nil => exact hlast rfl rfl
      | cons d rest => exact hescape d rest rfl rfl

/-- A text that begins with neither a blank nor a quote begins with a word, which ends with a blank
or with the text. -/
theorem isWord_takeWhile {s : List Char} (hsome : s ≠ [])
    (hblank : ∀ c ∈ s.head?, isBlank c = false) (hquote : s.head? ≠ some '"') :
    IsWord (s.takeWhile (!isBlank ·)) ∧
      ∀ c ∈ (s.dropWhile (!isBlank ·)).head?, isBlank c := by
  constructor
  · cases s with
    | nil => exact absurd rfl hsome
    | cons c rest =>
        have hfirst : (c :: rest).takeWhile (!isBlank ·) = c :: rest.takeWhile (!isBlank ·) :=
          List.takeWhile_cons_of_pos (by simp [hblank c rfl])
        refine ⟨?_, fun d hd => ?_, ?_⟩
        · rw [hfirst]
          exact List.cons_ne_nil _ _
        · simpa using List.mem_takeWhile_imp hd
        · rw [hfirst]
          exact hquote
  · intro c hc
    have hend := List.head?_dropWhile_not (!isBlank ·) s
    rw [hc] at hend
    simpa using hend

/-- Whatever stands before a reader is read. -/
theorem readsNext_nextValue? (s : List Char) : ReadsNext s (nextValue? s) := by
  have hgap : ∀ c ∈ s.takeWhile isBlank, isBlank c := fun c hc => List.mem_takeWhile_imp hc
  have hsplit : s.takeWhile isBlank ++ s.dropWhile isBlank = s := List.takeWhile_append_dropWhile
  have hblank : ∀ c ∈ (s.dropWhile isBlank).head?, isBlank c = false := by
    intro c hc
    have hfirst := List.head?_dropWhile_not isBlank s
    rwa [hc] at hfirst
  rw [nextValue?]
  generalize s.dropWhile isBlank = behind at hsplit hblank ⊢
  split
  · rw [List.append_nil] at hsplit
    exact hsplit ▸ .nothing hgap
  · rename_i inner
    exact hsplit ▸ .quoted hgap (readsQuoted_readQuoted inner)
  · rename_i hsome hunquoted
    have hquote : behind.head? ≠ some '"' := by
      intro hfirst
      obtain ⟨inner, hinner⟩ := List.head?_eq_some_iff.mp hfirst
      exact hunquoted inner hinner
    obtain ⟨hword, hend⟩ := isWord_takeWhile hsome hblank hquote
    have hread := ReadsNext.word hgap hword hend
    rwa [List.takeWhile_append_dropWhile, hsplit] at hread

/-- What a call leaves is the end of what stood before it. -/
theorem ReadsNext.suffix {s : List Char} {read : ValueRead} (h : ReadsNext s (some read)) :
    read.rest <:+ s := by
  cases h with
  | @quoted gap inner _ hgap hinner =>
      have hrest : read.rest <:+ inner := by
        cases hinner with
        | closed _ rest => exact (List.suffix_cons '"' rest).trans (List.suffix_append _ _)
        | unclosed hinner => exact List.nil_suffix
      exact (hrest.trans (List.suffix_cons _ _)).trans (List.suffix_append gap _)
  | @word gap value rest hgap hword hend =>
      exact (List.suffix_append value rest).trans (List.suffix_append gap _)

/-- What is not closed is read to the end. -/
theorem readQuoted_of_unclosed {inner value : List Char} {flaws : List QuoteFlaw}
    (h : Unclosed inner value flaws) :
    readQuoted inner = { value := value, flaws := flaws, rest := [] } := by
  cases h with
  | quote hinner =>
      have hend : readQuoted [] = { value := [], flaws := [.openQuote], rest := [] } := rfl
      rw [← List.append_nil inner, readQuoted_append hinner, hend, List.append_nil]
  | escape hinner =>
      have hend : readQuoted ['\\']
          = { value := [], flaws := [.openEscape, .openQuote], rest := [] } := rfl
      rw [readQuoted_append hinner, hend, List.append_nil]

/-! ## All values of a text -/

theorem readValues_of_none {s : List Char} (h : nextValue? s = none) : readValues s = [] := by
  rw [readValues]
  split
  · rfl
  · rename_i hread
    rw [h] at hread
    cases hread

theorem readValues_of_some {s : List Char} {read : ValueRead} (h : nextValue? s = some read) :
    readValues s = read :: readValues read.rest := by
  rw [readValues]
  split
  · rename_i hnone
    rw [h] at hnone
    cases hnone
  · rename_i hread
    cases h.symm.trans hread
    rfl

/-- Each value takes at least one character. -/
theorem length_readValues (s : List Char) : (readValues s).length ≤ s.length := by
  fun_induction readValues s with
  | case1 => exact Nat.zero_le _
  | case2 s read hread hlt ih =>
      have hused := length_rest_lt_of_nextValue? hread
      rw [List.length_cons]
      omega

/-- From a row all values are read, without a flaw. -/
theorem readValues_of_spells {values : List (List Char)} : ∀ {text : List Char},
    Spells text values →
      (readValues text).map (·.value) = values ∧ ∀ read ∈ readValues text, read.flaws = [] := by
  induction values with
  | nil =>
      intro text h
      rw [readValues_of_none (nextValue?_of_spells_nil h)]
      exact ⟨rfl, fun _ hmem => absurd hmem List.not_mem_nil⟩
  | cons value values ih =>
      intro text h
      obtain ⟨rest, hread, hrest⟩ := nextValue?_of_spells h
      obtain ⟨hvalues, hclean⟩ := ih hrest
      rw [readValues_of_some hread, List.map_cons, hvalues]
      exact ⟨rfl, List.forall_mem_cons.mpr ⟨rfl, hclean⟩⟩

/-- A text that breaks off leaves a flaw. -/
theorem BreaksOff.exists_flaw {s : List Char} (h : BreaksOff s) :
    ∃ read ∈ readValues s, read.flaws ≠ [] := by
  induction h with
  | @here gap inner value flaws hgap hinner =>
      have hread := nextValue?_quote hgap inner
      rw [readQuoted_of_unclosed hinner] at hread
      rw [readValues_of_some hread]
      exact ⟨_, List.mem_cons_self, hinner.ne_nil⟩
  | @quoted gap inner value rest hgap hinner _ ih =>
      have hread := nextValue?_quote hgap (inner ++ '"' :: rest)
      rw [readQuoted_of_enquoted hinner rest] at hread
      obtain ⟨read, hmem, hflaw⟩ := ih
      rw [readValues_of_some hread]
      exact ⟨read, List.mem_cons_of_mem _ hmem, hflaw⟩
  | word hgap hword hend _ ih =>
      obtain ⟨read, hmem, hflaw⟩ := ih
      rw [readValues_of_some (nextValue?_word hgap hword hend)]
      exact ⟨read, List.mem_cons_of_mem _ hmem, hflaw⟩

/-- Behind a value that was read without a flaw, a text can only break off later on. -/
theorem ReadsNext.breaksOff {s : List Char} {read : ValueRead} (h : ReadsNext s (some read))
    (hlater : read.flaws = [] → BreaksOff read.rest) : BreaksOff s := by
  cases h with
  | quoted hgap hinner =>
      cases hinner with
      | closed hinner rest => exact .quoted hgap hinner (hlater rfl)
      | unclosed hinner => exact .here hgap hinner
  | word hgap hword hend => exact .word hgap hword hend (hlater rfl)

/-- A flaw is left exactly where a text breaks off. -/
theorem exists_flaw_iff (s : List Char) :
    (∃ read ∈ readValues s, read.flaws ≠ []) ↔ BreaksOff s := by
  refine ⟨?_, BreaksOff.exists_flaw⟩
  fun_induction readValues s with
  | case1 => exact fun ⟨_, hmem, _⟩ => absurd hmem List.not_mem_nil
  | case2 s read hread hlt ih =>
      rintro ⟨flawed, hmem, hflaw⟩
      have hnext : ReadsNext s (some read) := hread ▸ readsNext_nextValue? s
      refine hnext.breaksOff fun hclean => ?_
      rcases List.mem_cons.mp hmem with rfl | hmem
      · exact absurd hclean hflaw
      · exact ih ⟨flawed, hmem, hflaw⟩

/-! ## The calls of a reader -/

namespace Arguments

/-- A reader at the beginning of a text. -/
def ofText (text : String) : Arguments :=
  { directive := text, rest := text.toList }

/-- The reader after some calls. -/
def after (arguments : Arguments) : Nat → Arguments
  | 0 => arguments
  | n + 1 => after arguments.next.value.2 n

/-- The number of characters that the reader has left behind. -/
def place (arguments : Arguments) : Nat :=
  arguments.directive.length - arguments.rest.length

@[simp] theorem rest_ofText (text : String) : (ofText text).rest = text.toList := rfl

theorem next_of_none {arguments : Arguments} (h : nextValue? arguments.rest = none) :
    arguments.next = pure (none, { arguments with rest := [] }) := by
  rw [next, h]

theorem next_of_some {arguments : Arguments} {read : ValueRead}
    (h : nextValue? arguments.rest = some read) :
    arguments.next =
      { value := (some (String.ofList read.value), { arguments with rest := read.rest })
        notes := read.flaws.map (QuoteFlaw.note arguments.directive) } := by
  rw [next, h]

/-- The text that a reader reads stays the same. -/
@[simp] theorem directive_next (arguments : Arguments) :
    arguments.next.value.2.directive = arguments.directive := by
  cases h : nextValue? arguments.rest with
  | none => rw [next_of_none h]; rfl
  | some read => rw [next_of_some h]

/-- A call leaves the end of what stood before the reader. -/
theorem rest_next_suffix (arguments : Arguments) :
    arguments.next.value.2.rest <:+ arguments.rest := by
  cases h : nextValue? arguments.rest with
  | none =>
      rw [next_of_none h]
      exact List.nil_suffix
  | some read =>
      rw [next_of_some h]
      exact (h ▸ readsNext_nextValue? arguments.rest : ReadsNext _ _).suffix

theorem after_succ (n : Nat) : ∀ arguments : Arguments,
    arguments.after (n + 1) = (arguments.after n).next.value.2 := by
  induction n with
  | zero => exact fun _ => rfl
  | succ n ih => exact fun arguments => ih arguments.next.value.2

/-- A call gives the value whose turn it is, and notes the flaws of this value. -/
theorem next_after (n : Nat) : ∀ arguments : Arguments,
    (arguments.after n).next.value.1
        = (readValues arguments.rest)[n]?.map (String.ofList ·.value) ∧
      (arguments.after n).next.notes
        = (readValues arguments.rest)[n]?.elim []
            (·.flaws.map (QuoteFlaw.note arguments.directive)) := by
  induction n with
  | zero =>
      intro arguments
      rw [after]
      cases h : nextValue? arguments.rest with
      | none =>
          rw [next_of_none h, readValues_of_none h]
          exact ⟨rfl, rfl⟩
      | some read =>
          rw [next_of_some h, readValues_of_some h]
          exact ⟨rfl, rfl⟩
  | succ n ih =>
      -- the first call leaves a reader of the other values, or of nothing
      intro arguments
      rw [after]
      obtain ⟨hvalue, hnotes⟩ := ih arguments.next.value.2
      rw [directive_next] at hnotes
      rw [hvalue, hnotes]
      cases h : nextValue? arguments.rest with
      | none =>
          have hnothing : nextValue? [] = none := rfl
          rw [next_of_none h, readValues_of_none h]
          simp only [Noted.value_pure, readValues_of_none hnothing]
          exact ⟨rfl, rfl⟩
      | some read =>
          rw [next_of_some h, readValues_of_some h, List.getElem?_cons_succ]
          exact ⟨rfl, rfl⟩

/-- The calls on a row give its values, then none, and note nothing. -/
theorem next_after_of_spells {text : String} {values : List String}
    (h : Spells text.toList (values.map String.toList)) (n : Nat) :
    ((ofText text).after n).next.value.1 = values[n]? ∧
      ((ofText text).after n).next.notes = [] := by
  obtain ⟨hread, hclean⟩ := readValues_of_spells h
  obtain ⟨hvalue, hnotes⟩ := next_after n (ofText text)
  have hvalues := congrArg (List.map String.ofList) hread
  simp only [List.map_map, Function.comp_def, String.ofList_toList, List.map_id'] at hvalues
  rw [rest_ofText] at hvalue hnotes
  constructor
  · rw [hvalue, ← List.getElem?_map, hvalues]
  · rw [hnotes]
    cases h : (readValues text.toList)[n]? with
    | none => rfl
    | some read => simp [hclean read (List.mem_of_getElem? h)]

/-! ### Moving on -/

@[simp] theorem directive_after (arguments : Arguments) (n : Nat) :
    (arguments.after n).directive = arguments.directive := by
  induction n with
  | zero => rfl
  | succ n ih => rw [after_succ, directive_next, ih]

/-- A reader stays in what it began with. -/
theorem rest_after_suffix (arguments : Arguments) (n : Nat) :
    (arguments.after n).rest <:+ arguments.rest := by
  induction n with
  | zero => exact List.suffix_refl _
  | succ n ih =>
      rw [after_succ]
      exact (rest_next_suffix _).trans ih

/-- How the calls of a reader go through a text. -/
structure GoesThrough (text : String) : Prop where
  /-- The reader never goes past the end, and what is left is the text from its place on. -/
  within : ∀ n, ((ofText text).after n).place ≤ text.length ∧
    ((ofText text).after n).rest = text.toList.drop ((ofText text).after n).place
  /-- A call that gives a value moves the reader on. -/
  onward : ∀ n value, ((ofText text).after n).next.value.1 = some value →
    ((ofText text).after n).place < ((ofText text).after (n + 1)).place
  /-- A call that gives none moves the reader to the end. -/
  ended : ∀ n, ((ofText text).after n).next.value.1 = none →
    ((ofText text).after (n + 1)).place = text.length
  /-- There are no more values than characters. Behind the last value no call gives one. -/
  few : ∃ values : List String, values.length ≤ text.length ∧
    ∀ n, ((ofText text).after n).next.value.1 = values[n]?
  /-- Something is noted exactly if the text ends inside quotes. -/
  noted : (∃ n, ((ofText text).after n).next.notes ≠ []) ↔ BreaksOff text.toList

theorem place_after (text : String) (n : Nat) :
    ((ofText text).after n).place
      = text.toList.length - ((ofText text).after n).rest.length := by
  rw [place, directive_after, String.length_toList]
  rfl

/-- Something is noted exactly if a value has a flaw. -/
theorem exists_notes_iff (text : String) :
    (∃ n, ((ofText text).after n).next.notes ≠ []) ↔
      ∃ read ∈ readValues text.toList, read.flaws ≠ [] := by
  constructor
  · rintro ⟨n, hnotes⟩
    rw [(next_after n (ofText text)).2, rest_ofText] at hnotes
    cases hread : (readValues text.toList)[n]? with
    | none =>
        rw [hread] at hnotes
        exact absurd rfl hnotes
    | some read =>
        rw [hread] at hnotes
        exact ⟨read, List.mem_of_getElem? hread, fun hclean => hnotes (by simp [hclean])⟩
  · rintro ⟨read, hmem, hflaw⟩
    obtain ⟨n, hread⟩ := List.mem_iff_getElem?.mp hmem
    refine ⟨n, ?_⟩
    rw [(next_after n (ofText text)).2, rest_ofText, hread]
    simpa using hflaw

theorem goesThrough (text : String) : GoesThrough text := by
  have hsuffix : ∀ n, ((ofText text).after n).rest <:+ text.toList :=
    rest_after_suffix (ofText text)
  refine ⟨fun n => ⟨?_, ?_⟩, fun n value hvalue => ?_, fun n hnone => ?_, ?_, ?_⟩
  · rw [place_after, String.length_toList]
    exact Nat.sub_le _ _
  · rw [place_after]
    exact List.suffix_iff_eq_drop.mp (hsuffix n)
  · cases hread : nextValue? ((ofText text).after n).rest with
    | none =>
        rw [next_of_none hread] at hvalue
        exact absurd hvalue nofun
    | some read =>
        have hused := length_rest_lt_of_nextValue? hread
        have hle := (hsuffix n).length_le
        rw [place_after, place_after, after_succ, next_of_some hread]
        exact Nat.sub_lt_sub_left (hused.trans_le hle) hused
  · cases hread : nextValue? ((ofText text).after n).rest with
    | some read =>
        rw [next_of_some hread] at hnone
        exact absurd hnone nofun
    | none =>
        rw [place_after, after_succ, next_of_none hread, String.length_toList]
        rfl
  · refine ⟨(readValues text.toList).map (String.ofList ·.value), ?_, fun n => ?_⟩
    · rw [List.length_map, ← String.length_toList]
      exact length_readValues text.toList
    · rw [List.getElem?_map]
      exact (next_after n (ofText text)).1
  · exact (exists_notes_iff text).trans (exists_flaw_iff text.toList)

end Arguments

/-! ## Rows as they are written -/

/-- A value of a row, the way it is written and the blanks behind it. -/
structure WrittenValue where
  value : String
  writing : Writing
  gap : List Char := []

/-- A value and the blanks behind it, as they are written. -/
def WrittenValue.text (item : WrittenValue) : List Char :=
  item.writing.write item.value.toList ++ item.gap

/-- Values make a row if each is written in a way that suits it and only blanks set it apart from
the next one. Only behind a closing quote, and at the end, the blanks may be missing. -/
def IsRow : List WrittenValue → Prop
  | [] => True
  | item :: items =>
    item.writing.Suits item.value.toList ∧ (∀ c ∈ item.gap, isBlank c) ∧
      (item.writing = .bare → items ≠ [] → item.gap ≠ []) ∧ IsRow items

theorem spells_row {row : List WrittenValue} (h : IsRow row) :
    Spells (row.flatMap WrittenValue.text) (row.map (·.value.toList)) := by
  induction row with
  | nil => exact .blanks nofun
  | cons item items ih =>
      obtain ⟨hsuits, hgap, hapart, hitems⟩ := h
      have hbehind := (ih hitems).behind hgap
      have hend : item.writing = .bare →
          ∀ c ∈ (item.gap ++ items.flatMap WrittenValue.text).head?, isBlank c := by
        intro hbare c hc
        -- the first character behind a bare value is a blank of its own gap, or there is none
        cases hblanks : item.gap with
        | cons d others =>
            obtain rfl : d = c := by simpa [hblanks] using hc
            exact hgap d (hblanks ▸ List.mem_cons_self)
        | nil =>
            have hlast : items = [] := by
              by_contra hmore
              exact hapart hbare hmore hblanks
            subst hlast
            simp [hblanks] at hc
      rw [List.flatMap_cons, List.map_cons, WrittenValue.text, List.append_assoc]
      exact spells_write hsuits hend hbehind

/-- A row of values, however it is written, is read back value by value, without a note, and behind
it nothing is read. And whatever a text is, its reader goes through it to the end, and makes a note
only where the text ends inside quotes. -/
theorem Arguments.reads :
    (∀ (lead : List Char) (row : List WrittenValue), (∀ c ∈ lead, isBlank c) → IsRow row →
      ∀ n, let call := ((ofText (.ofList (lead ++ row.flatMap WrittenValue.text))).after n).next
        call.value.1 = (row.map (·.value))[n]? ∧ call.notes = []) ∧
      ∀ text, GoesThrough text := by
  refine ⟨fun lead row hlead hrow n => ?_, goesThrough⟩
  refine next_after_of_spells ?_ n
  have hspells := (spells_row hrow).behind hlead
  rwa [String.toList_ofList, List.map_map]

/-- A bare word, a value in quotes with nothing between it and the next one, an empty value, and a
word that holds a quote; and a text that ends behind a backslash in quotes. -/
theorem Arguments.reads_samples :
    (∀ n, let call := ((ofText " META \"a \\\"b\\\\\"\"\"\tx\"y").after n).next
      call.value.1 = ["META", "a \"b\\", "", "x\"y"][n]? ∧ call.notes = []) ∧
      ∃ n, ((ofText "TOC \"2\\").after n).next.notes ≠ [] := by
  obtain ⟨hrows, htexts⟩ := Arguments.reads
  have hblank : ∀ gap ∈ [[' '], ['\t'], []], ∀ c ∈ gap, isBlank c := by
    have htest : ∀ gap ∈ [[' '], ['\t'], []], gap.all isBlank := by decide
    exact fun gap hgap => List.all_eq_true.mp (htest gap hgap)
  have hword : ∀ word ∈ ["META", "TOC", "x\"y"], IsWord word.toList := by
    have htest : ∀ word ∈ ["META", "TOC", "x\"y"],
        word.toList ≠ [] ∧ word.toList.any isBlank = false ∧ word.toList.head? ≠ some '"' := by
      decide
    intro word hmem
    obtain ⟨hne, hnone, hquote⟩ := htest word hmem
    exact ⟨hne, fun c hc => eq_false_of_ne_true (List.any_eq_false.mp hnone c hc), hquote⟩
  constructor
  · exact hrows [' '] [⟨"META", .bare, [' ']⟩, ⟨"a \"b\\", .sparing, []⟩, ⟨"", .cautious, ['\t']⟩,
      ⟨"x\"y", .bare, []⟩] (hblank _ (by decide))
      ⟨hword _ (by decide), hblank _ (by decide), nofun, trivial, hblank _ (by decide), nofun,
        trivial, hblank _ (by decide), nofun, hword _ (by decide), hblank _ (by decide),
        fun _ hmore => absurd rfl hmore, trivial⟩
  · have hinner : Unclosed ['2', '\\'] ['2'] [.openEscape, .openQuote] :=
      .escape (.plain (by decide) (by decide) .nil)
    have hquoted : BreaksOff ([' '] ++ '"' :: ['2', '\\']) := .here (hblank _ (by decide)) hinner
    have hend : ∀ c ∈ ([' '] ++ '"' :: ['2', '\\']).head?, isBlank c := by
      rintro c ⟨⟩
      rfl
    exact (htexts "TOC \"2\\").noted.mpr
      (BreaksOff.word (hblank [] (by decide)) (hword "TOC" (by decide)) hend hquoted)

end StaticSite.Template
