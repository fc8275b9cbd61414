import StaticSite.Xml.Markup
import Mathlib.Data.List.TakeDrop

/-!
# Scanning what was written

A scanner that is put together from others reads a text that is put together in the same way. Here
are the pieces: what each of the small scanners makes of a text that begins with what it looks for,
and what becomes of a scanner that repeats another.

## What this module delivers

- `bind_of`: one scanner after the other.
- `charsOf_append`, `word_append`, `hasWord_append`, `hasWord_of_head`: the small scanners.
- `Repeats`, `many_of_repeats`: a scanner that is repeated until it gives nothing.
- `name_append`, `qualifiedName_append`: names of ASCII letters.
-/

set_option autoImplicit false

namespace StaticSite.Xml

open StaticSite.Text

namespace Scanner

variable {α β : Type} {letters : NameLetters} {s t u : List Char}

/-! ## Small scanners -/

theorem bind_of {p : Scanner α} {a : α} (h : p letters s = some (a, t)) (f : α → Scanner β) :
    (p >>= f) letters s = f a letters t := by
  show (p letters s).bind _ = _
  rw [h]
  rfl

theorem guard_of {c : Prop} [Decidable c] (h : c) (s : List Char) :
    (guard c : Scanner Unit) letters s = some ((), s) := by
  rw [guard, if_pos h]
  rfl

/-- The characters of a class are read up to the first one that is not of the class. -/
theorem charsOf_append {p : Char → Bool} {run rest : List Char} (hrun : ∀ c ∈ run, p c = true)
    (hrest : ∀ c ∈ rest.head?, p c = false) :
    charsOf p letters (run ++ rest) = some (run, rest) := by
  rw [charsOf, List.span_eq_takeWhile_dropWhile, List.takeWhile_append_of_pos hrun,
    List.dropWhile_append_of_pos hrun]
  cases rest with
  | nil => simp
  | cons c more =>
      have hstop : p c = false := hrest c (by simp)
      simp [hstop]

theorem dropWord?_append (w rest : List Char) : dropWord? w (w ++ rest) = some rest := by
  rw [dropWord?, if_pos (List.isPrefixOf_iff_prefix.mpr (List.prefix_append w rest)),
    List.drop_left]

theorem word_append (w : String) (rest : List Char) :
    word w letters (w.toList ++ rest) = some ((), rest) := by
  rw [word, dropWord?_append]
  rfl

theorem hasWord_append (w : String) (rest : List Char) :
    hasWord w letters (w.toList ++ rest) = some (true, rest) := by
  rw [hasWord, dropWord?_append]

/-- A word is not there if its first character is not. -/
theorem hasWord_of_head {w : String} {c : Char} {more : List Char} (hw : w.toList = c :: more)
    (hs : ∀ d ∈ s.head?, d ≠ c) : hasWord w letters s = some (false, s) := by
  have hnone : dropWord? w.toList s = none := by
    rw [hw]
    cases s with
    | nil => rfl
    | cons d rest =>
        have hne : d ≠ c := hs d (by simp)
        rw [dropWord?, List.isPrefixOf, if_neg]
        simp [hne.symm]
  rw [hasWord, hnone]

/-! ## Repetition -/

/-- Repeating a scanner on `s` reads `as` one after the other and leaves `t`. Every repetition reads
something. -/
inductive Repeats (step : Scanner (Option α)) (letters : NameLetters) :
    List Char → List α → List Char → Prop where
  | done (s : List Char) : Repeats step letters s [] s
  | more {s t u : List Char} {a : α} {as : List α} (hstep : step letters s = some (some a, t))
      (hshorter : t.length < s.length) (hrest : Repeats step letters t as u) :
      Repeats step letters s (a :: as) u

variable {step : Scanner (Option α)} {as bs : List α}

theorem Repeats.append (h : Repeats step letters s as t) (h' : Repeats step letters t bs u) :
    Repeats step letters s (as ++ bs) u := by
  induction h with
  | done s => exact h'
  | more hstep hshorter _ ih => exact .more hstep hshorter (ih h')

theorem Repeats.single {a : α} (hstep : step letters s = some (some a, t))
    (hshorter : t.length < s.length) : Repeats step letters s [a] t :=
  .more hstep hshorter (.done t)

theorem Repeats.length_le (h : Repeats step letters s as t) : as.length + t.length ≤ s.length := by
  induction h with
  | done s => simp
  | more _ hshorter _ ih =>
      rw [List.length_cons]
      omega

/-- The number of characters is a limit that repetition never reaches. -/
theorem many_of_repeats (h : Repeats step letters s as t)
    (hend : step letters t = some (none, u)) : many step letters s = some (as, u) := by
  -- each round takes one off the limit, and there are fewer rounds than characters
  have hgo : ∀ limit, as.length < limit → many.go step limit letters s = some (as, u) := by
    induction h with
    | done s =>
        intro limit hlimit
        obtain ⟨limit, rfl⟩ : ∃ n, limit = n + 1 := ⟨limit - 1, by simp at hlimit; omega⟩
        rw [many.go, bind_of hend]
        rfl
    | more hstep _ _ ih =>
        intro limit hlimit
        obtain ⟨limit, rfl⟩ : ∃ n, limit = n + 1 := ⟨limit - 1, by omega⟩
        rw [many.go, bind_of hstep]
        dsimp only
        rw [bind_of (ih hend limit (by simpa using hlimit))]
        rfl
  have hlength := h.length_le
  exact hgo (s.length + 1) (by omega)

end Scanner

/-! ## Names -/

/-- Whether a name is made of ASCII letters. -/
def isLetterName (name : String) : Bool :=
  !name.toList.isEmpty && name.toList.all Char.isAlpha

/-- Whether a name and its qualifier, if it has one, are made of ASCII letters. -/
def QualifiedName.isLetters (name : QualifiedName) : Bool :=
  name.qualifier.all isLetterName && isLetterName name.base

/-- A name as it is written. -/
def QualifiedName.spell (name : QualifiedName) : List Char :=
  match name.qualifier with
  | none => name.base.toList
  | some qualifier => qualifier.toList ++ ':' :: name.base.toList

/-- Whether a name ends where a text begins. -/
def endsName (rest : List Char) : Bool :=
  rest.head?.all fun c => !isNameChar .listed c && c != ':'

namespace Scanner

theorem isNameStart_of_isAlpha {c : Char} (h : c.isAlpha) : isNameStart .listed c = true := by
  simp [isNameStart, h]

theorem isNameChar_of_isAlpha {c : Char} (h : c.isAlpha) : isNameChar .listed c = true :=
  isNameChar_of_isNameStart (isNameStart_of_isAlpha h)

theorem name_append {n : String} (hname : isLetterName n) {rest : List Char}
    (hrest : ∀ c ∈ rest.head?, isNameChar .listed c = false) :
    name .listed (n.toList ++ rest) = some (n, rest) := by
  rw [isLetterName, Bool.and_eq_true, List.all_eq_true] at hname
  obtain ⟨hne, halpha⟩ := hname
  obtain ⟨first, more, hn⟩ : ∃ first more, n.toList = first :: more := by
    cases hn : n.toList with
    | nil => simp [hn] at hne
    | cons first more => exact ⟨first, more, rfl⟩
  have hfirst : isNameStart .listed first = true :=
    isNameStart_of_isAlpha (halpha first (by simp [hn]))
  have hmore : ∀ c ∈ more, isNameChar .listed c = true :=
    fun c hc => isNameChar_of_isAlpha (halpha c (by simp [hn, hc]))
  rw [hn, name, bind_of (t := first :: (more ++ rest)) (a := .listed) rfl,
    bind_of (t := more ++ rest) (a := first) rfl, bind_of (guard_of hfirst _),
    bind_of (charsOf_append hmore hrest)]
  show some (String.ofList (first :: more), rest) = _
  rw [← hn, String.ofList_toList]

/-- A name, with or without a qualifier, up to a character that is in no name. -/
theorem qualifiedName_append {n : QualifiedName} (hname : n.isLetters) {rest : List Char}
    (hrest : endsName rest) :
    qualifiedName .listed (n.spell ++ rest) = some (n, rest) := by
  obtain ⟨qualifier, base⟩ := n
  simp only [QualifiedName.isLetters, Bool.and_eq_true] at hname
  obtain ⟨hqualifier, hbase⟩ := hname
  have hend : ∀ c ∈ rest.head?, isNameChar .listed c = false ∧ c ≠ ':' := by
    intro c hc
    simp only [endsName, Option.all_eq_true, Bool.and_eq_true, Bool.not_eq_true',
      bne_iff_ne] at hrest
    exact hrest c hc
  have hbaseRead := name_append hbase fun c hc => (hend c hc).1
  cases qualifier with
  | none =>
      show qualifiedName .listed (base.toList ++ rest) = _
      have hword : (":" : String).toList = [':'] := rfl
      have hnoColon : hasWord ":" .listed rest = some (false, rest) :=
        hasWord_of_head hword fun c hc => (hend c hc).2
      rw [qualifiedName, bind_of hbaseRead, bind_of hnoColon]
      rfl
  | some qualifier =>
      have hcolon : ∀ c ∈ (':' :: (base.toList ++ rest)).head?, isNameChar .listed c = false := by
        intro c hc
        rw [List.head?_cons, Option.mem_some_iff] at hc
        subst hc
        decide
      have hqualifierRead := name_append (by simpa using hqualifier) hcolon
      show qualifiedName .listed ((qualifier.toList ++ ':' :: base.toList) ++ rest) = _
      have hcolonRead : hasWord ":" .listed (':' :: (base.toList ++ rest))
          = some (true, base.toList ++ rest) := hasWord_append ":" _
      rw [List.append_assoc, List.cons_append, qualifiedName, bind_of hqualifierRead,
        bind_of hcolonRead, if_pos rfl, bind_of hbaseRead]
      rfl

end Scanner

end StaticSite.Xml
