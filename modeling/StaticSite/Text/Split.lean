/-!
# Cutting texts

Finding a character or a word in a text and cutting the text there. Everything but the unification
of line ends works on lists of characters and keeps every character, so the pieces of a cut put the
text together again.
-/

set_option autoImplicit false

namespace StaticSite.Text

/-- The text before the first occurrence of a character and the text after it, if it occurs. -/
def cutAt? (c : Char) : List Char → Option (List Char × List Char)
  | [] => none
  | d :: rest =>
    if d = c then some ([], rest)
    else (cutAt? c rest).map fun (before, after) => (d :: before, after)

/-- The text before the last occurrence of a character and the text after it, if it occurs. -/
def cutAtLast? (c : Char) : List Char → Option (List Char × List Char)
  | [] => none
  | d :: rest =>
    match cutAtLast? c rest with
    | some (before, after) => some (d :: before, after)
    | none => if d = c then some ([], rest) else none

/-- The pieces of a text between the occurrences of a character; there is always at least one. -/
def splitAt (c : Char) : List Char → List (List Char)
  | [] => [[]]
  | d :: rest =>
    match splitAt c rest with
    | [] => [[]]
    | piece :: pieces => if d = c then [] :: piece :: pieces else (d :: piece) :: pieces

/-- Puts pieces together with a separator between them. -/
def joinWith (separator : List Char) : List (List Char) → List Char
  | [] => []
  | [piece] => piece
  | piece :: pieces => piece ++ separator ++ joinWith separator pieces

/-- The text after a word at its front, if it begins with the word. -/
def dropWord? (word : List Char) (s : List Char) : Option (List Char) :=
  if word.isPrefixOf s then some (s.drop word.length) else none

/-- The text before the first occurrence of a word and the text after it, if it occurs. -/
def cutAtWord? (word : List Char) : List Char → Option (List Char × List Char)
  | [] => if word.isEmpty then some ([], []) else none
  | c :: rest =>
    match dropWord? word (c :: rest) with
    | some after => some ([], after)
    | none => (cutAtWord? word rest).map fun (before, after) => (c :: before, after)

/-- The part cut off is a front of the text. -/
theorem dropWord?_eq_some {word s rest : List Char} (h : dropWord? word s = some rest) :
    s = word ++ rest := by
  unfold dropWord? at h
  split at h
  · next isFront =>
    obtain ⟨t, rfl⟩ := List.isPrefixOf_iff_prefix.1 isFront
    simp only [Option.some.injEq, List.drop_left] at h
    rw [h]
  · simp at h

/-- A cut at a word keeps every character. -/
theorem cutAtWord?_eq_some {word s before after : List Char}
    (h : cutAtWord? word s = some (before, after)) : s = before ++ word ++ after := by
  induction s generalizing before with
  | nil =>
    unfold cutAtWord? at h
    split at h
    · next isEmpty =>
      simp only [Option.some.injEq, Prod.mk.injEq] at h
      obtain ⟨rfl, rfl⟩ := h
      simp [List.isEmpty_iff.1 isEmpty]
    · simp at h
  | cons c rest ih =>
    unfold cutAtWord? at h
    split at h
    · next cut =>
      simp only [Option.some.injEq, Prod.mk.injEq] at h
      obtain ⟨rfl, rfl⟩ := h
      simpa using dropWord?_eq_some cut
    · obtain ⟨⟨b, a⟩, hb, hc⟩ := Option.map_eq_some_iff.1 h
      simp only [Prod.mk.injEq] at hc
      obtain ⟨rfl, rfl⟩ := hc
      simp [ih hb]

/-- A cut keeps every character. -/
theorem cutAt?_eq_some {c : Char} {s before after : List Char}
    (h : cutAt? c s = some (before, after)) : s = before ++ c :: after := by
  induction s generalizing before with
  | nil => simp [cutAt?] at h
  | cons d rest ih =>
    rw [cutAt?] at h
    split at h
    · simp_all
    · obtain ⟨⟨b, a⟩, hb, hc⟩ := Option.map_eq_some_iff.1 h
      simp only [Prod.mk.injEq] at hc
      obtain ⟨rfl, rfl⟩ := hc
      simp [ih hb]

/-! ## Line ends

A line may end with a line feed, a carriage return, or both. Texts are read with line feeds
alone. -/

/-- Line ends of every kind become line feeds. -/
def unifyLineEnds : List Char → List Char
  | [] => []
  | '\r' :: '\n' :: rest => '\n' :: unifyLineEnds rest
  | '\r' :: rest => '\n' :: unifyLineEnds rest
  | c :: rest => c :: unifyLineEnds rest

/-- No carriage return is left. -/
theorem not_mem_unifyLineEnds (s : List Char) : '\r' ∉ unifyLineEnds s := by
  fun_induction unifyLineEnds s with
  | case1 => simp
  | case2 rest ih => simpa using ih
  | case3 rest _ ih => simpa using ih
  | case4 c rest _ h ih => simpa [ih] using fun e => h e.symm

end StaticSite.Text
