import StaticSite.File.Path

/-!
# The spelling of paths

A path is written as its names with slashes between them, and reading what is written gives the
path again as long as no name is empty, a dot or has a slash in it.

## What this module delivers

- `splitAt_append`, `splitAt_of_not_mem`: cutting a text at a character.
- `joinWith_splitAt`, `splitAt_joinWith`, `cutAtLast?_elim`: a text and the pieces that it is made
  of.
- `isSegment`: the names that can be read.
- `readSegments_intercalate`: names are read as they were written.
- `Path.ofString_text`: so are paths.
-/

set_option autoImplicit false

namespace StaticSite.Text

/-! ## Cutting at a character -/

/-- A text without a character is one piece. -/
theorem splitAt_of_not_mem {c : Char} {s : List Char} (h : c ∉ s) : splitAt c s = [s] := by
  induction s with
  | nil => rfl
  | cons d rest ih =>
      obtain ⟨hd, hrest⟩ : c ≠ d ∧ c ∉ rest := by simpa using h
      rw [splitAt, ih hrest]
      exact if_neg fun hsame => hd hsame.symm

theorem splitAt_ne_nil (c : Char) (s : List Char) : splitAt c s ≠ [] := by
  cases s with
  | nil => simp [splitAt]
  | cons d rest =>
      rw [splitAt]
      cases splitAt c rest with
      | nil => simp
      | cons piece pieces =>
          show (if d = c then [] :: piece :: pieces else (d :: piece) :: pieces) ≠ []
          by_cases hd : d = c
          · rw [if_pos hd]
            simp
          · rw [if_neg hd]
            simp

/-- The first piece of a text ends where the character is. -/
theorem splitAt_append {c : Char} {piece : List Char} (h : c ∉ piece) (rest : List Char) :
    splitAt c (piece ++ c :: rest) = piece :: splitAt c rest := by
  induction piece with
  | nil =>
      rw [List.nil_append, splitAt]
      cases hsplit : splitAt c rest with
      | nil => exact absurd hsplit (splitAt_ne_nil c rest)
      | cons first others => exact if_pos rfl
  | cons d piece ih =>
      obtain ⟨hd, hpiece⟩ : c ≠ d ∧ c ∉ piece := by simpa using h
      rw [List.cons_append, splitAt, ih hpiece]
      exact if_neg fun hsame => hd hsame.symm

/-! ## Pieces and separators -/

variable {c : Char} {s : List Char}

theorem exists_splitAt_cons (c d : Char) (rest : List Char) :
    ∃ piece pieces, splitAt c rest = piece :: pieces ∧
      splitAt c (d :: rest) = if d = c then [] :: piece :: pieces else (d :: piece) :: pieces := by
  obtain ⟨piece, pieces, hsplit⟩ := List.exists_cons_of_ne_nil (splitAt_ne_nil c rest)
  refine ⟨piece, pieces, hsplit, ?_⟩
  rw [splitAt, hsplit]

/-- The pieces of a text do not have the character at which it is cut. -/
theorem not_mem_of_mem_splitAt {piece : List Char} (h : piece ∈ splitAt c s) : c ∉ piece := by
  induction s generalizing piece with
  | nil =>
      rw [List.mem_singleton.mp h]
      exact List.not_mem_nil
  | cons d rest ih =>
      obtain ⟨first, pieces, hsplit, hcons⟩ := exists_splitAt_cons c d rest
      rw [hsplit] at ih
      rw [hcons] at h
      split at h
      · rcases List.mem_cons.mp h with rfl | h
        · exact List.not_mem_nil
        · exact ih h
      · rename_i hother
        rcases List.mem_cons.mp h with rfl | h
        · rw [List.mem_cons, not_or]
          exact ⟨fun heq => hother heq.symm, ih List.mem_cons_self⟩
        · exact ih (List.mem_cons_of_mem first h)

theorem joinWith_cons_cons (piece second : List Char) (pieces : List (List Char)) :
    joinWith [c] (piece :: second :: pieces)
      = piece ++ c :: joinWith [c] (second :: pieces) := by
  rw [joinWith]
  · exact List.append_assoc _ _ _
  · simp

/-- A character before the first piece is one before the text. -/
theorem joinWith_cons_append (d : Char) (piece : List Char) (pieces : List (List Char)) :
    joinWith [c] ((d :: piece) :: pieces) = d :: joinWith [c] (piece :: pieces) := by
  cases pieces with
  | nil => rfl
  | cons second pieces => rw [joinWith_cons_cons, joinWith_cons_cons, List.cons_append]

/-- A text is made of its pieces. -/
theorem joinWith_splitAt (c : Char) (s : List Char) : joinWith [c] (splitAt c s) = s := by
  induction s with
  | nil => rfl
  | cons d rest ih =>
      obtain ⟨piece, pieces, hsplit, hcons⟩ := exists_splitAt_cons c d rest
      rw [hsplit] at ih
      rw [hcons]
      split
      · rename_i hsame
        rw [joinWith_cons_cons, ih, hsame, List.nil_append]
      · rw [joinWith_cons_append, ih]

/-- What stands before the last separator are all pieces but the last one. -/
theorem cutAtLast?_map_fst (c : Char) (s : List Char) :
    (cutAtLast? c s).map (·.1)
      = if (splitAt c s).dropLast = [] then none
        else some (joinWith [c] (splitAt c s).dropLast) := by
  induction s with
  | nil => rfl
  | cons d rest ih =>
      obtain ⟨piece, pieces, hsplit, hcons⟩ := exists_splitAt_cons c d rest
      rw [hsplit] at ih
      rw [hcons, cutAtLast?]
      cases pieces with
      | nil =>
          have hnone : cutAtLast? c rest = none := by simpa using ih
          rw [hnone]
          by_cases hsame : d = c <;> simp [hsame, joinWith]
      | cons second pieces =>
          cases hcut : cutAtLast? c rest with
          | none => rw [hcut] at ih; simp at ih
          | some cut =>
              rw [hcut] at ih
              simp only [Option.map_some, List.dropLast_cons_cons, reduceCtorEq, if_false,
                Option.some.injEq] at ih
              rw [Option.map_some, ih]
              by_cases hsame : d = c
              · simp [hsame, joinWith_cons_cons]
              · simp [hsame, joinWith_cons_append]

theorem cutAtLast?_elim (c : Char) (s : List Char) :
    (cutAtLast? c s).elim [] (·.1) = joinWith [c] (splitAt c s).dropLast := by
  have hfirst := cutAtLast?_map_fst c s
  have helim : (cutAtLast? c s).elim [] (·.1) = ((cutAtLast? c s).map (·.1)).elim [] id := by
    cases cutAtLast? c s <;> rfl
  rw [helim, hfirst]
  split
  · rename_i hempty
    rw [hempty]
    rfl
  · rfl

/-- Cutting a text that is made of pieces gives the pieces again. -/
theorem splitAt_joinWith {pieces : List (List Char)} (h : ∀ piece ∈ pieces, c ∉ piece)
    (hne : pieces ≠ []) : splitAt c (joinWith [c] pieces) = pieces := by
  induction pieces with
  | nil => exact absurd rfl hne
  | cons piece rest ih =>
      obtain ⟨hpiece, hrest⟩ := List.forall_mem_cons.mp h
      cases rest with
      | nil => exact splitAt_of_not_mem hpiece
      | cons second rest =>
          rw [joinWith_cons_cons, splitAt_append hpiece, ih hrest (List.cons_ne_nil second rest)]

end StaticSite.Text

namespace StaticSite.File

open StaticSite.Text

/-! ## Names -/

/-- A name that is read as it is written. -/
structure isSegment (name : String) : Prop where
  notEmpty : name ≠ ""
  notDot : name ≠ "."
  noSlash : '/' ∉ name.toList

theorem readSegments_slash (s : List Char) :
    Path.readSegments ('/' :: s) = Path.readSegments s := by
  have hsplit : splitAt '/' ('/' :: s) = [] :: splitAt '/' s :=
    splitAt_append List.not_mem_nil s
  rw [Path.readSegments, hsplit, Path.readSegments, List.filter_cons_of_neg (by simp)]

theorem keeps_segment {name : String} (h : isSegment name) :
    (name.toList != [] && name.toList != ['.']) = true := by
  have hempty : name.toList ≠ [] := fun hnil => h.notEmpty (String.toList_inj.mp hnil)
  have hdot : name.toList ≠ ['.'] := fun hdot => h.notDot (String.toList_inj.mp hdot)
  simp [hempty, hdot]

/-- The first name of a text is read, and then the others. -/
theorem readSegments_append {name : String} (h : isSegment name) (rest : List Char) :
    Path.readSegments (name.toList ++ '/' :: rest) = name :: Path.readSegments rest := by
  rw [Path.readSegments, splitAt_append h.noSlash, List.filter_cons, if_pos (keeps_segment h),
    List.map_cons, String.ofList_toList]
  rfl

theorem readSegments_segment {name : String} (h : isSegment name) :
    Path.readSegments name.toList = [name] := by
  rw [Path.readSegments, splitAt_of_not_mem h.noSlash, List.filter_cons,
    if_pos (keeps_segment h), List.filter_nil, List.map_cons, String.ofList_toList, List.map_nil]

/-- Names are read as they were written. -/
theorem readSegments_intercalate {names : List String} (h : ∀ name ∈ names, isSegment name) :
    Path.readSegments (String.intercalate "/" names).toList = names := by
  induction names with
  | nil => rfl
  | cons name rest ih =>
      have hname := h name List.mem_cons_self
      have hrest := ih fun other hother => h other (List.mem_cons_of_mem name hother)
      cases rest with
      | nil => rw [String.intercalate_singleton, readSegments_segment hname]
      | cons second rest =>
          have htext : (String.intercalate "/" (name :: second :: rest)).toList
              = name.toList ++ '/' :: (String.intercalate "/" (second :: rest)).toList := by
            rw [String.intercalate_cons_cons, String.append_assoc, String.toList_append,
              String.toList_append]
            rfl
          rw [htext, readSegments_append hname, hrest]

/-- What is written for names does not begin with a slash. -/
theorem toList_intercalate_cons {name : String} (h : isSegment name) (rest : List String) :
    ∃ first others, (String.intercalate "/" (name :: rest)).toList = first :: others ∧
      first ≠ '/' := by
  cases hchars : name.toList with
  | nil => exact absurd (String.toList_inj.mp hchars) h.notEmpty
  | cons first chars =>
      have hfirst : first ≠ '/' := by
        intro hsame
        exact h.noSlash (by rw [hchars, hsame]; exact List.mem_cons_self)
      cases rest with
      | nil => exact ⟨first, chars, by rw [String.intercalate_singleton, hchars], hfirst⟩
      | cons second rest =>
          refine ⟨first, chars ++ ("/" ++ String.intercalate "/" (second :: rest)).toList, ?_,
            hfirst⟩
          rw [String.intercalate_cons_cons, String.append_assoc, String.toList_append, hchars,
            List.cons_append]

/-- What is written for names is made of the names. -/
theorem toList_intercalate (names : List String) :
    (String.intercalate "/" names).toList = joinWith ['/'] (names.map String.toList) := by
  induction names with
  | nil => rfl
  | cons name rest ih =>
      cases rest with
      | nil => rw [String.intercalate_singleton]; rfl
      | cons second rest =>
          rw [String.intercalate_cons_cons, String.toList_append, String.toList_append, ih,
            List.map_cons, List.map_cons, List.map_cons, joinWith_cons_cons, List.append_assoc]
          rfl

/-- Names written with slashes between them have the characters of the names, but for the slash. -/
theorem mem_toList_intercalate {c : Char} (hslash : c ≠ '/') {names : List String} :
    c ∈ (String.intercalate "/" names).toList ↔ ∃ name ∈ names, c ∈ name.toList := by
  induction names with
  | nil => simp
  | cons name rest ih =>
      cases rest with
      | nil => simp [String.intercalate_singleton]
      | cons second rest =>
          have hone : ("/" : String).toList = ['/'] := rfl
          rw [String.intercalate_cons_cons, String.toList_append, String.toList_append,
            List.mem_append, List.mem_append, ih, hone, List.mem_singleton]
          simp [hslash]

/-! ## Paths -/

/-- A null character in a path is in one of the names. -/
theorem Path.hasNull_iff {p : Path} :
    p.hasNull = true ↔ ∃ name ∈ p.segments, '\x00' ∈ name.toList := by
  obtain ⟨anchor, segments⟩ := p
  rw [hasNull, List.contains_iff_mem, text.eq_def]
  cases anchor with
  | here =>
      cases segments with
      | nil => simp
      | cons name rest =>
          show '\x00' ∈ ("" ++ String.intercalate "/" (name :: rest)).toList ↔ _
          rw [String.empty_append, mem_toList_intercalate (by decide)]
  | root =>
      show '\x00' ∈ ("/" ++ String.intercalate "/" segments).toList ↔ _
      rw [String.toList_append, List.mem_append, mem_toList_intercalate (by decide)]
      simp
  | doubleRoot =>
      show '\x00' ∈ ("//" ++ String.intercalate "/" segments).toList ↔ _
      rw [String.toList_append, List.mem_append, mem_toList_intercalate (by decide)]
      simp

/-- A path is read as it was written. -/
theorem Path.ofString_text {p : Path} (h : ∀ name ∈ p.segments, isSegment name) :
    Path.ofString p.text = p := by
  obtain ⟨anchor, segments⟩ := p
  have hnames : Path.readSegments (String.intercalate "/" segments).toList = segments :=
    readSegments_intercalate h
  cases segments with
  | nil => cases anchor <;> rfl
  | cons name rest =>
      obtain ⟨first, others, htext, hfirst⟩ :=
        toList_intercalate_cons (h name List.mem_cons_self) rest
      cases anchor with
      | here =>
          show Path.ofString (String.intercalate "/" (name :: rest)) = _
          rw [Path.ofString, hnames, htext]
          simp [hfirst]
      | root =>
          have hslash : ("/" ++ String.intercalate "/" (name :: rest)).toList
              = '/' :: (String.intercalate "/" (name :: rest)).toList := String.toList_append
          show Path.ofString ("/" ++ String.intercalate "/" (name :: rest)) = _
          rw [Path.ofString, hslash, readSegments_slash, hnames, htext]
          simp [hfirst]
      | doubleRoot =>
          have hslash : ("//" ++ String.intercalate "/" (name :: rest)).toList
              = '/' :: '/' :: (String.intercalate "/" (name :: rest)).toList := String.toList_append
          show Path.ofString ("//" ++ String.intercalate "/" (name :: rest)) = _
          rw [Path.ofString, hslash, readSegments_slash, readSegments_slash, hnames, htext]
          simp [hfirst]

end StaticSite.File
