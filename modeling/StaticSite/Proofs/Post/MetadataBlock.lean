import Mathlib.Data.List.Induction
import Mathlib.Data.List.TakeWhile
import StaticSite.Post.Metadata
import StaticSite.Proofs.File.Spelling
import StaticSite.Proofs.Text.Blank

/-!
# Blocks of metadata

A text that begins with a block of metadata is the opening line, the lines of the block, the closing
line, and the body. Taking it apart gives what the lines say and the body as it stands, and no
other text has metadata.

Lines are cut at line ends, and the body is what is left of the text, so nothing in it is touched:
neither other fences nor carriage returns.

## What this module delivers

- `IsFence`: a line that is a fence, with carriage returns behind it or without.
- `keyValue?`: what a line says, by its first separator.
- `LastWins`: the last value of every key, in the order in which the keys come first.
- `value_split`: a text is taken apart line by line.
- `Block`: a text with a block of metadata, in its parts.
- `write`: a block that is written with a line for every entry.
- `splits`: what taking texts apart gives, and that what is written is read again.
-/

set_option autoImplicit false

namespace StaticSite

namespace Text

variable {p : Char → Bool}

/-- What a text ends in does not count if it is of the class that is cut off. -/
theorem stripEndBy_append {back : List Char} (h : ∀ c ∈ back, p c = true) (s : List Char) :
    stripEndBy p (s ++ back) = stripEndBy p s := by
  have hback : ∀ c ∈ back.reverse, p c = true := fun c hc => h c (List.mem_reverse.mp hc)
  rw [stripEndBy, stripEndBy, List.reverse_append, List.dropWhile_append_of_pos hback]

theorem stripBy_append {back : List Char} (h : ∀ c ∈ back, p c = true) (s : List Char) :
    stripBy p (s ++ back) = stripBy p s := by
  rw [stripBy, stripBy, List.dropWhile_append]
  split
  · -- there is nothing but characters of the class
    rename_i hempty
    rw [List.isEmpty_iff.mp hempty, List.dropWhile_eq_nil_iff.mpr h]
  · exact stripEndBy_append h _

end Text

namespace Metadata

open StaticSite.Text

/-! ## Fences -/

/-- A line that is a fence: the fence, and behind it nothing but carriage returns. -/
def IsFence (fence line : List Char) : Prop :=
  ∃ returns, line = fence ++ List.replicate returns '\r'

/-- A line is what is left of it and the carriage returns that are cut off. -/
theorem exists_returns (line : List Char) :
    ∃ returns, line = withoutReturns line ++ List.replicate returns '\r' := by
  have hreturns : (line.reverse.takeWhile (· == '\r')).reverse
      = List.replicate (line.reverse.takeWhile (· == '\r')).length '\r' := by
    rw [List.eq_replicate_iff, List.length_reverse]
    refine ⟨rfl, ?_⟩
    intro c hc
    simpa using List.mem_takeWhile_imp (List.mem_reverse.mp hc)
  refine ⟨(line.reverse.takeWhile (· == '\r')).length, ?_⟩
  calc line
      = (line.reverse.takeWhile (· == '\r') ++ line.reverse.dropWhile (· == '\r')).reverse := by
        rw [List.takeWhile_append_dropWhile, List.reverse_reverse]
    _ = withoutReturns line ++ List.replicate _ '\r' := by
        rw [List.reverse_append, hreturns, withoutReturns, stripEndBy]

/-- A line is a fence if it is one without the carriage returns at its end. -/
theorem withoutReturns_eq_iff {fence line : List Char} (h : ∀ c ∈ fence.getLast?, c ≠ '\r') :
    withoutReturns line = fence ↔ IsFence fence line := by
  constructor
  · rintro rfl
    exact exists_returns line
  · rintro ⟨returns, rfl⟩
    have hcut : withoutReturns (fence ++ List.replicate returns '\r') = withoutReturns fence := by
      apply stripEndBy_append
      intro c hc
      rw [List.eq_of_mem_replicate hc]
      rfl
    rw [hcut]
    exact stripEndBy_of_getLast? fun c hc => by simpa using h c hc

theorem isOpening_iff {line : List Char} :
    withoutReturns line = openingFence ↔ IsFence openingFence line := by
  apply withoutReturns_eq_iff
  intro c hc
  obtain rfl : 'a' = c := by simpa [openingFence] using hc
  simp

theorem isClosing_iff {line : List Char} : isClosing line = true ↔ IsFence closingFence line := by
  rw [isClosing, beq_iff_eq]
  apply withoutReturns_eq_iff
  intro c hc
  obtain rfl : '\x60' = c := by simpa [closingFence] using hc
  simp

/-- A fence is one line. -/
theorem IsFence.not_mem {fence line : List Char} (h : IsFence fence line) {c : Char}
    (hfence : c ∉ fence) (hreturn : c ≠ '\r') : c ∉ line := by
  obtain ⟨returns, rfl⟩ := h
  rw [List.mem_append, not_or]
  exact ⟨hfence, fun hc => hreturn (List.eq_of_mem_replicate hc)⟩

/-! ## Lines -/

/-- The first line of a text. -/
def firstLine (text : String) : List Char :=
  (splitAt '\n' text.toList).head (splitAt_ne_nil '\n' text.toList)

/-- The lines of a text after the first one. -/
def laterLines (text : String) : List (List Char) :=
  (splitAt '\n' text.toList).tail

/-- Cutting the first line off leaves the other lines. -/
theorem splitAt_eq_cutLineEnd (s : List Char) :
    splitAt '\n' s = (cutLineEnd s).1 :: (cutLineEnd s).2.elim [] (splitAt '\n') := by
  induction s with
  | nil => rfl
  | cons c rest ih =>
      rw [splitAt, cutLineEnd, ih]
      by_cases hc : c = '\n'
      · simp only [hc, if_true, Option.elim_some]
        rw [← ih]
      · simp only [hc, if_false]

theorem splitAt_eq_lines (text : String) :
    splitAt '\n' text.toList = firstLine text :: laterLines text :=
  (List.cons_head_tail (splitAt_ne_nil '\n' text.toList)).symm

/-! ### What lines say -/

/-- What stands between a key and its value. -/
def isSeparator (c : Char) : Bool :=
  c == '=' || c == ':'

/-- What a line says: a key, which stands before the first separator, and a value, which stands
after it, without the blanks around them. A line without a separator says nothing. -/
def keyValue? (line : List Char) : Option (String × String) :=
  if line.any isSeparator then
    some (strip (String.ofList (line.takeWhile (!isSeparator ·))),
      strip (String.ofList (line.dropWhile (!isSeparator ·)).tail))
  else none

theorem cutLine?_eq (line : List Char) :
    cutLine? line = if line.any isSeparator then
      some (line.takeWhile (!isSeparator ·), (line.dropWhile (!isSeparator ·)).tail) else none := by
  induction line with
  | nil => rfl
  | cons c rest ih =>
      rw [cutLine?, ih, List.any_cons, List.takeWhile_cons, List.dropWhile_cons]
      cases hc : isSeparator c with
      | true =>
          rw [if_pos (by simpa [isSeparator] using hc)]
          rfl
      | false =>
          rw [if_neg (by simpa [isSeparator] using hc)]
          by_cases hrest : rest.any isSeparator
          · rw [if_pos hrest]
            simp [hrest]
          · rw [if_neg hrest]
            simp [hrest]

theorem readLine?_eq (line : List Char) : readLine? line = keyValue? line := by
  rw [readLine?, cutLine?_eq, keyValue?]
  split
  · simp [strip]
  · rfl

theorem isSeparator_of_isBlank {c : Char} (h : isBlank c = true) : isSeparator c = false := by
  rw [isSeparator, Bool.or_eq_false_iff, beq_eq_false_iff_ne, beq_eq_false_iff_ne]
  constructor
  · rintro rfl
    exact absurd h (by decide)
  · rintro rfl
    exact absurd h (by decide)

/-- Blanks at the end of a line say nothing. -/
theorem keyValue?_append {back : List Char} (h : ∀ c ∈ back, isBlank c = true) (line : List Char) :
    keyValue? (line ++ back) = keyValue? line := by
  have hback : back.any isSeparator = false := by
    rw [List.any_eq_false]
    intro c hc
    rw [isSeparator_of_isBlank (h c hc)]
    simp
  rw [keyValue?, keyValue?, List.any_append, hback, Bool.or_false]
  split
  · -- the separator is in the line, so the blanks are at the end of the value
    rename_i hany
    have hsome : ¬ ∀ c ∈ line, (!isSeparator c) = true := by
      obtain ⟨c, hc, hsep⟩ := List.any_eq_true.mp hany
      intro hall
      simpa [hsep] using hall c hc
    have hkey : (line ++ back).takeWhile (!isSeparator ·) = line.takeWhile (!isSeparator ·) := by
      rw [List.takeWhile_append, if_neg]
      intro hlength
      refine hsome fun c hc => ?_
      rw [← (List.takeWhile_prefix (!isSeparator ·)).eq_of_length hlength] at hc
      exact List.mem_takeWhile_imp (p := (!isSeparator ·)) hc
    have hvalue : (line ++ back).dropWhile (!isSeparator ·)
        = line.dropWhile (!isSeparator ·) ++ back := by
      rw [List.dropWhile_append, if_neg]
      rw [List.isEmpty_iff, List.dropWhile_eq_nil_iff]
      exact hsome
    have hne : line.dropWhile (!isSeparator ·) ≠ [] := by
      rw [Ne, List.dropWhile_eq_nil_iff]
      exact hsome
    have hstrip : strip (String.ofList ((line.dropWhile (!isSeparator ·)).tail ++ back))
        = strip (String.ofList (line.dropWhile (!isSeparator ·)).tail) := by
      rw [strip, strip, String.toList_ofList, String.toList_ofList, stripBy_append h]
    rw [hkey, hvalue, List.tail_append_of_ne_nil hne, hstrip]
  · rfl

/-- A line says the same without the carriage returns at its end. -/
theorem readLine?_withoutReturns (line : List Char) :
    readLine? (withoutReturns line) = keyValue? line := by
  obtain ⟨returns, hline⟩ := exists_returns line
  have hblank : ∀ c ∈ List.replicate returns '\r', isBlank c = true := by
    intro c hc
    rw [List.eq_of_mem_replicate hc]
    rfl
  rw [readLine?_eq, ← keyValue?_append hblank, ← hline]

/-! ### What entries say -/

/-- The last value of every key, in the order in which the keys come first. -/
structure LastWins (entries metadata : List (String × String)) : Prop where
  keys : metadata.map (·.1) = (entries.map (·.1)).eraseDups
  values : ∀ key, metadata.lookup key = entries.reverse.lookup key

/-- Enters an entry into metadata, if there is one. -/
def enter (metadata : List (String × String)) : Option (String × String) → List (String × String)
  | some (key, value) => set key value metadata
  | none => metadata

theorem value_enterLine (source : Option String) (metadata : List (String × String))
    (line : List Char) :
    (enterLine source metadata line).value = enter metadata (keyValue? line) := by
  rw [← readLine?_withoutReturns, enterLine]
  cases readLine? (withoutReturns line) with
  | none =>
      dsimp only
      split
      · rfl
      · rfl
  | some entry => rfl

theorem map_fst_set (key value : String) (metadata : List (String × String)) :
    (set key value metadata).map (·.1)
      = if key ∈ metadata.map (·.1) then metadata.map (·.1)
        else metadata.map (·.1) ++ [key] := by
  induction metadata with
  | nil => rfl
  | cons entry rest ih =>
      obtain ⟨other, old⟩ := entry
      by_cases hkey : other = key
      · simp [set, hkey]
      · have hne : key ≠ other := fun h => hkey h.symm
        simp only [set, hkey, if_false, List.map_cons, ih, List.mem_cons, hne, false_or]
        split
        · rfl
        · rfl

theorem lookup_cons_eq (key other value : String) (rest : List (String × String)) :
    ((other, value) :: rest).lookup key = if key = other then some value else rest.lookup key := by
  by_cases hkey : key = other
  · simp [hkey]
  · have hbeq : (key == other) = false := by simpa using hkey
    simp [List.lookup_cons, hbeq, hkey]

theorem lookup_set (key value other : String) (metadata : List (String × String)) :
    (set key value metadata).lookup other
      = if other = key then some value else metadata.lookup other := by
  induction metadata with
  | nil => exact lookup_cons_eq other key value []
  | cons entry rest ih =>
      obtain ⟨first, old⟩ := entry
      rw [set, lookup_cons_eq]
      by_cases hfirst : first = key
      · rw [if_pos hfirst, lookup_cons_eq, hfirst]
        split
        · rfl
        · rfl
      · rw [if_neg hfirst, lookup_cons_eq, ih]
        by_cases hother : other = key
        · have hne : other ≠ first := fun h => hfirst (h.symm.trans hother)
          rw [if_neg hne, if_pos hother, if_pos hother]
        · rw [if_neg hother, if_neg hother]

/-- A key that is new comes last. -/
theorem set_of_not_mem {key : String} (value : String) {metadata : List (String × String)}
    (h : key ∉ metadata.map (·.1)) : set key value metadata = metadata ++ [(key, value)] := by
  induction metadata with
  | nil => rfl
  | cons entry rest ih =>
      obtain ⟨other, old⟩ := entry
      rw [List.map_cons, List.mem_cons, not_or] at h
      rw [set, if_neg fun hkey => h.1 hkey.symm, ih h.2, List.cons_append]

/-- Entries that are entered one after the other: the last one of every key counts. -/
theorem lastWins_foldl (entries : List (String × String)) :
    LastWins entries (entries.foldl (fun metadata entry => set entry.1 entry.2 metadata) []) := by
  induction entries using List.reverseRecOn with
  | nil => exact ⟨rfl, fun _ => rfl⟩
  | append_singleton entries entry ih =>
      rw [List.foldl_append, List.foldl_cons, List.foldl_nil]
      constructor
      · rw [map_fst_set, ih.keys, List.map_append, List.eraseDups_append]
        by_cases hkey : entry.1 ∈ entries.map (·.1)
        · rw [if_pos (List.mem_eraseDups.mpr hkey)]
          have hnone : ([entry].map (·.1)).removeAll (entries.map (·.1)) = [] := by
            simpa [List.removeAll] using hkey
          rw [hnone]
          exact (List.append_nil _).symm
        · rw [if_neg fun h => hkey (List.mem_eraseDups.mp h)]
          have hone : ([entry].map (·.1)).removeAll (entries.map (·.1)) = [entry.1] := by
            simpa [List.removeAll] using hkey
          rw [hone]
          rfl
      · intro key
        rw [lookup_set, ih.values, List.reverse_append, List.reverse_singleton,
          List.singleton_append, ← lookup_cons_eq]

/-- Entries whose keys are all different are entered as they are. -/
theorem foldl_set_of_nodup (entries : List (String × String))
    (h : (entries.map (·.1)).Nodup) :
    entries.foldl (fun metadata entry => set entry.1 entry.2 metadata) [] = entries := by
  induction entries using List.reverseRecOn with
  | nil => rfl
  | append_singleton entries entry ih =>
      rw [List.map_append, List.nodup_append] at h
      have hnew : entry.1 ∉ entries.map (·.1) := fun hmem =>
        h.2.2 entry.1 hmem entry.1 (List.mem_singleton.mpr rfl) rfl
      rw [List.foldl_append, ih h.1, List.foldl_cons, List.foldl_nil, set_of_not_mem _ hnew]

/-- Entering what lines say is entering their entries. -/
theorem foldl_enter (lines : List (List Char)) (metadata : List (String × String)) :
    lines.foldl (fun metadata line => enter metadata (keyValue? line)) metadata
      = (lines.filterMap keyValue?).foldl (fun metadata entry => set entry.1 entry.2 metadata)
        metadata := by
  induction lines generalizing metadata with
  | nil => rfl
  | cons line rest ih =>
      rw [List.foldl_cons, ih, List.filterMap_cons]
      cases keyValue? line with
      | none => rfl
      | some entry => rfl

/-! ## Texts as lines -/

/-- Reads the lines of a block up to the closing one; the body is made of the lines after it. -/
def readLines (metadata : List (String × String)) :
    List (List Char) → Option (List (String × String) × List Char)
  | [] => none
  | line :: rest =>
    if isClosing line then some (metadata, joinWith ['\n'] rest)
    else readLines (enter metadata (keyValue? line)) rest

/-- A block is read line by line. -/
theorem value_readBlock (source : Option String) (metadata : List (String × String))
    (s : List Char) :
    (readBlock source metadata s).value = readLines metadata (splitAt '\n' s) := by
  -- the rest of a text after a line end is shorter, and the induction is on that length
  induction hn : s.length using Nat.strong_induction_on generalizing s metadata with
  | _ n ih =>
      rw [readBlock]
      split
      · rename_i line hcut
        have hlines : splitAt '\n' s = [line] := by rw [splitAt_eq_cutLineEnd, hcut]; rfl
        rw [hlines, readLines]
        split
        · rfl
        · rfl
      · rename_i line rest hcut
        have hlines : splitAt '\n' s = line :: splitAt '\n' rest := by
          rw [splitAt_eq_cutLineEnd, hcut]
          rfl
        have hshort := length_cutLineEnd hcut
        rw [hlines, readLines]
        split
        · rw [Noted.value_pure, joinWith_splitAt]
        · rw [Noted.value_bind, ih _ (hn ▸ hshort) _ _ rfl, value_enterLine]

theorem readLines_append {lines after : List (List Char)} {closing : List Char}
    (hlines : ∀ line ∈ lines, isClosing line = false) (hclosing : isClosing closing = true)
    (metadata : List (String × String)) :
    readLines metadata (lines ++ closing :: after)
      = some (lines.foldl (fun metadata line => enter metadata (keyValue? line)) metadata,
        joinWith ['\n'] after) := by
  induction lines generalizing metadata with
  | nil => exact if_pos hclosing
  | cons line rest ih =>
      obtain ⟨hline, hrest⟩ := List.forall_mem_cons.mp hlines
      rw [List.cons_append, readLines, hline, if_neg Bool.false_ne_true, ih hrest, List.foldl_cons]

/-- A block has no end if no line closes it. -/
theorem readLines_eq_none_iff {lines : List (List Char)} (metadata : List (String × String)) :
    readLines metadata lines = none ↔ ∀ line ∈ lines, isClosing line = false := by
  induction lines generalizing metadata with
  | nil => simp [readLines]
  | cons line rest ih =>
      rw [readLines, List.forall_mem_cons]
      cases hline : isClosing line with
      | true => simp
      | false =>
          rw [if_neg Bool.false_ne_true, ih]
          simp

/-- A text is taken apart line by line. -/
theorem value_split (source : Option String) (text : String) :
    (split source text).value
      = if withoutReturns (firstLine text) = openingFence then
          (readLines [] (laterLines text)).map fun (metadata, body) =>
            (metadata, String.ofList body)
        else some ([], text) := by
  have hlines := splitAt_eq_lines text
  rw [splitAt_eq_cutLineEnd, List.cons.injEq] at hlines
  rw [← hlines.1, ← hlines.2, split]
  dsimp only
  by_cases hopening : withoutReturns (cutLineEnd text.toList).1 = openingFence
  · rw [if_neg (not_not.mpr hopening), if_pos hopening]
    cases (cutLineEnd text.toList).2 with
    | none => rfl
    | some rest =>
        rw [Noted.value_bind, value_readBlock]
        rfl
  · rw [if_pos hopening, if_neg hopening]
    rfl

/-! ## Blocks -/

/-- A text that begins with a block of metadata. The body is absent if the closing line is the last
line of the text. -/
structure Block where
  opening : List Char
  lines : List (List Char)
  closing : List Char
  body : Option (List Char)
  isOpening : IsFence openingFence opening
  isClosing : IsFence closingFence closing
  /-- The lines of the block are lines, and none of them closes it. -/
  within : ∀ line ∈ lines, '\n' ∉ line ∧ ¬ IsFence closingFence line

namespace Block

variable (block : Block)

/-- The text that a block is at the beginning of. -/
def text : String :=
  String.ofList (block.opening ++ '\n' :: (block.lines.flatMap (· ++ ['\n']) ++
    (block.closing ++ block.body.elim [] ('\n' :: ·))))

/-- What the lines of a block say. -/
def entries : List (String × String) :=
  block.lines.filterMap keyValue?

/-- What stands after a block, which is nothing if the block ends with the text. -/
def rest : String :=
  String.ofList (block.body.getD [])

/-- The lines of a text with a block. -/
theorem splitAt_text :
    splitAt '\n' block.text.toList
      = block.opening :: (block.lines ++
          block.closing :: block.body.elim [] (splitAt '\n')) := by
  have hopening : '\n' ∉ block.opening := block.isOpening.not_mem (by decide) (by decide)
  have hclosing : '\n' ∉ block.closing := block.isClosing.not_mem (by decide) (by decide)
  have hend : splitAt '\n' (block.closing ++ block.body.elim [] ('\n' :: ·))
      = block.closing :: block.body.elim [] (splitAt '\n') := by
    cases block.body with
    | none => rw [Option.elim_none, List.append_nil, splitAt_of_not_mem hclosing]; rfl
    | some body => exact splitAt_append hclosing body
  have hlines : ∀ lines : List (List Char), (∀ line ∈ lines, '\n' ∉ line) → ∀ back,
      splitAt '\n' (lines.flatMap (· ++ ['\n']) ++ back) = lines ++ splitAt '\n' back := by
    intro lines hfree back
    induction lines with
    | nil => rfl
    | cons line rest ih =>
        obtain ⟨hline, hrest⟩ := List.forall_mem_cons.mp hfree
        rw [List.flatMap_cons, List.append_assoc, List.append_assoc, List.singleton_append,
          splitAt_append hline, ih hrest, List.cons_append]
  rw [text, String.toList_ofList, splitAt_append hopening,
    hlines block.lines (fun line hline => (block.within line hline).1), hend]

theorem firstLine_text : firstLine block.text = block.opening :=
  (List.cons.inj ((splitAt_eq_lines block.text).symm.trans block.splitAt_text)).1

theorem laterLines_text :
    laterLines block.text
      = block.lines ++ block.closing :: block.body.elim [] (splitAt '\n') :=
  (List.cons.inj ((splitAt_eq_lines block.text).symm.trans block.splitAt_text)).2

/-- A text with a block is taken apart into what the lines of the block say and what stands after
it. -/
theorem value_split (source : Option String) :
    (split source block.text).value
      = some (block.entries.foldl (fun metadata entry => set entry.1 entry.2 metadata) [],
        block.rest) := by
  have hlines : ∀ line ∈ block.lines, Metadata.isClosing line = false := by
    intro line hline
    rw [← Bool.not_eq_true, isClosing_iff]
    exact (block.within line hline).2
  have hrest : joinWith ['\n'] (block.body.elim [] (splitAt '\n')) = block.body.getD [] := by
    cases block.body with
    | none => rfl
    | some body => exact joinWith_splitAt '\n' body
  rw [Metadata.value_split, firstLine_text, if_pos (isOpening_iff.mpr block.isOpening),
    laterLines_text, readLines_append hlines (isClosing_iff.mpr block.isClosing), foldl_enter,
    hrest]
  rfl

end Block

/-- A text made of lines, in which one line is picked out. -/
theorem joinWith_picked (first closing : List Char) (lines after : List (List Char)) :
    joinWith ['\n'] (first :: (lines ++ closing :: after))
      = first ++ '\n' :: (lines.flatMap (· ++ ['\n']) ++
          (closing ++ if after = [] then [] else '\n' :: joinWith ['\n'] after)) := by
  induction lines generalizing first with
  | nil =>
      rw [List.nil_append, joinWith_cons_cons, List.flatMap_nil, List.nil_append]
      cases after with
      | nil => rw [if_pos rfl, List.append_nil]; rfl
      | cons second after => rw [if_neg (List.cons_ne_nil second after), joinWith_cons_cons]
  | cons line rest ih =>
      rw [List.cons_append, joinWith_cons_cons, ih, List.flatMap_cons, List.append_assoc,
        List.append_assoc, List.singleton_append]

/-- A text that begins with an opening line and has a closing line after it begins with a block. -/
theorem exists_block {text : String} (hopening : IsFence openingFence (firstLine text))
    (hclosing : ∃ line ∈ laterLines text, IsFence closingFence line) :
    ∃ block : Block, block.text = text := by
  -- the first closing line is the one that counts
  have hfirst : ∃ lines closing after, laterLines text = lines ++ closing :: after ∧
      IsFence closingFence closing ∧ ∀ line ∈ lines, ¬ IsFence closingFence line := by
    obtain ⟨line, hline, hfence⟩ := hclosing
    cases hdrop : (laterLines text).dropWhile (!isClosing ·) with
    | nil =>
        have hopen := List.dropWhile_eq_nil_iff.mp hdrop line hline
        simp [isClosing_iff.mpr hfence] at hopen
    | cons closing after =>
        refine ⟨(laterLines text).takeWhile (!isClosing ·), closing, after, ?_, ?_, ?_⟩
        · rw [← hdrop, List.takeWhile_append_dropWhile]
        · have hhead := List.head?_dropWhile_not (!isClosing ·) (laterLines text)
          rw [hdrop] at hhead
          exact isClosing_iff.mp (by simpa using hhead)
        · intro other hother
          have hnot := List.mem_takeWhile_imp (p := (!isClosing ·)) hother
          rw [← isClosing_iff]
          simpa using hnot
  obtain ⟨lines, closing, after, hlater, hfence, hlines⟩ := hfirst
  have hfree : ∀ line ∈ lines, '\n' ∉ line := by
    intro line hline
    apply not_mem_of_mem_splitAt (s := text.toList)
    rw [splitAt_eq_lines, hlater]
    exact List.mem_cons_of_mem _ (List.mem_append_left _ hline)
  refine ⟨{
    opening := firstLine text
    lines := lines
    closing := closing
    body := if after = [] then none else some (joinWith ['\n'] after)
    isOpening := hopening
    isClosing := hfence
    within := fun line hline => ⟨hfree line hline, hlines line hline⟩ }, ?_⟩
  have htext := joinWith_splitAt '\n' text.toList
  rw [splitAt_eq_lines, hlater, joinWith_picked] at htext
  refine (congrArg String.ofList (Eq.trans ?_ htext)).trans String.ofList_toList
  by_cases hafter : after = []
  · rw [if_pos hafter, if_pos hafter]
    rfl
  · rw [if_neg hafter, if_neg hafter]
    rfl

/-! ## Writing blocks -/

/-- An entry that can be written as a line. -/
structure IsWritable (entry : String × String) : Prop where
  key : strip entry.1 = entry.1
  value : strip entry.2 = entry.2
  /-- The first separator of the line is the one that is written. -/
  free : ∀ c ∈ entry.1.toList, c ≠ '=' ∧ c ≠ ':' ∧ c ≠ '\n'
  line : '\n' ∉ entry.2.toList

/-- The line for an entry. -/
def writtenLine (entry : String × String) : List Char :=
  entry.1.toList ++ ' ' :: '=' :: ' ' :: entry.2.toList

/-- A block with a line for every entry, and a text behind it. -/
def write (entries : List (String × String)) (body : String) : String :=
  String.ofList (openingFence ++ '\n' :: (entries.flatMap (fun entry => writtenLine entry ++ ['\n'])
    ++ (closingFence ++ '\n' :: body.toList)))

/-- A line that is written for an entry says the entry. -/
theorem keyValue?_writtenLine {entry : String × String} (h : IsWritable entry) :
    keyValue? (writtenLine entry) = some entry := by
  have hkey : ∀ c ∈ entry.1.toList ++ [' '], (!isSeparator c) = true := by
    intro c hc
    rcases List.mem_append.mp hc with hc | hc
    · obtain ⟨hequals, hcolon, -⟩ := h.free c hc
      simp [isSeparator, hequals, hcolon]
    · rw [List.mem_singleton.mp hc]
      rfl
  have hline : writtenLine entry
      = (entry.1.toList ++ [' ']) ++ '=' :: ' ' :: entry.2.toList := by
    rw [writtenLine, List.append_assoc, List.singleton_append]
  have hany : (writtenLine entry).any isSeparator = true := by
    rw [hline, List.any_append, List.any_cons]
    simp [isSeparator]
  have hbefore : (writtenLine entry).takeWhile (!isSeparator ·) = entry.1.toList ++ [' '] := by
    rw [hline, List.takeWhile_append_of_pos hkey, List.takeWhile_cons_of_neg (by decide),
      List.append_nil]
  have hafter : (writtenLine entry).dropWhile (!isSeparator ·) = '=' :: ' ' :: entry.2.toList := by
    rw [hline, List.dropWhile_append_of_pos hkey, List.dropWhile_cons_of_neg (by decide)]
  have hspace : ∀ c ∈ [' '], isBlank c = true := by
    intro c hc
    rw [List.mem_singleton.mp hc]
    rfl
  rw [keyValue?, if_pos hany, hbefore, hafter, List.tail_cons, strip, strip, String.toList_ofList,
    String.toList_ofList, stripBy_append hspace]
  have hvalue : stripBy isBlank (' ' :: entry.2.toList) = stripBy isBlank entry.2.toList := rfl
  rw [hvalue]
  exact congrArg some (Prod.ext h.key h.value)

theorem filterMap_writtenLine {entries : List (String × String)}
    (h : ∀ entry ∈ entries, IsWritable entry) :
    (entries.map writtenLine).filterMap keyValue? = entries := by
  induction entries with
  | nil => rfl
  | cons entry rest ih =>
      obtain ⟨hentry, hrest⟩ := List.forall_mem_cons.mp h
      rw [List.map_cons, List.filterMap_cons_some (keyValue?_writtenLine hentry), ih hrest]

/-- The block that is written for entries. -/
def writtenBlock (entries : List (String × String)) (body : String)
    (h : ∀ entry ∈ entries, IsWritable entry) : Block where
  opening := openingFence
  lines := entries.map writtenLine
  closing := closingFence
  body := some body.toList
  isOpening := ⟨0, (List.append_nil _).symm⟩
  isClosing := ⟨0, (List.append_nil _).symm⟩
  within := by
    intro line hline
    obtain ⟨entry, hentry, rfl⟩ := List.mem_map.mp hline
    constructor
    · rw [writtenLine, List.mem_append, not_or]
      refine ⟨fun hc => (h entry hentry).free _ hc |>.2.2 rfl, ?_⟩
      simpa using (h entry hentry).line
    · -- a fence has no separator
      intro hfence
      have hequals : '=' ∈ writtenLine entry := by simp [writtenLine]
      exact hfence.not_mem (by decide) (by decide) hequals

/-- What is written for entries whose keys are all different is taken apart into these entries. -/
theorem value_split_write (source : Option String) {entries : List (String × String)}
    (body : String) (h : ∀ entry ∈ entries, IsWritable entry)
    (hkeys : (entries.map (·.1)).Nodup) :
    (split source (write entries body)).value = some (entries, body) := by
  have htext : (writtenBlock entries body h).text = write entries body := by
    rw [Block.text, write, writtenBlock, List.flatMap_map]
    rfl
  have hentries : (writtenBlock entries body h).entries = entries := filterMap_writtenLine h
  rw [← htext, Block.value_split, hentries, foldl_set_of_nodup entries hkeys]
  exact congrArg (fun rest => some (entries, rest)) (String.ofList_toList)

/-! ## Taking texts apart -/

/-- How texts are taken apart into metadata and the rest. -/
structure Splits (source : Option String) : Prop where
  /-- A text without an opening fence on its first line has no metadata. -/
  plain : ∀ text, ¬ IsFence openingFence (firstLine text) →
    (split source text).value = some ([], text)
  /-- A block of metadata has no end if no later line is a closing fence. -/
  unclosed : ∀ text, (split source text).value = none ↔
    IsFence openingFence (firstLine text) ∧ ∀ line ∈ laterLines text, ¬ IsFence closingFence line
  /-- Every other text begins with a block. -/
  begins : ∀ text, IsFence openingFence (firstLine text) →
    (∃ line ∈ laterLines text, IsFence closingFence line) → ∃ block : Block, block.text = text
  /-- What the lines of a block say are the metadata, and what stands after it is the rest. -/
  block : ∀ block : Block, ∃ metadata, LastWins block.entries metadata ∧
    (split source block.text).value = some (metadata, block.rest)
  /-- What is written is taken apart again. -/
  written : ∀ entries body, (∀ entry ∈ entries, IsWritable entry) → (entries.map (·.1)).Nodup →
    (split source (write entries body)).value = some (entries, body)

/-- Every text is taken apart at the end of its block of metadata, if it begins with one, and a
block that is written for entries is taken apart into these. -/
theorem splits (source : Option String) : Splits source where
  plain := by
    intro text htext
    rw [value_split, if_neg fun h => htext (isOpening_iff.mp h)]
  unclosed := by
    intro text
    rw [value_split]
    split
    · rename_i hopening
      rw [Option.map_eq_none_iff, readLines_eq_none_iff, and_iff_right (isOpening_iff.mp hopening)]
      apply forall₂_congr
      intro line hline
      rw [← isClosing_iff, Bool.not_eq_true]
    · rename_i hopening
      constructor
      · intro h
        cases h
      · rintro ⟨h, -⟩
        exact absurd (isOpening_iff.mpr h) hopening
  begins := by
    intro text hopening hclosing
    exact exists_block hopening hclosing
  block := by
    intro block
    exact ⟨_, lastWins_foldl block.entries, block.value_split source⟩
  written := by
    intro entries body h hkeys
    exact value_split_write source body h hkeys

/-- A key that comes twice keeps its first place and has its last value, and a fence in the body is
left alone. -/
example : (split none "\x60\x60\x60meta\nb: 1\na = x: y\nb=2\n\x60\x60\x60\r\n\x60\x60\x60\n").value
    = some ([("b", "2"), ("a", "x: y")], "\x60\x60\x60\n") := by
  cbv

end Metadata

end StaticSite
