import Mathlib.Data.List.Basic
import Mathlib.Data.List.Induction
import StaticSite.Proofs.File.Spelling
import StaticSite.Proofs.File.Utf8
import StaticSite.Proofs.Html.AttributeValue

/-!
# Following addresses

A reader of an address drops its query and its fragment, reads the bytes in percent notation, and
follows the names from the directory of the page, or from the top of the site if the address begins
with a slash.

What is reached can be measured: it is no larger than the names that lead there, and these are no
larger than the text that they are read from. So a text that is too short for some names does not
lead to them, however it is read.

Characters that should not stand in an address are taken for themselves, and so is a `%` that no two
hexadecimal digits follow.

## What this module delivers

- `percentNotation`, `descend`, `resolve?`: the reader.
- `descend_up`, `descend_down`: following names up and down.
- `size_descend_le`, `size_pathNames_le`: the measure.
- `AreProper`, `pathNames_intercalate`: names of files, and how they are read.
- `descend_pathNames_iff`: a text that leads to given names.
- `resolve?_eq_some`, `resolve?_from_directory`, `resolve?_from_top`: where addresses lead.
-/

set_option autoImplicit false

namespace StaticSite.Url

open StaticSite.Text StaticSite.File

/-! ## Percent notation -/

/-- The byte that two hexadecimal digits after a `%` write. -/
def escapedByte? (c : Char) (rest : List Char) : Option UInt8 :=
  match rest with
  | a :: b :: _ =>
      if c = '%' then
        (hexValue? a).bind fun high => (hexValue? b).map fun low => UInt8.ofNat (16 * high + low)
      else none
  | _ => none

/-- The bytes of an address. -/
def percentNotation : Decoding UInt8 where
  piece? c rest := (escapedByte? c rest).map fun byte => ([byte], 2)
  single := String.utf8EncodeChar

/-- Whether a byte begins a character. -/
def isLeading (byte : UInt8) : Bool :=
  !isContinuation byte

theorem escapedByte?_eq_some {c : Char} {rest : List Char} {byte : UInt8}
    (h : escapedByte? c rest = some byte) :
    c = '%' ∧ ∃ a b more, rest = a :: b :: more ∧ (hexValue? a).isSome ∧ (hexValue? b).isSome := by
  rw [escapedByte?.eq_def] at h
  split at h
  · rename_i a b more
    split at h
    · rename_i hpercent
      obtain ⟨high, hhigh, h⟩ := Option.bind_eq_some_iff.mp h
      obtain ⟨low, hlow, -⟩ := Option.map_eq_some_iff.mp h
      exact ⟨hpercent, a, b, more, rfl, by rw [hhigh]; rfl, by rw [hlow]; rfl⟩
    · exact absurd h (by simp)
  · exact absurd h (by simp)

theorem percentNotation_piece?_of_ne {c : Char} (h : c ≠ '%') (rest : List Char) :
    percentNotation.piece? c rest = none := by
  apply Option.map_eq_none_iff.mpr
  by_contra hsome
  obtain ⟨byte, hbyte⟩ := Option.ne_none_iff_exists'.mp hsome
  exact h (escapedByte?_eq_some hbyte).1

theorem isLeading_byte {n : Nat} (h : n < 128 ∨ 191 < n ∧ n < 256) :
    isLeading (UInt8.ofNat n) = true := by
  have hbyte : (UInt8.ofNat n).toNat = n := toNat_byte (by omega)
  rw [isLeading, Bool.not_eq_true', ← Bool.not_eq_true, isContinuation_iff, hbyte]
  omega

theorem not_isLeading_byte {n : Nat} (h : 127 < n ∧ n < 192) :
    isLeading (UInt8.ofNat n) = false := by
  have hbyte : (UInt8.ofNat n).toNat = n := toNat_byte (by omega)
  rw [isLeading, Bool.not_eq_false', isContinuation_iff, hbyte]
  omega

theorem countP_sequence {first : UInt8} {more : List UInt8} (hfirst : isLeading first = true)
    (hmore : ∀ byte ∈ more, isLeading byte = false) : (first :: more).countP isLeading = 1 := by
  have hnone : more.countP isLeading = 0 :=
    List.countP_eq_zero.mpr fun byte hbyte => by rw [hmore byte hbyte]; exact Bool.false_ne_true
  rw [List.countP_cons_of_pos hfirst, hnone]

/-- A character has one leading byte. -/
theorem countP_utf8EncodeChar (c : Char) : (String.utf8EncodeChar c).countP isLeading = 1 := by
  have hvalid : c.val.toNat < 0x110000 := by
    have hrange : c.val.toNat < 0xd800 ∨ (0xdfff < c.val.toNat ∧ c.val.toNat < 0x110000) := c.valid
    omega
  unfold String.utf8EncodeChar
  dsimp only
  generalize c.val.toNat = v at hvalid ⊢
  -- the four cases are the lengths of an encoding
  split_ifs with hone htwo hthree
  · exact countP_sequence (isLeading_byte (by omega)) (List.forall_mem_nil _)
  · apply countP_sequence (isLeading_byte (by omega))
    rw [List.forall_mem_singleton]
    exact not_isLeading_byte (by omega)
  · apply countP_sequence (isLeading_byte (by omega))
    rw [List.forall_mem_cons, List.forall_mem_singleton]
    exact ⟨not_isLeading_byte (by omega), not_isLeading_byte (by omega)⟩
  · apply countP_sequence (isLeading_byte (by omega))
    rw [List.forall_mem_cons, List.forall_mem_cons, List.forall_mem_singleton]
    exact ⟨not_isLeading_byte (by omega), not_isLeading_byte (by omega),
      not_isLeading_byte (by omega)⟩

/-- An escape is longer than its byte. -/
theorem shrinks_percentNotation : percentNotation.Shrinks isLeading := by
  refine ⟨?_, countP_utf8EncodeChar⟩
  intro c rest meant more h
  obtain ⟨byte, hbyte, hpair⟩ := Option.map_eq_some_iff.mp h
  obtain ⟨rfl, rfl⟩ := Prod.mk.inj hpair
  obtain ⟨-, a, b, others, rfl, -, -⟩ := escapedByte?_eq_some hbyte
  refine ⟨?_, by simp⟩
  exact Nat.le_trans List.countP_le_length (by simp)

/-- An escape lies within a name. -/
theorem escapedByte?_piece {c : Char} {rest piece : List Char} {pieces : List (List Char)}
    (h : splitAt '/' rest = piece :: pieces) : escapedByte? c piece = escapedByte? c rest := by
  have hslash : hexValue? '/' = none := by decide
  cases rest with
  | nil =>
      obtain ⟨rfl, -⟩ := List.cons.inj h
      rfl
  | cons a more =>
      obtain ⟨first, others, hmore, hcons⟩ := exists_splitAt_cons '/' a more
      rw [hcons] at h
      split at h
      · -- the name is empty, and a slash is no digit
        rename_i ha
        obtain ⟨rfl, -⟩ := List.cons.inj h
        cases more with
        | nil => rfl
        | cons b last => simp [escapedByte?, ha, hslash]
      · obtain ⟨rfl, -⟩ := List.cons.inj h
        cases more with
        | nil =>
            obtain ⟨rfl, -⟩ := List.cons.inj hmore
            rfl
        | cons b last =>
            obtain ⟨second, others', -, hcons'⟩ := exists_splitAt_cons '/' b last
            rw [hcons'] at hmore
            split at hmore
            · rename_i hb
              obtain ⟨rfl, -⟩ := List.cons.inj hmore
              simp [escapedByte?, hb, hslash]
            · obtain ⟨rfl, -⟩ := List.cons.inj hmore
              rfl

/-- A path has an escape exactly if one of its names has. -/
theorem finds_splitAt (path : List Char) :
    percentNotation.finds path = (splitAt '/' path).any percentNotation.finds := by
  induction path with
  | nil => rfl
  | cons c rest ih =>
      obtain ⟨piece, pieces, hsplit, hcons⟩ := exists_splitAt_cons '/' c rest
      have hpiece : (percentNotation.piece? c rest).isSome
          = (percentNotation.piece? c piece).isSome := by
        show ((escapedByte? c rest).map _).isSome = ((escapedByte? c piece).map _).isSome
        rw [escapedByte?_piece hsplit]
      rw [Decoding.finds, ih, hsplit, hcons]
      split
      · rename_i hslash
        have hother : c ≠ '%' := by
          rw [hslash]
          decide
        rw [percentNotation_piece?_of_ne hother]
        simp [Decoding.finds]
      · simp only [List.any_cons, Decoding.finds, hpiece, Bool.or_assoc]

/-! ## Following names -/

/-- The names in a path. -/
def pathNames (path : List Char) : List (List UInt8) :=
  (splitAt '/' path).map percentNotation.read

/-- The name that leads nowhere. -/
def dot : List UInt8 := [0x2e]

/-- The name that leads back. -/
def dots : List UInt8 := [0x2e, 0x2e]

/-- Where a name leads from a directory. -/
def enter (place : List (List UInt8)) (name : List UInt8) : List (List UInt8) :=
  if name = dot then place else if name = dots then place.dropLast else place ++ [name]

/-- Where names lead from a directory. If the last one is a dot or two, that is a directory, which
has an empty name in the end. -/
def descend (place names : List (List UInt8)) : List (List UInt8) :=
  if names.getLast? = some dot ∨ names.getLast? = some dots then names.foldl enter place ++ [[]]
  else names.foldl enter place

/-- How large names are: how many there are, and how many characters they begin. -/
def size (names : List (List UInt8)) : Nat :=
  names.flatten.countP isLeading + names.length

variable {place names common up : List (List UInt8)} {name : List UInt8}

theorem size_append (front back : List (List UInt8)) :
    size (front ++ back) = size front + size back := by
  rw [size, size, size, List.flatten_append, List.countP_append, List.length_append]
  omega

theorem size_dropLast_le (place : List (List UInt8)) : size place.dropLast ≤ size place := by
  rcases List.eq_nil_or_concat place with rfl | ⟨front, last, rfl⟩
  · exact Nat.le_refl 0
  · rw [List.concat_eq_append, List.dropLast_concat, size_append]
    omega

/-- A name makes a place no larger than it is itself. -/
theorem size_enter_le (place : List (List UInt8)) (name : List UInt8) :
    size (enter place name) ≤ size place + size [name] := by
  rw [enter]
  split_ifs
  · omega
  · have hless := size_dropLast_le place
    omega
  · rw [size_append]

/-- A dot or two leave room for an empty name. -/
theorem size_enter_lt (place : List (List UInt8)) (h : name = dot ∨ name = dots) :
    size (enter place name) + 1 ≤ size place + size [name] := by
  have hdot : 2 ≤ size [dot] := by decide
  have hdots : 2 ≤ size [dots] := by decide
  rcases h with rfl | rfl
  · rw [enter, if_pos rfl]
    omega
  · have hless := size_dropLast_le place
    rw [enter, if_neg (by decide), if_pos rfl]
    omega

theorem size_foldl_enter_le (names : List (List UInt8)) :
    ∀ place, size (names.foldl enter place) ≤ size place + size names := by
  induction names with
  | nil => exact fun place => Nat.le_refl _
  | cons name rest ih =>
      intro place
      have hcons : size (name :: rest) = size [name] + size rest := size_append [name] rest
      calc size ((name :: rest).foldl enter place)
          ≤ size (enter place name) + size rest := ih (enter place name)
        _ ≤ size place + size [name] + size rest := by
            have hname := size_enter_le place name
            omega
        _ = size place + size (name :: rest) := by rw [hcons, Nat.add_assoc]

/-- What is reached is no larger than the place and the names that lead there. -/
theorem size_descend_le (place names : List (List UInt8)) :
    size (descend place names) ≤ size place + size names := by
  rw [descend]
  split_ifs with hlast
  · -- the empty name in the end takes the room of the dots
    obtain ⟨front, last, rfl, hdots⟩ : ∃ front last, names = front ++ [last] ∧
        (last = dot ∨ last = dots) := by
      rcases hlast with h | h
      · obtain ⟨front, rfl⟩ := List.getLast?_eq_some_iff.mp h
        exact ⟨front, dot, rfl, .inl rfl⟩
      · obtain ⟨front, rfl⟩ := List.getLast?_eq_some_iff.mp h
        exact ⟨front, dots, rfl, .inr rfl⟩
    have hfront := size_foldl_enter_le front place
    have hback := size_enter_lt (front.foldl enter place) hdots
    have hempty : size [[]] = 1 := rfl
    rw [List.foldl_append, List.foldl_cons, List.foldl_nil, size_append, size_append, hempty]
    omega
  · exact size_foldl_enter_le names place

/-- Names that are no dots lead down. -/
theorem descend_down (place : List (List UInt8)) (h : ∀ name ∈ names, name ≠ dot ∧ name ≠ dots) :
    descend place names = place ++ names := by
  have hfold : ∀ place, names.foldl enter place = place ++ names := by
    induction names with
    | nil => exact fun place => (List.append_nil place).symm
    | cons name rest ih =>
        intro place
        obtain ⟨⟨hdot, hdots⟩, hrest⟩ := List.forall_mem_cons.mp h
        rw [List.foldl_cons, ih hrest, enter, if_neg hdot, if_neg hdots, List.append_assoc,
          List.singleton_append]
  rw [descend, if_neg, hfold]
  rintro (hlast | hlast)
  · exact (h dot (List.mem_of_getLast? hlast)).1 rfl
  · exact (h dots (List.mem_of_getLast? hlast)).2 rfl

/-- As many double dots as there are names lead back over these. -/
theorem foldl_enter_up (common up : List (List UInt8)) :
    (List.replicate up.length dots).foldl enter (common ++ up) = common := by
  induction up using List.reverseRecOn with
  | nil => exact List.append_nil common
  | append_singleton front last ih =>
      have hback : enter (common ++ (front ++ [last])) dots = common ++ front := by
        rw [enter, if_neg (by decide), if_pos rfl, ← List.append_assoc, List.dropLast_concat]
      rw [List.length_append, List.length_singleton, List.replicate_succ, List.foldl_cons, hback,
        ih]

theorem descend_up (common up : List (List UInt8)) (hnames : names ≠ []) :
    descend (common ++ up) (List.replicate up.length dots ++ names) = descend common names := by
  rw [descend, descend, List.getLast?_append_of_ne_nil _ hnames, List.foldl_append, foldl_enter_up]

/-! ## Names and their text -/

/-- Cutting a text at some characters leaves the others, and one piece more than these are. -/
theorem length_flatten_splitAt (c : Char) (s : List Char) :
    (splitAt c s).flatten.length + (splitAt c s).length = s.length + 1 := by
  induction s with
  | nil => rfl
  | cons d rest ih =>
      obtain ⟨piece, pieces, hsplit, hcons⟩ := exists_splitAt_cons c d rest
      rw [hsplit, List.flatten_cons, List.length_append, List.length_cons] at ih
      rw [hcons, List.length_cons]
      split
      · rw [List.flatten_cons, List.flatten_cons, List.nil_append, List.length_append,
          List.length_cons, List.length_cons]
        omega
      · rw [List.flatten_cons, List.length_append, List.length_cons, List.length_cons]
        omega

/-- Names that are read are no larger than they are long, and smaller if they have an escape. -/
theorem size_map_read (pieces : List (List Char)) :
    size (pieces.map percentNotation.read) ≤ pieces.flatten.length + pieces.length ∧
      (pieces.any percentNotation.finds → size (pieces.map percentNotation.read)
        < pieces.flatten.length + pieces.length) := by
  induction pieces with
  | nil => exact ⟨Nat.le_refl 0, fun h => absurd h (by simp)⟩
  | cons piece rest ih =>
      obtain ⟨hle, hlt⟩ := ih
      have hsize : size ((piece :: rest).map percentNotation.read)
          = size [percentNotation.read piece] + size (rest.map percentNotation.read) :=
        size_append [percentNotation.read piece] _
      have hfirst : size [percentNotation.read piece]
          = (percentNotation.read piece).countP isLeading + 1 := by
        rw [size, List.flatten_singleton, List.length_singleton]
      have hpiece := Decoding.count_read_le shrinks_percentNotation piece
      rw [hsize, hfirst, List.flatten_cons, List.length_append, List.length_cons]
      refine ⟨by omega, fun h => ?_⟩
      rw [List.any_cons, Bool.or_eq_true] at h
      rcases h with hfinds | hrest
      · have hless := Decoding.count_read_lt shrinks_percentNotation hfinds
        omega
      · have hless := hlt hrest
        omega

/-- The names of a path are no larger than the path. -/
theorem size_pathNames_le (path : List Char) : size (pathNames path) ≤ path.length + 1 := by
  rw [← length_flatten_splitAt '/']
  exact (size_map_read (splitAt '/' path)).1

theorem size_pathNames_lt {path : List Char} (h : percentNotation.finds path) :
    size (pathNames path) < path.length + 1 := by
  rw [← length_flatten_splitAt '/']
  rw [finds_splitAt] at h
  exact (size_map_read (splitAt '/' path)).2 h

/-- The bytes of a text without escapes are those of its characters. -/
theorem read_eq_encode {text : String} (h : percentNotation.finds text.toList = false) :
    percentNotation.read text.toList = encode text := by
  rw [Decoding.read_of_not_finds h, ← String.ofList_toList (s := text), encode_ofList,
    String.toList_ofList]
  rfl

/-- A name has as many leading bytes as it has characters. -/
theorem countP_encode (name : String) : (encode name).countP isLeading = name.toList.length := by
  rw [← String.ofList_toList (s := name), encode_ofList, String.toList_ofList]
  induction name.toList with
  | nil => rfl
  | cons c rest ih =>
      rw [List.flatMap_cons, List.countP_append, ih, countP_utf8EncodeChar, List.length_cons]
      omega

theorem encode_injective : Function.Injective encode := by
  intro name other h
  have hread := congrArg decode h
  rw [decode_encode, decode_encode] at hread
  exact Except.ok.inj hread

/-- Names that are read as they are written, and that lead down. -/
def AreProper (names : List String) : Prop :=
  ∀ name ∈ names, isSegment name ∧ name ≠ ".."

variable {files : List String}

theorem splitAt_intercalate (h : AreProper files) (hne : files ≠ []) :
    splitAt '/' (String.intercalate "/" files).toList = files.map String.toList := by
  rw [toList_intercalate]
  refine splitAt_joinWith ?_ (by simpa using hne)
  intro piece hpiece
  obtain ⟨name, hname, rfl⟩ := List.mem_map.mp hpiece
  exact (h name hname).1.noSlash

/-- A path without escapes has the names that it is written with. -/
theorem pathNames_intercalate (h : AreProper files) (hne : files ≠ [])
    (hplain : percentNotation.finds (String.intercalate "/" files).toList = false) :
    pathNames (String.intercalate "/" files).toList = files.map encode := by
  rw [finds_splitAt, splitAt_intercalate h hne] at hplain
  rw [pathNames, splitAt_intercalate h hne, List.map_map]
  apply List.map_congr_left
  intro name hname
  apply read_eq_encode
  have hall := List.any_eq_false.mp hplain name.toList (List.mem_map_of_mem hname)
  exact Bool.eq_false_iff.mpr hall

/-- Names are as large as the text that they are written with. -/
theorem size_map_encode (h : AreProper files) (hne : files ≠ []) :
    size (files.map encode) = (String.intercalate "/" files).toList.length + 1 := by
  have hleading : ∀ files : List String, (files.map encode).flatten.countP isLeading
      = (files.map String.toList).flatten.length := by
    intro files
    induction files with
    | nil => rfl
    | cons name rest ih =>
        rw [List.map_cons, List.map_cons, List.flatten_cons, List.flatten_cons, List.countP_append,
          List.length_append, countP_encode, ih]
  rw [← length_flatten_splitAt '/', splitAt_intercalate h hne, size, hleading, List.length_map,
    List.length_map]

/-- Names of files are no dots. -/
theorem ne_dots_of_areProper (h : AreProper files) :
    ∀ name ∈ files.map encode, name ≠ dot ∧ name ≠ dots := by
  intro name hname
  obtain ⟨file, hfile, rfl⟩ := List.mem_map.mp hname
  obtain ⟨hsegment, hback⟩ := h file hfile
  have hdot : encode "." = dot := by decide
  have hdots : encode ".." = dots := by decide
  refine ⟨fun heq => ?_, fun heq => ?_⟩
  · exact hsegment.notDot (encode_injective (heq.trans hdot.symm))
  · exact hback (encode_injective (heq.trans hdots.symm))

/-- A text that is shorter than that of names, or is this text, leads to the names exactly if it is
this text and has no escapes. -/
theorem descend_pathNames_iff (above : List String) {down : List String} {text : List Char}
    (hdown : AreProper down) (hne : down ≠ [])
    (htext : text.length < (String.intercalate "/" down).toList.length ∨
      text = (String.intercalate "/" down).toList) :
    descend (above.map encode) (pathNames text) = (above ++ down).map encode ↔
      text = (String.intercalate "/" down).toList ∧
        percentNotation.finds (String.intercalate "/" down).toList = false := by
  constructor
  · intro h
    -- what is reached has to be large enough
    have hreached := size_descend_le (above.map encode) (pathNames text)
    rw [h, List.map_append, size_append, size_map_encode hdown hne] at hreached
    rcases htext with hshort | rfl
    · have hpath := size_pathNames_le text
      omega
    · refine ⟨rfl, Bool.eq_false_iff.mpr fun hfinds => ?_⟩
      have hpath := size_pathNames_lt hfinds
      omega
  · rintro ⟨rfl, hplain⟩
    rw [pathNames_intercalate hdown hne hplain, descend_down _ (ne_dots_of_areProper hdown),
      List.map_append]

/-- A text that is even shorter does not lead to names. -/
theorem descend_ne_of_length_lt (above : List String) {down : List String} {text : List Char}
    (hdown : AreProper down) (hne : down ≠ [])
    (hshort : text.length < (String.intercalate "/" down).toList.length) :
    descend [] (pathNames text) ≠ (above ++ down).map encode := by
  intro h
  have hreached := size_descend_le [] (pathNames text)
  have hnothing : size [] = 0 := rfl
  rw [h, List.map_append, size_append, size_map_encode hdown hne, hnothing] at hreached
  have hpath := size_pathNames_le text
  omega

/-! ## The reader of addresses -/

/-- Whether an address begins with a scheme: a letter, and letters, digits and some signs up to a
colon. -/
def hasScheme (s : List Char) : Bool :=
  s.head?.any Char.isAlpha &&
    (s.dropWhile fun c => c.isAlphanum || c == '+' || c == '-' || c == '.').head? == some ':'

/-- Whether a character begins neither the query nor the fragment. -/
def isInPath (c : Char) : Bool :=
  c != '?' && c != '#'

/-- The path of an address without a scheme: what stands before the query and the fragment. -/
def pathOf (s : List Char) : List Char :=
  s.takeWhile isInPath

/-- Where an address leads, seen from a page, unless it is on another site. An empty path leads to
the page itself. -/
def resolve? (page : List (List UInt8)) (s : List Char) : Option (List (List UInt8)) :=
  if hasScheme s then none
  else if pathOf s = [] then some page
  else if ['/', '/'].isPrefixOf (pathOf s) then none
  else if (pathOf s).head? = some '/' then some (descend [] (pathNames (pathOf s).tail))
  else some (descend page.dropLast (pathNames (pathOf s)))

variable {s front : List Char}

/-- An address leads to the page itself, down from the top of the site, or from the directory of
the page. -/
theorem resolve?_eq_some {page place : List (List UInt8)} (h : resolve? page s = some place) :
    (pathOf s = [] ∧ place = page) ∨
      (∃ rest, pathOf s = '/' :: rest ∧ place = descend [] (pathNames rest)) ∨
      (hasScheme s = false ∧ place = descend page.dropLast (pathNames (pathOf s))) := by
  rw [resolve?] at h
  split_ifs at h with hscheme hempty hslashes hslash
  · exact .inl ⟨hempty, (Option.some.inj h).symm⟩
  · obtain ⟨rest, hrest⟩ := List.head?_eq_some_iff.mp hslash
    rw [hrest, List.tail_cons] at h
    exact .inr (.inl ⟨rest, hrest, (Option.some.inj h).symm⟩)
  · exact .inr (.inr ⟨Bool.eq_false_iff.mpr hscheme, (Option.some.inj h).symm⟩)

/-- A path without a slash in front is followed from the directory of the page. -/
theorem resolve?_from_directory (hscheme : hasScheme s = false) (hsome : pathOf s ≠ [])
    (hslash : (pathOf s).head? ≠ some '/') (page : List (List UInt8)) :
    resolve? page s = some (descend page.dropLast (pathNames (pathOf s))) := by
  have hslashes : ¬ ['/', '/'].isPrefixOf (pathOf s) = true := by
    intro h
    obtain ⟨rest, hrest⟩ := List.isPrefixOf_iff_prefix.mp h
    exact hslash (by rw [← hrest]; rfl)
  rw [resolve?, hscheme, if_neg Bool.false_ne_true, if_neg hsome, if_neg hslashes, if_neg hslash]

/-- One slash in front of a path leads to the top of the site, and two lead to another site. -/
theorem resolve?_from_top (hscheme : hasScheme s = false) {rest : List Char}
    (hpath : pathOf s = '/' :: rest) (page : List (List UInt8)) :
    resolve? page s
      = if rest.head? = some '/' then none else some (descend [] (pathNames rest)) := by
  have hslashes : ['/', '/'].isPrefixOf ('/' :: rest) = true ↔ rest.head? = some '/' := by
    cases rest with
    | nil => simp
    | cons c rest =>
        rw [List.isPrefixOf_iff_prefix, List.cons_prefix_cons, List.cons_prefix_cons,
          List.head?_cons, Option.some.injEq]
        exact ⟨fun h => h.2.1.symm, fun h => ⟨rfl, h.symm, List.nil_prefix⟩⟩
  rw [resolve?, hscheme, hpath, if_neg Bool.false_ne_true, if_neg (List.cons_ne_nil _ _),
    List.head?_cons, if_pos rfl, List.tail_cons]
  exact if_congr hslashes rfl rfl

/-- The page that a link without a path leads to is the page itself. -/
theorem resolve?_of_empty (hscheme : hasScheme s = false) (hempty : pathOf s = [])
    (page : List (List UInt8)) : resolve? page s = some page := by
  rw [resolve?, hscheme, if_neg Bool.false_ne_true, if_pos hempty]

theorem not_hasScheme_cons {c : Char} (h : c.isAlpha = false) (rest : List Char) :
    hasScheme (c :: rest) = false := by
  simp [hasScheme, h]

/-- Without a path there is no scheme. -/
theorem not_hasScheme_of_pathOf (h : pathOf s = []) : hasScheme s = false := by
  cases s with
  | nil => rfl
  | cons c rest =>
      apply not_hasScheme_cons
      by_contra halpha
      have hletter : isInPath c = true := by
        rw [isInPath, Bool.and_eq_true, bne_iff_ne, bne_iff_ne]
        refine ⟨?_, ?_⟩
        · rintro rfl
          exact halpha rfl
        · rintro rfl
          exact halpha rfl
      rw [pathOf, List.takeWhile_cons_of_pos hletter] at h
      exact absurd h (by simp)

theorem pathOf_of_not_mem (hquery : '?' ∉ s) (hfragment : '#' ∉ s) : pathOf s = s := by
  rw [pathOf, List.takeWhile_eq_self_iff]
  intro c hc
  rw [isInPath, Bool.and_eq_true, bne_iff_ne, bne_iff_ne]
  refine ⟨?_, ?_⟩
  · rintro rfl
    exact hquery hc
  · rintro rfl
    exact hfragment hc

theorem length_pathOf_lt (h : '?' ∈ s ∨ '#' ∈ s) : (pathOf s).length < s.length := by
  have hother : pathOf s ≠ s := by
    rw [pathOf, Ne, List.takeWhile_eq_self_iff]
    intro hall
    rcases h with hquery | hfragment
    · exact absurd (hall '?' hquery) (by decide)
    · exact absurd (hall '#' hfragment) (by decide)
  have hbegins : pathOf s <+: s := List.takeWhile_prefix _
  exact Nat.lt_of_le_of_ne hbegins.length_le fun hlength => hother (hbegins.eq_of_length hlength)

end StaticSite.Url
