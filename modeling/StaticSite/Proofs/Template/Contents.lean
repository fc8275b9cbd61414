import StaticSite.Markdown.NamedCharacter
import StaticSite.Proofs.Html.Lexeme
import StaticSite.Template.Link

/-!
# Tables of contents are read back

A table of contents is made of three pieces: the tag that opens a list, the tag that closes one, and
an item with its text. A reader counts the lists that are open, and each item is as deep as there
are lists around it. What the reader gets are the headings that are not too deep, with their depths
and in their order, whatever markup their texts look like.

The number of open lists carries the argument: between two items the tags change it from the one
depth to the other, and no tag is wasted.

## What this module delivers

- `ContentsPiece`, `readContents`: the pieces of a table of contents, read from its lexemes.
- `readEntries`: the items of a table with their depths.
- `tagRuns`: how many tags of lists stand between the items.
- `Writes`: a text is read as pieces, wherever it stands.
- `Outlines`, `tableOfContents_outlines`: the table of contents of headings.
-/

set_option autoImplicit false

namespace StaticSite.Template

open StaticSite.Text StaticSite.Html StaticSite.Markdown

/-! ## The reader -/

/-- A piece of a table of contents. -/
inductive ContentsPiece where
  | openList
  | closeList
  | item (text : String)
deriving DecidableEq, Repr

/-- The text that a lexeme between tags stands for. -/
def lexemeText? : Lexeme → Option String
  | .char c => some (String.singleton c)
  | .entity name => namedCharacter? name
  | _ => none

/-- Reads a lexeme, given the text of the item under way if there is one: the pieces that are
complete, and the item under way after it. -/
def readLexeme : Option String → Lexeme → Option (List ContentsPiece × Option String)
  | none, lexeme =>
      if lexeme = .opening "ul" [] then some ([.openList], none)
      else if lexeme = .closing "ul" then some ([.closeList], none)
      else if lexeme = .opening "li" [] then some ([], some "")
      else none
  | some text, lexeme =>
      match lexemeText? lexeme with
      | some more => some ([], some (text ++ more))
      | none => if lexeme = .closing "li" then some ([.item text], none) else none

/-- The pieces that lexemes make up. No item is left under way. -/
def readContents : Option String → List Lexeme → Option (List ContentsPiece)
  | none, [] => some []
  | some _, [] => none
  | item, lexeme :: rest =>
      (readLexeme item lexeme).bind fun (done, item') => (readContents item' rest).map (done ++ ·)

/-- The items among pieces, with the number of lists that are open around each. No list is closed
that is not open, and none is left open. -/
def readEntries : Nat → List ContentsPiece → Option (List (String × Nat))
  | 0, [] => some []
  | _ + 1, [] => none
  | depth, .openList :: rest => readEntries (depth + 1) rest
  | 0, .closeList :: _ => none
  | depth + 1, .closeList :: rest => readEntries depth rest
  | depth, .item text :: rest => (readEntries depth rest).map ((text, depth) :: ·)

/-- How many tags of lists stand before each item, and how many after the last, when some stand
before the pieces already. -/
def tagRuns : Nat → List ContentsPiece → List Nat
  | run, [] => [run]
  | run, .item _ :: rest => run :: tagRuns 0 rest
  | run, _ :: rest => tagRuns (run + 1) rest

/-- How far apart two depths are. -/
def distance (depth other : Nat) : Nat :=
  ((depth : Int) - other).natAbs

/-- A page holds entries as nested lists and nothing else, with no more tags of lists before an
entry than there are steps from the depth of the one before. -/
def Outlines (entries : List (String × Nat)) (page : String) : Prop :=
  ∃ lexemes pieces, lex page.toList = some lexemes ∧
    readContents none lexemes = some pieces ∧
    readEntries 0 pieces = some entries ∧
    tagRuns 0 pieces
      = List.zipWith distance (0 :: entries.map Prod.snd) (entries.map Prod.snd ++ [0])

/-! ## Texts that are read as pieces -/

/-- A text is read as pieces, whatever follows it. -/
def Writes (text : String) (pieces : List ContentsPiece) : Prop :=
  ∃ lexemes, lexFrom .text text.toList = some (lexemes, .text) ∧
    ∀ rest, readContents none (lexemes ++ rest) = (readContents none rest).map (pieces ++ ·)

theorem Writes.empty : Writes "" [] := by
  refine ⟨[], rfl, fun rest => ?_⟩
  simp

/-- Texts that follow each other are read as the pieces of both. -/
theorem Writes.append {left right : String} {pieces more : List ContentsPiece}
    (hleft : Writes left pieces) (hright : Writes right more) :
    Writes (left ++ right) (pieces ++ more) := by
  obtain ⟨before, hbefore, hpieces⟩ := hleft
  obtain ⟨after, hafter, hmore⟩ := hright
  refine ⟨before ++ after, ?_, fun rest => ?_⟩
  · rw [String.toList_append]
    exact lexFrom_append hafter hbefore
  · rw [List.append_assoc, hpieces, hmore, Option.map_map]
    simp [Function.comp_def]

theorem Writes.replicate {text : String} {piece : ContentsPiece} (h : Writes text [piece])
    (n : Nat) : Writes (String.join (List.replicate n text)) (List.replicate n piece) := by
  induction n with
  | zero => exact Writes.empty
  | succ n ih =>
      have hjoin : String.join (List.replicate (n + 1) text)
          = text ++ String.join (List.replicate n text) := by
        rw [List.replicate_succ, String.join_cons]
      rw [hjoin, List.replicate_succ]
      exact h.append ih

theorem writes_openList : Writes "<ul>" [.openList] :=
  ⟨[.opening "ul" []], by decide, fun _ => rfl⟩

theorem writes_closeList : Writes "</ul>" [.closeList] :=
  ⟨[.closing "ul"], by decide, fun _ => rfl⟩

/-! ## Items -/

/-- A character is read back from what is written for it. -/
theorem exists_lexeme (c : Char) :
    ∃ lexeme, lexFrom .text (escapeTextChar c) = some ([lexeme], .text) ∧
      lexemeText? lexeme = some (String.singleton c) := by
  rw [escapeTextChar, escapeChar]
  split_ifs with hquote hand hopen hclose
  · rw [hquote]
    exact ⟨.char '"', rfl, rfl⟩
  · rw [hand]
    exact ⟨.entity "amp", by decide, by decide +kernel⟩
  · rw [hopen]
    exact ⟨.entity "lt", by decide, by decide +kernel⟩
  · rw [hclose]
    exact ⟨.entity "gt", by decide, by decide +kernel⟩
  · refine ⟨.char c, ?_, rfl⟩
    have hstep : LexMode.text.step c = some ([.char c], .text) := by
      rw [LexMode.step, if_neg hopen, if_neg hand, if_neg hclose]
    exact lexFrom_cons hstep rfl

/-- A text is read back from what is written for it inside an item. -/
theorem readContents_escaped (chars : List Char) :
    ∃ lexemes, lexFrom .text (chars.flatMap escapeTextChar) = some (lexemes, .text) ∧
      ∀ text rest, readContents (some text) (lexemes ++ rest)
        = readContents (some (text ++ String.ofList chars)) rest := by
  induction chars with
  | nil =>
      refine ⟨[], rfl, fun text rest => ?_⟩
      rw [String.ofList_nil, String.append_empty]
      rfl
  | cons c chars ih =>
      obtain ⟨lexeme, hfirst, htext⟩ := exists_lexeme c
      obtain ⟨lexemes, hchars, hrest⟩ := ih
      refine ⟨lexeme :: lexemes, ?_, fun text rest => ?_⟩
      · rw [List.flatMap_cons]
        exact lexFrom_append hchars hfirst
      · have hread : readLexeme (some text) lexeme
            = some ([], some (text ++ String.singleton c)) := by
          rw [readLexeme, htext]
        have hword : text ++ String.singleton c ++ String.ofList chars
            = text ++ String.ofList (c :: chars) := by
          rw [String.append_assoc, String.ofList_cons]
        rw [List.cons_append, readContents, hread]
        simp only [Option.bind_some, List.nil_append, Option.map_id', hrest, hword]

/-- An item is read with the text that it was written for. -/
theorem writes_item (heading : String) :
    Writes ("<li>" ++ escapeText heading ++ "</li>") [.item heading] := by
  obtain ⟨lexemes, hlex, hread⟩ := readContents_escaped heading.toList
  have hopen : lexFrom .text "<li>".toList = some ([.opening "li" []], .text) := by decide
  have hclose : lexFrom .text "</li>".toList = some ([.closing "li"], .text) := by decide
  refine ⟨[.opening "li" []] ++ lexemes ++ [.closing "li"], ?_, fun rest => ?_⟩
  · rw [String.toList_append, String.toList_append]
    apply lexFrom_append hclose
    rw [escapeText]
    apply lexFrom_append _ hopen
    rwa [String.toList_ofList]
  · have hbegin : ∀ more, readContents none (.opening "li" [] :: more)
        = readContents (some "") more := by
      intro more
      change (readContents (some "") more).map ([] ++ ·) = _
      exact Option.map_id'
    have hend : ∀ text more, readContents (some text) (.closing "li" :: more)
        = (readContents none more).map ([.item text] ++ ·) := fun _ _ => rfl
    rw [List.append_assoc, List.append_assoc, List.singleton_append, hbegin, hread,
      List.singleton_append, hend, String.empty_append, String.ofList_toList]

/-! ## Lists -/

/-- The tags of lists between two depths. -/
def listPieces (current depth : Nat) : List ContentsPiece :=
  if current < depth then List.replicate (depth - current) .openList
  else List.replicate (current - depth) .closeList

theorem writes_listTags (current depth : Nat) :
    Writes (listTags current depth) (listPieces current depth) := by
  rw [listTags, listPieces]
  by_cases h : current < depth
  · have hnumber : ((depth : Int) - current).toNat = depth - current := by omega
    rw [if_pos h, if_pos (Int.ofNat_lt.mpr h), hnumber]
    exact writes_openList.replicate _
  · have hnumber : ((current : Int) - depth).toNat = current - depth := by omega
    rw [if_neg h, if_neg fun hless => h (Int.ofNat_lt.mp hless), hnumber]
    exact writes_closeList.replicate _

theorem readEntries_open (n depth : Nat) (rest : List ContentsPiece) :
    readEntries depth (List.replicate n .openList ++ rest) = readEntries (depth + n) rest := by
  induction n generalizing depth with
  | zero => rfl
  | succ n ih =>
      rw [List.replicate_succ, List.cons_append, readEntries, ih, Nat.add_assoc, Nat.add_comm 1]

theorem readEntries_close (n depth : Nat) (rest : List ContentsPiece) :
    readEntries (depth + n) (List.replicate n .closeList ++ rest) = readEntries depth rest := by
  induction n with
  | zero => rfl
  | succ n ih =>
      rw [List.replicate_succ, List.cons_append, ← Nat.add_assoc, readEntries, ih]

/-- The tags between two depths lead the reader from the one to the other. -/
theorem readEntries_listPieces (current depth : Nat) (rest : List ContentsPiece) :
    readEntries current (listPieces current depth ++ rest) = readEntries depth rest := by
  rw [listPieces]
  split
  · rename_i hless
    rw [readEntries_open, Nat.add_sub_cancel' (Nat.le_of_lt hless)]
  · rename_i hmore
    have hclose := readEntries_close (current - depth) depth rest
    rwa [Nat.add_sub_cancel' (Nat.le_of_not_lt hmore)] at hclose

theorem tagRuns_replicate {piece : ContentsPiece} (hpiece : piece = .openList ∨ piece = .closeList)
    (n run : Nat) (rest : List ContentsPiece) :
    tagRuns run (List.replicate n piece ++ rest) = tagRuns (run + n) rest := by
  have hstep : ∀ run more, tagRuns run (piece :: more) = tagRuns (run + 1) more := by
    rcases hpiece with rfl | rfl
    · exact fun _ _ => rfl
    · exact fun _ _ => rfl
  induction n generalizing run with
  | zero => rfl
  | succ n ih =>
      rw [List.replicate_succ, List.cons_append, hstep, ih, Nat.add_assoc, Nat.add_comm 1]

/-- There are as many tags between two depths as these are apart. -/
theorem tagRuns_listPieces (current depth : Nat) (rest : List ContentsPiece) :
    tagRuns 0 (listPieces current depth ++ rest) = tagRuns (distance current depth) rest := by
  rw [listPieces, distance]
  split
  · rw [tagRuns_replicate (.inl rfl)]
    congr 1
    omega
  · rw [tagRuns_replicate (.inr rfl)]
    congr 1
    omega

/-! ## Whole tables -/

/-- The pieces for entries, with `current` lists open. -/
def piecesFrom (current : Nat) : List (String × Nat) → List ContentsPiece
  | [] => listPieces current 0
  | (heading, depth) :: rest =>
      listPieces current depth ++ .item heading :: piecesFrom depth rest

theorem writes_contentsFrom (entries : List (String × Nat)) (current : Nat) :
    Writes (contentsFrom current (entries.map fun entry => (entry.1, (entry.2 : Int))))
      (piecesFrom current entries) := by
  induction entries generalizing current with
  | nil =>
      have hopen : max (current : Int) 0 = current := by omega
      rw [List.map_nil, contentsFrom, hopen]
      exact writes_listTags current 0
  | cons entry rest ih =>
      obtain ⟨heading, depth⟩ := entry
      have htags := writes_listTags current depth
      have hparts := (htags.append (writes_item heading)).append (ih depth)
      rw [piecesFrom, List.append_cons]
      rw [← String.append_assoc, ← String.append_assoc] at hparts
      exact hparts

/-- Every entry is read with its own depth, and no list is left open. -/
theorem readEntries_piecesFrom (entries : List (String × Nat)) (current : Nat) :
    readEntries current (piecesFrom current entries) = some entries := by
  induction entries generalizing current with
  | nil =>
      have hend := readEntries_listPieces current 0 []
      rwa [List.append_nil] at hend
  | cons entry rest ih =>
      obtain ⟨heading, depth⟩ := entry
      rw [piecesFrom, readEntries_listPieces, readEntries, ih, Option.map_some]

theorem tagRuns_piecesFrom (entries : List (String × Nat)) (current : Nat) :
    tagRuns 0 (piecesFrom current entries)
      = List.zipWith distance (current :: entries.map Prod.snd) (entries.map Prod.snd ++ [0]) := by
  induction entries generalizing current with
  | nil =>
      have hend := tagRuns_listPieces current 0 []
      rwa [List.append_nil] at hend
  | cons entry rest ih =>
      obtain ⟨heading, depth⟩ := entry
      rw [piecesFrom, tagRuns_listPieces, tagRuns, ih]
      rfl

/-- The table of contents of headings holds those that are not too deep, each at its own depth. So
headings that are passed over might as well not be there. -/
theorem tableOfContents_outlines {headings : List (String × Int)}
    (hdepths : ∀ heading ∈ headings, 0 ≤ heading.2) (maxDepth : Int) :
    Outlines ((headings.filter fun heading => heading.2 ≤ maxDepth).map
        fun heading => (heading.1, heading.2.toNat)) (tableOfContents headings maxDepth) ∧
      ∀ larger, maxDepth ≤ larger →
        tableOfContents (headings.filter fun heading => heading.2 ≤ maxDepth) larger
          = tableOfContents headings maxDepth := by
  constructor
  · have hcast : (((headings.filter fun heading => heading.2 ≤ maxDepth).map
        fun heading => (heading.1, heading.2.toNat)).map fun entry => (entry.1, (entry.2 : Int)))
          = headings.filter fun heading => heading.2 ≤ maxDepth := by
      rw [List.map_map]
      refine Eq.trans (List.map_congr_left fun heading hheading => ?_) (List.map_id _)
      have hdepth := Int.toNat_of_nonneg (hdepths heading (List.mem_filter.mp hheading).1)
      exact Prod.ext rfl hdepth
    generalize (headings.filter fun heading => heading.2 ≤ maxDepth).map
      (fun heading => (heading.1, heading.2.toNat)) = entries at hcast ⊢
    obtain ⟨lexemes, hlex, hread⟩ := writes_contentsFrom entries 0
    rw [hcast] at hlex
    refine ⟨lexemes, piecesFrom 0 entries, lex_of_lexFrom hlex, ?_, readEntries_piecesFrom _ 0,
      tagRuns_piecesFrom _ 0⟩
    have hall := hread []
    rwa [List.append_nil, readContents, Option.map_some, List.append_nil] at hall
  · intro larger hlarger
    rw [tableOfContents, tableOfContents, List.filter_filter]
    congr 1
    apply List.filter_congr
    intro heading _
    simp only [Bool.and_eq_right_iff_imp, decide_eq_true_eq]
    omega

/-- Headings that look like tags of lists, with leaps between their depths. -/
def leapingHeadings : List (String × Int) :=
  [("</ul>", 2), ("A & B", 0), ("too deep", 9), ("\"<li>\"", 3)]

theorem tableOfContents_outlines_leaping :
    (∀ heading ∈ leapingHeadings, 0 ≤ heading.2) ∧
      Outlines [("</ul>", 2), ("A & B", 0), ("\"<li>\"", 3)]
        ("<ul><ul><li>&lt;/ul&gt;</li></ul></ul><li>A &amp; B</li>" ++
          "<ul><ul><ul><li>\"&lt;li&gt;\"</li></ul></ul></ul>") := by
  have hdepths : ∀ heading ∈ leapingHeadings, 0 ≤ heading.2 := by decide
  exact ⟨hdepths, (tableOfContents_outlines hdepths 3).1⟩

end StaticSite.Template
