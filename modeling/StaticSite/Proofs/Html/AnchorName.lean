import Mathlib.Data.List.Chain
import StaticSite.Proofs.Html.AltText
import StaticSite.Proofs.Html.Landmark
import StaticSite.Proofs.Url.ByteNotation

/-!
# Names of headings

The name of a heading is its text with a separator for every run of characters that are no letters
or digits. A name is made from the front: what becomes of a character depends on the text before it
only in whether that ends with such a run. So the name of two texts in a row is the name of the
first and that of the second, with one exception: where a run goes on from the first text into the
second, both names have a separator for it, and that of the second is left out.

Names hold nothing that means something on a page or in an address. The writer relies on this, for
identifiers are all that it takes from a document and writes as it is.

## What this module delivers

- `separatedAfter`, `anchorChars_append`: the name of a text in parts.
- `endsOutsideWord`, `beginsOutsideWord`, `JoinsNames`, `joinsNames`: the name of two texts.
- `isChain_anchorChars`, `IsName`, `isName_anchorName`: no two separators stand side by side.
- `StandsUnescaped`, `standsUnescaped_of_isNameChar`: an identifier as it stands on a page.
- `anchorNames`: the main statement.
-/

set_option autoImplicit false

namespace StaticSite.Html

open StaticSite.Text StaticSite.Url StaticSite.File

/-! ## Texts in parts -/

/-- Whether a separator has just been written behind a text, given whether one was before it. -/
def separatedAfter (separated : Bool) (text : List Char) : Bool :=
  match text.getLast? with
  | some c => !isAlphanumeric c
  | none => separated

theorem separatedAfter_cons (separated : Bool) (c : Char) (rest : List Char) :
    separatedAfter separated (c :: rest) = separatedAfter (!isAlphanumeric c) rest := by
  cases rest with
  | nil => rfl
  | cons d more => rw [separatedAfter, separatedAfter, List.getLast?_cons_cons]; rfl

/-- A letter or digit is written in the same way behind a separator and elsewhere. -/
theorem anchorChars_of_isAlphanumeric {c : Char} (h : isAlphanumeric c) (separated : Bool)
    (rest : List Char) : anchorChars separated (c :: rest) = lower c ++ anchorChars false rest := by
  rw [anchorChars, if_pos h]

/-- Another character is written as a separator, or not at all behind one. -/
theorem anchorChars_of_not_isAlphanumeric {c : Char} (h : isAlphanumeric c = false)
    (separated : Bool) (rest : List Char) :
    anchorChars separated (c :: rest)
      = (if separated then [] else ['_']) ++ anchorChars true rest := by
  rw [anchorChars, if_neg (by simp [h])]
  cases separated <;> rfl

/-- A text is written on from where the part before it ends. -/
theorem anchorChars_append (text more : List Char) : ∀ separated,
    anchorChars separated (text ++ more)
      = anchorChars separated text ++ anchorChars (separatedAfter separated text) more := by
  induction text with
  | nil => exact fun _ => rfl
  | cons c rest ih =>
      intro separated
      rw [List.cons_append, separatedAfter_cons]
      cases hletter : isAlphanumeric c with
      | true =>
          rw [anchorChars_of_isAlphanumeric hletter, anchorChars_of_isAlphanumeric hletter, ih,
            List.append_assoc]
          rfl
      | false =>
          rw [anchorChars_of_not_isAlphanumeric hletter, anchorChars_of_not_isAlphanumeric hletter,
            ih, List.append_assoc]
          rfl

/-! ## Separators -/

theorem separator_notMem_lower {c : Char} (h : isAlphanumeric c) : '_' ∉ lower c := by
  intro hin
  rcases isAlphanumeric_or_of_mem_lower h hin with hletter | hdot
  · exact absurd hletter (by decide)
  · exact absurd hdot (by decide)

/-- What a letter or digit becomes does not begin with a separator. -/
theorem head?_lower_append {c : Char} (h : isAlphanumeric c) (rest : List Char) :
    (lower c ++ rest).head? ≠ some '_' := by
  rw [List.head?_append_of_ne_nil _ (lower_ne_nil c)]
  intro hhead
  exact separator_notMem_lower h (List.mem_of_head? hhead)

/-- Behind a separator comes none. -/
theorem head?_anchorChars_true (text : List Char) : (anchorChars true text).head? ≠ some '_' := by
  induction text with
  | nil => exact nofun
  | cons c rest ih =>
      cases hletter : isAlphanumeric c with
      | true =>
          rw [anchorChars_of_isAlphanumeric hletter]
          exact head?_lower_append hletter _
      | false =>
          rw [anchorChars_of_not_isAlphanumeric hletter]
          exact ih

/-- Two characters that are not both separators. -/
def NotBothSeparators (c d : Char) : Prop :=
  ¬ (c = '_' ∧ d = '_')

theorem isChain_lower {c : Char} (h : isAlphanumeric c) : (lower c).IsChain NotBothSeparators := by
  apply List.Pairwise.isChain
  rw [List.pairwise_iff_forall_sublist]
  intro d e hsublist hboth
  have hin : d ∈ lower c := hsublist.subset List.mem_cons_self
  rw [hboth.1] at hin
  exact separator_notMem_lower h hin

theorem isChain_anchorChars (text : List Char) : ∀ separated,
    (anchorChars separated text).IsChain NotBothSeparators := by
  induction text with
  | nil => exact fun _ => List.isChain_nil
  | cons c rest ih =>
      intro separated
      cases hletter : isAlphanumeric c with
      | true =>
          rw [anchorChars_of_isAlphanumeric hletter, List.isChain_append]
          refine ⟨isChain_lower hletter, ih false, fun d hd e _ hboth => ?_⟩
          have hin : d ∈ lower c := List.mem_of_getLast? hd
          rw [hboth.1] at hin
          exact separator_notMem_lower hletter hin
      | false =>
          rw [anchorChars_of_not_isAlphanumeric hletter]
          cases separated with
          | true => exact ih true
          | false =>
              refine List.isChain_cons.mpr ⟨fun d hd hboth => ?_, ih true⟩
              rw [hboth.2] at hd
              exact head?_anchorChars_true rest hd

/-! ## The name of two texts -/

/-- Whether a text ends with a character that is no letter or digit. -/
def endsOutsideWord (text : String) : Bool :=
  text.toList.getLast?.any fun c => !isAlphanumeric c

/-- Whether a text begins with a character that is no letter or digit. -/
def beginsOutsideWord (text : String) : Bool :=
  text.toList.head?.any fun c => !isAlphanumeric c

theorem separatedAfter_false (text : String) :
    separatedAfter false text.toList = endsOutsideWord text := by
  rw [separatedAfter, endsOutsideWord]
  cases text.toList.getLast? <;> rfl

theorem toList_anchorName (text : String) :
    (anchorName text).toList = anchorChars false text.toList :=
  String.toList_ofList

theorem toList_anchorName_append (text more : String) :
    (anchorName (text ++ more)).toList
      = (anchorName text).toList ++ anchorChars (endsOutsideWord text) more.toList := by
  rw [toList_anchorName, toList_anchorName, String.toList_append, anchorChars_append,
    separatedAfter_false]

/-- A name begins with a separator if its text begins outside of words. -/
theorem head?_anchorName (text : String) :
    (anchorName text).toList.head? = some '_' ↔ beginsOutsideWord text := by
  rw [toList_anchorName, beginsOutsideWord]
  cases text.toList with
  | nil => exact ⟨nofun, nofun⟩
  | cons c rest =>
      cases hletter : isAlphanumeric c with
      | true =>
          have hhead := head?_lower_append hletter (anchorChars false rest)
          rw [anchorChars_of_isAlphanumeric hletter]
          exact ⟨fun h => absurd h hhead, fun h => absurd h (by simp [hletter])⟩
      | false =>
          rw [anchorChars_of_not_isAlphanumeric hletter]
          simp [hletter]

/-- Behind a separator a text is written without the separator that its name begins with. -/
theorem anchorChars_true (text : String) :
    anchorChars true text.toList = if beginsOutsideWord text then (anchorName text).toList.tail
      else (anchorName text).toList := by
  rw [toList_anchorName, beginsOutsideWord]
  cases text.toList with
  | nil => rfl
  | cons c rest =>
      cases hletter : isAlphanumeric c with
      | true =>
          rw [anchorChars_of_isAlphanumeric hletter, anchorChars_of_isAlphanumeric hletter]
          simp [hletter]
      | false =>
          rw [anchorChars_of_not_isAlphanumeric hletter, anchorChars_of_not_isAlphanumeric hletter]
          simp [hletter]

/-- How the name of two texts in a row is made of their names. -/
structure JoinsNames (text more : String) : Prop where
  /-- The first character of the second name is left out if both texts have a character at the seam
  that is no letter or digit. -/
  joined : (anchorName (text ++ more)).toList = (anchorName text).toList ++
    (if endsOutsideWord text && beginsOutsideWord more then (anchorName more).toList.tail
      else (anchorName more).toList)
  /-- This character is a separator then. -/
  separator : (anchorName more).toList.head? = some '_' ↔ beginsOutsideWord more
  /-- The two names are put together as they are exactly in all other cases. -/
  whole : anchorName (text ++ more) = anchorName text ++ anchorName more ↔
    ¬ (endsOutsideWord text ∧ beginsOutsideWord more)

theorem joinsNames (text more : String) : JoinsNames text more := by
  have hseparator := head?_anchorName more
  have hjoined : (anchorName (text ++ more)).toList = (anchorName text).toList ++
      (if endsOutsideWord text && beginsOutsideWord more then (anchorName more).toList.tail
        else (anchorName more).toList) := by
    rw [toList_anchorName_append]
    cases endsOutsideWord text with
    | true => rw [anchorChars_true, Bool.true_and]
    | false => rw [Bool.false_and, if_neg Bool.false_ne_true, toList_anchorName more]
  refine ⟨hjoined, hseparator, ?_⟩
  rw [← String.toList_inj, hjoined, String.toList_append, List.append_cancel_left_eq,
    ← Bool.and_eq_true]
  cases hseam : endsOutsideWord text && beginsOutsideWord more with
  | true =>
      -- a name that begins with a separator is not what is behind it
      rw [Bool.and_eq_true, ← hseparator] at hseam
      obtain ⟨rest, hrest⟩ := List.head?_eq_some_iff.mp hseam.2
      rw [if_pos rfl, hrest, List.tail_cons]
      exact ⟨fun hsame => absurd hsame (by simp), fun hnot => absurd rfl hnot⟩
  | false => exact ⟨fun _ => Bool.false_ne_true, fun _ => rfl⟩

/-! ## Names -/

/-- What holds of every name. -/
structure IsName (name : String) : Prop where
  /-- No two separators stand side by side. -/
  apart : ¬ ['_', '_'] <:+: name.toList
  /-- A name is made of characters of identifiers, in lower case. -/
  alphabet : ∀ c ∈ name.toList, isNameChar c ∧ lower c = [c]

/-- A name is in lower case. -/
theorem lower_of_mem_anchorName {text : String} {c : Char} (h : c ∈ (anchorName text).toList) :
    lower c = [c] := by
  rw [toList_anchorName] at h
  rcases mem_anchorChars h with rfl | ⟨d, -, hd⟩
  · decide
  · exact lower_of_mem_lower hd

theorem isName_anchorName (text : String) : IsName (anchorName text) := by
  refine ⟨fun hinside => ?_, fun c hc => ⟨isNameChar_of_mem_anchorName hc,
    lower_of_mem_anchorName hc⟩⟩
  obtain ⟨front, behind, hparts⟩ := hinside
  have hchain := isChain_anchorChars text.toList false
  rw [← toList_anchorName, ← hparts] at hchain
  have hpair := hchain.left_of_append.right_of_append
  exact (List.isChain_cons_cons.mp hpair).1 ⟨rfl, rfl⟩

/-! ## Identifiers on a page -/

/-- How an identifier stands on a page, where it is written as it is. -/
structure StandsUnescaped (identifier : String) : Prop where
  /-- It holds no sign that means something on a page or in an address, and no blank. -/
  signs : ∀ c ∈ identifier.toList,
    c ∉ ['<', '>', '&', '"', '\'', '.', '#', '%'] ∧ isBlank c = false
  /-- There is nothing in it to be escaped. -/
  escaped : escape identifier = identifier
  /-- What completes an open identifier is read as the attribute that was open, those of the link,
  and text. -/
  attributes : scanFrom (.value "id".toList []) (Writer.identifierText identifier).toList
    = ([⟨"id", identifier⟩, ⟨"class", "anchor"⟩, ⟨"href", "#" ++ identifier⟩], .text)
  /-- A reader who resolves references gets the identifier, whatever follows the closing quote. -/
  value : ∀ behind, attributeValue (identifier.toList ++ '"' :: behind) = identifier.toList
  /-- A reader of the link who resolves the percent notation as well gets its bytes. -/
  address : ∀ behind, percentDecode
      (encode (.ofList (attributeValue (("#" ++ identifier).toList ++ '"' :: behind))))
    = encode ("#" ++ identifier)
  /-- No footnote has it, neither as footnotes are written nor as they are read. -/
  footnote : ∀ label, identifier ∉ ["r." ++ label, "f." ++ label, referenceIdentifier label,
    definitionIdentifier label]

section

variable {identifier : String}

theorem not_isBlank_of_isNameChar {c : Char} (h : isNameChar c) : isBlank c = false := by
  rcases (isNameChar_iff c).mp h with hletter | rfl | rfl
  · exact not_isBlank_of_isAlphanumeric hletter
  · decide
  · decide

/-- An identifier is the value of the attribute that was open and, behind a `#`, that of the link.
-/
theorem scanFrom_identifierText (h : isQuotable identifier.toList) :
    scanFrom (.value "id".toList []) (Writer.identifierText identifier).toList
      = ([⟨"id", identifier⟩, ⟨"class", "anchor"⟩, ⟨"href", "#" ++ identifier⟩], .text) := by
  have hmiddle : ∀ read, scanFrom (.value "id".toList read)
      "\"><a class=\"anchor\" href=\"#".toList
        = ([⟨"id", String.ofList read⟩, ⟨"class", "anchor"⟩], .value "href".toList ['#']) :=
    fun _ => rfl
  have hend : ∀ read, scanFrom (.value "href".toList read) "\">¶</a>".toList
      = ([⟨"href", String.ofList read⟩], .text) := fun _ => rfl
  have hparts : (Writer.identifierText identifier).toList
      = identifier.toList ++ ("\"><a class=\"anchor\" href=\"#".toList ++
          (identifier.toList ++ "\">¶</a>".toList)) := by
    simp [Writer.identifierText, String.toList_append]
  have hid : String.ofList ([] ++ identifier.toList) = identifier := String.ofList_toList
  have htarget : String.ofList (['#'] ++ identifier.toList) = "#" ++ identifier := by
    rw [String.ofList_append, String.ofList_toList]
  rw [hparts, scanFrom_append, scanFrom_value h, scanFrom_append, hmiddle, scanFrom_append,
    scanFrom_value h, hend, hid, htarget]
  rfl

theorem standsUnescaped_of_isNameChar (h : ∀ c ∈ identifier.toList, isNameChar c) :
    StandsUnescaped identifier := by
  have hplain := plain_of_isNameChar h
  have hescaped := escape_of_plain hplain
  have hlink : ("#" ++ identifier).toList = '#' :: identifier.toList := by
    rw [String.toList_append]
    rfl
  have htarget : escape ("#" ++ identifier) = "#" ++ identifier := by
    rw [escape_append, hescaped]
    rfl
  refine ⟨fun c hc => ⟨fun hsign => ?_, not_isBlank_of_isNameChar (h c hc)⟩, hescaped,
    scanFrom_identifierText (quotable_of_plain hplain), fun behind => ?_, fun behind => ?_,
    fun label hlabel => ?_⟩
  · have hnone : ['<', '>', '&', '"', '\'', '.', '#', '%'].all fun d => !isNameChar d := by
      decide
    have hd := List.all_eq_true.mp hnone c hsign
    rw [Bool.not_eq_true'] at hd
    exact sign_notMem_of_isNameChar h hd hc
  · have hread := attributeValue_escape identifier behind
    rwa [hescaped] at hread
  · have hread := attributeValue_escape ("#" ++ identifier) behind
    rw [htarget] at hread
    rw [hread, String.ofList_toList]
    apply percentDecode_of_notMem
    rw [hlink, List.mem_cons, not_or]
    exact ⟨by decide, sign_notMem_of_isNameChar h (by decide)⟩
  · -- a dot is the second character of every identifier of a footnote
    have hdot : '.' ∉ identifier.toList := sign_notMem_of_isNameChar h (by decide)
    apply hdot
    simp only [List.mem_cons, List.not_mem_nil, or_false, referenceIdentifier,
      definitionIdentifier] at hlabel
    rcases hlabel with rfl | rfl | rfl | rfl <;> simp

end

/-! ## The main statement -/

/-- The page grows by an identifier and the link to it when a heading's text is known. -/
theorem page_settleHeading (w : Writer) (text : String) :
    (w.settleHeading text).page = w.page ++ Writer.identifierText (w.anchors.allocate text).1 ++
      String.join (w.held.getD []) := by
  obtain ⟨written, hsettled, hjoin⟩ := Writer.settleHeading_spec w text
  rw [hsettled]
  exact hjoin

/-- Names are made of texts in parts, and separators in them stand apart. With a number behind it or
without, a name may be written to a page as it is, and it is the identifier of no footnote. So the
writer, which writes the identifier that is issued to a heading twice and escapes it neither time,
writes what is read as that identifier. -/
theorem anchorNames :
    (∀ text more, JoinsNames text more) ∧ (∀ text, IsName (anchorName text)) ∧
      (∀ text k, StandsUnescaped (Anchors.candidate (anchorName text) k)) ∧
      ∀ (w : Writer) (text : String),
        (w.settleHeading text).page = w.page ++
          Writer.identifierText (w.anchors.allocate text).1 ++ String.join (w.held.getD []) ∧
        StandsUnescaped (w.anchors.allocate text).1 :=
  ⟨joinsNames, isName_anchorName,
    fun _ _ => standsUnescaped_of_isNameChar fun _ => isNameChar_of_mem_candidate,
    fun w text => ⟨page_settleHeading w text,
      standsUnescaped_of_isNameChar fun _ => isNameChar_of_mem_allocate⟩⟩

/-- A run of signs goes on over the seam, and the dot of a capital I stands beside the letter. -/
example : anchorName "1. İ(" = "1_i\u0307_" ∧ anchorName ") & x" = "_x" ∧
    anchorName ("1. İ(" ++ ") & x") = "1_i\u0307_x" := by
  decide +kernel

end StaticSite.Html
