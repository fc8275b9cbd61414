import StaticSite.Proofs.Html.Payload

/-!
# The identifiers on a page

A page is scanned for the attributes of its tags. The scanner asks for little: a tag begins at a `<`
and ends at a `>`, and an attribute's value stands between quotes. It reads every text, so it can be
asked about pages whose headings have levels that no element has.

## What this module delivers

- `ScanMode`, `scanFrom`: the scanner as a machine that goes over a text character by character.
- `identifiersOf`: the values of the attributes named `id`, in the order of the page.
- `Scans`, `Scans.append`: a piece of a page, and two in a row.
- `scans_text`, `scans_value`, `scans_tagName`: payloads between tags, in values and in tag names.
-/

set_option autoImplicit false

namespace StaticSite.Html

/-! ## The scanner -/

/-- Where the scanner is: between tags, in a tag after some letters of a name, or in a value. -/
inductive ScanMode where
  | text
  | tag (name : List Char)
  | value (name read : List Char)
deriving DecidableEq, Repr

/-- Reads one character: the attribute that it completes, if any, and the mode after it. -/
def ScanMode.step : ScanMode → Char → List Attribute × ScanMode
  | .text, c => if c = '<' then ([], .tag []) else ([], .text)
  | .tag name, c =>
      if c = '>' then ([], .text)
      else if c = '"' then ([], .value name [])
      else if c = ' ' then ([], .tag [])
      else if c = '=' then ([], .tag name)
      else ([], .tag (name ++ [c]))
  | .value name read, c =>
      if c = '"' then ([⟨String.ofList name, String.ofList read⟩], .tag [])
      else ([], .value name (read ++ [c]))

/-- Reads a text: the attributes that it completes and the mode after it. -/
def scanFrom : ScanMode → List Char → List Attribute × ScanMode
  | mode, [] => ([], mode)
  | mode, c :: rest =>
      let (done, next) := mode.step c
      let (more, last) := scanFrom next rest
      (done ++ more, last)

/-- The identifiers among attributes. -/
def identifiersAmong (found : List Attribute) : List String :=
  found.filterMap fun entry => if entry.name = "id" then some entry.value else none

/-- The identifiers on a page, in order. -/
def identifiersOf (page : String) : List String :=
  identifiersAmong (scanFrom .text page.toList).1

theorem identifiersAmong_append (found more : List Attribute) :
    identifiersAmong (found ++ more) = identifiersAmong found ++ identifiersAmong more :=
  List.filterMap_append

/-- Reading two texts one after the other is reading them at once. -/
theorem scanFrom_append (left right : List Char) :
    ∀ mode, scanFrom mode (left ++ right)
      = ((scanFrom mode left).1 ++ (scanFrom (scanFrom mode left).2 right).1,
          (scanFrom (scanFrom mode left).2 right).2) := by
  induction left with
  | nil => exact fun _ => rfl
  | cons c rest ih =>
      -- the second text is read in the mode that the first one ends in
      intro mode
      rw [List.cons_append, scanFrom, scanFrom]
      simp only [ih, List.append_assoc]

/-! ## Pieces of a page -/

/-- A piece of a page is scanned from one mode to another and completes these identifiers. -/
def Scans (mode : ScanMode) (text : String) (mode' : ScanMode) (identifiers : List String) : Prop :=
  ∃ found, scanFrom mode text.toList = (found, mode') ∧ identifiersAmong found = identifiers

theorem Scans.empty (mode : ScanMode) : Scans mode "" mode [] :=
  ⟨[], rfl, rfl⟩

/-- Pieces that follow each other are scanned as one. -/
theorem Scans.append {mode middle last : ScanMode} {left right : String}
    {identifiers more : List String} (hleft : Scans mode left middle identifiers)
    (hright : Scans middle right last more) :
    Scans mode (left ++ right) last (identifiers ++ more) := by
  obtain ⟨before, hbefore, rfl⟩ := hleft
  obtain ⟨after, hafter, rfl⟩ := hright
  refine ⟨before ++ after, ?_, identifiersAmong_append before after⟩
  rw [String.toList_append, scanFrom_append, hbefore, hafter]

/-- The identifiers on a page are those that its scan completes. -/
theorem Scans.identifiersOf {page : String} {mode : ScanMode} {identifiers : List String}
    (h : Scans .text page mode identifiers) : identifiersOf page = identifiers := by
  obtain ⟨found, hscan, rfl⟩ := h
  rw [Html.identifiersOf, hscan]

/-! ## Payloads -/

/-- Between tags nothing but a `<` matters. -/
theorem scans_text {text : String} (h : isQuotable text.toList) : Scans .text text .text [] := by
  suffices hlist : ∀ chars : List Char, isQuotable chars → scanFrom .text chars = ([], .text) from
    ⟨[], hlist text.toList h, rfl⟩
  intro chars
  induction chars with
  | nil => exact fun _ => rfl
  | cons c rest ih =>
      intro hchars
      rw [isQuotable_iff] at hchars
      have hopen : c ≠ '<' := (hchars c List.mem_cons_self).1
      have hrest : isQuotable rest :=
        (isQuotable_iff rest).mpr fun d hd => hchars d (List.mem_cons_of_mem c hd)
      simp only [scanFrom, ScanMode.step, if_neg hopen, ih hrest, List.append_nil]

/-- In a value nothing but a quote matters. -/
theorem scanFrom_value {chars : List Char} (h : isQuotable chars) (name : List Char) :
    ∀ read, scanFrom (.value name read) chars = ([], .value name (read ++ chars)) := by
  induction chars with
  | nil => intro read; rw [List.append_nil]; rfl
  | cons c rest ih =>
      intro read
      rw [isQuotable_iff] at h
      -- a bracket would be read like a letter here, so only the quote is excluded
      have hquote : c ≠ '"' := (h c List.mem_cons_self).2.2
      have hrest : isQuotable rest :=
        (isQuotable_iff rest).mpr fun d hd => h d (List.mem_cons_of_mem c hd)
      simp only [scanFrom, ScanMode.step, if_neg hquote, ih hrest, List.append_assoc,
        List.cons_append, List.nil_append]

theorem scans_value {text : String} (h : isQuotable text.toList) (name : List Char) :
    ∀ read, Scans (.value name read) text (.value name (read ++ text.toList)) [] :=
  fun read => ⟨[], scanFrom_value h name read, rfl⟩

/-- In the name of a tag anything but a bracket, a quote, a blank or a `=` is a letter. -/
theorem scans_tagName {text : String}
    (h : ∀ c ∈ text.toList, c ≠ '>' ∧ c ≠ '"' ∧ c ≠ ' ' ∧ c ≠ '=') :
    ∀ name, Scans (.tag name) text (.tag (name ++ text.toList)) [] := by
  suffices hlist : ∀ chars : List Char, (∀ c ∈ chars, c ≠ '>' ∧ c ≠ '"' ∧ c ≠ ' ' ∧ c ≠ '=') →
      ∀ name, scanFrom (.tag name) chars = ([], .tag (name ++ chars)) from
    fun name => ⟨[], hlist text.toList h name, rfl⟩
  intro chars
  induction chars with
  | nil => intro _ name; rw [List.append_nil]; rfl
  | cons c rest ih =>
      intro hchars name
      obtain ⟨hclose, hquote, hblank, hequals⟩ := hchars c List.mem_cons_self
      have hrest := ih fun d hd => hchars d (List.mem_cons_of_mem c hd)
      simp only [scanFrom, ScanMode.step, if_neg hclose, if_neg hquote, if_neg hblank,
        if_neg hequals, hrest, List.append_assoc, List.cons_append, List.nil_append]

/-- A number may stand in the name of a tag. -/
theorem scans_tagName_int (i : Int) (name : List Char) :
    Scans (.tag name) (toString i) (.tag (name ++ (toString i).toList)) [] := by
  have hnat : ∀ n : Nat, ∀ c ∈ (toString n).toList, c ≠ '>' ∧ c ≠ '"' ∧ c ≠ ' ' ∧ c ≠ '=' := by
    intro n c hc
    rw [Nat.toString_eq_repr, Nat.toList_repr] at hc
    have hdigit := Nat.isDigit_of_mem_toDigits (by decide) (by decide) hc
    refine ⟨?_, ?_, ?_, ?_⟩ <;> rintro rfl <;> exact absurd hdigit (by decide)
  apply scans_tagName
  cases i with
  | ofNat n => exact hnat n
  | negSucc n =>
      intro c hc
      have hparts : toString (Int.negSucc n) = "-" ++ toString (n + 1) := rfl
      rw [hparts, String.toList_append, List.mem_append] at hc
      rcases hc with hsign | hdigits
      · rw [List.mem_singleton.mp hsign]
        decide
      · exact hnat (n + 1) c hdigits

end StaticSite.Html
