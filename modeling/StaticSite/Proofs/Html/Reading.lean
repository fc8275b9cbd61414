import StaticSite.Proofs.Html.Payload

/-!
# Reading what the writer writes

The writer has a fixed stock of tags. `Reads` says that a piece of a page, read from the middle of
whatever lexeme is under way, completes only lexemes from that stock, and which tags they are. The
pieces of a page are read one after the other, so it is enough to know this of every piece.

## What this module delivers

- `openingTags`, `voidTags`, `Lexeme.isWritten`: the stock of the writer.
- `Reads`, `Reads.append`: a piece of a page, and two in a row.
- `reads_escape`, `reads_plain`, `reads_quotable`: the payloads, between tags and in attributes.
-/

set_option autoImplicit false

namespace StaticSite.Html

/-! ## The stock of the writer -/

/-- The letters of the name of a heading's element; levels count from 0 here. -/
def headingLetters (level : Fin 6) : List Char :=
  ['h', Char.ofNat (0x31 + level.val)]

/-- The name of a heading's element. -/
def headingName (level : Fin 6) : String :=
  String.ofList (headingLetters level)

/-- The tags that open an element, by name and names of attributes. -/
def openingTags : List (String × List String) :=
  [("p", []), ("p", ["class", "id"]), ("blockquote", []), ("pre", []), ("code", []),
   ("code", ["class"]), ("ul", []), ("ol", []), ("ol", ["start"]), ("li", []), ("table", []),
   ("thead", []), ("tbody", []), ("tr", []), ("th", []), ("th", ["align"]), ("td", []),
   ("td", ["align"]), ("em", []), ("strong", []), ("del", []), ("sup", []),
   ("sup", ["class", "id"]), ("a", ["class", "href"]), ("a", ["href"]), ("a", ["href", "title"]),
   ("h1", ["id"]), ("h2", ["id"]), ("h3", ["id"]), ("h4", ["id"]), ("h5", ["id"]), ("h6", ["id"]),
   ("h1", ["class", "id"]), ("h2", ["class", "id"]), ("h3", ["class", "id"]),
   ("h4", ["class", "id"]), ("h5", ["class", "id"]), ("h6", ["class", "id"])]

/-- The tags of elements that enclose nothing, by name and names of attributes. -/
def voidTags : List (String × List String) :=
  [("br", []), ("hr", []), ("img", ["src", "alt"]), ("img", ["src", "alt", "title"]),
   ("input", ["disabled", "type"]), ("input", ["disabled", "type", "checked"])]

/-- The character references that escapes write between tags. -/
def references : List String :=
  ["amp", "lt", "gt", "quot"]

/-- Whether a lexeme is of the writer's stock. -/
def Lexeme.isWritten : Lexeme → Bool
  | char _ => true
  | entity name => references.contains name
  | opening name attributes => openingTags.contains (name, attributes.map Attribute.name)
  | closing name => openingTags.any fun tag => tag.1 == name
  | void name attributes _ => voidTags.contains (name, attributes.map Attribute.name)

/-! ## Pieces of a page -/

/-- A piece of a page is read from one mode to another, and completes lexemes of the writer's stock
with the given tags among them. -/
def Reads (mode : LexMode) (text : String) (mode' : LexMode) (tags : List Mark) : Prop :=
  ∃ lexemes, lexFrom mode text.toList = some (lexemes, mode') ∧
    lexemes.all Lexeme.isWritten ∧ marks lexemes = tags

theorem Reads.empty (mode : LexMode) : Reads mode "" mode [] :=
  ⟨[], rfl, rfl, rfl⟩

/-- Pieces that follow each other are read as one. -/
theorem Reads.append {mode middle last : LexMode} {left right : String} {tags more : List Mark}
    (hleft : Reads mode left middle tags) (hright : Reads middle right last more) :
    Reads mode (left ++ right) last (tags ++ more) := by
  obtain ⟨before, hbefore, hwritten, rfl⟩ := hleft
  obtain ⟨after, hafter, hwritten', rfl⟩ := hright
  refine ⟨before ++ after, ?_, ?_, ?_⟩
  · rw [String.toList_append]
    exact lexFrom_append hafter hbefore
  · rw [List.all_append, hwritten, hwritten']
    rfl
  · exact List.filterMap_append

/-- A page that is read to its end has the lexemes that its pieces complete. -/
theorem Reads.lex {page : String} {tags : List Mark} (h : Reads .text page .text tags) :
    ∃ lexemes, lex page.toList = some lexemes ∧
      (∀ lexeme ∈ lexemes, lexeme.isWritten) ∧ marks lexemes = tags := by
  obtain ⟨lexemes, hlex, hwritten, htags⟩ := h
  exact ⟨lexemes, lex_of_lexFrom hlex, List.all_eq_true.mp hwritten, htags⟩

/-! ## Payloads -/

/-- Inside an attribute value whatever may stand there only makes the value longer. -/
theorem reads_quotable {text : String} (h : isQuotable text.toList) (tag : HalfTag)
    (name : String) :
    ∀ read, Reads (.value tag name read) text (.value tag name (read ++ text.toList)) [] := by
  suffices hlist : ∀ (chars read : List Char), isQuotable chars →
      lexFrom (.value tag name read) chars = some ([], .value tag name (read ++ chars)) from
    fun read => ⟨[], hlist text.toList read h, rfl, rfl⟩
  intro chars
  induction chars with
  | nil => intro read _; rw [List.append_nil]; rfl
  | cons c rest ih =>
      intro read hchars
      rw [isQuotable_iff] at hchars
      obtain ⟨hopen, hclose, hquote⟩ := hchars c List.mem_cons_self
      have hrest : isQuotable rest :=
        (isQuotable_iff rest).mpr fun d hd => hchars d (List.mem_cons_of_mem c hd)
      have hstep : (LexMode.value tag name read).step c
          = some ([], .value tag name (read ++ [c])) := by
        simp [LexMode.step, hopen, hclose, hquote]
      have hnext := ih (read ++ [c]) hrest
      rw [List.append_assoc] at hnext
      exact lexFrom_cons hstep hnext

/-- A text made of characters that mean nothing on a page is read as these characters. -/
theorem reads_plain {text : String} (h : isPlain text.toList) : Reads .text text .text [] := by
  suffices hlist : ∀ chars : List Char, isPlain chars →
      lexFrom .text chars = some (chars.map .char, .text) by
    refine ⟨text.toList.map .char, hlist text.toList h, ?_, ?_⟩
    · simp [Lexeme.isWritten]
    · simp [marks, Lexeme.mark?]
  intro chars
  induction chars with
  | nil => exact fun _ => rfl
  | cons c rest ih =>
      intro hchars
      rw [isPlain_iff] at hchars
      obtain ⟨hopen, hclose, hand, -⟩ := hchars c List.mem_cons_self
      have hrest : isPlain rest :=
        (isPlain_iff rest).mpr fun d hd => hchars d (List.mem_cons_of_mem c hd)
      have hstep : LexMode.text.step c = some ([.char c], .text) := by
        simp [LexMode.step, hopen, hclose, hand]
      exact lexFrom_cons hstep (ih hrest)

/-- An escaped character is read as a character or as a reference. -/
theorem reads_escapeChar (c : Char) : Reads .text (String.ofList (escapeChar c)) .text [] := by
  unfold escapeChar
  split_ifs with hand hopen hclose hquote
  · exact ⟨_, rfl, rfl, rfl⟩
  · exact ⟨_, rfl, rfl, rfl⟩
  · exact ⟨_, rfl, rfl, rfl⟩
  · exact ⟨_, rfl, rfl, rfl⟩
  · apply reads_plain
    simp [isPlain, hand, hopen, hclose, hquote]

/-- Escaped text is read as text, whatever it says. -/
theorem reads_escape (text : String) : Reads .text (escape text) .text [] := by
  rw [escape]
  induction text.toList with
  | nil => exact Reads.empty .text
  | cons c rest ih =>
      rw [List.flatMap_cons, String.ofList_append]
      exact (reads_escapeChar c).append ih

end StaticSite.Html
