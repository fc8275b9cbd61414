import Mathlib.Tactic.SplitIfs

/-!
# Lexemes of a page

A page is read again, one character at a time: between tags there are characters and character
references, and a tag is a name with attributes whose values stand between quotes. The reader is
strict. It stops at a `<` that begins no tag, at a `>` outside a tag, at a `&` that begins no
reference, and at a `<` or `>` inside an attribute value.

## What this module delivers

- `LexMode`, `LexMode.step`, `lexFrom`: the reader as a machine, whose mode is the lexeme under way.
- `lex`: the lexemes of a whole text, if the text is read to its end and no lexeme is under way then.
- `lexFrom_append`: a text may be read in two parts.
- `spell_of_lex`: the lexemes of a text, spelled one after the other, are the text.
- `clean_of_lex`: what lies between tags holds no `<`, `>` or `&` of its own, and no attribute value
  holds a `<`, a `>` or a quote.
- `Mark`, `marks`, `openElements`: the tags of a page, and the elements that are open after them.
-/

set_option autoImplicit false

namespace StaticSite.Html

/-! ## Lexemes -/

/-- An attribute of a tag. -/
structure Attribute where
  name : String
  value : String
deriving DecidableEq, Repr

/-- A piece of a page. A void tag is spelled with or without a blank before its slash. -/
inductive Lexeme where
  | char (c : Char)
  | entity (name : String)
  | opening (name : String) (attributes : List Attribute)
  | closing (name : String)
  | void (name : String) (attributes : List Attribute) (spaced : Bool)
deriving DecidableEq, Repr

/-- An attribute as it stands in a tag. -/
def Attribute.spell (entry : Attribute) : List Char :=
  ' ' :: entry.name.toList ++ '=' :: '"' :: entry.value.toList ++ ['"']

/-- A lexeme as it stands on a page. -/
def Lexeme.spell : Lexeme → List Char
  | char c => [c]
  | entity name => '&' :: name.toList ++ [';']
  | opening name attributes => '<' :: name.toList ++ attributes.flatMap Attribute.spell ++ ['>']
  | closing name => '<' :: '/' :: name.toList ++ ['>']
  | void name attributes spaced =>
      '<' :: name.toList ++ attributes.flatMap Attribute.spell ++
        (if spaced then [' ', '/', '>'] else ['/', '>'])

/-! ## The reader -/

/-- A tag under way: its name and the attributes read so far. -/
structure HalfTag where
  name : String
  attributes : List Attribute
deriving DecidableEq, Repr

/-- The lexeme under way. -/
inductive LexMode where
  | text
  | entity (name : List Char)
  /-- After the bracket of a tag. -/
  | bracket
  | closing (name : List Char)
  | opening (name : List Char)
  /-- After a blank in a tag. -/
  | blank (tag : HalfTag)
  | entry (tag : HalfTag) (name : List Char)
  /-- After the `=` of an attribute. -/
  | equals (tag : HalfTag) (name : String)
  | value (tag : HalfTag) (name : String) (read : List Char)
  /-- After the closing quote of an attribute. -/
  | quoted (tag : HalfTag)
  /-- After the slash of a void tag. -/
  | slash (tag : HalfTag) (spaced : Bool)
deriving DecidableEq, Repr

/-- Reads one character: the lexemes that it completes and the mode after it. -/
def LexMode.step : LexMode → Char → Option (List Lexeme × LexMode)
  | .text, c =>
      if c = '<' then some ([], .bracket)
      else if c = '&' then some ([], .entity [])
      else if c = '>' then none
      else some ([.char c], .text)
  | .entity name, c =>
      if c = ';' then some ([.entity (String.ofList name)], .text)
      else if c.isAlphanum || c == '#' then some ([], .entity (name ++ [c]))
      else none
  | .bracket, c =>
      if c = '/' then some ([], .closing [])
      else if c.isAlphanum then some ([], .opening [c])
      else none
  | .closing name, c =>
      if c = '>' then some ([.closing (String.ofList name)], .text)
      else if c.isAlphanum then some ([], .closing (name ++ [c]))
      else none
  | .opening name, c =>
      if c = '>' then some ([.opening (String.ofList name) []], .text)
      else if c = ' ' then some ([], .blank ⟨String.ofList name, []⟩)
      else if c.isAlphanum then some ([], .opening (name ++ [c]))
      else none
  | .blank tag, c =>
      if c = '/' then some ([], .slash tag true)
      else if c.isAlphanum then some ([], .entry tag [c])
      else none
  | .entry tag name, c =>
      if c = '=' then some ([], .equals tag (String.ofList name))
      else if c.isAlphanum then some ([], .entry tag (name ++ [c]))
      else none
  | .equals tag name, c => if c = '"' then some ([], .value tag name []) else none
  | .value tag name read, c =>
      if c = '"' then
        some ([], .quoted ⟨tag.name, tag.attributes ++ [⟨name, String.ofList read⟩]⟩)
      else if c = '<' ∨ c = '>' then none
      else some ([], .value tag name (read ++ [c]))
  | .quoted tag, c =>
      if c = ' ' then some ([], .blank tag)
      else if c = '/' then some ([], .slash tag false)
      else if c = '>' then some ([.opening tag.name tag.attributes], .text)
      else none
  | .slash tag spaced, c =>
      if c = '>' then some ([.void tag.name tag.attributes spaced], .text) else none

/-- Reads a text: the lexemes that it completes and the mode after it. -/
def lexFrom : LexMode → List Char → Option (List Lexeme × LexMode)
  | mode, [] => some ([], mode)
  | mode, c :: rest =>
      match mode.step c with
      | none => none
      | some (done, mode') => (lexFrom mode' rest).map fun (more, last) => (done ++ more, last)

/-- The lexemes of a text that is read to its end, with no lexeme under way then. -/
def lex (text : List Char) : Option (List Lexeme) :=
  match lexFrom .text text with
  | some (lexemes, .text) => some lexemes
  | _ => none

theorem lexFrom_cons {mode mode' last : LexMode} {c : Char} {rest : List Char}
    {done more : List Lexeme} (hstep : mode.step c = some (done, mode'))
    (hrest : lexFrom mode' rest = some (more, last)) :
    lexFrom mode (c :: rest) = some (done ++ more, last) := by
  rw [lexFrom, hstep]
  simp only [hrest, Option.map_some]

/-- A text that is read is its first character, read, and the rest, read. -/
theorem lexFrom_cons_inv {mode last : LexMode} {c : Char} {rest : List Char}
    {lexemes : List Lexeme} (h : lexFrom mode (c :: rest) = some (lexemes, last)) :
    ∃ done mode' more, mode.step c = some (done, mode') ∧
      lexFrom mode' rest = some (more, last) ∧ lexemes = done ++ more := by
  rw [lexFrom] at h
  cases hstep : mode.step c with
  | none => simp [hstep] at h
  | some found =>
      obtain ⟨done, mode'⟩ := found
      simp only [hstep, Option.map_eq_some_iff, Prod.exists, Prod.mk.injEq] at h
      obtain ⟨more, last', hrest, rfl, rfl⟩ := h
      exact ⟨done, mode', more, rfl, hrest, rfl⟩

/-- Reading two texts one after the other is reading them at once. -/
theorem lexFrom_append {middle last : LexMode} {more : List Lexeme} {right : List Char}
    (hright : lexFrom middle right = some (more, last)) :
    ∀ {left : List Char} {mode : LexMode} {done : List Lexeme},
      lexFrom mode left = some (done, middle) →
        lexFrom mode (left ++ right) = some (done ++ more, last) := by
  intro left
  induction left with
  | nil =>
      intro mode done hleft
      simp only [lexFrom, Option.some.injEq, Prod.mk.injEq] at hleft
      obtain ⟨rfl, rfl⟩ := hleft
      exact hright
  | cons c rest ih =>
      intro mode done hleft
      obtain ⟨first, mode', others, hstep, hrest, rfl⟩ := lexFrom_cons_inv hleft
      rw [List.append_assoc]
      exact lexFrom_cons hstep (ih hrest)

theorem lex_of_lexFrom {text : List Char} {lexemes : List Lexeme}
    (h : lexFrom .text text = some (lexemes, .text)) : lex text = some lexemes := by
  rw [lex, h]

theorem lexFrom_of_lex {text : List Char} {lexemes : List Lexeme} (h : lex text = some lexemes) :
    lexFrom .text text = some (lexemes, .text) := by
  rw [lex] at h
  split at h
  · rename_i found hfound
    rw [hfound, Option.some.inj h]
  · exact absurd h (by simp)

/-! ## Nothing is lost -/

/-- A tag under way as it stands on a page. -/
def HalfTag.spell (tag : HalfTag) : List Char :=
  '<' :: tag.name.toList ++ tag.attributes.flatMap Attribute.spell

/-- What was read of the lexeme under way. -/
def LexMode.spell : LexMode → List Char
  | .text => []
  | .entity name => '&' :: name
  | .bracket => ['<']
  | .closing name => '<' :: '/' :: name
  | .opening name => '<' :: name
  | .blank tag => tag.spell ++ [' ']
  | .entry tag name => tag.spell ++ ' ' :: name
  | .equals tag name => tag.spell ++ ' ' :: name.toList ++ ['=']
  | .value tag name read => tag.spell ++ ' ' :: name.toList ++ '=' :: '"' :: read
  | .quoted tag => tag.spell
  | .slash tag spaced => tag.spell ++ if spaced then [' ', '/'] else ['/']

/-- A character that is read stands in a completed lexeme or in the one under way. -/
theorem spell_step {mode mode' : LexMode} {c : Char} {done : List Lexeme}
    (h : mode.step c = some (done, mode')) :
    mode.spell ++ [c] = done.flatMap Lexeme.spell ++ mode'.spell := by
  -- in every mode the character either completes the lexeme under way or is added to it
  cases mode with
  | text =>
      simp only [LexMode.step] at h
      split_ifs at h with hbracket hreference <;> cases h
      · rw [hbracket]; rfl
      · rw [hreference]; rfl
      · rfl
  | entity name =>
      simp only [LexMode.step] at h
      split_ifs at h with hend <;> cases h
      · simp [LexMode.spell, Lexeme.spell, hend]
      · simp [LexMode.spell]
  | bracket =>
      simp only [LexMode.step] at h
      split_ifs at h with hslash <;> cases h
      · rw [hslash]; rfl
      · rfl
  | closing name =>
      simp only [LexMode.step] at h
      split_ifs at h with hend <;> cases h
      · simp [LexMode.spell, Lexeme.spell, hend]
      · simp [LexMode.spell]
  | opening name =>
      simp only [LexMode.step] at h
      split_ifs at h with hend hblank <;> cases h
      · simp [LexMode.spell, Lexeme.spell, hend]
      · simp [LexMode.spell, HalfTag.spell, hblank]
      · simp [LexMode.spell]
  | blank tag =>
      simp only [LexMode.step] at h
      split_ifs at h with hslash <;> cases h
      · simp [LexMode.spell, hslash]
      · simp [LexMode.spell]
  | entry tag name =>
      simp only [LexMode.step] at h
      split_ifs at h with hequals <;> cases h
      · simp [LexMode.spell, hequals]
      · simp [LexMode.spell]
  | equals tag name =>
      simp only [LexMode.step] at h
      split_ifs at h with hquote
      cases h
      simp [LexMode.spell, hquote]
  | value tag name read =>
      simp only [LexMode.step] at h
      split_ifs at h with hquote <;> cases h
      · simp [LexMode.spell, HalfTag.spell, Attribute.spell, hquote]
      · simp [LexMode.spell]
  | quoted tag =>
      simp only [LexMode.step] at h
      split_ifs at h with hblank hslash hend <;> cases h
      · simp [LexMode.spell, hblank]
      · simp [LexMode.spell, hslash]
      · simp [LexMode.spell, Lexeme.spell, HalfTag.spell, hend]
  | slash tag spaced =>
      simp only [LexMode.step] at h
      split_ifs at h with hend
      cases h
      cases spaced <;> simp [LexMode.spell, Lexeme.spell, HalfTag.spell, hend]

theorem spell_of_lexFrom {last : LexMode} :
    ∀ {text : List Char} {mode : LexMode} {lexemes : List Lexeme},
      lexFrom mode text = some (lexemes, last) →
        mode.spell ++ text = lexemes.flatMap Lexeme.spell ++ last.spell := by
  intro text
  induction text with
  | nil =>
      intro mode lexemes h
      simp only [lexFrom, Option.some.injEq, Prod.mk.injEq] at h
      obtain ⟨rfl, rfl⟩ := h
      simp
  | cons c rest ih =>
      intro mode lexemes h
      obtain ⟨done, mode', more, hstep, hrest, rfl⟩ := lexFrom_cons_inv h
      calc mode.spell ++ c :: rest
          = (mode.spell ++ [c]) ++ rest := by simp
        _ = done.flatMap Lexeme.spell ++ (mode'.spell ++ rest) := by
            rw [spell_step hstep, List.append_assoc]
        _ = (done ++ more).flatMap Lexeme.spell ++ last.spell := by
            rw [ih hrest, List.flatMap_append, List.append_assoc]

/-- The lexemes of a text, spelled one after the other, are the text. -/
theorem spell_of_lex {text : List Char} {lexemes : List Lexeme} (h : lex text = some lexemes) :
    lexemes.flatMap Lexeme.spell = text := by
  have hspell := spell_of_lexFrom (lexFrom_of_lex h)
  simpa [LexMode.spell] using hspell.symm

/-! ## Clean lexemes -/

/-- Whether a text may stand between the quotes of an attribute as it is. -/
def isQuotable (text : List Char) : Bool :=
  text.all fun c => !(c == '<' || c == '>' || c == '"')

/-- Whether every value among attributes may stand between quotes as it is. -/
def areQuotable (attributes : List Attribute) : Bool :=
  attributes.all fun entry => isQuotable entry.value.toList

/-- Whether a text may be the name of a reference. -/
def isReferenceName (name : List Char) : Bool :=
  name.all fun c => c.isAlphanum || c == '#'

/-- Whether the attribute values of a lexeme hold no `<`, `>` or quote, a character between tags is
none of `<`, `>` and `&`, and a reference has a name of letters, digits and `#`. -/
def Lexeme.isClean : Lexeme → Bool
  | char c => !(c == '<' || c == '>' || c == '&')
  | entity name => isReferenceName name.toList
  | opening _ attributes => areQuotable attributes
  | closing _ => true
  | void _ attributes _ => areQuotable attributes

/-- The same of the lexeme under way. -/
def LexMode.isClean : LexMode → Bool
  | .text | .bracket | .closing _ | .opening _ => true
  | .entity name => isReferenceName name
  | .blank tag | .entry tag _ | .equals tag _ | .quoted tag | .slash tag _ =>
      areQuotable tag.attributes
  | .value tag _ read => areQuotable tag.attributes && isQuotable read

theorem clean_step {mode mode' : LexMode} {c : Char} {done : List Lexeme}
    (h : mode.step c = some (done, mode')) (hmode : mode.isClean) :
    done.all Lexeme.isClean ∧ mode'.isClean := by
  -- what is under way is checked as it is read, so a completed lexeme has nothing left to check
  cases mode with
  | text =>
      simp only [LexMode.step] at h
      split_ifs at h with hbracket hreference hend <;> cases h
      · exact ⟨rfl, rfl⟩
      · exact ⟨rfl, rfl⟩
      · simp [Lexeme.isClean, LexMode.isClean, hbracket, hreference, hend]
  | entity name =>
      simp only [LexMode.step] at h
      split_ifs at h with hend hletter <;> cases h
      · simpa [Lexeme.isClean, LexMode.isClean] using hmode
      · simp only [LexMode.isClean, isReferenceName, List.all_append] at hmode ⊢
        simp [hmode, hletter]
  | bracket =>
      simp only [LexMode.step] at h
      split_ifs at h <;> cases h <;> exact ⟨rfl, rfl⟩
  | closing name =>
      simp only [LexMode.step] at h
      split_ifs at h <;> cases h <;> exact ⟨rfl, rfl⟩
  | opening name =>
      simp only [LexMode.step] at h
      split_ifs at h <;> cases h <;> exact ⟨rfl, rfl⟩
  | blank tag =>
      simp only [LexMode.step] at h
      split_ifs at h <;> cases h <;> exact ⟨rfl, hmode⟩
  | entry tag name =>
      simp only [LexMode.step] at h
      split_ifs at h <;> cases h <;> exact ⟨rfl, hmode⟩
  | equals tag name =>
      simp only [LexMode.step] at h
      split_ifs at h
      cases h
      simpa [LexMode.isClean, isQuotable] using hmode
  | value tag name read =>
      simp only [LexMode.step] at h
      simp only [LexMode.isClean, Bool.and_eq_true] at hmode
      split_ifs at h with hquote hbracket <;> cases h
      · simp only [LexMode.isClean, areQuotable, List.all_append] at hmode ⊢
        simp [hmode]
      · -- neither a quote nor a bracket, which are all that may not stand in a value
        simp only [not_or] at hbracket
        have hnext : isQuotable (read ++ [c]) := by
          rw [isQuotable, List.all_append, ← isQuotable, hmode.2]
          simp [hquote, hbracket]
        exact ⟨rfl, by rw [LexMode.isClean, hmode.1, hnext]; rfl⟩
  | quoted tag =>
      simp only [LexMode.step] at h
      split_ifs at h <;> cases h
      · exact ⟨rfl, hmode⟩
      · exact ⟨rfl, hmode⟩
      · simpa [Lexeme.isClean, LexMode.isClean] using hmode
  | slash tag spaced =>
      simp only [LexMode.step] at h
      split_ifs at h
      cases h
      simpa [Lexeme.isClean, LexMode.isClean] using hmode

theorem clean_of_lexFrom {last : LexMode} :
    ∀ {text : List Char} {mode : LexMode} {lexemes : List Lexeme},
      lexFrom mode text = some (lexemes, last) → mode.isClean → ∀ lexeme ∈ lexemes,
        lexeme.isClean := by
  intro text
  induction text with
  | nil =>
      intro mode lexemes h _ lexeme hmem
      simp only [lexFrom, Option.some.injEq, Prod.mk.injEq] at h
      rw [← h.1] at hmem
      cases hmem
  | cons c rest ih =>
      intro mode lexemes h hmode lexeme hmem
      obtain ⟨done, mode', more, hstep, hrest, rfl⟩ := lexFrom_cons_inv h
      obtain ⟨hdone, hmode'⟩ := clean_step hstep hmode
      rcases List.mem_append.mp hmem with hmem | hmem
      · exact List.all_eq_true.mp hdone lexeme hmem
      · exact ih hrest hmode' lexeme hmem

/-- Every lexeme of a text that is read to its end is clean. -/
theorem clean_of_lex {text : List Char} {lexemes : List Lexeme} (h : lex text = some lexemes) :
    ∀ lexeme ∈ lexemes, lexeme.isClean :=
  clean_of_lexFrom (lexFrom_of_lex h) rfl

/-! ## Tags -/

/-- A tag, as far as it matters for nesting. -/
inductive Mark where
  | opens (name : String)
  | closes (name : String)
  | stands (name : String)
deriving DecidableEq, Repr

/-- The tag that a lexeme is. -/
def Lexeme.mark? : Lexeme → Option Mark
  | char _ | entity _ => none
  | opening name _ => some (.opens name)
  | closing name => some (.closes name)
  | void name _ _ => some (.stands name)

/-- The tags among lexemes. -/
def marks (lexemes : List Lexeme) : List Mark :=
  lexemes.filterMap Lexeme.mark?

/-- The elements open after tags, the latest first, if every closing tag is that of the element
opened last. -/
def openElements : List String → List Mark → Option (List String)
  | stack, [] => some stack
  | stack, .opens name :: rest => openElements (name :: stack) rest
  | [], .closes _ :: _ => none
  | name :: stack, .closes name' :: rest =>
      if name' = name then openElements stack rest else none
  | stack, .stands _ :: rest => openElements stack rest

/-- The tags of an element around others. -/
def enclosed (name : String) (inner : List Mark) : List Mark :=
  .opens name :: (inner ++ [.closes name])

/-- Tags that leave the open elements as they were, wherever they stand. -/
def Balanced (inner : List Mark) : Prop :=
  ∀ stack rest, openElements stack (inner ++ rest) = openElements stack rest

theorem Balanced.nil : Balanced [] :=
  fun _ _ => rfl

theorem Balanced.stands (name : String) : Balanced [.stands name] :=
  fun _ _ => rfl

theorem Balanced.append {left right : List Mark} (hleft : Balanced left)
    (hright : Balanced right) : Balanced (left ++ right) := by
  intro stack rest
  rw [List.append_assoc, hleft, hright]

theorem Balanced.enclosed {inner : List Mark} (name : String) (hinner : Balanced inner) :
    Balanced (enclosed name inner) := by
  intro stack rest
  simp only [Html.enclosed, List.cons_append, List.append_assoc, List.nil_append, openElements,
    hinner (name :: stack), if_true]

/-- Balanced tags leave no element open. -/
theorem Balanced.openElements {inner : List Mark} (hinner : Balanced inner) :
    openElements [] inner = some [] := by
  have hall := hinner [] []
  rwa [List.append_nil] at hall

end StaticSite.Html
