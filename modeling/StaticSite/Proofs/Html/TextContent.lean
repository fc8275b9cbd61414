import StaticSite.Proofs.Html.PagePart

/-!
# The text of markup

A piece of a page is read as text by leaving out its tags and resolving the entities between them. A
tag ends at the first `>` outside of its quoted values, and the entities are the four that an escape
writes.

## What this module delivers

- `TagMode`, `visibleFrom`, `resolve`, `textContent`: the reader.
- `Skips`: markup in which nothing is visible, with the places where it begins and ends.
- `Tells`, with `Tells.append`: markup with its text, whatever follows.
- `tells_escape`: escaped text is read back.
- `tells_forestMarkup`: the markup of a line of words tells its characters and line ends.
- `textContent_element`: what a heading tells, its sign first.
-/

set_option autoImplicit false

namespace StaticSite.Html

open StaticSite.Markdown

/-! ## The reader -/

/-- Where the reader is: between tags, in a tag, or in a quoted value of a tag. -/
inductive TagMode where
  | text
  | tag
  | quoted
deriving DecidableEq, Repr

/-- The characters outside of tags. -/
def visibleFrom : TagMode → List Char → List Char
  | _, [] => []
  | .text, c :: rest => if c = '<' then visibleFrom .tag rest else c :: visibleFrom .text rest
  | .tag, c :: rest =>
    if c = '>' then visibleFrom .text rest
    else if c = '"' then visibleFrom .quoted rest
    else visibleFrom .tag rest
  | .quoted, c :: rest => if c = '"' then visibleFrom .tag rest else visibleFrom .quoted rest

/-- A text with its entities resolved. -/
def resolve : List Char → List Char
  | [] => []
  | '&' :: 'a' :: 'm' :: 'p' :: ';' :: rest => '&' :: resolve rest
  | '&' :: 'l' :: 't' :: ';' :: rest => '<' :: resolve rest
  | '&' :: 'g' :: 't' :: ';' :: rest => '>' :: resolve rest
  | '&' :: 'q' :: 'u' :: 'o' :: 't' :: ';' :: rest => '"' :: resolve rest
  | c :: rest => c :: resolve rest

/-- The text of markup. -/
def textContent (markup : String) : List Char :=
  resolve (visibleFrom .text markup.toList)

/-! ## Markup without text -/

/-- Markup in which nothing is visible, read from one mode to another. -/
def Skips (mode : TagMode) (markup : String) (mode' : TagMode) : Prop :=
  ∀ rest, visibleFrom mode (markup.toList ++ rest) = visibleFrom mode' rest

theorem Skips.append {mode middle last : TagMode} {markup more : String}
    (h : Skips mode markup middle) (h' : Skips middle more last) :
    Skips mode (markup ++ more) last := by
  intro rest
  rw [String.toList_append, List.append_assoc, h, h']

theorem Skips.empty (mode : TagMode) : Skips mode "" mode :=
  fun _ => rfl

/-- A text is passed over if each of its characters is. -/
theorem skips_of_forall {mode : TagMode} {text : String}
    (h : ∀ c ∈ text.toList, ∀ rest, visibleFrom mode (c :: rest) = visibleFrom mode rest) :
    Skips mode text mode := by
  unfold Skips
  generalize text.toList = chars at h
  induction chars with
  | nil => exact fun _ => rfl
  | cons c others ih =>
      intro rest
      rw [List.cons_append, h c List.mem_cons_self,
        ih fun d hd => h d (List.mem_cons_of_mem c hd)]

/-- A value ends at its quote only. -/
theorem skips_quoted {text : String} (h : isQuotable text.toList) : Skips .quoted text .quoted := by
  apply skips_of_forall
  intro c hc rest
  obtain ⟨-, -, hquote⟩ := (isQuotable_iff _).mp h c hc
  rw [visibleFrom, if_neg hquote]

/-- In a tag only brackets and quotes matter. -/
theorem skips_tag {text : String} (h : isQuotable text.toList) : Skips .tag text .tag := by
  apply skips_of_forall
  intro c hc rest
  obtain ⟨-, hclose, hquote⟩ := (isQuotable_iff _).mp h c hc
  rw [visibleFrom, if_neg hclose, if_neg hquote]

theorem skips_linkFront (form : LinkForm) (dest title : String) :
    Skips .text (Writer.linkFront form dest title) .text := by
  have hopen : Skips .text (if form = .email then "<a href=\"mailto:" else "<a href=\"")
      .quoted := by
    split <;> exact fun _ => rfl
  have hhref := skips_quoted (quotable_escapeHref dest)
  have htitle : Skips .quoted (if title.isEmpty then "" else "\" title=\"" ++ escape title)
      .quoted := by
    split
    · exact Skips.empty .quoted
    · have hname : Skips .quoted "\" title=\"" .quoted := fun _ => rfl
      exact hname.append (skips_quoted (quotable_escape title))
  have hend : Skips .quoted "\">" .text := fun _ => rfl
  exact ((hopen.append hhref).append htitle).append hend

theorem skips_startMarkup (tag : Tag) : Skips .text (startMarkup tag) .text := by
  cases tag with
  | emphasis => exact fun _ => rfl
  | strong => exact fun _ => rfl
  | strikethrough => exact fun _ => rfl
  | link form dest title => exact skips_linkFront form dest title
  | _ => exact Skips.empty .text

theorem skips_stopMarkup (tag : Tag) : Skips .text (stopMarkup tag) .text := by
  cases tag with
  | emphasis => exact fun _ => rfl
  | strong => exact fun _ => rfl
  | strikethrough => exact fun _ => rfl
  | link form dest title =>
      have hclose : Skips .text "</a>" .text := fun _ => rfl
      exact hclose
  | _ => exact Skips.empty .text

/-! ## Markup with its text -/

/-- Markup has a text, whatever follows it. -/
def Tells (markup : String) (text : List Char) : Prop :=
  ∀ rest, resolve (visibleFrom .text (markup.toList ++ rest))
    = text ++ resolve (visibleFrom .text rest)

theorem Tells.append {markup more : String} {text text' : List Char} (h : Tells markup text)
    (h' : Tells more text') : Tells (markup ++ more) (text ++ text') := by
  intro rest
  rw [String.toList_append, List.append_assoc, h, h', List.append_assoc]

theorem Skips.tells {markup : String} (h : Skips .text markup .text) : Tells markup [] := by
  intro rest
  rw [h rest, List.nil_append]

theorem Tells.textContent {markup : String} {text : List Char} (h : Tells markup text) :
    textContent markup = text := by
  have hall := h []
  rwa [List.append_nil, visibleFrom, resolve, List.append_nil] at hall

theorem resolve_cons {c : Char} (h : c ≠ '&') (rest : List Char) :
    resolve (c :: rest) = c :: resolve rest := by
  rw [resolve]
  all_goals
    rintro others rfl
    exact absurd rfl h

/-- An escaped character is read back. -/
theorem resolve_escapeChar (c : Char) (rest : List Char) :
    resolve (escapeChar c ++ rest) = c :: resolve rest := by
  unfold escapeChar
  split_ifs with hand hopen hclose hquote
  · rw [hand]
    rfl
  · rw [hopen]
    rfl
  · rw [hclose]
    rfl
  · rw [hquote]
    rfl
  · exact resolve_cons hand rest

/-- Text without brackets is visible as it is. -/
theorem visibleFrom_quotable {chars : List Char} (h : isQuotable chars) (rest : List Char) :
    visibleFrom .text (chars ++ rest) = chars ++ visibleFrom .text rest := by
  induction chars with
  | nil => rfl
  | cons c others ih =>
      rw [isQuotable_iff] at h
      have hothers : isQuotable others :=
        (isQuotable_iff others).mpr fun d hd => h d (List.mem_cons_of_mem c hd)
      rw [List.cons_append, visibleFrom, if_neg (h c List.mem_cons_self).1, ih hothers,
        List.cons_append]

/-- Escaped text is read back. -/
theorem tells_escape (text : String) : Tells (escape text) text.toList := by
  intro rest
  -- an escape has no brackets, so all of it is visible and is left to be resolved
  rw [visibleFrom_quotable (quotable_escape text), escape, String.toList_ofList]
  induction text.toList with
  | nil => rfl
  | cons c others ih =>
      rw [List.flatMap_cons, List.append_assoc, resolve_escapeChar, ih, List.cons_append]

/-! ## Lines of words -/

theorem tells_leafMarkup {leaf : Leaf} (h : leaf.isWorded) :
    Tells (leafMarkup leaf) (shownChars leaf.items) := by
  cases leaf with
  | text content =>
      rw [Leaf.items, shownChars_map_some]
      exact tells_escape content
  | code content =>
      have hopen : Skips .text "<code>" .text := fun _ => rfl
      have hclose : Skips .text "</code>" .text := fun _ => rfl
      have hall := (hopen.tells.append (tells_escape content)).append hclose.tells
      rw [Leaf.items, shownChars_map_some]
      rwa [List.nil_append, List.append_nil] at hall
  | softBreak => exact fun _ => rfl
  | hardBreak => exact fun _ => rfl
  | _ => exact Bool.noConfusion h

mutual

theorem tells_treeMarkup : ∀ tree : EventTree, tree.isWorded →
    Tells (treeMarkup tree) (shownChars (treeItems tree))
  | .leaf leaf, h => tells_leafMarkup h
  | .node tag children, h => by
      -- both tags of a construct are passed over, so it tells what its content tells
      rw [EventTree.isWorded, Bool.and_eq_true] at h
      have hall := (skips_startMarkup tag).tells.append
        ((tells_forestMarkup children h.2).append (skips_stopMarkup tag).tells)
      rwa [List.nil_append, List.append_nil] at hall

/-- The markup of a line of words tells its characters, and a line end for each of its line ends. -/
theorem tells_forestMarkup : ∀ trees : List EventTree, areWorded trees →
    Tells (forestMarkup trees) (shownChars (forestItems trees))
  | [], _ => fun _ => rfl
  | tree :: rest, h => by
      rw [areWorded, Bool.and_eq_true] at h
      rw [forestItems, shownChars_append]
      exact (tells_treeMarkup tree h.1).append (tells_forestMarkup rest h.2)

end

/-! ## Headings -/

theorem skips_headingStart (level : Int) (titled : Bool) :
    Skips .text (headingStart level titled) .quoted := by
  have hopen : Skips .text "<h" .tag := fun _ => rfl
  have hclass : Skips .tag (if titled then "" else " class=\"title\"") .tag := by
    split <;> exact fun _ => rfl
  have hid : Skips .tag " id=\"" .quoted := fun _ => rfl
  exact ((hopen.append (skips_tag (quotable_of_plain (plain_int level)))).append hclass).append hid

/-- The front of a heading tells the sign of the link to itself: the identifier is in quotes both
times. -/
theorem tells_headingFront {identifier : String} (h : isPlain identifier.toList) (level : Int)
    (titled : Bool) :
    Tells (headingStart level titled ++ Writer.identifierText identifier) ['¶'] := by
  have hidentifier := skips_quoted (quotable_of_plain h)
  have hend : Skips .quoted "\">" .text := fun _ => rfl
  have hopen : Skips .text "<a class=\"anchor\" href=\"#" .quoted := fun _ => rfl
  have hsign : Tells "¶</a>" ['¶'] := fun _ => rfl
  have hbefore := (skips_headingStart level titled).append
    ((hidentifier.append hend).append ((hopen.append hidentifier).append hend))
  have hall := hbefore.tells.append hsign
  have hquote : ("\">¶</a>" : String) = "\">" ++ "¶</a>" := rfl
  rw [List.nil_append] at hall
  rw [Writer.identifierText, hquote]
  simpa only [String.append_assoc] using hall

/-- A heading tells the sign of the link to itself, and then the text of its content. -/
theorem textContent_element {element : HeadingElement} (hplain : isPlain element.identifier.toList)
    {text : List Char} (h : Tells (weave element.content) text) :
    textContent element.text = '¶' :: text := by
  have hfront := tells_headingFront hplain element.level element.titled
  have hclose : Skips .text ("</h" ++ toString element.level ++ ">") .text := by
    have hopen : Skips .text "</h" .tag := fun _ => rfl
    have hlevel := skips_tag (quotable_of_plain (plain_int element.level))
    have hend : Skips .tag ">" .text := fun _ => rfl
    exact (hopen.append hlevel).append hend
  have hall := ((hfront.append h).append hclose.tells).textContent
  rwa [List.append_nil] at hall

end StaticSite.Html
