import StaticSite.Proofs.Html.Growth

/-!
# Tags that begin a line

The tags of blocks begin lines of their own. A writer that hands on a text piece by piece can check
this piece by piece as well: it needs to know no more of what precedes a piece than whether that
ends a line, as long as no piece ends in the middle of a tag's name.

## What this module delivers

- `blockOpenings`, `IsFresh`, `BlocksBeginLines`: where the tags of blocks belong.
- `keepsLines`, with `keepsLines_append`: the check, and its law for pieces in a row.
- `Writer.Puts`, `Writer.Lays`: pieces that pass the check, after which the writer knows its line.
- `Writer.foreign`: what an event hands on that is not the writer's own.
- `lays_startTag`, `lays_startHeading`, `lays_stopTag`, `lays_leaf`: events outside of images.
- `lays_startImage`, `lays_mention`, `lays_finishImage`: an image from its start to its end.
- `Writer.act`, `delivers_act`: any event that does not settle a heading.
-/

set_option autoImplicit false

namespace StaticSite.Html

open StaticSite.Markdown

/-! ## Texts and their lines -/

/-- How the tags begin that belong at the beginning of a line: paragraphs and code blocks by `<p`,
headings and rules by `<h`, then lists, items and quotes. -/
def blockOpenings : List String :=
  ["<p", "<h", "<ul", "<ol", "<li", "<blockquote"]

/-- A text after which a line begins. -/
def IsFresh (text : String) : Prop :=
  text = "" ∨ endsLine text = true

/-- Behind a front, all tags of blocks in a text begin lines. -/
def BlocksBeginLines (front text : String) : Prop :=
  ∀ opening ∈ blockOpenings, ∀ before after, text = before ++ opening ++ after →
    IsFresh (front ++ before)

/-- Whether a line begins after a text, if it is known whether one begins before it. -/
def freshAfter (fresh : Bool) (s : List Char) : Bool :=
  s.getLast?.elim fresh (· == '\n')

/-- Whether a block's tag begins a text. -/
def beginsBlock (s : List Char) : Bool :=
  blockOpenings.any fun opening => opening.toList.isPrefixOf s

/-- Whether a text is the beginning of a block's tag that is cut off too early to tell. -/
def isCutOpening (s : List Char) : Bool :=
  blockOpenings.any fun opening => s.isPrefixOf opening.toList && s != opening.toList

/-- Whether in a text all tags of blocks begin lines, and none is cut off at the end. -/
def keepsLines (fresh : Bool) : List Char → Bool
  | [] => true
  | c :: rest =>
    (c != '<' || ((fresh || !beginsBlock (c :: rest)) && !isCutOpening (c :: rest))) &&
      keepsLines (c == '\n') rest

theorem freshAfter_cons (fresh : Bool) (c : Char) (s : List Char) :
    freshAfter fresh (c :: s) = freshAfter (c == '\n') s := by
  cases s <;> simp [freshAfter, List.getLast?_cons]

theorem freshAfter_append (fresh : Bool) (s t : List Char) :
    freshAfter fresh (s ++ t) = freshAfter (freshAfter fresh s) t := by
  induction s generalizing fresh with
  | nil => rfl
  | cons c rest ih => rw [List.cons_append, freshAfter_cons, freshAfter_cons, ih]

/-- A line begins after a text in a page if the text ends one, or is empty and begins one. -/
theorem IsFresh.append {front text : String} {fresh : Bool} (hfront : fresh = true → IsFresh front)
    (h : freshAfter fresh text.toList = true) : IsFresh (front ++ text) := by
  cases hlast : text.toList.getLast? with
  | none =>
      have hempty : text = "" := by simpa using hlast
      rw [freshAfter, hlast, Option.elim_none] at h
      rw [hempty, String.append_empty]
      exact hfront h
  | some c =>
      rw [freshAfter, hlast, Option.elim_some] at h
      refine .inr ?_
      simp [endsLine, List.getLast?_append, hlast, beq_iff_eq.mp h]

/-! ## The check for texts in a row -/

theorem head_blockOpening {opening : String} (h : opening ∈ blockOpenings) :
    ∃ name, opening.toList = '<' :: name := by
  simp only [blockOpenings, List.mem_cons, List.not_mem_nil, or_false] at h
  rcases h with rfl | rfl | rfl | rfl | rfl | rfl <;> exact ⟨_, rfl⟩

/-- What is the beginning of a tag with more behind it, is so without. -/
theorem isCutOpening_left {s t : List Char} (h : isCutOpening (s ++ t) = true) :
    isCutOpening s = true := by
  simp only [isCutOpening, List.any_eq_true, Bool.and_eq_true, bne_iff_ne,
    List.isPrefixOf_iff_prefix] at h ⊢
  obtain ⟨opening, hmem, hprefix, hne⟩ := h
  refine ⟨opening, hmem, (List.prefix_append s t).trans hprefix, fun heq => hne ?_⟩
  rw [← heq] at hprefix ⊢
  exact List.append_right_eq_self.mpr (by simpa using hprefix.length_le)

/-- A tag that begins a text in a row begins the first text, or is cut off there. -/
theorem beginsBlock_left {s t : List Char} (h : beginsBlock (s ++ t) = true) :
    beginsBlock s = true ∨ isCutOpening s = true := by
  simp only [beginsBlock, isCutOpening, List.any_eq_true, Bool.and_eq_true, bne_iff_ne,
    List.isPrefixOf_iff_prefix] at h ⊢
  obtain ⟨opening, hmem, hprefix⟩ := h
  rcases List.prefix_or_prefix_of_prefix hprefix (List.prefix_append s t) with hwhole | hcut
  · exact .inl ⟨opening, hmem, hwhole⟩
  · by_cases heq : s = opening.toList
    · exact .inl ⟨opening, hmem, heq ▸ List.prefix_rfl⟩
    · exact .inr ⟨opening, hmem, hcut, heq⟩

theorem keepsLines_append {fresh : Bool} {s t : List Char} (hs : keepsLines fresh s = true)
    (ht : keepsLines (freshAfter fresh s) t = true) : keepsLines fresh (s ++ t) = true := by
  induction s generalizing fresh with
  | nil => exact ht
  | cons c rest ih =>
      rw [keepsLines, Bool.and_eq_true] at hs
      obtain ⟨hhead, hrest⟩ := hs
      rw [freshAfter_cons] at ht
      rw [List.cons_append, keepsLines, Bool.and_eq_true]
      refine ⟨?_, ih hrest ht⟩
      -- neither a tag nor a part of one comes from the texts being in a row
      have hbegins := fun h => beginsBlock_left (s := c :: rest) (t := t) h
      have hcut := fun h => isCutOpening_left (s := c :: rest) (t := t) h
      rw [List.cons_append] at hbegins hcut
      simp only [Bool.or_eq_true, Bool.and_eq_true, Bool.not_eq_true', bne_iff_ne] at hhead ⊢
      grind

theorem keepsLines_of_false {s : List Char} (h : keepsLines false s = true) (fresh : Bool) :
    keepsLines fresh s = true := by
  cases s with
  | nil => rfl
  | cons c rest =>
      simp only [keepsLines, Bool.false_or, Bool.and_eq_true, Bool.or_eq_true] at h ⊢
      exact ⟨h.1.imp_right fun hhead => ⟨.inr hhead.1, hhead.2⟩, h.2⟩

/-- Pieces that keep their lines wherever they stand may follow each other. -/
theorem keepsLines_row {s t : List Char} (hs : keepsLines false s = true)
    (ht : keepsLines false t = true) : keepsLines false (s ++ t) = true :=
  keepsLines_append hs (keepsLines_of_false ht _)

/-- A text without the sign that begins tags has no tags. -/
theorem keepsLines_of_quotable {s : List Char} (h : isQuotable s) : keepsLines false s = true := by
  rw [isQuotable_iff] at h
  induction s with
  | nil => rfl
  | cons c rest ih =>
      have hsign : c ≠ '<' := (h c List.mem_cons_self).1
      have hrest := ih fun d hd => h d (List.mem_cons_of_mem c hd)
      simp [keepsLines, hsign, keepsLines_of_false hrest]

theorem freshAfter_of_keepsLines {fresh : Bool} {opening : String}
    (hopening : opening ∈ blockOpenings) {before after : List Char}
    (h : keepsLines fresh (before ++ (opening.toList ++ after)) = true) :
    freshAfter fresh before = true := by
  induction before generalizing fresh with
  | nil =>
      obtain ⟨name, hname⟩ := head_blockOpening hopening
      have hbegins : beginsBlock (opening.toList ++ after) = true :=
        List.any_eq_true.mpr ⟨opening, hopening, by simp⟩
      rw [List.nil_append] at h
      rw [hname, List.cons_append] at h hbegins
      rw [keepsLines, hbegins] at h
      simp only [bne_self_eq_false, Bool.false_or, Bool.not_true, Bool.or_false,
        Bool.and_eq_true] at h
      exact h.1.1
  | cons c rest ih =>
      rw [List.cons_append, keepsLines, Bool.and_eq_true] at h
      rw [freshAfter_cons]
      exact ih h.2

/-- What passes the check has its tags at the beginnings of lines. -/
theorem blocksBeginLines_of_keepsLines {front text : String} {fresh : Bool}
    (hfront : fresh = true → IsFresh front) (h : keepsLines fresh text.toList = true) :
    BlocksBeginLines front text := by
  rintro opening hopening before after rfl
  rw [String.toList_append, String.toList_append, List.append_assoc] at h
  exact IsFresh.append hfront (freshAfter_of_keepsLines hopening h)

/-! ## Pieces of a writer -/

namespace Writer

/-- What the highlighter makes of the code that is collected. -/
def highlighted (highlighter : Option Highlighter) (w : Writer) : String :=
  match w.code, highlighter with
  | some block, some highlight => (highlight block.content block.language).getD ""
  | _, _ => ""

/-- What an event hands on that is not the writer's own: raw HTML, and at the end of a code block
what the highlighter made of the code. -/
def foreign (highlighter : Option Highlighter) (event : Event) (w : Writer) : String :=
  match w.image, event with
  | none, .html content => content
  | none, .stop (.codeBlock _) => w.highlighted highlighter
  | _, _ => ""

/-- The writer `w'` is `w` after handing on a foreign text and then a text of its own, in which all
tags of blocks begin lines. -/
structure Puts (w : Writer) (foreign own : String) (w' : Writer) : Prop where
  grows : w.Extends (foreign ++ own) w'
  lines : keepsLines (freshAfter w.atLineStart foreign.toList) own.toList = true

/-- And if `w'` takes it that a line begins, then one does, provided that `w` was not mistaken. -/
structure Lays (w : Writer) (foreign own : String) (w' : Writer) : Prop where
  puts : w.Puts foreign own w'
  fresh : w'.atLineStart = true → freshAfter w.atLineStart (foreign ++ own).toList = true

variable {w w' w'' : Writer} {foreign own text : String}

theorem Puts.refl (w : Writer) : w.Puts "" "" w :=
  ⟨(Extends.refl w).congr rfl, rfl⟩

theorem Lays.refl (w : Writer) : w.Lays "" "" w :=
  ⟨Puts.refl w, id⟩

/-- The text that a highlighter returned is foreign. -/
theorem Puts.of_extends (h : w.Extends foreign w') : w.Puts foreign "" w' :=
  ⟨h.congr String.append_empty.symm, rfl⟩

theorem Puts.congr (h : w.Puts foreign own w') (hown : own = text) : w.Puts foreign text w' :=
  hown ▸ h

theorem Puts.of_same (h : w.Puts foreign own w') (hwritten : w''.written = w'.written)
    (hheld : w''.held = w'.held) (hawaiting : w''.awaitingHeadingText = w'.awaitingHeadingText)
    (hanchors : w''.anchors = w'.anchors) (himage : w''.image = w'.image) :
    w.Puts foreign own w'' :=
  ⟨h.grows.of_same hwritten hheld hawaiting hanchors himage, h.lines⟩

theorem Lays.of_same (h : w.Lays foreign own w') (hwritten : w''.written = w'.written)
    (hheld : w''.held = w'.held) (hawaiting : w''.awaitingHeadingText = w'.awaitingHeadingText)
    (hanchors : w''.anchors = w'.anchors) (himage : w''.image = w'.image)
    (hline : w''.atLineStart = w'.atLineStart) : w.Lays foreign own w'' :=
  ⟨h.puts.of_same hwritten hheld hawaiting hanchors himage, fun hfresh => h.fresh (hline ▸ hfresh)⟩

theorem atLineStart_emit (w : Writer) (text : String) :
    (w.emit text).atLineStart = w.atLineStart := by
  unfold Writer.emit
  split <;> rfl

/-- A piece has to pass the check where it stands. -/
theorem Puts.emitAt (h : w.Puts foreign own w') (text : String)
    (htext : keepsLines (freshAfter w.atLineStart (foreign ++ own).toList) text.toList = true) :
    w.Puts foreign (own ++ text) (w'.emit text) := by
  refine ⟨(h.grows.emit text).congr (String.append_assoc ..), ?_⟩
  rw [String.toList_append]
  refine keepsLines_append h.lines ?_
  rwa [String.toList_append, freshAfter_append] at htext

/-- A piece that passes it within a line passes it anywhere. -/
theorem Puts.emit (h : w.Puts foreign own w') (text : String)
    (htext : keepsLines false text.toList = true) : w.Puts foreign (own ++ text) (w'.emit text) :=
  h.emitAt text (keepsLines_of_false htext _)

theorem Puts.writeAt (h : w.Puts foreign own w') (text : String)
    (htext : keepsLines (freshAfter w.atLineStart (foreign ++ own).toList) text.toList = true) :
    w.Puts foreign (own ++ text) (w'.write text) := by
  unfold Writer.write
  split
  · exact h.emitAt text htext
  · exact (h.emitAt text htext).of_same rfl rfl rfl rfl rfl

theorem Puts.write (h : w.Puts foreign own w') (text : String)
    (htext : keepsLines false text.toList = true) : w.Puts foreign (own ++ text) (w'.write text) :=
  h.writeAt text (keepsLines_of_false htext _)

theorem freshAfter_of_endsLine (front : String) (fresh : Bool) (h : endsLine text = true) :
    freshAfter fresh (front ++ text).toList = true := by
  rw [endsLine, beq_iff_eq] at h
  simp [freshAfter, List.getLast?_append, h]

/-- A line end is written as it is. -/
theorem endsLine_escape (h : endsLine text = true) : endsLine (escape text) = true := by
  rw [endsLine, beq_iff_eq, List.getLast?_eq_some_iff] at h
  obtain ⟨front, hfront⟩ := h
  have hend : escapeChar '\n' = ['\n'] := by decide
  simp [endsLine, escape, hfront, hend]

/-- A piece that is not empty tells whether a line begins after it. -/
theorem Puts.endsAt (h : w.Puts foreign own w') (text : String)
    (htext : keepsLines (freshAfter w.atLineStart (foreign ++ own).toList) text.toList = true)
    (hsome : text.isEmpty = false) : w.Lays foreign (own ++ text) (w'.write text) := by
  refine ⟨h.writeAt text htext, fun hfresh => ?_⟩
  have hline : (w'.write text).atLineStart = endsLine text := by simp [Writer.write, hsome]
  rw [← String.append_assoc]
  exact freshAfter_of_endsLine (foreign ++ own) _ (hline ▸ hfresh)

theorem Puts.ends (h : w.Puts foreign own w') (text : String)
    (htext : keepsLines false text.toList = true) (hsome : text.isEmpty = false) :
    w.Lays foreign (own ++ text) (w'.write text) :=
  h.endsAt text (keepsLines_of_false htext _) hsome

/-- A document's text keeps its lines when it is escaped. -/
theorem Puts.writeText (h : w.Puts foreign own w') (content : String) :
    w.Lays foreign (own ++ escape content) (w'.writeText content) := by
  have hescape := keepsLines_of_quotable (quotable_escape content)
  refine ⟨(h.emit _ hescape).of_same rfl rfl rfl rfl rfl, fun hfresh => ?_⟩
  rw [← String.append_assoc]
  exact freshAfter_of_endsLine (foreign ++ own) _ (endsLine_escape hfresh)

/-- The line end before a block makes its tag begin a line. -/
theorem keepsLines_block (fresh : Bool) (htext : keepsLines true text.toList = true) :
    keepsLines fresh ((if fresh then "" else "\n") ++ text).toList = true := by
  cases fresh with
  | true =>
      rw [if_pos rfl, String.empty_append]
      exact htext
  | false =>
      have hend : keepsLines false "\n".toList = true := by decide
      rw [if_neg Bool.false_ne_true, String.toList_append]
      exact keepsLines_append hend htext

theorem Puts.writeBlock (h : w.Puts "" "" w') (hline : w'.atLineStart = w.atLineStart)
    (text : String) (htext : keepsLines true text.toList = true) :
    ∃ own, w.Puts "" own (w'.writeBlock text) := by
  refine ⟨_, h.writeAt _ ?_⟩
  rw [hline]
  exact keepsLines_block w.atLineStart htext

theorem lays_writeBlock (w : Writer) (text : String) (htext : keepsLines true text.toList = true)
    (hsome : text.isEmpty = false) : ∃ own, w.Lays "" own (w.writeBlock text) := by
  refine ⟨_, (Puts.refl w).endsAt _ (keepsLines_block w.atLineStart htext) ?_⟩
  rw [Bool.eq_false_iff, Ne, String.isEmpty_iff] at hsome ⊢
  exact fun hempty => hsome (String.append_eq_empty_iff.mp hempty).2

theorem lays_write (w : Writer) (text : String) (htext : keepsLines false text.toList = true)
    (hsome : text.isEmpty = false) : ∃ own, w.Lays "" own (w.write text) :=
  ⟨_, (Puts.refl w).ends text htext hsome⟩

/-! ## The starts of constructs -/

/-- A code block ends the line before it by itself. -/
theorem lays_startCode (highlighter : Option Highlighter) (info : Option String) (w : Writer) :
    ∃ own, w.Lays "" own (w.startCode highlighter info) := by
  have hline : ∃ own, w.Puts "" own
      (if w.atLineStart then w else { w with atLineStart := true }.emit "\n") ∧
      freshAfter w.atLineStart ("" ++ own).toList = true := by
    cases hfresh : w.atLineStart with
    | true => exact ⟨"", Puts.refl w, rfl⟩
    | false =>
        have hstart : w.Puts "" "" { w with atLineStart := true } :=
          (Puts.refl w).of_same rfl rfl rfl rfl rfl
        exact ⟨_, hstart.emit "\n" (by decide), rfl⟩
  rw [startCode]
  generalize (if w.atLineStart then w else { w with atLineStart := true }.emit "\n") = line
    at hline ⊢
  obtain ⟨own, hputs, hfresh⟩ := hline
  dsimp only
  split
  · refine ⟨_, hputs.endsAt "<pre><code>" ?_ rfl⟩
    rw [hfresh]
    decide
  · have hopen := hputs.writeAt "<pre><code class=\"language-" (by rw [hfresh]; decide)
    have hlanguage := hopen.emit _
      (keepsLines_of_quotable (quotable_escape (codeLanguage info)))
    have hall := hlanguage.ends "\">" (by decide) rfl
    split
    · exact ⟨_, hall.of_same rfl rfl rfl rfl rfl rfl⟩
    · exact ⟨_, hall⟩

theorem lays_startList (first : Option Int) (highlighter : Option Highlighter) (standalone : Bool)
    (w : Writer) : ∃ own, w.Lays "" own (w.startTag highlighter standalone (.list first)) := by
  cases first with
  | none => exact lays_writeBlock w "<ul>\n" (by decide) rfl
  | some number =>
      unfold startTag
      dsimp only
      split
      · exact lays_writeBlock w "<ol>\n" (by decide) rfl
      · obtain ⟨own, hopen⟩ := (Puts.refl w).writeBlock rfl "<ol start=\"" (by decide)
        have hnumber := hopen.emit _
          (keepsLines_of_quotable (quotable_of_plain (plain_int number)))
        exact ⟨_, hnumber.ends "\">\n" (by decide) rfl⟩

theorem lays_startDefinition (label : String) (w : Writer) :
    ∃ own, w.Lays "" own (w.startDefinition label) := by
  have hinside : w.Puts "" "" { w with inDefinition := true } :=
    (Puts.refl w).of_same rfl rfl rfl rfl rfl
  obtain ⟨own, hopen⟩ := hinside.writeBlock rfl "<p class=\"footnote\" id=\"f." (by decide)
  have hlabel := (hopen.emit _ (keepsLines_of_quotable (quotable_escape label))).write
    "\"><sup>" (by decide)
  unfold startDefinition
  dsimp only
  generalize ((({ w with inDefinition := true } : Writer).writeBlock
    "<p class=\"footnote\" id=\"f.").emit (escape label)).write "\"><sup>" = begun at hlabel ⊢
  have hcounted : w.Puts "" (own ++ escape label ++ "\"><sup>") (begun.footnoteNumber label).2 :=
    hlabel.of_same rfl rfl rfl rfl rfl
  have hnumber := hcounted.emit _
    (keepsLines_of_quotable (quotable_of_plain (plain_nat (begun.footnoteNumber label).1)))
  exact ⟨_, hnumber.ends "</sup> " (by decide) rfl⟩

theorem lays_startLink (form : LinkForm) (dest title : String)
    (highlighter : Option Highlighter) (standalone : Bool) (w : Writer) :
    ∃ own, w.Lays "" own (w.startTag highlighter standalone (.link form dest title)) := by
  have hfront : keepsLines false
      (if form = .email then "<a href=\"mailto:" else "<a href=\"" : String).toList = true := by
    split <;> decide
  have hhref := ((Puts.refl w).write _ hfront).emit _
    (keepsLines_of_quotable (quotable_escapeHref dest))
  unfold startTag
  dsimp only
  split
  · exact ⟨_, hhref.ends "\">" (by decide) rfl⟩
  · have hname := hhref.write "\" title=\"" (by decide)
    have htitle := hname.emit _ (keepsLines_of_quotable (quotable_escape title))
    exact ⟨_, htitle.ends "\">" (by decide) rfl⟩

theorem lays_startCell (highlighter : Option Highlighter) (standalone : Bool) (w : Writer) :
    ∃ own, w.Lays "" own (w.startTag highlighter standalone .tableCell) := by
  have hopen : keepsLines false (if w.inTableHead then "<th" else "<td" : String).toList = true := by
    split <;> decide
  have hattribute : keepsLines false w.cellAttribute.toList = true ∧
      w.cellAttribute.isEmpty = false := by
    unfold cellAttribute
    split <;> exact ⟨by decide, rfl⟩
  exact ⟨_, ((Puts.refl w).write _ hopen).ends _ hattribute.1 hattribute.2⟩

/-- The start of a construct other than a heading and an image. -/
theorem lays_startTag (highlighter : Option Highlighter) (standalone : Bool) (w : Writer) :
    ∀ tag : Tag, tag.holdsLine = false →
      ∃ own, w.Lays "" own (w.startTag highlighter standalone tag)
  | .paragraph, _ => by
      unfold startTag
      dsimp only
      split
      · exact ⟨_, Lays.refl w⟩
      · exact lays_writeBlock w "<p>" (by decide) rfl
  | .heading _, hline => absurd hline (by simp [Tag.holdsLine])
  | .blockQuote, _ => lays_writeBlock w "<blockquote>\n" (by decide) rfl
  | .codeBlock info, _ => lays_startCode highlighter info w
  | .list first, _ => lays_startList first highlighter standalone w
  | .item, _ => lays_writeBlock w "<li>" (by decide) rfl
  | .footnoteDefinition label, _ => lays_startDefinition label w
  | .table alignments, _ => by
      have haligned : w.Puts "" "" { w with alignments := alignments } :=
        (Puts.refl w).of_same rfl rfl rfl rfl rfl
      exact ⟨_, haligned.ends "<table>" (by decide) rfl⟩
  | .tableHead, _ => by
      have hhead : w.Puts "" "" { w with inTableHead := true, column := 0 } :=
        (Puts.refl w).of_same rfl rfl rfl rfl rfl
      exact ⟨_, hhead.ends "<thead><tr>" (by decide) rfl⟩
  | .tableRow, _ => by
      have hrow : w.Puts "" "" { w with column := 0 } :=
        (Puts.refl w).of_same rfl rfl rfl rfl rfl
      exact ⟨_, hrow.ends "<tr>" (by decide) rfl⟩
  | .tableCell, _ => lays_startCell highlighter standalone w
  | .emphasis, _ => lays_write w "<em>" (by decide) rfl
  | .strong, _ => lays_write w "<strong>" (by decide) rfl
  | .strikethrough, _ => lays_write w "<del>" (by decide) rfl
  | .link form dest title, _ => lays_startLink form dest title highlighter standalone w
  | .image _ _, hline => absurd hline (by simp [Tag.holdsLine])

/-- A heading begins a line and leaves it open, and waits for its text from then on. -/
theorem lays_startHeading (level : Int) (w : Writer) :
    ∃ own w', w.Lays "" own w' ∧ w'.atLineStart = false ∧
      w.startHeading level = { w' with awaitingHeadingText := true } := by
  have hline : ∃ own, w.Puts "" own
      (if w.atLineStart then { w with atLineStart := false } else w.emit "\n") ∧
      freshAfter w.atLineStart ("" ++ own).toList = true := by
    cases hfresh : w.atLineStart with
    | true => exact ⟨"", (Puts.refl w).of_same rfl rfl rfl rfl rfl, rfl⟩
    | false => exact ⟨_, (Puts.refl w).emit "\n" (by decide), rfl⟩
  have hflag : (if w.atLineStart then { w with atLineStart := false } else w.emit "\n").atLineStart
      = false := by
    cases hfresh : w.atLineStart with
    | true => rfl
    | false => rw [if_neg Bool.false_ne_true, atLineStart_emit, hfresh]
  unfold startHeading
  generalize (if w.atLineStart then { w with atLineStart := false } else w.emit "\n") = line
    at hline hflag ⊢
  obtain ⟨own, hputs, hfresh⟩ := hline
  have hname : keepsLines true ("<h" ++ toString level).toList = true := by
    have hopen : keepsLines true "<h".toList = true := by decide
    rw [String.toList_append]
    exact keepsLines_append hopen
      (keepsLines_of_quotable (quotable_of_plain (plain_int level)))
  have hnamed := hputs.emitAt ("<h" ++ toString level) (by rw [hfresh]; exact hname)
  have hnamedFlag : (line.emit ("<h" ++ toString level)).atLineStart = false := by
    rw [atLineStart_emit, hflag]
  dsimp only
  generalize line.emit ("<h" ++ toString level) = named at hnamed hnamedFlag ⊢
  -- the class of the first heading and the quote of the identifier stay on the line
  have hclass : ∃ own, w.Puts "" own (if named.titled then named
      else { named with titled := true }.emit " class=\"title\"") := by
    split
    · exact ⟨_, hnamed⟩
    · have htitled : w.Puts "" _ { named with titled := true } :=
        hnamed.of_same rfl rfl rfl rfl rfl
      exact ⟨_, htitled.emit " class=\"title\"" (by decide)⟩
  have hclassFlag : (if named.titled then named
      else { named with titled := true }.emit " class=\"title\"").atLineStart = false := by
    split
    · exact hnamedFlag
    · rw [atLineStart_emit]
      exact hnamedFlag
  generalize (if named.titled then named
    else { named with titled := true }.emit " class=\"title\"") = classed at hclass hclassFlag ⊢
  obtain ⟨own', hclass⟩ := hclass
  have hopen : (classed.emit " id=\"").atLineStart = false := by
    rw [atLineStart_emit, hclassFlag]
  refine ⟨_, classed.emit " id=\"", ⟨hclass.emit " id=\"" (by decide), fun hfresh => ?_⟩, hopen, ?_⟩
  · rw [hopen] at hfresh
    exact Bool.noConfusion hfresh
  · cases hheld : classed.held <;> simp [Writer.emit, hheld]

/-! ## The ends of constructs -/

/-- A code block that is collected ends with what the highlighter made of it, and with the escaped
code where it declines. -/
theorem puts_flushCode (highlighter : Option Highlighter) (w : Writer) :
    ∃ own, w.Puts (w.highlighted highlighter) own (w.flushCode highlighter) := by
  have hclosed : w.Extends "" { w with code := none } :=
    (Extends.refl w).of_same rfl rfl rfl rfl rfl
  unfold flushCode highlighted
  cases w.code with
  | none => exact ⟨_, Puts.refl w⟩
  | some block =>
      cases highlighter with
      | none => exact ⟨_, Puts.refl w⟩
      | some highlight =>
          dsimp only
          cases highlight block.content block.language with
          | some markup =>
              have hforeign := Puts.of_extends ((hclosed.emit markup).congr String.empty_append)
              exact ⟨_, hforeign.of_same rfl rfl rfl rfl rfl⟩
          | none =>
              have hcode := (Puts.of_extends hclosed).emit _
                (keepsLines_of_quotable (quotable_escape block.content))
              exact ⟨_, hcode.of_same rfl rfl rfl rfl rfl⟩

/-- The end of a code block, with the code that was collected. -/
theorem lays_stopCode (highlighter : Option Highlighter) (info : Option String) (w : Writer) :
    ∃ own, w.Lays (w.highlighted highlighter) own (w.stopTag highlighter (.codeBlock info)) := by
  obtain ⟨own, hflush⟩ := puts_flushCode highlighter w
  exact ⟨_, hflush.ends "</code></pre>\n" (by decide) rfl⟩

/-- The end of a heading that does not wait. -/
theorem lays_stopHeading (highlighter : Option Highlighter) (level : Int) {w : Writer}
    (hsettled : w.awaitingHeadingText = false) :
    ∃ own, w.Lays "" own (w.stopTag highlighter (.heading level)) := by
  have hname : keepsLines false ("</h" ++ toString level ++ ">\n").toList = true := by
    rw [String.toList_append, String.toList_append]
    exact keepsLines_row (keepsLines_row (by decide)
      (keepsLines_of_quotable (quotable_of_plain (plain_int level)))) (by decide)
  rw [stopTag, if_neg (by simp [hsettled])]
  refine lays_write w _ hname ?_
  rw [Bool.eq_false_iff, Ne, String.isEmpty_iff]
  exact fun hempty => absurd (String.append_eq_empty_iff.mp hempty).2 (by decide)

/-- The end of a definition does not tell that it ends a line, although it does. -/
theorem lays_stopDefinition (highlighter : Option Highlighter) (label : String) (w : Writer) :
    ∃ own, w.Lays "" own (w.stopTag highlighter (.footnoteDefinition label)) := by
  have houtside : w.Puts "" "" { w with inDefinition := false } :=
    (Puts.refl w).of_same rfl rfl rfl rfl rfl
  have hlink : keepsLines false
      (" <a href=\"#r." ++ escape label ++ "\">↩</a></p>\n").toList = true := by
    rw [String.toList_append, String.toList_append]
    exact keepsLines_row (keepsLines_row (by decide)
      (keepsLines_of_quotable (quotable_escape label))) (by decide)
  refine ⟨_, houtside.emit _ hlink, fun _ => ?_⟩
  rw [← String.append_assoc, ← String.append_assoc]
  exact freshAfter_of_endsLine _ _ rfl

/-- The end of any other construct. -/
theorem lays_stopTag (highlighter : Option Highlighter) (w : Writer) :
    ∀ tag : Tag, tag.isCode = false → (∀ level, tag ≠ .heading level) →
      ∃ own, w.Lays "" own (w.stopTag highlighter tag)
  | .paragraph, _, _ => by
      unfold stopTag
      dsimp only
      split
      · exact ⟨_, Lays.refl w⟩
      · exact lays_write w "</p>\n" (by decide) rfl
  | .heading level, _, hheading => absurd rfl (hheading level)
  | .blockQuote, _, _ => lays_write w "</blockquote>\n" (by decide) rfl
  | .codeBlock _, hcode, _ => absurd hcode (by simp [Tag.isCode])
  | .list none, _, _ => lays_write w "</ul>\n" (by decide) rfl
  | .list (some _), _, _ => lays_write w "</ol>\n" (by decide) rfl
  | .item, _, _ => lays_write w "</li>\n" (by decide) rfl
  | .footnoteDefinition label, _, _ => lays_stopDefinition highlighter label w
  | .table _, _, _ => lays_write w "</tbody></table>\n" (by decide) rfl
  | .tableHead, _, _ => by
      have hclose := (Puts.refl w).ends "</tr></thead><tbody>\n" (by decide) rfl
      exact ⟨_, hclose.of_same rfl rfl rfl rfl rfl rfl⟩
  | .tableRow, _, _ => lays_write w "</tr>\n" (by decide) rfl
  | .tableCell, _, _ => by
      have hend : keepsLines false (if w.inTableHead then "</th>" else "</td>" : String).toList
          = true ∧ (if w.inTableHead then "</th>" else "</td>" : String).isEmpty = false := by
        split <;> exact ⟨by decide, rfl⟩
      have hclose := (Puts.refl w).ends _ hend.1 hend.2
      exact ⟨_, hclose.of_same rfl rfl rfl rfl rfl rfl⟩
  | .emphasis, _, _ => lays_write w "</em>" (by decide) rfl
  | .strong, _, _ => lays_write w "</strong>" (by decide) rfl
  | .strikethrough, _, _ => lays_write w "</del>" (by decide) rfl
  | .link _ _ _, _, _ => lays_write w "</a>" (by decide) rfl
  | .image _ _, _, _ => ⟨_, Lays.refl w⟩

/-! ## Events that enclose nothing -/

/-- Raw HTML, of which nothing is the writer's own. -/
theorem lays_html (content : String) (w : Writer) : w.Lays content "" (w.write content) := by
  have hputs : w.Puts content "" (w.write content) :=
    Puts.of_extends (((Extends.refl w).write content).congr String.empty_append)
  refine ⟨hputs, fun hfresh => ?_⟩
  unfold Writer.write at hfresh
  split at hfresh
  · rename_i hempty
    rw [String.isEmpty_iff] at hempty
    subst hempty
    rwa [atLineStart_emit] at hfresh
  · rw [String.append_empty]
    simpa using freshAfter_of_endsLine "" w.atLineStart hfresh

/-- Text, where no heading waits: escaped, or collected for the highlighter. -/
theorem lays_text (content : String) {w : Writer} (hsettled : w.awaitingHeadingText = false) :
    ∃ own, w.Lays "" own (w.text content) := by
  unfold Writer.text
  rw [if_neg (by simp [hsettled])]
  dsimp only
  split
  · exact ⟨_, (Lays.refl w).of_same rfl rfl rfl rfl rfl rfl⟩
  · exact ⟨_, (Puts.refl w).writeText content⟩

theorem lays_footnoteReference (label : String) (w : Writer) :
    ∃ own, w.Lays "" own (w.footnoteReference label) := by
  have hcounted : w.Puts "" "" (w.footnoteNumber label).2 :=
    (Puts.refl w).of_same rfl rfl rfl rfl rfl
  have hopen : keepsLines false ("<sup class=\"footnote-reference\" id=\"r." ++ escape label ++
      "\"><a href=\"#f." ++ escape label).toList = true := by
    have hlabel := keepsLines_of_quotable (quotable_escape label)
    rw [String.toList_append, String.toList_append, String.toList_append]
    exact keepsLines_row (keepsLines_row (keepsLines_row (by decide) hlabel) (by decide)) hlabel
  have hnumber := ((hcounted.emit _ hopen).write "\">" (by decide)).emit _
    (keepsLines_of_quotable (quotable_of_plain (plain_nat (w.footnoteNumber label).1)))
  exact ⟨_, hnumber.ends "</a></sup>" (by decide) rfl⟩

/-- Any other event that encloses nothing. -/
theorem lays_leaf (highlighter : Option Highlighter) (standalone : Bool) (w : Writer) :
    ∀ leaf : Leaf, (∀ content, leaf ≠ .html content) →
      (∀ content, leaf = .text content → w.awaitingHeadingText = false) →
      ∃ own, w.Lays "" own (w.perform highlighter standalone leaf.event)
  | .text content, _, hsettled => lays_text content (hsettled content rfl)
  | .code content, _, _ => by
      have hcode := ((Puts.refl w).write "<code>" (by decide)).emit _
        (keepsLines_of_quotable (quotable_escape content))
      exact ⟨_, hcode.ends "</code>" (by decide) rfl⟩
  | .html content, hhtml, _ => absurd rfl (hhtml content)
  | .softBreak, _, _ => by
      have hstart : w.Puts "" "" { w with atLineStart := true } :=
        (Puts.refl w).of_same rfl rfl rfl rfl rfl
      exact ⟨_, hstart.emit "\n" (by decide), fun _ => rfl⟩
  | .hardBreak, _, _ => lays_write w "<br />\n" (by decide) rfl
  | .rule, _, _ => lays_writeBlock w "<hr />\n" (by decide) rfl
  | .footnoteReference label, _, _ => lays_footnoteReference label w
  | .taskMarker true, _, _ =>
      lays_write w "<input disabled=\"\" type=\"checkbox\" checked=\"\"/>\n" (by decide) rfl
  | .taskMarker false, _, _ =>
      lays_write w "<input disabled=\"\" type=\"checkbox\"/>\n" (by decide) rfl

/-! ## Images -/

theorem lays_startImage (dest title : String) (standalone : Bool) (w : Writer) :
    ∃ own w', w.Lays "" own w' ∧
      w.startImage dest title standalone = { w' with image := some ⟨title, standalone, 0⟩ } := by
  have hfront : ∃ own, w.Puts "" own
      (if standalone then w.write "<div class=\"image-container\">\n" else w) := by
    split
    · exact ⟨_, (Puts.refl w).write "<div class=\"image-container\">\n" (by decide)⟩
    · exact ⟨_, Puts.refl w⟩
  obtain ⟨own, hfront⟩ := hfront
  have hsource := (hfront.write "<img src=\"" (by decide)).emit _
    (keepsLines_of_quotable (quotable_escapeHref dest))
  exact ⟨_, _, hsource.ends "\" alt=\"" (by decide) rfl, rfl⟩

/-- What an event adds to the text in place of an image. -/
theorem lays_mention (image : OpenImage) (w : Writer) :
    ∀ leaf : Leaf, ∃ own, w.Lays "" own (w.altStep image leaf.event)
  | .text content => ⟨_, (Puts.refl w).writeText content⟩
  | .code content => ⟨_, (Puts.refl w).writeText content⟩
  | .html content => ⟨_, (Puts.refl w).writeText content⟩
  | .softBreak => lays_write w " " (by decide) rfl
  | .hardBreak => lays_write w " " (by decide) rfl
  | .rule => lays_write w " " (by decide) rfl
  | .footnoteReference label => by
      have hcounted : w.Puts "" "" (w.footnoteNumber label).2 :=
        (Puts.refl w).of_same rfl rfl rfl rfl rfl
      have hnumber : keepsLines false
          ("[" ++ toString (w.footnoteNumber label).1 ++ "]").toList = true := by
        rw [String.toList_append, String.toList_append]
        exact keepsLines_row (keepsLines_row (by decide)
          (keepsLines_of_quotable (quotable_of_plain (plain_nat _)))) (by decide)
      refine ⟨_, hcounted.ends _ hnumber ?_⟩
      rw [Bool.eq_false_iff, Ne, String.isEmpty_iff]
      exact fun hempty => absurd (String.append_eq_empty_iff.mp hempty).2 (by decide)
  | .taskMarker checked => by
      have hbox : keepsLines false (if checked then "[x]" else "[ ]" : String).toList = true ∧
          (if checked then "[x]" else "[ ]" : String).isEmpty = false := by
        split <;> exact ⟨by decide, rfl⟩
      exact lays_write w _ hbox.1 hbox.2

/-- The end of an image. After a figure a paragraph begins, on the line after its caption. -/
theorem lays_finishImage (image : OpenImage) (w : Writer) :
    ∃ own, { w with image := none }.Lays "" own (w.finishImage image) := by
  unfold finishImage
  dsimp only
  generalize ({ w with image := none } : Writer) = closed
  have htitle : ∃ own, closed.Puts "" own (if image.title.isEmpty then closed
      else (closed.write "\" title=\"").emit (escape image.title)) := by
    split
    · exact ⟨_, Puts.refl closed⟩
    · exact ⟨_, ((Puts.refl closed).write "\" title=\"" (by decide)).emit _
        (keepsLines_of_quotable (quotable_escape image.title))⟩
  obtain ⟨own, htitle⟩ := htitle
  split
  · have hcaption := ((htitle.write "\" />" (by decide)).write
      "\n<div class=\"image-caption\">" (by decide)).emit _
        (keepsLines_of_quotable (quotable_escape image.title))
    have hdivs := (hcaption.write "</div>\n" (by decide)).write "</div>\n" (by decide)
    refine ⟨_, hdivs.endsAt "<p>\n" ?_ rfl⟩
    rw [← String.append_assoc, freshAfter_of_endsLine _ _ rfl]
    decide
  · exact ⟨_, htitle.ends "\" />" (by decide) rfl⟩

/-! ## Events -/

/-- What an event does once no heading is in its way: inside an image it belongs to the text in place
of the image. -/
def act (highlighter : Option Highlighter) (standalone : Bool) (event : Event) (w : Writer) :
    Writer :=
  match w.image with
  | some image => w.altStep image event
  | none => w.perform highlighter standalone event

/-- The writer `w'` is `w` after an event handed on its pieces. With it an image may begin or end, or
a heading begin, which leaves its line open. -/
structure Delivers (w : Writer) (foreign own : String) (w' : Writer) : Prop where
  lays : { w with awaitingHeadingText := w'.awaitingHeadingText, image := w'.image }.Lays
    foreign own w'
  heading : w'.awaitingHeadingText = w.awaitingHeadingText ∨
    (w'.awaitingHeadingText = true ∧ w'.atLineStart = false ∧ w'.image = none)

/-- Whether a heading waits and which image is open has no part in what is laid. -/
theorem Lays.setPlace (h : w.Lays foreign own w') (awaiting : Bool) (image : Option OpenImage) :
    { w with awaitingHeadingText := awaiting, image := image }.Lays foreign own
      { w' with awaitingHeadingText := awaiting, image := image } :=
  ⟨⟨⟨rfl, h.puts.grows.anchors, rfl, h.puts.grows.page, h.puts.grows.held⟩, h.puts.lines⟩, h.fresh⟩

theorem Lays.delivers (h : w.Lays foreign own w') (image : Option OpenImage) :
    w.Delivers foreign own { w' with image := image } :=
  ⟨h.setPlace w'.awaitingHeadingText image, .inl h.puts.grows.awaiting⟩

/-- Outside of images an event that does not settle a heading hands on what is its own. -/
theorem delivers_perform (highlighter : Option Highlighter) (standalone : Bool) (event : Event)
    (himage : w.image = none)
    (hevent : w.awaitingHeadingText = true → headingText? event = none) :
    ∃ own, w.Delivers (w.foreign highlighter event) own
      (w.perform highlighter standalone event) := by
  -- an event that hands on nothing foreign
  have hown : w.foreign highlighter event = "" →
      (∃ own, w.Lays "" own (w.perform highlighter standalone event)) →
      ∃ own, w.Delivers (w.foreign highlighter event) own
        (w.perform highlighter standalone event) := by
    rintro hforeign ⟨own, hlays⟩
    rw [hforeign]
    exact ⟨own, hlays.delivers _⟩
  have hsettled : ∀ text, headingText? event = some text → w.awaitingHeadingText = false := by
    intro text htext
    cases hwaits : w.awaitingHeadingText with
    | false => rfl
    | true => exact absurd (hevent hwaits) (by simp [htext])
  have hleaf : ∀ leaf : Leaf, event = leaf.event → (∀ content, leaf ≠ .html content) →
      ∃ own, w.Delivers (w.foreign highlighter event) own
        (w.perform highlighter standalone event) := by
    rintro leaf rfl hhtml
    refine hown ?_ (lays_leaf highlighter standalone w leaf hhtml ?_)
    · cases leaf <;> simp_all [foreign, Leaf.event]
    · rintro content rfl
      exact hsettled content rfl
  cases event with
  | start tag =>
      have hforeign : w.foreign highlighter (.start tag) = "" := by simp [foreign, himage]
      have hstart : tag.holdsLine = false → _ := fun hline =>
        hown hforeign (lays_startTag highlighter standalone w tag hline)
      cases tag with
      | heading level =>
          obtain ⟨own, w', hlays, hline, hstart⟩ := lays_startHeading level w
          rw [hforeign, perform, startTag, hstart]
          exact ⟨own, hlays.setPlace true w'.image,
            .inr ⟨rfl, hline, hlays.puts.grows.image.trans himage⟩⟩
      | image dest title =>
          obtain ⟨own, w', hlays, hstart⟩ := lays_startImage dest title standalone w
          rw [hforeign, perform, startTag, hstart]
          exact ⟨own, hlays.delivers _⟩
      | _ => exact hstart rfl
  | stop tag =>
      have hstop : tag.isCode = false → (∀ level, tag ≠ .heading level) → _ := fun hcode hheading =>
        hown (by cases tag <;> simp_all [foreign, Tag.isCode])
          (lays_stopTag highlighter w tag hcode hheading)
      cases tag with
      | heading level =>
          exact hown (by simp [foreign, himage])
            (lays_stopHeading highlighter level (hsettled "" rfl))
      | codeBlock info =>
          have hforeign : w.foreign highlighter (.stop (.codeBlock info))
              = w.highlighted highlighter := by
            simp [foreign, himage]
          obtain ⟨own, hlays⟩ := lays_stopCode highlighter info w
          rw [hforeign]
          exact ⟨own, hlays.delivers _⟩
      | _ => exact hstop rfl (by simp)
  | html content =>
      have hforeign : w.foreign highlighter (.html content) = content := by
        simp [foreign, himage]
      rw [hforeign]
      exact ⟨"", (lays_html content w).delivers _⟩
  | text content => exact hleaf (.text content) rfl (by simp)
  | code content => exact hleaf (.code content) rfl (by simp)
  | softBreak => exact hleaf .softBreak rfl (by simp)
  | hardBreak => exact hleaf .hardBreak rfl (by simp)
  | rule => exact hleaf .rule rfl (by simp)
  | footnoteReference label => exact hleaf (.footnoteReference label) rfl (by simp)
  | taskMarker checked => exact hleaf (.taskMarker checked) rfl (by simp)

theorem delivers_finishImage (image : OpenImage) (w : Writer) :
    ∃ own, w.Delivers "" own (w.finishImage image) := by
  obtain ⟨own, hlays⟩ := lays_finishImage image w
  exact ⟨own, hlays.setPlace (w.finishImage image).awaitingHeadingText _,
    .inl hlays.puts.grows.awaiting⟩

/-- Inside an image all is the writer's own, and so is the image's end. -/
theorem delivers_altStep (image : OpenImage) (event : Event) (w : Writer) :
    ∃ own, w.Delivers "" own (w.altStep image event) := by
  have hleaf : ∀ leaf : Leaf, event = leaf.event →
      ∃ own, w.Delivers "" own (w.altStep image event) := by
    rintro leaf rfl
    obtain ⟨own, hlays⟩ := lays_mention image w leaf
    exact ⟨own, hlays.delivers _⟩
  cases event with
  | start tag => exact ⟨"", (Lays.refl w).delivers _⟩
  | stop tag =>
      unfold altStep
      dsimp only
      split
      · exact delivers_finishImage image w
      · exact ⟨"", (Lays.refl w).delivers _⟩
  | text content => exact hleaf (.text content) rfl
  | code content => exact hleaf (.code content) rfl
  | html content => exact hleaf (.html content) rfl
  | softBreak => exact hleaf .softBreak rfl
  | hardBreak => exact hleaf .hardBreak rfl
  | rule => exact hleaf .rule rfl
  | footnoteReference label => exact hleaf (.footnoteReference label) rfl
  | taskMarker checked => exact hleaf (.taskMarker checked) rfl

/-- An event that does not settle a heading hands on what is foreign to the writer and its own. -/
theorem delivers_act (highlighter : Option Highlighter) (standalone : Bool) (event : Event)
    (hevent : w.image = none → w.awaitingHeadingText = true → headingText? event = none) :
    ∃ own, w.Delivers (w.foreign highlighter event) own (w.act highlighter standalone event) := by
  unfold act
  cases himage : w.image with
  | none => exact delivers_perform highlighter standalone event himage (hevent himage)
  | some image =>
      have hforeign : w.foreign highlighter event = "" := by simp [foreign, himage]
      rw [hforeign]
      exact delivers_altStep image event w

end Writer

end StaticSite.Html
