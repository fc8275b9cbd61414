import StaticSite.Proofs.Html.Reading

/-!
# What a page under way shows

A page is written piece by piece, and for as long as a heading has no text its pieces are held back
while the attribute with its identifier stays open. `Writer.Shows` tells what a page will be read as
once the identifier is there, so that the writing of a piece has the same effect with and without a
heading that waits.

## What this module delivers

- `Writer.Shows`: the lexeme under way at the end of a page, and the tags before it.
- `Setting`, `Writer.Fits`: what surrounds the place at which the writer is.
- `Writer.At`, with `At.emit`, `At.write`, `At.writeText` and `At.writeBlock`: the writer may write,
  and what a written piece adds to what the page shows.
- `Writer.Between`, `Between.prepare`, `Between.settle`: the writer between two events, and how an
  open heading gets out of the way of the next one.
-/

set_option autoImplicit false

namespace StaticSite.Html

open StaticSite.Markdown

/-! ## What a page shows -/

/-- The tags that begin a heading: its element, and in it the link to the heading itself. -/
def headingTags (level : Fin 6) : List Mark :=
  .opens (headingName level) :: enclosed "a" []

/-- Whether an attribute list may precede the identifier of a heading. -/
def precedesIdentifier (level : Fin 6) (before : List Attribute) : Prop :=
  ∀ identifier, (Lexeme.opening (headingName level) (before ++ [⟨"id", identifier⟩])).isWritten

/-- The lexeme under way at the end of a page and the tags before it. Where a heading waits for its
text, the page ends in the middle of the heading's identifier, and what is held back follows the
heading's tags. -/
inductive Writer.Shows (w : Writer) : LexMode → List Mark → Prop where
  | settled {mode : LexMode} {tags : List Mark} (hawaiting : w.awaitingHeadingText = false)
      (hheld : w.held = none) (hpage : Reads .text w.page mode tags) : Shows w mode tags
  | awaiting {mode : LexMode} {before inside : List Mark} {level : Fin 6}
      {attributes : List Attribute} (hawaiting : w.awaitingHeadingText = true)
      (hattributes : precedesIdentifier level attributes)
      (hpage : Reads .text w.page (.value ⟨headingName level, attributes⟩ "id" []) before)
      (hheld : Reads .text (String.join (w.held.getD [])) mode inside) :
      Shows w mode (before ++ (headingTags level ++ inside))

/-- What surrounds the place at which a page is written. -/
structure Setting where
  inDefinition : Bool := false
  inHeading : Bool := false
  /-- Inside a table, whether the row is the table's head. -/
  inTableHead : Option Bool := none

/-- The writer knows what surrounds it and which image is open; no code is collected. -/
structure Writer.Fits (w : Writer) (s : Setting) (image : Option OpenImage) : Prop where
  definition : w.inDefinition = s.inDefinition
  heading : w.awaitingHeadingText = true → s.inHeading = true
  tableHead : ∀ inHead, s.inTableHead = some inHead → w.inTableHead = inHead
  image : w.image = image
  code : w.code = none

/-- The writer may write: if a heading waits for its text, what is written is held back. -/
structure Writer.At (w : Writer) (s : Setting) (image : Option OpenImage) (mode : LexMode)
    (tags : List Mark) : Prop where
  fits : w.Fits s image
  shows : w.Shows mode tags
  holds : w.awaitingHeadingText = true → w.held.isSome

/-- The writer between two events outside of images. -/
structure Writer.Between (w : Writer) (s : Setting) (tags : List Mark) : Prop where
  fits : w.Fits s none
  shows : w.Shows .text tags

namespace Writer

variable {w : Writer} {s : Setting} {image : Option OpenImage} {mode mode' : LexMode}
  {tags more : List Mark} {text : String}

theorem At.congr (h : w.At s image mode tags) (htags : tags = more) : w.At s image mode more :=
  htags ▸ h

theorem At.between (h : w.At s none .text tags) : w.Between s tags :=
  ⟨h.fits, h.shows⟩

/-! ## Writing pieces -/

theorem page_push (written : Array String) (text : String) :
    String.join (written.push text).toList = String.join written.toList ++ text := by
  rw [Array.toList_push, String.join_append]
  simp

theorem Fits.emit (h : w.Fits s image) : (w.emit text).Fits s image := by
  unfold Writer.emit
  split
  · exact ⟨h.definition, h.heading, h.tableHead, h.image, h.code⟩
  · exact ⟨h.definition, h.heading, h.tableHead, h.image, h.code⟩

/-- A piece that is written adds its tags to what the page shows, and moves its mode. -/
theorem At.emit (h : w.At s image mode tags) (htext : Reads mode text mode' more) :
    (w.emit text).At s image mode' (tags ++ more) := by
  refine ⟨h.fits.emit, ?_, ?_⟩
  · cases h.shows with
    | settled hawaiting hheld hpage =>
        -- nothing is held back, so the piece goes to the page
        have hpage' : Reads .text (w.emit text).page mode' (tags ++ more) := by
          simp only [Writer.emit, hheld, Writer.page, page_push]
          exact hpage.append htext
        refine .settled ?_ ?_ hpage'
        · simp only [Writer.emit, hheld, hawaiting]
        · simp only [Writer.emit, hheld]
    | @awaiting before inside level attributes hawaiting hattributes hpage hheld =>
        -- the piece joins those that are held back, and the page stays as it is
        obtain ⟨pieces, hpieces⟩ := Option.isSome_iff_exists.mp (h.holds hawaiting)
        have hheld' : Reads .text (String.join ((w.emit text).held.getD [])) mode'
            (inside ++ more) := by
          simp only [Writer.emit, hpieces, Option.getD_some, String.join_append] at hheld ⊢
          simpa using hheld.append htext
        have hpage' : Reads .text (w.emit text).page
            (.value ⟨headingName level, attributes⟩ "id" []) before := by
          simpa only [Writer.emit, hpieces, Writer.page] using hpage
        have hawaiting' : (w.emit text).awaitingHeadingText = true := by
          simpa only [Writer.emit, hpieces] using hawaiting
        have hshows := Shows.awaiting hawaiting' hattributes hpage' hheld'
        simpa only [List.append_assoc] using hshows
  · intro hawaiting
    unfold Writer.emit at hawaiting ⊢
    split at hawaiting
    · rename_i pieces hpieces
      simp
    · rename_i hnone
      have hsome := h.holds hawaiting
      rw [hnone] at hsome
      exact absurd hsome (by simp)

/-- What a page shows depends on nothing but what was written and what is held back. -/
theorem Shows.same {w' : Writer} (h : w.Shows mode tags) (hwritten : w'.written = w.written)
    (hheld : w'.held = w.held) (hawaiting : w'.awaitingHeadingText = w.awaitingHeadingText) :
    w'.Shows mode tags := by
  have hpage : w'.page = w.page := by rw [Writer.page, Writer.page, hwritten]
  cases h with
  | settled hsettled hnone hread =>
      exact .settled (hawaiting.trans hsettled) (hheld.trans hnone) (hpage ▸ hread)
  | awaiting hwaits hattributes hread hinside =>
      exact .awaiting (hawaiting.trans hwaits) hattributes (hpage ▸ hread) (hheld ▸ hinside)

/-- What the writer remembers of neither the page nor its place may be anything. -/
theorem At.remember (h : w.At s image mode tags) (atLineStart titled : Bool)
    (footnotes : FootnoteNumbers) (alignments : List ColumnAlignment) (column : Nat) :
    { w with
      atLineStart := atLineStart, titled := titled, footnotes := footnotes,
      alignments := alignments, column := column }.At s image mode tags :=
  ⟨⟨h.fits.definition, h.fits.heading, h.fits.tableHead, h.fits.image, h.fits.code⟩,
    h.shows.same rfl rfl rfl, h.holds⟩

theorem At.lineStart (h : w.At s image mode tags) (atLineStart : Bool) :
    { w with atLineStart := atLineStart }.At s image mode tags :=
  h.remember atLineStart w.titled w.footnotes w.alignments w.column

theorem At.footnote (h : w.At s image mode tags) (label : String) :
    (w.footnoteNumber label).2.At s image mode tags :=
  h.remember w.atLineStart w.titled (w.footnotes.number label).2 w.alignments w.column

/-- An image may begin, change or end wherever the writer is. -/
theorem At.setImage (h : w.At s image mode tags) (image' : Option OpenImage) :
    { w with image := image' }.At s image' mode tags :=
  ⟨⟨h.fits.definition, h.fits.heading, h.fits.tableHead, rfl, h.fits.code⟩,
    h.shows.same rfl rfl rfl, h.holds⟩

theorem At.write (h : w.At s image mode tags) (htext : Reads mode text mode' more) :
    (w.write text).At s image mode' (tags ++ more) := by
  unfold Writer.write
  have hemit := h.emit htext
  split
  · exact hemit
  · exact hemit.lineStart _

theorem At.writeText (h : w.At s image .text tags) (text : String) :
    (w.writeText text).At s image .text tags := by
  have hemit := (h.emit (reads_escape text)).lineStart (endsLine text)
  rwa [List.append_nil] at hemit

/-- The number of a footnote is read as characters. -/
theorem At.writeNumber (h : w.At s image .text tags) (label : String) :
    ((w.footnoteNumber label).2.emit (toString (w.footnoteNumber label).1)).At s image .text tags :=
  ((h.footnote label).emit (reads_plain (plain_nat _))).congr (List.append_nil tags)

/-- A line end before a block is read as a character. -/
theorem At.writeBlock (h : w.At s image .text tags) (htext : Reads .text text mode' more) :
    (w.writeBlock text).At s image mode' (tags ++ more) := by
  apply h.write
  split
  · exact (Reads.empty .text).append htext
  · have hend : Reads .text "\n" .text [] := ⟨_, rfl, rfl, rfl⟩
    exact hend.append htext

/-! ## Headings -/

theorem emit_of_settled (hheld : w.held = none) :
    w.emit text = { w with written := w.written.push text } := by
  rw [Writer.emit, hheld]

/-- Pieces that were held back are written as they are. -/
theorem foldl_emit (pieces : List String) :
    ∀ w : Writer, w.held = none →
      ∃ written, pieces.foldl (fun w piece => w.emit piece) w = { w with written := written } ∧
        String.join written.toList = w.page ++ String.join pieces := by
  induction pieces with
  | nil => exact fun w _ => ⟨w.written, rfl, by simp [Writer.page]⟩
  | cons piece rest ih =>
      intro w hheld
      obtain ⟨written, hfold, hjoin⟩ := ih (w.emit piece) (by rw [emit_of_settled hheld]; exact hheld)
      refine ⟨written, ?_, ?_⟩
      · rw [List.foldl_cons, hfold, emit_of_settled hheld]
      · rw [hjoin, emit_of_settled hheld, Writer.page, page_push, String.join_cons,
          String.append_assoc]
        rfl

/-- What completes an open identifier: the rest of the heading's first tag, and the link to the
heading. -/
def identifierText (identifier : String) : String :=
  identifier ++ "\">" ++ ("<a class=\"anchor\" href=\"#" ++ identifier ++ "\">¶</a>")

theorem reads_identifierText {identifier : String} (h : isPlain identifier.toList) {level : Fin 6}
    {attributes : List Attribute} (hattributes : precedesIdentifier level attributes) :
    Reads (.value ⟨headingName level, attributes⟩ "id" []) (identifierText identifier) .text
      (headingTags level) := by
  have hquotable := quotable_of_plain h
  have hfirst := reads_quotable hquotable ⟨headingName level, attributes⟩ "id" []
  have hend : Reads (.value ⟨headingName level, attributes⟩ "id" ([] ++ identifier.toList)) "\">"
      .text [.opens (headingName level)] :=
    ⟨_, rfl, by simpa using hattributes _, rfl⟩
  have hlink : Reads .text "<a class=\"anchor\" href=\"#"
      (.value ⟨"a", [⟨"class", "anchor"⟩]⟩ "href" ['#']) [] := ⟨_, rfl, rfl, rfl⟩
  have htarget := reads_quotable hquotable ⟨"a", [⟨"class", "anchor"⟩]⟩ "href" ['#']
  have hsign : Reads (.value ⟨"a", [⟨"class", "anchor"⟩]⟩ "href" (['#'] ++ identifier.toList))
      "\">¶</a>" .text [.opens "a", .closes "a"] := ⟨_, rfl, rfl, rfl⟩
  exact (hfirst.append hend).append ((hlink.append htarget).append hsign)

/-- Settling a heading writes the identifier and then what was held back. -/
theorem settleHeading_spec (w : Writer) (text : String) :
    ∃ written,
      w.settleHeading text = { w with
        awaitingHeadingText := false, held := none, written := written,
        anchors := (w.anchors.allocate text).2 } ∧
      String.join written.toList = w.page ++ identifierText (w.anchors.allocate text).1 ++
        String.join (w.held.getD []) := by
  obtain ⟨written, hfold, hjoin⟩ := foldl_emit (w.held.getD [])
    (({ w with
        awaitingHeadingText := false, held := none,
        anchors := (w.anchors.allocate text).2 }.emit
        ((w.anchors.allocate text).1 ++ "\">")).emit
        ("<a class=\"anchor\" href=\"#" ++ (w.anchors.allocate text).1 ++ "\">¶</a>")) rfl
  refine ⟨written, hfold, ?_⟩
  rw [hjoin, emit_of_settled rfl, emit_of_settled rfl, identifierText]
  simp only [Writer.page, page_push, String.append_assoc]

/-- Settling a heading's identifier leaves what the page shows, and no heading waits any more. -/
theorem settle (hfits : w.Fits s image) (hshows : w.Shows mode tags)
    (hwaits : w.awaitingHeadingText = true) (text : String) :
    (w.settleHeading text).At s image mode tags ∧
      (w.settleHeading text).awaitingHeadingText = false := by
  cases hshows with
  | settled hawaiting hheld hpage => exact absurd hwaits (by simp [hawaiting])
  | @awaiting before inside level attributes hawaiting hattributes hpage hheld =>
      have hidentifier := reads_identifierText (plain_allocate w.anchors text) hattributes
      obtain ⟨written, hsettled, hjoin⟩ := settleHeading_spec w text
      -- the identifier is read from where the page ends, and what is held back from there on
      have hall := (hpage.append hidentifier).append hheld
      rw [← hjoin, List.append_assoc] at hall
      rw [hsettled]
      refine ⟨⟨⟨hfits.definition, ?_, hfits.tableHead, hfits.image, hfits.code⟩, ?_, ?_⟩, rfl⟩
      · exact fun h => absurd h (by simp)
      · exact .settled rfl rfl hall
      · exact fun h => absurd h (by simp)

/-! ## Between events -/

/-- Holding back from now on leaves what the page of a waiting heading shows. -/
theorem Shows.hold (h : w.Shows mode tags) (hwaits : w.awaitingHeadingText = true)
    (hheld : w.held = none) : { w with held := some [] }.Shows mode tags := by
  cases h with
  | settled hawaiting _ _ => exact absurd hwaits (by simp [hawaiting])
  | awaiting hawaiting hattributes hpage hinside =>
      rw [hheld] at hinside
      exact .awaiting hawaiting hattributes hpage hinside

/-- The next event, unless it is text, finds no heading in its way: a heading that waits is settled
by code, and what any other event writes is held back. -/
theorem Between.prepare (h : w.Between s tags) (event : Event)
    (hevent : ∀ content, event ≠ .text content) :
    (w.prepareHeading event).At s none .text tags := by
  unfold Writer.prepareHeading
  split
  · rename_i hwaits
    split
    · exact absurd rfl (hevent _)
    · exact (settle h.fits h.shows hwaits _).1
    · split
      · rename_i hheld
        exact ⟨⟨h.fits.definition, h.fits.heading, h.fits.tableHead, h.fits.image, h.fits.code⟩,
          h.shows.hold hwaits (by simpa using hheld), fun _ => rfl⟩
      · rename_i hheld
        refine ⟨h.fits, h.shows, fun _ => ?_⟩
        simpa [Option.ne_none_iff_isSome] using hheld
  · rename_i hsettled
    exact ⟨h.fits, h.shows, fun hwaits => absurd hwaits hsettled⟩

/-- Outside of headings the page is read as far as it is written. -/
theorem Between.page (h : w.Between s tags) (hs : s.inHeading = false) :
    Reads .text w.page .text tags := by
  cases h.shows with
  | settled _ _ hpage => exact hpage
  | awaiting hwaits _ _ _ => exact absurd (h.fits.heading hwaits) (by simp [hs])

/-- Text settles a heading that waits. -/
theorem Between.settle (h : w.Between s tags) (content : String) :
    (if w.awaitingHeadingText then w.settleHeading content else w).At s none .text tags := by
  split
  · rename_i hwaits
    exact (Writer.settle h.fits h.shows hwaits content).1
  · rename_i hsettled
    exact ⟨h.fits, h.shows, fun hwaits => absurd hwaits hsettled⟩

end Writer

end StaticSite.Html
