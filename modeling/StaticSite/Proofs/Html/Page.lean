import StaticSite.Proofs.Html.BlockContent

/-!
# The page of a document

Every page is read to its end as text and tags: each construct of the document writes tags that
balance, and everything that the document brings along is written so that it stays what it is.

## What this module delivers

- `writes_block`, `writes_part`, `writes_document`: what a tree writes, by induction.
- `render_documentEvents`: the page of every document, as it is read again.
-/

set_option autoImplicit false

namespace StaticSite.Html

open StaticSite.Markdown

/-! ## Blocks -/

theorem writes_rule {s : Setting} : Writes s [.rule] [.stands "hr"] s :=
  Writes.blockTag "<hr />\n" (by simp) (fun _ => rfl) ⟨_, rfl, rfl, rfl⟩

mutual

/-- A block writes its tags, inside a footnote's definition and outside. -/
theorem writes_block (d : Bool) :
    ∀ block : Block, Writes (.flow d) block.tree.events (block.tags d) (.flow d)
  | .inline content => writes_inline content
  | .paragraph content => writes_paragraph content
  | .heading level content => writes_heading level content
  | .blockQuote content =>
      Writes.block "<blockquote>\n" "</blockquote>\n" (fun _ => rfl) (fun _ => rfl)
        ⟨_, rfl, rfl, rfl⟩ ⟨_, rfl, rfl, rfl⟩ (writes_blocks d content)
  | .list first items =>
      (writes_listStart first).element (writes_items d items) (writes_listStop first)
  | .codeBlock info texts => writes_codeBlock info texts
  | .rule => writes_rule
  | .table alignments head rows => writes_table alignments head rows

theorem writes_blocks (d : Bool) :
    ∀ blocks : List Block,
      Writes (.flow d) (forestEvents (blockTrees blocks)) (blockTags d blocks) (.flow d)
  | [] => Writes.nil
  | block :: rest => (writes_block d block).append (writes_blocks d rest)

theorem writes_items (d : Bool) :
    ∀ items : List (List Block),
      Writes (.flow d) (forestEvents (itemTrees items)) (itemTags d items) (.flow d)
  | [] => Writes.nil
  | item :: rest =>
      (Writes.block "<li>" "</li>\n" (fun _ => rfl) (fun _ => rfl) ⟨_, rfl, rfl, rfl⟩
        ⟨_, rfl, rfl, rfl⟩ (writes_blocks d item)).append (writes_items d rest)

end

/-! ## Documents -/

theorem writes_definitionStart (label : String) :
    Writes (.flow false) [.start (.footnoteDefinition label)]
      (.opens "p" :: enclosed "sup" []) (.flow true) := by
  refine Writes.event (by simp) fun w before hw => ?_
  have hinside : { w with inDefinition := true }.At (.flow true) none .text before :=
    ⟨⟨rfl, hw.fits.heading, fun _ h => absurd h (by simp [Setting.flow]), hw.fits.image,
      hw.fits.code⟩, hw.shows.same rfl rfl rfl, hw.holds⟩
  have hopen : Reads .text "<p class=\"footnote\" id=\"f."
      (.value ⟨"p", [⟨"class", "footnote"⟩]⟩ "id" "f.".toList) [] := ⟨_, rfl, rfl, rfl⟩
  have hlabel := reads_quotable (quotable_escape label) ⟨"p", [⟨"class", "footnote"⟩]⟩ "id"
    "f.".toList
  have hnumberOpen : Reads (.value ⟨"p", [⟨"class", "footnote"⟩]⟩ "id"
      ("f.".toList ++ (escape label).toList)) "\"><sup>" .text [.opens "p", .opens "sup"] :=
    ⟨_, rfl, rfl, rfl⟩
  have hnumberClose : Reads .text "</sup> " .text [.closes "sup"] := ⟨_, rfl, rfl, rfl⟩
  have hbegun := ((hinside.writeBlock hopen).emit hlabel).write hnumberOpen
  have hall := (hbegun.writeNumber label).write hnumberClose
  exact (hall.congr (by simp [enclosed])).between

theorem writes_definitionStop (label : String) :
    Writes (.flow true) [.stop (.footnoteDefinition label)]
      (enclosed "a" [] ++ [Mark.closes "p"]) (.flow false) := by
  refine Writes.event (by simp) fun w before hw => ?_
  have houtside : { w with inDefinition := false }.At (.flow false) none .text before :=
    ⟨⟨rfl, hw.fits.heading, fun _ h => absurd h (by simp [Setting.flow]), hw.fits.image,
      hw.fits.code⟩, hw.shows.same rfl rfl rfl, hw.holds⟩
  have hopen : Reads .text " <a href=\"#r." (.value ⟨"a", []⟩ "href" "#r.".toList) [] :=
    ⟨_, rfl, rfl, rfl⟩
  have hlabel := reads_quotable (quotable_escape label) ⟨"a", []⟩ "href" "#r.".toList
  have hclose : Reads (.value ⟨"a", []⟩ "href" ("#r.".toList ++ (escape label).toList))
      "\">↩</a></p>\n" .text (enclosed "a" [] ++ [Mark.closes "p"]) := ⟨_, rfl, rfl, rfl⟩
  exact (houtside.emit ((hopen.append hlabel).append hclose)).between

/-- A part writes its tags. -/
theorem writes_part (part : Part) :
    Writes (.flow false) part.tree.events part.tags (.flow false) := by
  cases part with
  | block content => exact writes_block false content
  | definition label content =>
      have hall := (writes_definitionStart label).node (writes_blocks true content)
        (writes_definitionStop label)
      have htags : (Part.definition label content).tags
          = (Mark.opens "p" :: enclosed "sup" []) ++
            (blockTags true content ++ (enclosed "a" [] ++ [Mark.closes "p"])) := by
        simp [Part.tags, enclosed]
      rw [htags]
      exact hall

theorem writes_document (document : List Part) :
    Writes (.flow false) (documentEvents document) (documentTags document) (.flow false) := by
  induction document with
  | nil => exact Writes.nil
  | cons part rest ih => exact (writes_part part).append ih

/-- The page of a document is read to its end as text and tags of the writer's stock. The tags are
those of the constructs of the document; they balance, and what stands between them and in their
attributes is clean. The only documents left out are those with a paragraph that is nothing but an
image with one text. -/
theorem render_documentEvents (document : List Part)
    (h : document.all fun part => !part.hasPicture) :
    ∃ lexemes,
      lex (render none (documentEvents document)).toList = some lexemes ∧
      lexemes.flatMap Lexeme.spell = (render none (documentEvents document)).toList ∧
      (∀ lexeme ∈ lexemes, lexeme.isWritten ∧ lexeme.isClean) ∧
      marks lexemes = documentTags document ∧
      openElements [] (marks lexemes) = some [] := by
  -- a new writer has shown nothing, so what it shows in the end are the document's tags
  have hstart : ({} : Writer).Between (.flow false) [] := by
    refine ⟨⟨rfl, ?_, ?_, rfl, rfl⟩, .settled rfl rfl (Reads.empty .text)⟩
    · exact fun hwaits => absurd hwaits (by simp)
    · exact fun _ hrow => absurd hrow (by simp [Setting.flow])
  have hend := writes_document document {} [] hstart
  have hrun : Writer.ofEvents none (documentEvents document)
      = ({} : Writer).run (documentEvents document) := by
    rw [Writer.ofEvents, markStandalone_documentEvents document h, ← Writer.run, Writer.finish,
      hend.fits.image]
  have hpage : Reads .text (render none (documentEvents document)) .text
      (documentTags document) := by
    rw [render, hrun]
    exact hend.page rfl
  obtain ⟨lexemes, hlex, hwritten, hmarks⟩ := hpage.lex
  refine ⟨lexemes, hlex, spell_of_lex hlex, ?_, hmarks, ?_⟩
  · exact fun lexeme hmem => ⟨hwritten lexeme hmem, clean_of_lex hlex lexeme hmem⟩
  · rw [hmarks]
    exact (balanced_documentTags document).openElements

/-- A document with a heading, a table, a picture among words and a footnote, whose payloads are made
of characters that mean something on a page. -/
def sampleDocument : List Part :=
  [.block (.heading 0 [.emphasis [.text "a<b>"], .code "\"&\""]),
   .block (.paragraph [.image "x\"y" "<t>" [.text "al>t"], .footnoteReference "<1>"]),
   .block (.table [.left] [[.text "h"]] [[[.link .email "a&b" "\"" [.text "l"]]]]),
   .block (.list (some 3) [[.inline (.taskMarker true), .codeBlock (some "<c") ["</code>"]]]),
   .definition "<1>" [.paragraph [.text "&"]]]

theorem render_sampleDocument :
    (sampleDocument.all fun part => !part.hasPicture) = true ∧
    ∃ lexemes,
      lex (render none (documentEvents sampleDocument)).toList = some lexemes ∧
      lexemes.flatMap Lexeme.spell = (render none (documentEvents sampleDocument)).toList ∧
      (∀ lexeme ∈ lexemes, lexeme.isWritten ∧ lexeme.isClean) ∧
      marks lexemes = documentTags sampleDocument ∧
      openElements [] (marks lexemes) = some [] :=
  ⟨by decide, render_documentEvents sampleDocument (by decide)⟩

end StaticSite.Html
