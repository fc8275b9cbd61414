import StaticSite.Proofs.Html.AttributeValue
import StaticSite.Proofs.Html.Resumption
import StaticSite.Proofs.Html.ShownNote

/-!
# Alternative texts

Inside an image all constructs are flattened: of everything that it holds, only what is said in
words is left, and this is written as the value of an attribute. A reader of the page gets the words
back, and the writer remembers nothing of them but the footnotes that they refer to.

## What this module delivers

- `attributeValue_escape`: what is escaped is read back from an attribute value.
- `altText`: the words in place of an image, given the numbers of footnotes.
- `Writer.Quotes`: a text was handed on, and no more is remembered than the line and the footnotes.
- `quotes_forest`: what may stand in a line hands on its words, by induction on its trees.
-/

set_option autoImplicit false

namespace StaticSite.Html

open StaticSite.Markdown StaticSite.Text

/-! ## Escaped texts are read back -/

/-- A text without characters that mean something is its own escape. -/
theorem escape_of_plain {text : String} (h : isPlain text.toList) : escape text = text := by
  have hsame : text.toList.flatMap escapeChar = text.toList := by
    rw [isPlain_iff] at h
    calc text.toList.flatMap escapeChar = text.toList.flatMap fun c => [c] := by
          refine List.flatMap_congr fun c hc => ?_
          obtain ⟨hopen, hclose, hand, hquote⟩ := h c hc
          rw [escapeChar, if_neg hand, if_neg hopen, if_neg hclose, if_neg hquote]
      _ = text.toList := List.flatMap_singleton' text.toList
  rw [escape, hsame, String.ofList_toList]

theorem readFrom_length {β : Type} (decoding : Decoding β) (front s : List Char) :
    decoding.readFrom front.length (front ++ s) = decoding.read s := by
  induction front with
  | nil => rfl
  | cons c rest ih => exact ih

/-- A name with a semicolon is read as the character that it stands for, whatever follows. -/
theorem read_named {name : List Char} {c : Char} (hletters : name.all Char.isAlphanum)
    (hname : Markdown.isReferenceName name)
    (hc : namedCharacter? (String.ofList name) = some (String.ofList [c])) (s : List Char) :
    attributeReferences.read ('&' :: (name ++ ';' :: s)) = c :: attributeReferences.read s := by
  have hbody : (name ++ ';' :: s).takeWhile Char.isAlphanum = name := by
    rw [List.takeWhile_append_of_pos (fun d hd => List.all_eq_true.mp hletters d hd),
      List.takeWhile_cons_of_neg (by decide), List.append_nil]
  have hbyName : attributeReference? (name ++ ';' :: s) = nameReference? (name ++ ';' :: s) := by
    cases name with
    | nil => rfl
    | cons d rest =>
        rw [List.cons_append, attributeReference?]
        intro rest' hsign
        rw [(List.cons.inj hsign).1] at hletters
        exact absurd hletters (by simp)
  have hpiece : attributeReferences.piece? '&' (name ++ ';' :: s)
      = some ([c], name.length + 1) := by
    change referenceFrom? '&' (name ++ ';' :: s) = _
    rw [referenceFrom?, if_pos rfl, hbyName, nameReference?, hbody]
    simp [hname, hc]
  have hskip := readFrom_length attributeReferences (name ++ [';']) s
  rw [List.length_append, List.length_singleton, List.append_assoc, List.singleton_append] at hskip
  rw [Decoding.read, Decoding.readFrom, hpiece]
  exact congrArg (c :: ·) hskip

theorem read_escapeChar (c : Char) (s : List Char) :
    attributeReferences.read (escapeChar c ++ s) = c :: attributeReferences.read s := by
  unfold escapeChar
  split_ifs with hand hopen hclose hquote
  · rw [hand]
    exact read_named (by decide : "amp".toList.all Char.isAlphanum) (by decide)
      (by decide +kernel) s
  · rw [hopen]
    exact read_named (by decide : "lt".toList.all Char.isAlphanum) (by decide)
      (by decide +kernel) s
  · rw [hclose]
    exact read_named (by decide : "gt".toList.all Char.isAlphanum) (by decide)
      (by decide +kernel) s
  · rw [hquote]
    exact read_named (by decide : "quot".toList.all Char.isAlphanum) (by decide)
      (by decide +kernel) s
  · have hsingle : ∀ d ∈ [c], ∀ rest, attributeReferences.piece? d rest = none := by
      intro d hd rest
      rw [List.mem_singleton.mp hd]
      exact piece?_of_ne hand rest
    exact Decoding.read_append hsingle s

/-- A quotable text in an attribute ends at the closing quote, whatever follows. -/
theorem upToQuote_append {s : List Char} (h : isQuotable s) (rest : List Char) :
    upToQuote (s ++ '"' :: rest) = s := by
  rw [isQuotable_iff] at h
  rw [upToQuote, List.takeWhile_append_of_pos fun c hc => bne_iff_ne.mpr (h c hc).2.2,
    List.takeWhile_cons_of_neg (by decide), List.append_nil]

/-- What is escaped is read back from an attribute value, whatever follows the closing quote. -/
theorem attributeValue_escape (text : String) (rest : List Char) :
    attributeValue ((escape text).toList ++ '"' :: rest) = text.toList := by
  rw [attributeValue, upToQuote_append (quotable_escape text), escape, String.toList_ofList]
  induction text.toList with
  | nil => rfl
  | cons c others ih => rw [List.flatMap_cons, read_escapeChar, ih]

/-! ## Words in place of an image -/

/-- The words that an event stands for in the text in place of an image. -/
def leafAlt (number : String → Nat) : Leaf → String
  | .text content | .code content | .html content => content
  | .softBreak | .hardBreak | .rule => " "
  | .footnoteReference label => "[" ++ toString (number label) ++ "]"
  | .taskMarker checked => if checked then "[x]" else "[ ]"

mutual

/-- The words of a tree in the text in place of an image: its tags count for nothing. -/
def treeAlt (number : String → Nat) : EventTree → String
  | .leaf leaf => leafAlt number leaf
  | .node _ children => altText number children

/-- The text in place of an image that holds trees, by the numbers of footnotes. -/
def altText (number : String → Nat) : List EventTree → String
  | [] => ""
  | tree :: rest => treeAlt number tree ++ altText number rest

end

namespace Writer

/-- The writer `w'` is `w` after handing on a text. Besides the text no more is remembered than
whether it ended a line and the footnotes that it refers to. -/
structure Quotes (w : Writer) (text : String) (w' : Writer) : Prop where
  grows : w.Extends text w'
  blank : w'.blank = { w.blank with atLineStart := w'.atLineStart, footnotes := w'.footnotes }

variable {w w' w'' : Writer} {text more : String} {image : OpenImage}

theorem blank_emit (text : String) (w : Writer) : (w.emit text).blank = w.blank := by
  unfold emit blank
  cases w.held <;> rfl

theorem Quotes.refl (w : Writer) : w.Quotes "" w :=
  ⟨Extends.refl w, rfl⟩

theorem Quotes.congr (h : w.Quotes text w') (htext : text = more) : w.Quotes more w' :=
  htext ▸ h

theorem Quotes.trans (h : w.Quotes text w') (h' : w'.Quotes more w'') :
    w.Quotes (text ++ more) w'' := by
  refine ⟨h.grows.trans h'.grows, ?_⟩
  rw [h'.blank, h.blank]

/-- A text may be handed on of which the line is remembered. -/
theorem quotes_emit (text : String) (line : Bool) (w : Writer) :
    w.Quotes text { w.emit text with atLineStart := line } := by
  refine ⟨?_, ?_⟩
  · have hgrows := (Extends.refl w).emit text
    rw [String.empty_append] at hgrows
    exact hgrows.of_same rfl rfl rfl rfl rfl
  · have hblank := blank_emit text w
    exact congrArg (fun v : Writer =>
      { v with atLineStart := line, footnotes := (w.emit text).footnotes }) hblank

theorem quotes_write (text : String) (w : Writer) : w.Quotes text (w.write text) := by
  unfold write
  dsimp only
  split
  · exact quotes_emit text (w.emit text).atLineStart w
  · exact quotes_emit text (endsLine text) w

/-- The number of constructs open inside an image has no part in what is written. -/
theorem Quotes.setImage (h : w.Quotes text w') (image : Option OpenImage) :
    { w with image := image }.Quotes text { w' with image := image } :=
  ⟨h.grows.setImage image, congrArg (fun v : Writer => { v with image := image }) h.blank⟩

section

variable {labels : List String} {number : String → Nat} {highlighter : Option Highlighter}

/-- An event that encloses nothing hands on its words, with the number that its label has in any
list that begins with the labels met so far. -/
theorem quotes_leaf (hnumber : ∀ label, number label = labels.idxOf label + 1)
    (himage : w.image = some image) (leaf : Leaf)
    (hlabels : (w.step highlighter (leaf.event, false)).footnotes.labels <+: labels) :
    w.Quotes (escape (leafAlt number leaf)) (w.step highlighter (leaf.event, false)) := by
  rw [step_of_image highlighter himage] at hlabels ⊢
  have hblank : escape " " = " " := escape_of_plain (by decide)
  cases leaf with
  | text content => exact quotes_emit (escape content) (endsLine content) w
  | code content => exact quotes_emit (escape content) (endsLine content) w
  | html content => exact quotes_emit (escape content) (endsLine content) w
  | softBreak => exact (quotes_write " " w).congr hblank.symm
  | hardBreak => exact (quotes_write " " w).congr hblank.symm
  | rule => exact (quotes_write " " w).congr hblank.symm
  | footnoteReference label =>
      have hsame : (w.altStep image (.footnoteReference label)).footnotes
          = (w.footnotes.number label).2 := footnotes_write
      rw [Leaf.event, hsame] at hlabels
      have hplace : number label = (w.footnotes.number label).1 :=
        (hnumber label).trans (FootnoteNumbers.number_fst hlabels).symm
      have hplain : escape ("[" ++ toString (number label) ++ "]")
          = "[" ++ toString (number label) ++ "]" := by
        refine escape_of_plain ?_
        rw [String.toList_append, String.toList_append, isPlain_append, isPlain_append, plain_nat]
        decide
      have hcounted : w.Quotes "" (w.footnoteNumber label).2 :=
        ⟨(Extends.refl w).footnote label, rfl⟩
      have hall := hcounted.trans (quotes_write
        ("[" ++ toString (w.footnotes.number label).1 ++ "]") (w.footnoteNumber label).2)
      rw [String.empty_append] at hall
      rw [leafAlt, hplain, hplace]
      exact hall
  | taskMarker checked =>
      have hbox : isPlain (if checked then "[x]" else "[ ]" : String).toList := by
        cases checked <;> decide
      rw [leafAlt, escape_of_plain hbox]
      exact quotes_write _ w

mutual

/-- A tree hands on its words, however deep it goes. -/
theorem quotes_tree (hnumber : ∀ label, number label = labels.idxOf label + 1) :
    ∀ (tree : EventTree) (w : Writer) (image : OpenImage), tree.isInline → w.image = some image →
      ((treeMarked tree).foldl (step highlighter) w).footnotes.labels <+: labels →
      w.Quotes (escape (treeAlt number tree)) ((treeMarked tree).foldl (step highlighter) w)
  | .leaf leaf, _, _, _, himage, hlabels => quotes_leaf hnumber himage leaf hlabels
  | .node tag children, w, image, hinline, himage, hlabels => by
      rw [EventTree.isInline, Bool.and_eq_true] at hinline
      have htag : tag ≠ .paragraph := by
        rintro rfl
        exact Bool.noConfusion hinline.1
      -- the start of a construct makes the image deeper, and its end takes that back
      let deeper : OpenImage := { image with depth := image.depth + 1 }
      have hstart : w.step highlighter (.start tag, false) = { w with image := some deeper } :=
        step_of_image highlighter himage (.start tag) false
      rw [treeMarked_node htag, List.foldl_cons, List.foldl_append, List.foldl_cons, List.foldl_nil,
        hstart] at hlabels ⊢
      have hopen : ((forestMarked children).foldl (step highlighter)
          { w with image := some deeper }).footnotes.labels <+: labels :=
        (labels_step _ _).trans hlabels
      have hinner := quotes_forest hnumber children { w with image := some deeper } deeper hinline.2
        rfl hopen
      rw [step_of_image highlighter hinner.grows.image]
      have hback := hinner.setImage (some image)
      have hsame : { w with image := some image } = w := by rw [← himage]
      rw [hsame] at hback
      exact hback

/-- Trees hand on their words in order. -/
theorem quotes_forest (hnumber : ∀ label, number label = labels.idxOf label + 1) :
    ∀ (trees : List EventTree) (w : Writer) (image : OpenImage), areInline trees →
      w.image = some image →
      ((forestMarked trees).foldl (step highlighter) w).footnotes.labels <+: labels →
      w.Quotes (escape (altText number trees)) ((forestMarked trees).foldl (step highlighter) w)
  | [], w, _, _, _, _ => Quotes.refl w
  | tree :: rest, w, image, hinline, himage, hlabels => by
      rw [areInline, Bool.and_eq_true] at hinline
      rw [forestMarked, List.foldl_append] at hlabels ⊢
      have hfirst := quotes_tree hnumber tree w image hinline.1 himage
        ((labels_foldl _ _).trans hlabels)
      have hothers := quotes_forest hnumber rest _ image hinline.2
        (hfirst.grows.image.trans himage) hlabels
      rw [altText, escape_append]
      exact hfirst.trans hothers

end

end

end Writer

end StaticSite.Html
