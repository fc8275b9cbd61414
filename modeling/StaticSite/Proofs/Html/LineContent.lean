import StaticSite.Proofs.Html.PageTree
import StaticSite.Proofs.Html.Writing

/-!
# What a line of text writes

`Writes` is the contract of a stretch of events: wherever the writer is, they add the same tags to
what the page shows. Contracts of stretches that follow each other are put together, so there is one
for every event, and from these one for every inline, by induction on the tree.

## What this module delivers

- `Writer.run`: the writer after events, of which none begins a standalone image.
- `Writes`, with `Writes.append`, `Writes.event` and `Writes.element`: contracts and how to get them.
- `run_alt`: what stands inside an image only makes the value of one attribute longer.
- `writes_inline`: every inline writes its tags, also in a heading that has no text yet.
-/

set_option autoImplicit false

namespace StaticSite.Html

open StaticSite.Markdown

/-! ## Events in a row -/

/-- The writer after events, of which none begins a standalone image. -/
def Writer.run (w : Writer) (events : List Event) : Writer :=
  (unflagged events).foldl (Writer.step none) w

theorem Writer.run_append (w : Writer) (left right : List Event) :
    w.run (left ++ right) = (w.run left).run right := by
  simp only [Writer.run, unflagged, List.map_append, List.foldl_append]

/-- What an event writes outside of images, once no heading is in its way. -/
def Writer.handle (w : Writer) : Event → Writer
  | .start tag => w.startTag none false tag
  | .stop tag => w.stopTag none tag
  | .text content => w.text content
  | .code content => ((w.write "<code>").emit (escape content)).write "</code>"
  | .html content => w.write content
  | .softBreak => { w with atLineStart := true }.emit "\n"
  | .hardBreak => w.write "<br />\n"
  | .rule => w.writeBlock "<hr />\n"
  | .footnoteReference label => w.footnoteReference label
  | .taskMarker true => w.write "<input disabled=\"\" type=\"checkbox\" checked=\"\"/>\n"
  | .taskMarker false => w.write "<input disabled=\"\" type=\"checkbox\"/>\n"

theorem Writer.run_event {w : Writer} (hw : w.image = none) (event : Event) :
    w.run [event] = (w.prepareHeading event).handle event := by
  cases event with
  | taskMarker checked => cases checked <;> simp [Writer.run, unflagged, Writer.step, hw, handle]
  | _ => simp [Writer.run, unflagged, Writer.step, hw, handle]

/-- Wherever the writer is in the setting `s`, events add tags to what the page shows, and leave it
in the setting `s'`. -/
def Writes (s : Setting) (events : List Event) (tags : List Mark) (s' : Setting) : Prop :=
  ∀ (w : Writer) (before : List Mark), w.Between s before →
    (w.run events).Between s' (before ++ tags)

section

variable {s s' s'' : Setting} {tags more : List Mark}

theorem Writes.nil : Writes s [] [] s := by
  intro w before hw
  rw [List.append_nil]
  exact hw

theorem Writes.append {left right : List Event} (hleft : Writes s left tags s')
    (hright : Writes s' right more s'') : Writes s (left ++ right) (tags ++ more) s'' := by
  intro w before hw
  rw [Writer.run_append, ← List.append_assoc]
  exact hright _ _ (hleft w before hw)

/-- An event other than text writes what it writes where no heading is in its way. -/
theorem Writes.event {event : Event} (hevent : ∀ content, event ≠ .text content)
    (h : ∀ (w : Writer) (before : List Mark), w.At s none .text before →
      (w.handle event).Between s' (before ++ tags)) :
    Writes s [event] tags s' := by
  intro w before hw
  rw [Writer.run_event hw.fits.image]
  exact h _ before (hw.prepare event hevent)

/-- A construct writes what its start, its content and its end write. -/
theorem Writes.node {s₁ s₂ : Setting} {tag : Tag} {trees : List EventTree}
    {front inner back : List Mark} (hstart : Writes s [.start tag] front s₁)
    (hinner : Writes s₁ (forestEvents trees) inner s₂)
    (hstop : Writes s₂ [.stop tag] back s') :
    Writes s (EventTree.node tag trees).events (front ++ (inner ++ back)) s' :=
  hstart.append (hinner.append hstop)

/-- A construct that is one element. -/
theorem Writes.element {tag : Tag} {trees : List EventTree} {inner : List Mark} {name : String}
    (hstart : Writes s [.start tag] [.opens name] s')
    (hinner : Writes s' (forestEvents trees) inner s')
    (hstop : Writes s' [.stop tag] [.closes name] s) :
    Writes s (EventTree.node tag trees).events (enclosed name inner) s :=
  hstart.node hinner hstop

/-! ## Images -/

/-- The writer inside an image: the alternative text is under way. -/
def Writer.InAlt (w : Writer) (s : Setting) (image : OpenImage) (tags : List Mark) : Prop :=
  ∃ src alt, w.At s (some image) (.value ⟨"img", [⟨"src", src⟩]⟩ "alt" alt) tags

theorem Writer.InAlt.write {w : Writer} {image : OpenImage} {text : String}
    (h : w.InAlt s image tags) (htext : isQuotable text.toList) :
    (w.write text).InAlt s image tags := by
  obtain ⟨src, alt, hw⟩ := h
  have hwrite := hw.write (reads_quotable htext _ "alt" alt)
  rw [List.append_nil] at hwrite
  exact ⟨src, _, hwrite⟩

theorem Writer.InAlt.writeText {w : Writer} {image : OpenImage} (h : w.InAlt s image tags)
    (text : String) : (w.writeText text).InAlt s image tags := by
  obtain ⟨src, alt, hw⟩ := h
  have hemit := (hw.emit (reads_quotable (quotable_escape text) _ "alt" alt)).lineStart
    (endsLine text)
  rw [List.append_nil] at hemit
  exact ⟨src, _, hemit⟩

/-- The number of constructs open inside an image has no part in what the page shows. -/
theorem Writer.InAlt.deepen {w : Writer} {image : OpenImage} (h : w.InAlt s image tags)
    (image' : OpenImage) : { w with image := some image' }.InAlt s image' tags := by
  obtain ⟨src, alt, hw⟩ := h
  exact ⟨src, alt, hw.setImage (some image')⟩

theorem run_alt_event {w : Writer} {image : OpenImage} (hw : w.InAlt s image tags)
    (event : Event) : w.run [event] = w.altStep image event := by
  obtain ⟨src, alt, hat⟩ := hw
  simp only [Writer.run, unflagged, List.map_cons, List.map_nil, List.foldl_cons, List.foldl_nil,
    Writer.step, hat.fits.image]

theorem run_alt_leaf {w : Writer} {image : OpenImage} (hw : w.InAlt s image tags) (leaf : Leaf) :
    (w.run [leaf.event]).InAlt s image tags := by
  rw [run_alt_event hw]
  have hblank : isQuotable " ".toList := rfl
  cases leaf with
  | text content => exact hw.writeText content
  | code content => exact hw.writeText content
  | html content => exact hw.writeText content
  | softBreak => exact hw.write hblank
  | hardBreak => exact hw.write hblank
  | rule => exact hw.write hblank
  | footnoteReference label =>
      have hnumber : isQuotable ("[" ++ toString (w.footnoteNumber label).1 ++ "]").toList := by
        rw [String.toList_append, String.toList_append, isQuotable_append, isQuotable_append,
          quotable_of_plain (plain_nat _)]
        decide
      obtain ⟨src, alt, hat⟩ := hw
      have hcounted : (w.footnoteNumber label).2.InAlt s image tags :=
        ⟨src, alt, hat.footnote label⟩
      exact hcounted.write hnumber
  | taskMarker checked =>
      have hbox : isQuotable (if checked then "[x]" else "[ ]").toList := by
        cases checked <;> rfl
      exact hw.write hbox

mutual

/-- A construct inside an image leaves the image open, however deep it goes. -/
theorem run_alt : ∀ (tree : EventTree) (w : Writer) (image : OpenImage), w.InAlt s image tags →
    (w.run tree.events).InAlt s image tags
  | .leaf leaf, w, image, hw => run_alt_leaf hw leaf
  | .node tag trees, w, image, hw => by
      have hstart : (w.run [.start tag]).InAlt s { image with depth := image.depth + 1 } tags := by
        rw [run_alt_event hw]
        exact hw.deepen _
      have hinner := run_alt_forest trees _ _ hstart
      have hparts : (EventTree.node tag trees).events
          = [Event.start tag] ++ (forestEvents trees ++ [Event.stop tag]) := rfl
      rw [hparts, Writer.run_append, Writer.run_append, run_alt_event hinner]
      -- the end takes back what the start added to the depth
      exact hinner.deepen image

theorem run_alt_forest : ∀ (trees : List EventTree) (w : Writer) (image : OpenImage),
    w.InAlt s image tags → (w.run (forestEvents trees)).InAlt s image tags
  | [], _, _, hw => hw
  | tree :: rest, w, image, hw => by
      rw [forestEvents_cons, Writer.run_append]
      exact run_alt_forest rest _ image (run_alt tree w image hw)

end

theorem Writer.At.startImage {w : Writer} (hw : w.At s none .text tags) (dest title : String) :
    (w.startImage dest title false).InAlt s ⟨title, false, 0⟩ tags := by
  have hopen : Reads .text "<img src=\"" (.value ⟨"img", []⟩ "src" []) [] := ⟨_, rfl, rfl, rfl⟩
  have hsource := reads_quotable (quotable_escapeHref dest) ⟨"img", []⟩ "src" []
  have hnext : Reads (.value ⟨"img", []⟩ "src" ([] ++ (escapeHref dest).toList)) "\" alt=\""
      (.value ⟨"img", [⟨"src", String.ofList (escapeHref dest).toList⟩]⟩ "alt" []) [] :=
    ⟨_, rfl, rfl, rfl⟩
  have hall := ((hw.write hopen).emit hsource).write hnext
  simp only [List.append_nil] at hall
  exact ⟨_, [], hall.setImage (some ⟨title, false, 0⟩)⟩

theorem Writer.InAlt.finish {w : Writer} {title : String} (hw : w.InAlt s ⟨title, false, 0⟩ tags) :
    (w.finishImage ⟨title, false, 0⟩).Between s (tags ++ [Mark.stands "img"]) := by
  obtain ⟨src, alt, hat⟩ := hw
  have hclosed : { w with image := none }.At s none (.value ⟨"img", [⟨"src", src⟩]⟩ "alt" alt)
      tags := hat.setImage none
  unfold Writer.finishImage
  dsimp only
  rw [if_neg Bool.false_ne_true]
  split
  · have hend : Reads (.value ⟨"img", [⟨"src", src⟩]⟩ "alt" alt) "\" />" .text [.stands "img"] :=
      ⟨_, rfl, rfl, rfl⟩
    exact (hclosed.write hend).between
  · have hname : Reads (.value ⟨"img", [⟨"src", src⟩]⟩ "alt" alt) "\" title=\""
        (.value ⟨"img", [⟨"src", src⟩, ⟨"alt", String.ofList alt⟩]⟩ "title" []) [] :=
      ⟨_, rfl, rfl, rfl⟩
    have htitle := reads_quotable (quotable_escape title)
      ⟨"img", [⟨"src", src⟩, ⟨"alt", String.ofList alt⟩]⟩ "title" []
    have hend : Reads (.value ⟨"img", [⟨"src", src⟩, ⟨"alt", String.ofList alt⟩]⟩ "title"
        ([] ++ (escape title).toList)) "\" />" .text [.stands "img"] := ⟨_, rfl, rfl, rfl⟩
    have hall := ((hclosed.write hname).emit htitle).write hend
    exact (hall.congr (by simp)).between

/-- An image is one tag, whatever it encloses. -/
theorem writes_image (dest title : String) (trees : List EventTree) :
    Writes s (EventTree.node (.image dest title) trees).events [.stands "img"] s := by
  intro w before hw
  have hready := hw.prepare (.start (.image dest title)) (by simp)
  have hstart : (w.run [.start (.image dest title)]).InAlt s ⟨title, false, 0⟩ before := by
    rw [Writer.run_event hw.fits.image]
    exact hready.startImage dest title
  have hinner := run_alt_forest trees _ _ hstart
  have hparts : (EventTree.node (.image dest title) trees).events
      = [Event.start (.image dest title)] ++
        (forestEvents trees ++ [Event.stop (.image dest title)]) := rfl
  rw [hparts, Writer.run_append, Writer.run_append, run_alt_event hinner]
  exact hinner.finish

/-! ## Inlines -/

theorem writes_text (content : String) : Writes s [.text content] [] s := by
  intro w before hw
  have hsettled := hw.settle content
  rw [Writer.run_event hw.fits.image, List.append_nil]
  have hprepared : w.prepareHeading (.text content) = w := by
    unfold Writer.prepareHeading
    split <;> rfl
  rw [hprepared]
  simp only [Writer.handle, Writer.text, hsettled.fits.code]
  exact (hsettled.writeText content).between

theorem writes_code (content : String) : Writes s [.code content] (enclosed "code" []) s := by
  refine Writes.event (by simp) fun w before hw => ?_
  have hopen : Reads .text "<code>" .text [.opens "code"] := ⟨_, rfl, rfl, rfl⟩
  have hclose : Reads .text "</code>" .text [.closes "code"] := ⟨_, rfl, rfl, rfl⟩
  have hall := ((hw.write hopen).emit (reads_escape content)).write hclose
  exact (hall.congr (by simp [enclosed])).between

theorem writes_softBreak : Writes s [.softBreak] [] s := by
  refine Writes.event (by simp) fun w before hw => ?_
  have hend : Reads .text "\n" .text [] := ⟨_, rfl, rfl, rfl⟩
  exact ((hw.lineStart true).emit hend).between

/-- An event that writes one tag, on the line where the writer is. -/
theorem Writes.tag {event : Event} (text : String) (hevent : ∀ content, event ≠ .text content)
    (hhandle : ∀ w : Writer, w.handle event = w.write text) (htext : Reads .text text .text tags) :
    Writes s [event] tags s := by
  refine Writes.event hevent fun w before hw => ?_
  rw [hhandle]
  exact (hw.write htext).between

/-- An event that writes one tag, on a line of its own if need be. -/
theorem Writes.blockTag {event : Event} (text : String)
    (hevent : ∀ content, event ≠ .text content)
    (hhandle : ∀ w : Writer, w.handle event = w.writeBlock text)
    (htext : Reads .text text .text tags) : Writes s [event] tags s := by
  refine Writes.event hevent fun w before hw => ?_
  rw [hhandle]
  exact (hw.writeBlock htext).between

theorem writes_hardBreak : Writes s [.hardBreak] [.stands "br"] s :=
  Writes.tag "<br />\n" (by simp) (fun _ => rfl) ⟨_, rfl, rfl, rfl⟩

theorem writes_taskMarker (checked : Bool) :
    Writes s [.taskMarker checked] [.stands "input"] s := by
  cases checked with
  | true =>
      exact Writes.tag "<input disabled=\"\" type=\"checkbox\" checked=\"\"/>\n" (by simp)
        (fun _ => rfl) ⟨_, rfl, rfl, rfl⟩
  | false =>
      exact Writes.tag "<input disabled=\"\" type=\"checkbox\"/>\n" (by simp) (fun _ => rfl)
        ⟨_, rfl, rfl, rfl⟩

/-- The two labels of a reference stand in attribute values. -/
theorem reads_footnoteReference (label : String) :
    Reads .text ("<sup class=\"footnote-reference\" id=\"r." ++ escape label ++
        "\"><a href=\"#f." ++ escape label)
      (.value ⟨"a", []⟩ "href" ("#f.".toList ++ (escape label).toList)) [.opens "sup"] := by
  have hopen : Reads .text "<sup class=\"footnote-reference\" id=\"r."
      (.value ⟨"sup", [⟨"class", "footnote-reference"⟩]⟩ "id" "r.".toList) [] := ⟨_, rfl, rfl, rfl⟩
  have hplace := reads_quotable (quotable_escape label)
    ⟨"sup", [⟨"class", "footnote-reference"⟩]⟩ "id" "r.".toList
  have hlink : Reads (.value ⟨"sup", [⟨"class", "footnote-reference"⟩]⟩ "id"
      ("r.".toList ++ (escape label).toList)) "\"><a href=\"#f."
      (.value ⟨"a", []⟩ "href" "#f.".toList) [.opens "sup"] := ⟨_, rfl, rfl, rfl⟩
  have htarget := reads_quotable (quotable_escape label) ⟨"a", []⟩ "href" "#f.".toList
  exact ((hopen.append hplace).append hlink).append htarget

theorem writes_footnoteReference (label : String) :
    Writes s [.footnoteReference label] (enclosed "sup" (enclosed "a" [])) s := by
  refine Writes.event (by simp) fun w before hw => ?_
  have hlink := (hw.footnote label).emit (reads_footnoteReference label)
  have hend : Reads (.value ⟨"a", []⟩ "href" ("#f.".toList ++ (escape label).toList)) "\">" .text
      [.opens "a"] := ⟨_, rfl, rfl, rfl⟩
  have hclose : Reads .text "</a></sup>" .text [.closes "a", .closes "sup"] := ⟨_, rfl, rfl, rfl⟩
  have hnumber := reads_plain (plain_nat (w.footnoteNumber label).1)
  have hall := ((hlink.write hend).emit hnumber).write hclose
  exact (hall.congr (by simp [enclosed])).between

theorem reads_linkStart (form : LinkForm) :
    ∃ scheme, Reads .text (if form = .email then "<a href=\"mailto:" else "<a href=\"")
      (.value ⟨"a", []⟩ "href" scheme) [] := by
  by_cases hform : form = .email
  · rw [if_pos hform]
    exact ⟨"mailto:".toList, _, rfl, rfl, rfl⟩
  · rw [if_neg hform]
    exact ⟨[], _, rfl, rfl, rfl⟩

theorem writes_linkStart (form : LinkForm) (dest title : String) :
    Writes s [.start (.link form dest title)] [.opens "a"] s := by
  refine Writes.event (by simp) fun w before hw => ?_
  -- an address of mail begins its value with a scheme, any other link with nothing
  obtain ⟨scheme, hscheme⟩ := reads_linkStart form
  have hhref := (hw.write hscheme).emit
    (reads_quotable (quotable_escapeHref dest) ⟨"a", []⟩ "href" scheme)
  simp only [List.append_nil] at hhref
  simp only [Writer.handle, Writer.startTag]
  split
  · have hend : Reads (.value ⟨"a", []⟩ "href" (scheme ++ (escapeHref dest).toList)) "\">" .text
        [.opens "a"] := ⟨_, rfl, rfl, rfl⟩
    exact (hhref.write hend).between
  · have hnext : Reads (.value ⟨"a", []⟩ "href" (scheme ++ (escapeHref dest).toList))
        "\" title=\"" (.value ⟨"a", [⟨"href", String.ofList (scheme ++ (escapeHref dest).toList)⟩]⟩
          "title" []) [] := ⟨_, rfl, rfl, rfl⟩
    have htitle := reads_quotable (quotable_escape title)
      ⟨"a", [⟨"href", String.ofList (scheme ++ (escapeHref dest).toList)⟩]⟩ "title" []
    have hend : Reads (.value ⟨"a", [⟨"href", String.ofList (scheme ++ (escapeHref dest).toList)⟩]⟩
        "title" ([] ++ (escape title).toList)) "\">" .text [.opens "a"] := ⟨_, rfl, rfl, rfl⟩
    have hall := ((hhref.write hnext).emit htitle).write hend
    simp only [List.append_nil] at hall
    exact hall.between

/-- A construct whose start and end each write one tag, on the line where the writer is. -/
theorem Writes.wrapped {tag : Tag} {trees : List EventTree} {inner : List Mark}
    {name : String} (front back : String)
    (hstart : ∀ w : Writer, w.startTag none false tag = w.write front)
    (hstop : ∀ w : Writer, w.stopTag none tag = w.write back)
    (hfront : Reads .text front .text [.opens name]) (hback : Reads .text back .text [.closes name])
    (hinner : Writes s (forestEvents trees) inner s) :
    Writes s (EventTree.node tag trees).events (enclosed name inner) s :=
  Writes.element (Writes.tag front (by simp) hstart hfront) hinner
    (Writes.tag back (by simp) hstop hback)

mutual

/-- An inline writes its tags, wherever it stands. -/
theorem writes_inline : ∀ inline : Inline, Writes s inline.tree.events inline.tags s
  | .text content => writes_text content
  | .code content => writes_code content
  | .softBreak => writes_softBreak
  | .hardBreak => writes_hardBreak
  | .footnoteReference label => writes_footnoteReference label
  | .taskMarker checked => writes_taskMarker checked
  | .emphasis content =>
      Writes.wrapped "<em>" "</em>" (fun _ => rfl) (fun _ => rfl) ⟨_, rfl, rfl, rfl⟩
        ⟨_, rfl, rfl, rfl⟩ (writes_inlines content)
  | .strong content =>
      Writes.wrapped "<strong>" "</strong>" (fun _ => rfl) (fun _ => rfl) ⟨_, rfl, rfl, rfl⟩
        ⟨_, rfl, rfl, rfl⟩ (writes_inlines content)
  | .strikethrough content =>
      Writes.wrapped "<del>" "</del>" (fun _ => rfl) (fun _ => rfl) ⟨_, rfl, rfl, rfl⟩
        ⟨_, rfl, rfl, rfl⟩ (writes_inlines content)
  | .link form dest title content => by
      have hstop : Writes s [.stop (.link form dest title)] [.closes "a"] s :=
        Writes.tag "</a>" (by simp) (fun _ => rfl) ⟨_, rfl, rfl, rfl⟩
      exact (writes_linkStart form dest title).element (writes_inlines content) hstop
  | .image dest title content => writes_image dest title (inlineTrees content)

theorem writes_inlines :
    ∀ inlines : List Inline, Writes s (forestEvents (inlineTrees inlines)) (inlineTags inlines) s
  | [] => Writes.nil
  | inline :: rest => (writes_inline inline).append (writes_inlines rest)

end

end

end StaticSite.Html
