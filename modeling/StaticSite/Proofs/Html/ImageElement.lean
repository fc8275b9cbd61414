import StaticSite.Proofs.Html.AltText
import StaticSite.Proofs.Html.HeldHeading

/-!
# Images

An image takes all events up to its own end, whatever constructs begin and end on the way, and makes
one element of them. An image that is all of its paragraph, with a single text, loses the paragraph
and gets a caption. What comes behind an image does not depend on what was in it, but for the
numbers of footnotes.

## What this module delivers

- `ImagePlace`: an image in a stream of events, and the writers at its start and its end.
- `markStandalone_place`: the pairs that the writer is given for such a stream.
- `image?_spotAfter`: where constructs are nested, a spot is inside an image if one is open.
- `Spot.inside_forest`: all events of an image are in it, by induction on its trees.
- `imageMarkup`, `ImagePlace.view_closed`: what is handed on for an image.
- `ImagePlace.blank_skipped`: what is remembered of it.
- `WritesImage`, `writesImage_outside`: an image and all that comes behind it.
-/

set_option autoImplicit false

namespace StaticSite.Html

open StaticSite.Markdown

/-! ## Streams without figures across a place -/

/-- Where no figure reaches across a place, both sides are rewritten by themselves. -/
theorem markStandalone_append_apart {front back : List Event}
    (h : ∀ first middle, front = first ++ middle → middle ≠ [] →
      StartsFigure (middle ++ back) → StartsFigure middle) :
    markStandalone (front ++ back) = markStandalone front ++ markStandalone back := by
  fun_induction markStandalone front with
  | case1 dest title alt dest' title' behind ih =>
      refine congrArg (unwrappedFigure dest title alt dest' title' ++ ·) (ih ?_)
      rintro first middle rfl
      exact h (figure dest title alt dest' title' ++ first) middle rfl
  | case2 event behind hno ih =>
      have hnot : ¬ StartsFigure (event :: (behind ++ back)) := by
        intro hstarts
        obtain ⟨dest, title, alt, dest', title', rest, heq⟩ :=
          h [] (event :: behind) rfl (List.cons_ne_nil event behind) hstarts
        obtain ⟨rfl, rfl⟩ := List.cons.inj heq
        exact hno dest title alt dest' title' rest rfl rfl
      rw [List.cons_append, markStandalone_of_not_starts hnot, ih, List.cons_append]
      rintro first middle rfl
      exact h (event :: first) middle rfl
  | case3 => rfl

/-- Among the events of what may stand in a line no figure begins. -/
theorem not_startsFigure_inline {trees : List EventTree} (hinline : areInline trees)
    {front back : List Event} (h : forestEvents trees = front ++ back) : ¬ StartsFigure back := by
  rintro ⟨dest, title, alt, dest', title', rest, rfl⟩
  have hmem : Event.start .paragraph ∈ forestEvents trees := by
    rw [h]
    exact List.mem_append_right front List.mem_cons_self
  exact Bool.noConfusion (isInline_forestEvents trees hinline _ hmem)

/-- No event of what may stand in a line is flagged. -/
theorem forestMarked_inline {trees : List EventTree} (hinline : areInline trees) :
    forestMarked trees = (forestEvents trees).map fun event => (event, false) := by
  rw [← markStandalone_forest]
  exact markStandalone_of_no_figure fun front back h => not_startsFigure_inline hinline h

/-! ## Places of images -/

/-- Whether trees are a single text. -/
def isSingleText : List EventTree → Bool
  | [.leaf (.text _)] => true
  | _ => false

theorem isSingleText_iff (trees : List EventTree) :
    isSingleText trees = true ↔ ∃ alt, trees = [.leaf (.text alt)] := by
  constructor
  · intro h
    unfold isSingleText at h
    split at h
    · exact ⟨_, rfl⟩
    · exact absurd h Bool.false_ne_true
  · rintro ⟨alt, rfl⟩
    rfl

/-- An image in a stream of events: what comes before it, what is in it, and what comes after it. -/
structure ImagePlace where
  before : List Event
  dest : String
  title : String
  trees : List EventTree
  after : List Event

namespace ImagePlace

def tag (place : ImagePlace) : Tag :=
  .image place.dest place.title

/-- The stream. -/
def events (place : ImagePlace) : List Event :=
  place.before ++
    .start place.tag :: (forestEvents place.trees ++ .stop place.tag :: place.after)

/-- Whether the image is all of its paragraph and has a single text. -/
def alone (place : ImagePlace) : Bool :=
  decide (place.before.getLast? = some (.start .paragraph)) && isSingleText place.trees &&
    decide (place.after.head? = some (.stop .paragraph))

/-- What is left of the events before the image: its own paragraph is taken away. -/
def front (place : ImagePlace) : List Event :=
  if place.alone then place.before.dropLast else place.before

/-- What is left of the events after the image. -/
def behind (place : ImagePlace) : List Event :=
  if place.alone then place.after.tail else place.after

/-- What the writer is given for what is in the image. -/
def inner (place : ImagePlace) : List (Event × Bool) :=
  (forestEvents place.trees).map fun event => (event, false)

/-- The writer when the image has begun. -/
def opened (place : ImagePlace) (highlighter : Option Highlighter) : Writer :=
  (writerAfter highlighter place.front).step highlighter (.start place.tag, place.alone)

/-- The writer when the image is over. -/
def closed (place : ImagePlace) (highlighter : Option Highlighter) : Writer :=
  (place.inner.foldl (Writer.step highlighter) (place.opened highlighter)).step highlighter
    (.stop place.tag, false)

/-- The writer when the image would be over if nothing were in it, but for the numbers of the
footnotes that it refers to. -/
def skipped (place : ImagePlace) (highlighter : Option Highlighter) : Writer :=
  { (place.opened highlighter).step highlighter (.stop place.tag, false) with
    footnotes := (place.closed highlighter).footnotes }

variable {place : ImagePlace} {highlighter : Option Highlighter}

theorem alone_iff : place.alone = true ↔ ∃ front alt behind,
    place.before = front ++ [.start .paragraph] ∧ place.trees = [.leaf (.text alt)] ∧
      place.after = .stop .paragraph :: behind := by
  rw [alone, Bool.and_eq_true, Bool.and_eq_true, decide_eq_true_eq, decide_eq_true_eq,
    List.getLast?_eq_some_iff, List.head?_eq_some_iff, isSingleText_iff]
  constructor
  · rintro ⟨⟨⟨front, hbefore⟩, alt, htrees⟩, behind, hafter⟩
    exact ⟨front, alt, behind, hbefore, htrees, hafter⟩
  · rintro ⟨front, alt, behind, hbefore, htrees, hafter⟩
    exact ⟨⟨⟨front, hbefore⟩, alt, htrees⟩, behind, hafter⟩

/-- A figure that reaches into an image is the paragraph of that image. -/
theorem alone_of_figure {first middle : List Event} (hbefore : place.before = first ++ middle)
    (hmiddle : middle ≠ [])
    (h : StartsFigure (middle ++
      .start place.tag :: (forestEvents place.trees ++ .stop place.tag :: place.after))) :
    StartsFigure middle ∨ place.alone = true := by
  obtain ⟨dest, title, alt, dest', title', rest, heq⟩ := h
  simp only [figure, List.cons_append, List.nil_append] at heq
  rcases middle with _ | ⟨first', _ | ⟨second, _ | ⟨third, _ | ⟨fourth, _ | ⟨fifth, others⟩⟩⟩⟩⟩
  · exact absurd rfl hmiddle
  · -- the paragraph begins right before the image
    obtain ⟨rfl, hrest⟩ := List.cons.inj heq
    obtain ⟨htrees, -, hafter⟩ := single_text_of_match (List.cons.inj hrest).2
    exact .inr (alone_iff.mpr ⟨first, alt, rest, hbefore, htrees, hafter⟩)
  · simp at heq
  · simp [tag] at heq
  · simp at heq
  · simp only [List.cons_append, List.cons.injEq] at heq
    obtain ⟨rfl, rfl, rfl, rfl, rfl, -⟩ := heq
    exact .inl ⟨dest, title, alt, dest', title', others, rfl⟩

/-- The writer is given what is left before the image, the start of the image with its flag, what is
in the image, its end, and what is left behind it. -/
theorem markStandalone_place (hinline : areInline place.trees) :
    markStandalone place.events
      = markStandalone place.front ++ (.start place.tag, place.alone) ::
          (place.inner ++ (.stop place.tag, false) :: markStandalone place.behind) := by
  unfold front behind
  cases halone : place.alone with
  | true =>
      obtain ⟨front, alt, behind, hbefore, htrees, hafter⟩ := alone_iff.mp halone
      have hevents : place.events
          = front ++ (figure place.dest place.title alt place.dest place.title ++ behind) := by
        rw [events, hbefore, htrees, hafter]
        simp [figure, tag, Leaf.event]
      rw [hevents, markStandalone_occurrence, inner, if_pos rfl, if_pos rfl, hbefore, htrees,
        hafter, List.dropLast_concat, List.tail_cons]
      rfl
  | false =>
      have hapart : ∀ first middle, place.before = first ++ middle → middle ≠ [] →
          StartsFigure (middle ++
            .start place.tag :: (forestEvents place.trees ++ .stop place.tag :: place.after)) →
          StartsFigure middle := by
        intro first middle hbefore hmiddle hstarts
        refine (alone_of_figure hbefore hmiddle hstarts).resolve_right ?_
        rw [halone]
        exact Bool.false_ne_true
      rw [events, markStandalone_append_apart hapart, markStandalone_event (by simp [tag]),
        markStandalone_forestEvents, markStandalone_event (by simp), forestMarked_inline hinline]
      rfl

end ImagePlace

/-! ## Images that are open -/

/-- Whether a construct is an image. -/
def isImage : Tag → Bool
  | .image _ _ => true
  | _ => false

namespace Spot

/-- What is open at a spot, the latest first: behind the constructs in an image the image, and
behind it no other. -/
def Tracks (stack : List Tag) : Option Nat → Prop
  | none => ∀ tag ∈ stack, isImage tag = false
  | some depth => ∃ inner tag outer, stack = inner ++ tag :: outer ∧ inner.length = depth ∧
      isImage tag = true ∧ ∀ tag ∈ outer, isImage tag = false

theorem tracks_start {stack : List Tag} {spot : Spot} (h : Tracks stack spot.image?) (tag : Tag) :
    Tracks (tag :: stack) (spot.start tag).image? := by
  obtain ⟨image?, inHeading, inCode, titled⟩ := spot
  cases image? with
  | some depth =>
      obtain ⟨inner, image, outer, rfl, rfl, himage, houter⟩ := h
      exact ⟨tag :: inner, image, outer, rfl, rfl, himage, houter⟩
  | none =>
      by_cases htag : isImage tag = true
      · cases tag with
        | image dest title => exact ⟨[], .image dest title, stack, rfl, rfl, rfl, h⟩
        | _ => exact Bool.noConfusion htag
      · have hnone : (start ⟨none, inHeading, inCode, titled⟩ tag).image? = none := by
          cases tag with
          | image dest title => exact absurd rfl htag
          | _ => rfl
        rw [hnone]
        exact List.forall_mem_cons.mpr ⟨by simpa using htag, h⟩

theorem tracks_stop {stack : List Tag} {spot : Spot} {tag : Tag}
    (h : Tracks (tag :: stack) spot.image?) : Tracks stack (spot.stop tag).image? := by
  obtain ⟨image?, inHeading, inCode, titled⟩ := spot
  cases image? with
  | none =>
      obtain ⟨htag, hstack⟩ := List.forall_mem_cons.mp h
      have hnone : (stop ⟨none, inHeading, inCode, titled⟩ tag).image? = none := by
        cases tag <;> rfl
      rw [hnone]
      exact hstack
  | some depth =>
      obtain ⟨inner, image, outer, hstack, rfl, himage, houter⟩ := h
      cases inner with
      | nil =>
          obtain ⟨-, rfl⟩ := List.cons.inj hstack
          exact houter
      | cons first rest =>
          obtain ⟨-, rfl⟩ := List.cons.inj hstack
          exact ⟨rest, image, outer, rfl, rfl, himage, houter⟩

/-- The spot tracks what is open, as long as every construct that ends is the one that began last.
-/
theorem tracks_foldl (events : List Event) {stack stack' : List Tag} {spot : Spot}
    (h : Tracks stack spot.image?) (hopen : openTags stack events = some stack') :
    Tracks stack' (events.foldl next spot).image? := by
  fun_induction openTags stack events generalizing spot with
  | case1 stack => exact Option.some.inj hopen ▸ h
  | case2 stack tag rest ih => exact ih (tracks_start h tag) hopen
  | case3 => exact absurd hopen (by simp)
  | case4 stack tag rest ih => exact ih (tracks_stop h) hopen
  | case5 => exact absurd hopen (by simp)
  | case6 stack event rest hstart hstop hstop' ih =>
      -- an event that neither begins nor ends a construct leaves the spot as it is
      have hsame : spot.next event = spot := by
        cases event with
        | start tag => exact absurd rfl (hstart tag)
        | stop tag =>
            cases stack with
            | nil => exact absurd rfl (hstop tag rfl)
            | cons last others => exact absurd rfl (hstop' last others tag rfl)
        | _ => rfl
      rw [List.foldl_cons, hsame]
      exact ih h hopen

end Spot

/-- Where constructs are nested, one is outside of images exactly if no image is open. -/
theorem image?_spotAfter {events : List Event} {stack : List Tag}
    (h : openTags [] events = some stack) :
    (spotAfter events).image? = none ↔ ∀ tag ∈ stack, isImage tag = false := by
  have hnothing : Spot.Tracks [] ({} : Spot).image? := fun _ hmem => absurd hmem List.not_mem_nil
  have htracks := Spot.tracks_foldl events hnothing h
  rw [← spotAfter] at htracks
  cases himage : (spotAfter events).image? with
  | none =>
      rw [himage] at htracks
      exact iff_of_true rfl htracks
  | some depth =>
      rw [himage] at htracks
      obtain ⟨inner, tag, outer, rfl, -, htag, -⟩ := htracks
      refine iff_of_false (by simp) fun hall => ?_
      have hnot := hall tag (List.mem_append_right inner List.mem_cons_self)
      rw [htag] at hnot
      exact Bool.noConfusion hnot

/-! ## Inside an image -/

theorem prefix_append_cases {α : Type} {first second front : List α}
    (h : front <+: first ++ second) : front <+: first ∨ ∃ more, more <+: second ∧ front = first ++ more := by
  rcases List.prefix_or_prefix_of_prefix h (List.prefix_append first second) with hshort | hlong
  · exact .inl hshort
  · obtain ⟨more, rfl⟩ := hlong
    exact .inr ⟨more, (List.prefix_append_right_inj first).mp h, rfl⟩

namespace Spot

mutual

/-- Wherever one is in a tree, one is inside the image that the tree is in. -/
theorem inside_tree : ∀ (tree : EventTree) {spot : Spot} {depth : Nat}, spot.image? = some depth →
    ∀ {front : List Event}, front <+: tree.events → (front.foldl next spot).image?.isSome
  | .leaf leaf, spot, depth, h, front, hfront => by
      rcases List.prefix_cons_iff.mp hfront with rfl | ⟨more, rfl, hmore⟩
      · rw [List.foldl_nil, h, Option.isSome_some]
      · rw [List.prefix_nil.mp hmore, List.foldl_cons, List.foldl_nil, next_leaf, h,
          Option.isSome_some]
  | .node tag children, spot, depth, h, front, hfront => by
      rcases List.prefix_cons_iff.mp hfront with rfl | ⟨more, rfl, hmore⟩
      · rw [List.foldl_nil, h, Option.isSome_some]
      · rw [List.foldl_cons, next, start_inside h]
        rcases prefix_append_cases hmore with hinner | ⟨last, hlast, rfl⟩
        · exact inside_forest children rfl hinner
        · rw [List.foldl_append, foldl_forest children rfl]
          rcases List.prefix_cons_iff.mp hlast with rfl | ⟨none, rfl, hnone⟩
          · rw [List.foldl_nil, Option.isSome_some]
          · rw [List.prefix_nil.mp hnone, List.foldl_cons, List.foldl_nil, next, stop_inside rfl,
              Option.isSome_some]

theorem inside_forest : ∀ (trees : List EventTree) {spot : Spot} {depth : Nat},
    spot.image? = some depth →
    ∀ {front : List Event}, front <+: forestEvents trees → (front.foldl next spot).image?.isSome
  | [], _, _, h, _, hfront => by
      rw [List.prefix_nil.mp hfront, List.foldl_nil, h, Option.isSome_some]
  | tree :: rest, _, _, h, _, hfront => by
      rcases prefix_append_cases hfront with hfirst | ⟨more, hmore, rfl⟩
      · exact inside_tree tree h hfirst
      · rw [List.foldl_append, foldl_tree tree h]
        exact inside_forest rest h hmore

end

end Spot

namespace ImagePlace

variable {place : ImagePlace} (highlighter : Option Highlighter)

/-- The start of a paragraph leads to no other spot outside of images. -/
theorem image?_front (houtside : (spotAfter place.before).image? = none) :
    (spotAfter place.front).image? = none := by
  unfold front
  cases halone : place.alone with
  | false => exact houtside
  | true =>
      obtain ⟨front, alt, behind, hbefore, -, -⟩ := alone_iff.mp halone
      rw [hbefore, spotAfter, List.foldl_append, List.foldl_cons, List.foldl_nil,
        ← spotAfter] at houtside
      rw [if_pos rfl, hbefore, List.dropLast_concat]
      cases himage : (spotAfter front).image? with
      | none => rfl
      | some depth =>
          rw [Spot.next, Spot.start_inside himage] at houtside
          exact absurd houtside (by simp)

theorem isAt_opened (houtside : (spotAfter place.before).image? = none) :
    (place.opened highlighter).IsAt highlighter
      { spotAfter place.front with image? := some 0 } := by
  have hat := (isAt_writerAfter highlighter place.front).step (.start place.tag) place.alone
  have hspot : (spotAfter place.front).next (.start place.tag)
      = { spotAfter place.front with image? := some 0 } := by
    simp only [Spot.next, Spot.start, image?_front houtside, tag]
  rwa [hspot] at hat

/-- Between any two events of an image the writer is inside the image. -/
theorem image_inside (houtside : (spotAfter place.before).image? = none)
    {done more : List (Event × Bool)} (hinner : place.inner = done ++ more) :
    (done.foldl (Writer.step highlighter) (place.opened highlighter)).image.isSome := by
  have hat := (isAt_opened highlighter houtside).run done
  have hprefix : done.map (·.1) <+: forestEvents place.trees := by
    refine ⟨more.map (·.1), ?_⟩
    rw [← List.map_append, ← hinner, inner, List.map_map]
    exact List.map_id _
  have hopen : ({ spotAfter place.front with image? := some 0 } : Spot).image? = some 0 := rfl
  have hinside := Spot.inside_forest place.trees hopen hprefix
  rw [← hat.image, Option.isSome_map] at hinside
  exact hinside

end ImagePlace

/-! ## What is handed on for an image -/

/-- What is handed on before the text in place of an image. -/
def imageFront (alone : Bool) (dest : String) : String :=
  (if alone then "<div class=\"image-container\">\n" else "") ++
    ("<img src=\"" ++ escapeHref dest ++ "\" alt=\"")

/-- What is handed on behind the text in place of an image. -/
def imageEnd (alone : Bool) (title : String) : String :=
  (if title.isEmpty then "" else "\" title=\"" ++ escape title) ++ "\" />" ++
    (if alone then "\n<div class=\"image-caption\">" ++ escape title ++ "</div>\n</div>\n<p>\n"
      else "")

/-- An image as it is written, given what is written in its place: one that is alone is in a
container, where its title is its caption. -/
def imageMarkup (alone : Bool) (dest title value : String) : String :=
  imageFront alone dest ++ value ++ imageEnd alone title

namespace Writer

variable {w : Writer}

theorem extends_imageFront (dest title : String) (alone : Bool) (w : Writer) :
    { w with image := some ⟨title, alone, 0⟩ }.Extends (imageFront alone dest)
      (w.startImage dest title alone) := by
  have hfront : w.Extends (if alone then "<div class=\"image-container\">\n" else "")
      (if alone then w.write "<div class=\"image-container\">\n" else w) := by
    cases alone with
    | false => exact Extends.refl w
    | true => exact ((Extends.refl w).write _).congr String.empty_append
  have hall := ((hfront.write "<img src=\"").emit (escapeHref dest)).write "\" alt=\""
  refine (hall.setImage (some ⟨title, alone, 0⟩)).congr ?_
  rw [imageFront, String.append_assoc, String.append_assoc, String.append_assoc]

theorem extends_imageEnd (image : OpenImage) (w : Writer) :
    { w with image := none }.Extends (imageEnd image.standalone image.title)
      (w.finishImage image) := by
  obtain ⟨title, alone, depth⟩ := image
  have htitle : { w with image := none }.Extends
      (if title.isEmpty then "" else "\" title=\"" ++ escape title)
      (if title.isEmpty then { w with image := none }
        else ({ w with image := none }.write "\" title=\"").emit (escape title)) := by
    split
    · exact Extends.refl _
    · exact (((Extends.refl _).write "\" title=\"").emit (escape title)).congr
        (by rw [String.empty_append])
  have htag := htitle.write "\" />"
  cases alone with
  | false => exact htag.congr String.append_empty.symm
  | true =>
      have hcaption := (htag.write "\n<div class=\"image-caption\">").emit (escape title)
      refine (((hcaption.write "</div>\n").write "</div>\n").write "<p>\n").congr ?_
      have hend : ("</div>\n</div>\n<p>\n" : String) = "</div>\n" ++ ("</div>\n" ++ "<p>\n") := by
        decide
      rw [imageEnd, if_pos rfl, hend]
      simp only [String.append_assoc]

/-- Markup that is not empty tells by itself whether it ends a line. -/
theorem write_line {text : String} (htext : text.isEmpty = false) (line : Bool) (w : Writer) :
    ({ w with atLineStart := line } : Writer).write text = w.write text := by
  unfold write emit
  cases w.held <;> simp only [htext, if_neg Bool.false_ne_true]

/-- So does the end of an image. -/
theorem finishImage_line (image : OpenImage) (line : Bool) (w : Writer) :
    ({ w with atLineStart := line } : Writer).finishImage image = w.finishImage image := by
  have hend := write_line (by decide : ("\" />" : String).isEmpty = false) line
    { w with image := none }
  have hname := write_line (by decide : ("\" title=\"" : String).isEmpty = false) line
    { w with image := none }
  dsimp only at hend hname
  unfold finishImage
  dsimp only
  -- the first markup is that of the title, or of the end of the tag if there is no title
  cases image.title.isEmpty with
  | true => rw [if_pos rfl, if_pos rfl, hend]
  | false => rw [if_neg Bool.false_ne_true, if_neg Bool.false_ne_true, hname]

/-- The writer with other numbers of footnotes. -/
def numbered (footnotes : FootnoteNumbers) (w : Writer) : Writer :=
  { w with footnotes := footnotes }

variable (footnotes : FootnoteNumbers)

theorem emit_numbered (text : String) (w : Writer) :
    (w.numbered footnotes).emit text = (w.emit text).numbered footnotes := by
  unfold emit numbered
  cases w.held <;> rfl

theorem write_numbered (text : String) (w : Writer) :
    (w.numbered footnotes).write text = (w.write text).numbered footnotes := by
  unfold write
  rw [emit_numbered]
  dsimp only
  split <;> rfl

/-- The end of an image has no part in the numbers of footnotes. -/
theorem finishImage_numbered (image : OpenImage) (w : Writer) :
    (w.numbered footnotes).finishImage image = (w.finishImage image).numbered footnotes := by
  have hclosed : { w.numbered footnotes with image := none }
      = { w with image := none }.numbered footnotes := rfl
  unfold finishImage
  dsimp only at hclosed ⊢
  rw [hclosed]
  generalize { w with image := none } = closed
  have htitle : (if image.title.isEmpty then closed.numbered footnotes
      else ((closed.numbered footnotes).write "\" title=\"").emit (escape image.title))
      = (if image.title.isEmpty then closed
        else (closed.write "\" title=\"").emit (escape image.title)).numbered footnotes := by
    rw [apply_ite (numbered footnotes), write_numbered, emit_numbered]
  rw [htitle]
  simp only [write_numbered, emit_numbered]
  split <;> rfl

theorem blank_finishImage (image : OpenImage) (w : Writer) :
    (w.finishImage image).blank = (w.blank.finishImage image).blank := by
  conv_lhs => rw [eq_behind w, finishImage_behind, blank_behind]

/-- The end of an image is the same whatever was quoted in it, but for the numbers of footnotes. -/
theorem Quotes.finishImage {w' : Writer} {text : String} (h : w.Quotes text w')
    (image : OpenImage) :
    (w'.finishImage image).blank = ((w.finishImage image).numbered w'.footnotes).blank := by
  have hblank : w'.blank = ({ w.blank with atLineStart := w'.atLineStart } : Writer).numbered
      w'.footnotes := h.blank
  calc (w'.finishImage image).blank
      = (w'.blank.finishImage image).blank := blank_finishImage image w'
    _ = ((w.blank.finishImage image).numbered w'.footnotes).blank := by
        rw [hblank, finishImage_numbered, finishImage_line]
    _ = ((w.finishImage image).numbered w'.footnotes).blank :=
        congrArg (numbered w'.footnotes) (blank_finishImage image w).symm

end Writer

/-! ## Images from start to end -/

namespace ImagePlace

variable {place : ImagePlace} (highlighter : Option Highlighter)

theorem keepsLine_front (place : ImagePlace) :
    (writerAfter highlighter place.front).KeepsLine :=
  (Writer.grows_run highlighter _ Writer.keepsLine_empty).line

/-- The start of an image is held back by a heading that waits. -/
theorem opened_eq (houtside : (spotAfter place.before).image? = none) :
    place.opened highlighter
      = (writerAfter highlighter place.front).poised.startImage place.dest place.title
          place.alone := by
  have hready := (isAt_writerAfter highlighter place.front).ready (image?_front houtside)
  have himage : (writerAfter highlighter place.front).poised.image = none := hready.image
  rw [opened, Writer.step_eq_act highlighter (keepsLine_front highlighter place).steady place.alone
    fun _ _ => rfl, Writer.act, himage]
  rfl

theorem image_opened (houtside : (spotAfter place.before).image? = none) :
    (place.opened highlighter).image = some ⟨place.title, place.alone, 0⟩ := by
  rw [opened_eq highlighter houtside]
  rfl

/-- The document is written by way of the writer at the end of the image. -/
theorem foldl_place (hinline : areInline place.trees) :
    (markStandalone place.events).foldl (Writer.step highlighter) {}
      = (markStandalone place.behind).foldl (Writer.step highlighter)
          (place.closed highlighter) := by
  rw [markStandalone_place hinline, List.foldl_append, List.foldl_cons, List.foldl_append,
    List.foldl_cons]
  rfl

/-- In the image its words are quoted, with the numbers that labels have in the whole document. -/
theorem quotes_inner (houtside : (spotAfter place.before).image? = none)
    (hinline : areInline place.trees) :
    (place.opened highlighter).Quotes
      (escape (altText (noteNumber highlighter place.events) place.trees))
      (place.inner.foldl (Writer.step highlighter) (place.opened highlighter)) := by
  have hopen := image_opened highlighter houtside
  rw [inner, ← forestMarked_inline hinline]
  have hnumber : ∀ label, noteNumber highlighter place.events label
      = (numberedLabels highlighter place.events).idxOf label + 1 := fun _ => rfl
  refine Writer.quotes_forest hnumber place.trees _ _ hinline hopen ?_
  -- the labels that were met in the image begin those of the document
  refine List.IsPrefix.trans ?_ (List.prefix_append _ _)
  rw [markStandalone_place hinline, List.foldl_append, List.foldl_cons, List.foldl_append, inner,
    ← forestMarked_inline hinline]
  exact Writer.labels_foldl _ _

theorem closed_eq (houtside : (spotAfter place.before).image? = none)
    (hinline : areInline place.trees) :
    place.closed highlighter
      = (place.inner.foldl (Writer.step highlighter) (place.opened highlighter)).finishImage
          ⟨place.title, place.alone, 0⟩ := by
  have hquotes := quotes_inner highlighter houtside hinline
  have hopen := image_opened highlighter houtside
  rw [closed, Writer.step_of_image highlighter (hquotes.grows.image.trans hopen)]
  rfl

/-- What is handed on from the start of the image to its end. -/
theorem view_closed (houtside : (spotAfter place.before).image? = none)
    (hinline : areInline place.trees) :
    (place.closed highlighter).image = none ∧
    (place.closed highlighter).view = (writerAfter highlighter place.front).view.add
      (imageMarkup place.alone place.dest place.title
        (escape (altText (noteNumber highlighter place.events) place.trees))) := by
  have hready := (isAt_writerAfter highlighter place.front).ready (image?_front houtside)
  have hsteady := Writer.steady_poised (writerAfter highlighter place.front)
  have hfront := Writer.extends_imageFront place.dest place.title place.alone
    (writerAfter highlighter place.front).poised
  rw [← opened_eq highlighter houtside] at hfront
  have hquotes := quotes_inner highlighter houtside hinline
  have hend := Writer.extends_imageEnd ⟨place.title, place.alone, 0⟩
    (place.inner.foldl (Writer.step highlighter) (place.opened highlighter))
  -- but for its own field an open image is no different from none
  have hall := ((hfront.trans hquotes.grows).setImage none).trans hend
  rw [← closed_eq highlighter houtside hinline] at hall
  have hnone : { (writerAfter highlighter place.front).poised with image := none }
      = (writerAfter highlighter place.front).poised := by
    rw [← hready.image]
    rfl
  dsimp only at hnone hall
  rw [hnone] at hall
  have hpoised : (writerAfter highlighter place.front).poised.IsReady :=
    ⟨hready.image, hsteady.held⟩
  obtain ⟨hover, hview⟩ := Writer.view_extends hpoised
    (fun hwaits => Option.isSome_iff_exists.mpr ⟨_, if_pos hwaits⟩) hall
  rw [Writer.view_poised] at hview
  exact ⟨hover.image, hview⟩

/-- What is remembered of the image is what would be remembered of an empty one, but for the
footnotes that it refers to. -/
theorem blank_skipped (houtside : (spotAfter place.before).image? = none)
    (hinline : areInline place.trees) :
    (place.closed highlighter).blank = (place.skipped highlighter).blank := by
  have hopen := image_opened highlighter houtside
  have hstop : (place.opened highlighter).step highlighter (.stop place.tag, false)
      = (place.opened highlighter).finishImage ⟨place.title, place.alone, 0⟩ := by
    rw [Writer.step_of_image highlighter hopen]
    rfl
  have hblank := (quotes_inner highlighter houtside hinline).finishImage
    ⟨place.title, place.alone, 0⟩
  rw [skipped, hstop, closed_eq highlighter houtside hinline, hblank, Writer.footnotes_finishImage]
  rfl

theorem keepsLine_closed (place : ImagePlace) :
    (place.closed highlighter).KeepsLine := by
  have hrun := Writer.grows_run highlighter
    ((.start place.tag, place.alone) :: (place.inner ++ [(Event.stop place.tag, false)]))
    (keepsLine_front highlighter place)
  rw [List.foldl_cons, List.foldl_append, List.foldl_cons, List.foldl_nil] at hrun
  exact hrun.line

theorem keepsLine_skipped (place : ImagePlace) :
    (place.skipped highlighter).KeepsLine := by
  have hrun := (Writer.grows_run highlighter
    [(.start place.tag, place.alone), (.stop place.tag, false)]
    (keepsLine_front highlighter place)).line
  -- the numbers of footnotes have no part in the line
  exact ⟨⟨hrun.steady.held, hrun.steady.image⟩, hrun.fresh⟩

end ImagePlace

/-- How an image is written that is not itself in the text in place of another image, and what comes
behind it. -/
structure WritesImage (highlighter : Option Highlighter) (place : ImagePlace) : Prop where
  /-- The writer is given the events before the image and behind it, and between them those of the
  image; if the image is alone, its paragraph is taken away and it is flagged. -/
  given : markStandalone place.events
    = markStandalone place.front ++ (.start place.tag, place.alone) ::
        (place.inner ++ (.stop place.tag, false) :: markStandalone place.behind)
  /-- From its start to its end the writer is inside an image, and from then on it is not. -/
  inside : ∀ done more, place.inner = done ++ more →
    (done.foldl (Writer.step highlighter) (place.opened highlighter)).image.isSome
  ended : (place.closed highlighter).image = none
  /-- One element is handed on, in a container if the image is alone. The value in its place is read
  as the words of the image, with the numbers that labels have in the whole document. -/
  element : ∃ value, (place.closed highlighter).view
      = (writerAfter highlighter place.front).view.add
          (imageMarkup place.alone place.dest place.title value) ∧
    ∀ rest, attributeValue (value.toList ++ '"' :: rest)
      = (altText (noteNumber highlighter place.events) place.trees).toList
  /-- All that comes behind the image adds the same text, with the same identifier put in, and is
  remembered in the same way as if nothing had been in the image but the numbers of footnotes. -/
  later : ∀ done more, markStandalone place.behind = done ++ more →
    (done.foldl (Writer.step highlighter) (place.closed highlighter)).blank
      = (done.foldl (Writer.step highlighter) (place.skipped highlighter)).blank ∧
    ∃ inserted text, IsInsertion inserted ∧
      (done.foldl (Writer.step highlighter) (place.closed highlighter)).emitted
        = (place.closed highlighter).view.front inserted ++ text ∧
      (done.foldl (Writer.step highlighter) (place.skipped highlighter)).emitted
        = (place.skipped highlighter).view.front inserted ++ text
  /-- So does the end of the document. -/
  document : ∃ inserted text, IsInsertion inserted ∧
    (Writer.ofEvents highlighter place.events).emitted
      = (place.closed highlighter).view.front inserted ++ text ∧
    ((markStandalone place.behind).foldl (Writer.step highlighter)
        (place.skipped highlighter)).finish.emitted
      = (place.skipped highlighter).view.front inserted ++ text

/-- An image that holds what may stand in a line, whatever that is, takes its own events and becomes
one element. -/
theorem writesImage_outside (highlighter : Option Highlighter) (place : ImagePlace)
    (houtside : (spotAfter place.before).image? = none) (hinline : areInline place.trees) :
    WritesImage highlighter place := by
  obtain ⟨hover, hview⟩ := ImagePlace.view_closed highlighter houtside hinline
  have hclosed := ImagePlace.keepsLine_closed highlighter place
  have hskipped := ImagePlace.keepsLine_skipped highlighter place
  have hblank := ImagePlace.blank_skipped highlighter houtside hinline
  refine ⟨ImagePlace.markStandalone_place hinline,
    fun done more => ImagePlace.image_inside highlighter houtside, hover,
    ⟨_, hview, attributeValue_escape _⟩, fun done more _ => ?_, ?_⟩
  · obtain ⟨inserted, text, hinserted, hrun⟩ := Writer.emitted_run highlighter done hclosed
    exact ⟨Writer.blank_run done hclosed hskipped hblank, inserted, text, hinserted,
      hrun _ hclosed rfl, hrun _ hskipped hblank.symm⟩
  · obtain ⟨inserted, text, hinserted, hrun⟩ :=
      Writer.emitted_run highlighter (markStandalone place.behind) hclosed
    have hclosed' := (Writer.grows_run highlighter (markStandalone place.behind) hclosed).line
    have hskipped' := (Writer.grows_run highlighter (markStandalone place.behind) hskipped).line
    obtain ⟨last, hfinish⟩ := Writer.emitted_finish
      ((markStandalone place.behind).foldl (Writer.step highlighter) (place.closed highlighter))
    refine ⟨inserted, text ++ last, hinserted, ?_, ?_⟩
    · rw [Writer.ofEvents, ImagePlace.foldl_place highlighter hinline, hfinish _ hclosed' rfl,
        hrun _ hclosed rfl, String.append_assoc]
    · rw [hfinish _ hskipped' (Writer.blank_run _ hclosed hskipped hblank).symm,
        hrun _ hskipped hblank.symm, String.append_assoc]

/-- An image behind a reference in a paragraph. It holds a text, another image, a link with emphasis
in it, and raw HTML; a reference that was made in it is made again behind it. -/
def mixedImage : ImagePlace where
  before := [.start .paragraph, .footnoteReference "a"]
  dest := "i.png"
  title := "T"
  trees := [.leaf (.text "1 < 2"),
    .node (.image "j.png" "") [.leaf (.code "\"x\""), .leaf (.footnoteReference "b")],
    .node (.link .inline "k" "") [.node .emphasis [.leaf .softBreak, .leaf (.taskMarker true)]],
    .leaf (.html "<br>")]
  after := [.footnoteReference "b", .stop .paragraph]

/-- The page has one image in a paragraph. -/
theorem writesImage_mixed :
    (spotAfter mixedImage.before).image? = none ∧ areInline mixedImage.trees ∧
    WritesImage none mixedImage ∧
    altText (noteNumber none mixedImage.events) mixedImage.trees = "1 < 2\"x\"[2] [x]<br>" ∧
    render none mixedImage.events
      = "<p><sup class=\"footnote-reference\" id=\"r.a\"><a href=\"#f.a\">1</a></sup>" ++
        "<img src=\"i.png\" alt=\"1 &lt; 2&quot;x&quot;[2] [x]&lt;br&gt;\" title=\"T\" />" ++
        "<sup class=\"footnote-reference\" id=\"r.b\"><a href=\"#f.b\">2</a></sup></p>\n" :=
  ⟨by decide, by decide, writesImage_outside none mixedImage (by decide) (by decide),
    by decide +kernel, by decide +kernel⟩

/-- An image that is all of its paragraph is a figure. -/
example : render none [.start .paragraph, .start (.image "i.png" "T"), .text "x",
    .stop (.image "i.png" "T"), .stop .paragraph]
      = imageMarkup true "i.png" "T" "x" := by decide +kernel

end StaticSite.Html
