import StaticSite.Proofs.Html.CalmMarkup
import StaticSite.Proofs.Markdown.WordLine

/-!
# Parts of a page

A heading is an element of its page: the tag with which it begins, the link to itself, its content
and the tag that ends it. Between headings, and inside them, stand markup, the raw HTML of the
document and what a highlighter made of code. The content of a heading that is a line of words is
known from the document alone.

## What this module delivers

- `Stretch`, `HeadingElement`, `PagePart`, `assemble`: the parts of a page.
- `forestMarkup`: the markup of a line of words.
- `Renders`: an element that shows a heading of a document.
- `Woven`, `IsBuilt`, with `Woven.append`, `IsBuilt.append`: texts that are made of such parts.
-/

set_option autoImplicit false

namespace StaticSite.Html

open StaticSite.Markdown

/-! ## Parts of a page -/

/-- A stretch of a page without headings of the document. -/
inductive Stretch where
  | markup (text : String)
  | raw (content : String)
  | highlighted (content : String)
deriving DecidableEq, Repr

namespace Stretch

/-- A stretch as it stands on a page. -/
def text : Stretch → String
  | markup text => text
  | raw content => content
  | highlighted content => content

/-- The raw HTML of a document. -/
def raw? : Stretch → Option String
  | raw content => some content
  | _ => none

/-- Markup is calm, and what is highlighted comes from the highlighter. -/
def IsGenuine (highlighter : Option Highlighter) : Stretch → Prop
  | markup text => IsCalm text
  | raw _ => True
  | highlighted content => ∃ highlight code language,
      highlighter = some highlight ∧ highlight code language = some content

end Stretch

/-- Stretches one after the other. -/
def weave (row : List Stretch) : String :=
  String.join (row.map Stretch.text)

theorem weave_append (row more : List Stretch) : weave (row ++ more) = weave row ++ weave more := by
  rw [weave, List.map_append, String.join_append, weave, weave]

/-- A heading on a page. The first one is the page's title, and every later one finds the page
titled. -/
structure HeadingElement where
  level : Int
  titled : Bool
  identifier : String
  content : List Stretch
deriving DecidableEq, Repr

/-- A heading as it stands on a page. -/
def HeadingElement.text (element : HeadingElement) : String :=
  headingStart element.level element.titled ++ Writer.identifierText element.identifier ++
    weave element.content ++ ("</h" ++ toString element.level ++ ">")

/-- A part of a page. -/
inductive PagePart where
  | stretch (piece : Stretch)
  | heading (element : HeadingElement)
deriving DecidableEq, Repr

namespace PagePart

/-- A part as it stands on a page. -/
def text : PagePart → String
  | stretch piece => piece.text
  | heading element => element.text

/-- The heading that a part is. -/
def element? : PagePart → Option HeadingElement
  | stretch _ => none
  | heading element => some element

/-- The raw HTML in a part. -/
def raws : PagePart → List String
  | stretch piece => piece.raw?.toList
  | heading element => element.content.filterMap Stretch.raw?

/-- Every stretch of a part is genuine, and the identifier of a heading may be written as it is. -/
def IsGenuine (highlighter : Option Highlighter) : PagePart → Prop
  | stretch piece => piece.IsGenuine highlighter
  | heading element => isPlain element.identifier.toList ∧
      ∀ piece ∈ element.content, piece.IsGenuine highlighter

end PagePart

/-- Parts of a page one after the other. -/
def assemble (parts : List PagePart) : String :=
  String.join (parts.map PagePart.text)

/-- The headings among parts of a page. -/
def elementsOf (parts : List PagePart) : List HeadingElement :=
  parts.filterMap PagePart.element?

theorem assemble_append (parts more : List PagePart) :
    assemble (parts ++ more) = assemble parts ++ assemble more := by
  rw [assemble, List.map_append, String.join_append, assemble, assemble]

theorem assemble_cons (part : PagePart) (rest : List PagePart) :
    assemble (part :: rest) = part.text ++ assemble rest := by
  rw [assemble, List.map_cons, String.join_cons, assemble]

/-- A heading with what stands before it and the line end behind it. -/
theorem assemble_heading {before behind : List PagePart} {element : HeadingElement}
    (hbehind : assemble behind = "\n") :
    assemble (before ++ [.heading element] ++ behind)
      = assemble before ++ (headingStart element.level element.titled
        ++ (Writer.identifierText element.identifier
          ++ (weave element.content ++ ("</h" ++ toString element.level ++ ">\n")))) := by
  have hend : (">\n" : String) = ">" ++ "\n" := rfl
  rw [assemble_append, assemble_append, hbehind, assemble_cons, PagePart.text,
    HeadingElement.text, hend]
  simp [assemble, String.append_assoc]

theorem elementsOf_append (parts more : List PagePart) :
    elementsOf (parts ++ more) = elementsOf parts ++ elementsOf more :=
  List.filterMap_append

theorem assemble_stretches (row : List Stretch) : assemble (row.map .stretch) = weave row := by
  rw [assemble, weave, List.map_map]
  rfl

theorem elementsOf_stretches (row : List Stretch) : elementsOf (row.map .stretch) = [] := by
  rw [elementsOf, List.filterMap_map]
  exact List.filterMap_eq_nil_iff.mpr fun _ _ => rfl

/-! ## Texts made of parts -/

/-- A text is a row of genuine stretches with this raw HTML. -/
def Woven (highlighter : Option Highlighter) (text : String) (raws : List String) : Prop :=
  ∃ row, weave row = text ∧ (∀ stretch ∈ row, stretch.IsGenuine highlighter) ∧
    row.filterMap Stretch.raw? = raws

/-- Whether text in a place goes to the page: it does unless a code block encloses the place and a
highlighter waits for the code. -/
def IsQuiet (highlighter : Option Highlighter) (inCode : Bool) : Prop :=
  highlighter = none ∨ inCode = false

/-- The markup of an event that encloses nothing, if it is a part of a line of words. -/
def leafMarkup : Leaf → String
  | .text content => escape content
  | .code content => "<code>" ++ escape content ++ "</code>"
  | .softBreak => "\n"
  | .hardBreak => "<br />\n"
  | _ => ""

/-- The markup with which a construct of a line of words begins. -/
def startMarkup : Tag → String
  | .emphasis => "<em>"
  | .strong => "<strong>"
  | .strikethrough => "<del>"
  | .link form dest title => Writer.linkFront form dest title
  | _ => ""

/-- The markup with which a construct of a line of words ends. -/
def stopMarkup : Tag → String
  | .emphasis => "</em>"
  | .strong => "</strong>"
  | .strikethrough => "</del>"
  | .link .. => "</a>"
  | _ => ""

mutual

/-- The markup of a tree that is a part of a line of words. -/
def treeMarkup : EventTree → String
  | .leaf leaf => leafMarkup leaf
  | .node tag children => startMarkup tag ++ (forestMarkup children ++ stopMarkup tag)

def forestMarkup : List EventTree → String
  | [] => ""
  | tree :: rest => treeMarkup tree ++ forestMarkup rest

end

/-- An element of a page shows a heading of the document: they have the same level, and the content
of a line of words is its markup. -/
def Renders (highlighter : Option Highlighter) (heading : Heading) (element : HeadingElement) :
    Prop :=
  element.level = heading.level ∧
    (IsQuiet highlighter heading.inCode → areWorded heading.children →
      weave element.content = forestMarkup heading.children)

/-- Whether each of a number of headings finds the page titled, given whether the first one does. -/
def titledFrom (titled : Bool) : Nat → List Bool
  | 0 => []
  | n + 1 => titled :: List.replicate n true

theorem titledFrom_add (titled : Bool) (m n : Nat) :
    titledFrom titled (m + n) = titledFrom titled m ++ titledFrom (titled || decide (0 < m)) n := by
  cases m with
  | zero => simp [titledFrom]
  | succ m =>
      have hlater : ∀ k, titledFrom true k = List.replicate k true := by
        intro k
        cases k <;> rfl
      rw [Nat.succ_add, titledFrom, titledFrom, List.replicate_add]
      simp [hlater]

/-- A text is made of genuine parts that show these headings, with this raw HTML. -/
structure IsBuilt (highlighter : Option Highlighter) (titled : Bool) (parts : List PagePart)
    (headings : List Heading) (raws : List String) : Prop where
  genuine : ∀ part ∈ parts, part.IsGenuine highlighter
  renders : List.Forall₂ (Renders highlighter) headings (elementsOf parts)
  titles : (elementsOf parts).map HeadingElement.titled = titledFrom titled headings.length
  raws : parts.flatMap PagePart.raws = raws

section

variable {highlighter : Option Highlighter} {text more : String} {raws raws' : List String}
  {parts parts' : List PagePart} {headings headings' : List Heading} {titled : Bool}

theorem Woven.empty : Woven highlighter "" [] :=
  ⟨[], rfl, by simp, rfl⟩

theorem Woven.append (h : Woven highlighter text raws) (h' : Woven highlighter more raws') :
    Woven highlighter (text ++ more) (raws ++ raws') := by
  obtain ⟨row, rfl, hgenuine, rfl⟩ := h
  obtain ⟨others, rfl, hgenuine', rfl⟩ := h'
  refine ⟨row ++ others, weave_append row others, ?_, List.filterMap_append⟩
  intro stretch hstretch
  rcases List.mem_append.mp hstretch with hstretch | hstretch
  · exact hgenuine stretch hstretch
  · exact hgenuine' stretch hstretch

theorem Woven.stretch (stretch : Stretch) (h : stretch.IsGenuine highlighter) :
    Woven highlighter stretch.text stretch.raw?.toList := by
  refine ⟨[stretch], ?_, ?_, ?_⟩
  · rw [weave, List.map_singleton, String.join_cons, String.join_nil, String.append_empty]
  · intro other hother
    rw [List.mem_singleton.mp hother]
    exact h
  · cases hraw : stretch.raw? <;> simp [hraw]

theorem Woven.calm (h : IsCalm text) : Woven highlighter text [] :=
  Woven.stretch (.markup text) h

theorem IsBuilt.append (h : IsBuilt highlighter titled parts headings raws)
    (h' : IsBuilt highlighter (titled || decide (0 < headings.length)) parts' headings' raws') :
    IsBuilt highlighter titled (parts ++ parts') (headings ++ headings') (raws ++ raws') := by
  refine ⟨?_, ?_, ?_, ?_⟩
  · intro part hpart
    rcases List.mem_append.mp hpart with hpart | hpart
    · exact h.genuine part hpart
    · exact h'.genuine part hpart
  · rw [elementsOf_append]
    exact List.rel_append h.renders h'.renders
  · rw [elementsOf_append, List.map_append, h.titles, h'.titles, List.length_append, titledFrom_add]
  · rw [List.flatMap_append, h.raws, h'.raws]

theorem IsBuilt.congr (h : IsBuilt highlighter titled parts headings raws)
    (hheadings : headings = headings') (hraws : raws = raws') :
    IsBuilt highlighter titled parts headings' raws' :=
  hheadings ▸ hraws ▸ h

/-- Stretches show no headings. -/
theorem IsBuilt.stretches (titled : Bool) (h : Woven highlighter text raws) :
    ∃ parts, assemble parts = text ∧ IsBuilt highlighter titled parts [] raws := by
  obtain ⟨row, rfl, hgenuine, rfl⟩ := h
  refine ⟨row.map .stretch, assemble_stretches row, ?_, ?_, ?_, ?_⟩
  · intro part hpart
    obtain ⟨stretch, hstretch, rfl⟩ := List.mem_map.mp hpart
    exact hgenuine stretch hstretch
  · rw [elementsOf_stretches]
    exact .nil
  · rw [elementsOf_stretches]
    rfl
  · rw [List.flatMap_map, List.filterMap_eq_flatMap_toList]
    rfl

/-- An element that shows a heading. -/
theorem IsBuilt.heading {heading : Heading} {element : HeadingElement}
    (hplain : isPlain element.identifier.toList)
    (hgenuine : ∀ stretch ∈ element.content, stretch.IsGenuine highlighter)
    (h : Renders highlighter heading element) :
    IsBuilt highlighter element.titled [.heading element] [heading]
      (element.content.filterMap Stretch.raw?) := by
  refine ⟨?_, .cons h .nil, rfl, ?_⟩
  · intro part hpart
    rw [List.mem_singleton.mp hpart]
    exact ⟨hplain, hgenuine⟩
  · simp [PagePart.raws]

end

end StaticSite.Html
