import StaticSite.Proofs.Html.Attributes
import StaticSite.Proofs.Html.Writing
import StaticSite.Proofs.Markdown.Nesting

/-!
# Landmarks of a page

A page leads to itself in three ways: a heading links to itself, a reference to the definition of
its footnote, and a definition back to its reference. These places are the landmarks of a page. They
follow from the document alone, and so do the identifiers of footnotes; only the identifiers of
headings are chosen while the page is written.

## What this module delivers

- `Landmark`, `forestLandmarks`: the landmarks that a document's page will have, in order.
- `forestMentions`, `FootnotesMatch`: documents whose references and definitions belong together.
- `PageSpan`, `spell`: a page as a row of landmarks with markup between them.
- `scans_spell`: the identifiers on a page are those of its landmarks.
- `count_reference`, `count_definition`, `count_heading`: how often an identifier occurs.
- `nodup_identifiers_iff`: when no identifier occurs twice.
-/

set_option autoImplicit false

namespace StaticSite.Html

open StaticSite.Markdown

/-! ## Landmarks of a document -/

/-- A place of a page that leads to another or is led to. -/
inductive Landmark where
  | heading (level : Int)
  | reference (label : String)
  | definition (label : String)
  /-- The link at the end of a definition, back to the reference. -/
  | back (label : String)
deriving DecidableEq, Repr

/-- The landmarks where a construct begins. -/
def startLandmarks : Tag → List Landmark
  | .heading level => [.heading level]
  | .footnoteDefinition label => [.definition label]
  | _ => []

/-- The landmarks where a construct ends. -/
def stopLandmarks : Tag → List Landmark
  | .footnoteDefinition label => [.back label]
  | _ => []

/-- The landmarks of an event that encloses nothing. -/
def leafLandmarks : Leaf → List Landmark
  | .footnoteReference label => [.reference label]
  | _ => []

mutual

/-- The landmarks of a tree. The text in place of an image has none. -/
def treeLandmarks : EventTree → List Landmark
  | .leaf leaf => leafLandmarks leaf
  | .node (.image _ _) _ => []
  | .node tag children => startLandmarks tag ++ (forestLandmarks children ++ stopLandmarks tag)

def forestLandmarks : List EventTree → List Landmark
  | [] => []
  | tree :: rest => treeLandmarks tree ++ forestLandmarks rest

end

/-- The label of a reference. -/
def Landmark.referenced? : Landmark → Option String
  | .reference label => some label
  | _ => none

/-- The label of a definition. -/
def Landmark.defined? : Landmark → Option String
  | .definition label => some label
  | _ => none

/-- The labels that are referenced outside of images, once for every reference. -/
def forestReferences (trees : List EventTree) : List String :=
  (forestLandmarks trees).filterMap Landmark.referenced?

/-- The labels that are defined, once for every definition. -/
def forestDefinitions (trees : List EventTree) : List String :=
  (forestLandmarks trees).filterMap Landmark.defined?

mutual

/-- The labels that a tree refers to, also in the text in place of an image. -/
def treeMentions : EventTree → List String
  | .leaf (.footnoteReference label) => [label]
  | .leaf _ => []
  | .node _ children => forestMentions children

def forestMentions : List EventTree → List String
  | [] => []
  | tree :: rest => treeMentions tree ++ forestMentions rest

end

/-- Every footnote that is referred to has exactly one definition, and every definition is referred
to. -/
structure FootnotesMatch (trees : List EventTree) : Prop where
  defined : ∀ label ∈ forestMentions trees, (forestDefinitions trees).count label = 1
  mentioned : ∀ label ∈ forestDefinitions trees, label ∈ forestMentions trees

mutual

theorem references_subset_tree : ∀ (tree : EventTree) (label : String),
    .reference label ∈ treeLandmarks tree → label ∈ treeMentions tree
  | .leaf leaf, label, h => by
      cases leaf with
      | footnoteReference other => simpa [treeLandmarks, leafLandmarks, treeMentions] using h
      | _ => simp [treeLandmarks, leafLandmarks] at h
  | .node tag children, label, h => by
      have hchildren := references_subset_forest children label
      rw [treeMentions]
      cases tag with
      | image dest title => simp [treeLandmarks] at h
      | _ =>
          apply hchildren
          simpa [treeLandmarks, startLandmarks, stopLandmarks] using h

/-- A reference among the landmarks is a mention of its label. -/
theorem references_subset_forest : ∀ (trees : List EventTree) (label : String),
    .reference label ∈ forestLandmarks trees → label ∈ forestMentions trees
  | [], _, h => by simp [forestLandmarks] at h
  | tree :: rest, label, h => by
      rw [forestLandmarks, List.mem_append] at h
      rw [forestMentions, List.mem_append]
      rcases h with h | h
      · exact .inl (references_subset_tree tree label h)
      · exact .inr (references_subset_forest rest label h)

end

/-! ## Spans of a page -/

/-- The front of a heading, up to the quote that opens its identifier. The first heading of a page
is its title. -/
def headingStart (level : Int) (titled : Bool) : String :=
  "<h" ++ toString level ++ (if titled then "" else " class=\"title\"") ++ " id=\""

/-- The identifier of a reference. -/
def referenceIdentifier (label : String) : String :=
  "r." ++ escape label

/-- The identifier of a definition. -/
def definitionIdentifier (label : String) : String :=
  "f." ++ escape label

/-- A stretch of a page: a landmark, or the markup up to the next one. -/
inductive PageSpan where
  | markup (text : String)
  | heading (level : Int) (titled : Bool) (identifier : String)
  | reference (label : String) (number : Nat)
  | definition (label : String) (number : Nat)
  | back (label : String)
deriving DecidableEq, Repr

namespace PageSpan

/-- A span as it stands on a page. A heading links to its own identifier, a reference to that of the
definition, and the end of a definition to that of the reference. -/
def text : PageSpan → String
  | markup text => text
  | heading level titled identifier => headingStart level titled ++ Writer.identifierText identifier
  | reference label number =>
      "<sup class=\"footnote-reference\" id=\"" ++ referenceIdentifier label ++ "\"><a href=\"#" ++
        definitionIdentifier label ++ "\">" ++ toString number ++ "</a></sup>"
  | definition label number =>
      "<p class=\"footnote\" id=\"" ++ definitionIdentifier label ++ "\"><sup>" ++
        toString number ++ "</sup> "
  | back label => " <a href=\"#" ++ referenceIdentifier label ++ "\">↩</a></p>\n"

theorem text_heading (level : Int) (titled : Bool) (identifier : String) :
    (heading level titled identifier).text
      = headingStart level titled ++ Writer.identifierText identifier := rfl

theorem text_reference (label : String) (number : Nat) :
    (reference label number).text
      = "<sup class=\"footnote-reference\" id=\"" ++ referenceIdentifier label ++
        "\"><a href=\"#" ++ definitionIdentifier label ++ "\">" ++ toString number ++
        "</a></sup>" := rfl

theorem text_definition (label : String) (number : Nat) :
    (definition label number).text
      = "<p class=\"footnote\" id=\"" ++ definitionIdentifier label ++ "\"><sup>" ++
        toString number ++ "</sup> " := rfl

theorem text_back (label : String) :
    (back label).text = " <a href=\"#" ++ referenceIdentifier label ++ "\">↩</a></p>\n" := rfl

/-- The landmark that a span is. -/
def landmark? : PageSpan → Option Landmark
  | markup _ => none
  | heading level _ _ => some (.heading level)
  | reference label _ => some (.reference label)
  | definition label _ => some (.definition label)
  | back label => some (.back label)

/-- The identifier of a heading. -/
def headingIdentifier? : PageSpan → Option String
  | heading _ _ identifier => some identifier
  | _ => none

/-- The identifier that a span puts on the page. -/
def identifier? : PageSpan → Option String
  | heading _ _ identifier => some identifier
  | reference label _ => some (referenceIdentifier label)
  | definition label _ => some (definitionIdentifier label)
  | _ => none

/-- Markup between landmarks has no identifiers, and the identifier of a heading may be written as
it is and is not that of a footnote. -/
def IsClean : PageSpan → Prop
  | markup text => Scans .text text .text []
  | heading _ _ identifier => isPlain identifier.toList ∧ '.' ∉ identifier.toList
  | _ => True

end PageSpan

/-- Spans as they stand on a page. -/
def spell (spans : List PageSpan) : String :=
  String.join (spans.map PageSpan.text)

theorem spell_append (spans more : List PageSpan) :
    spell (spans ++ more) = spell spans ++ spell more := by
  rw [spell, List.map_append, String.join_append, spell, spell]

theorem spell_cons (span : PageSpan) (rest : List PageSpan) :
    spell (span :: rest) = span.text ++ spell rest := by
  rw [spell, List.map_cons, String.join_cons, spell]

/-! ## The identifiers of spans -/

theorem quotable_referenceIdentifier (label : String) :
    isQuotable (referenceIdentifier label).toList := by
  rw [referenceIdentifier, String.toList_append, isQuotable_append, quotable_escape]
  rfl

theorem quotable_definitionIdentifier (label : String) :
    isQuotable (definitionIdentifier label).toList := by
  rw [definitionIdentifier, String.toList_append, isQuotable_append, quotable_escape]
  rfl

/-- An attribute with the name `id` is the identifier. -/
theorem scans_identifier {front identifier : String} {mode : ScanMode}
    (hfront : Scans mode front (.value "id".toList []) []) (h : isQuotable identifier.toList) :
    Scans mode (front ++ identifier ++ "\"") (.tag []) [identifier] := by
  have hvalue := scans_value h "id".toList []
  have hend : Scans (.value "id".toList ([] ++ identifier.toList)) "\"" (.tag []) [identifier] := by
    refine ⟨[⟨"id", identifier⟩], ?_, rfl⟩
    simp [scanFrom, ScanMode.step]
  exact (hfront.append hvalue).append hend

/-- The front of a heading is scanned up to the quote that opens its identifier, whatever its level
is. -/
theorem scans_headingStart (level : Int) (titled : Bool) :
    Scans .text (headingStart level titled) (.value "id".toList []) [] := by
  have hopen : Scans .text "<h" (.tag ['h']) [] := ⟨_, rfl, rfl⟩
  have hname := hopen.append (scans_tagName_int level ['h'])
  -- a class is an attribute of its own, and leaves the scanner in some name
  have hclass : ∃ name, Scans (.tag (['h'] ++ (toString level).toList))
      (if titled then "" else " class=\"title\"") (.tag name) [] := by
    cases titled with
    | true => exact ⟨_, Scans.empty _⟩
    | false => exact ⟨[], ⟨_, rfl, rfl⟩⟩
  obtain ⟨name, hclass⟩ := hclass
  have hid : Scans (.tag name) " id=\"" (.value "id".toList []) [] := ⟨_, rfl, rfl⟩
  exact (hname.append hclass).append hid

theorem scans_heading (level : Int) (titled : Bool) {identifier : String}
    (h : isPlain identifier.toList) :
    Scans .text (PageSpan.heading level titled identifier).text .text [identifier] := by
  have hquotable := quotable_of_plain h
  have hid := scans_identifier (scans_headingStart level titled) hquotable
  have hclose : Scans (.tag []) ">" .text [] := ⟨_, rfl, rfl⟩
  have hlink : Scans .text "<a class=\"anchor\" href=\"#" (.value "href".toList ['#']) [] :=
    ⟨_, rfl, rfl⟩
  have htarget := scans_value hquotable "href".toList ['#']
  have hend : Scans (.value "href".toList (['#'] ++ identifier.toList)) "\">¶</a>" .text [] :=
    ⟨_, rfl, rfl⟩
  have hquote : ("\">" : String) = "\"" ++ ">" := rfl
  have hall := (hid.append hclose).append ((hlink.append htarget).append hend)
  rw [PageSpan.text_heading, Writer.identifierText, hquote]
  simpa only [String.append_assoc, List.append_nil] using hall

theorem scans_reference (label : String) (number : Nat) :
    Scans .text (PageSpan.reference label number).text .text [referenceIdentifier label] := by
  have hopen : Scans .text "<sup class=\"footnote-reference\" id=\"" (.value "id".toList []) [] :=
    ⟨_, rfl, rfl⟩
  have hid := scans_identifier hopen (quotable_referenceIdentifier label)
  have hlink : Scans (.tag []) "><a href=\"#" (.value "href".toList ['#']) [] := ⟨_, rfl, rfl⟩
  have htarget := scans_value (quotable_definitionIdentifier label) "href".toList ['#']
  have hnext : Scans (.value "href".toList (['#'] ++ (definitionIdentifier label).toList)) "\">"
      .text [] := ⟨_, rfl, rfl⟩
  have hnumber := scans_text (quotable_of_plain (plain_nat number))
  have hend : Scans .text "</a></sup>" .text [] := ⟨_, rfl, rfl⟩
  have hquote : ("\"><a href=\"#" : String) = "\"" ++ "><a href=\"#" := rfl
  have hall := ((((hid.append hlink).append htarget).append hnext).append hnumber).append hend
  rw [PageSpan.text_reference, hquote]
  simpa only [String.append_assoc, List.append_nil] using hall

theorem scans_definition (label : String) (number : Nat) :
    Scans .text (PageSpan.definition label number).text .text [definitionIdentifier label] := by
  have hopen : Scans .text "<p class=\"footnote\" id=\"" (.value "id".toList []) [] :=
    ⟨_, rfl, rfl⟩
  have hid := scans_identifier hopen (quotable_definitionIdentifier label)
  have hnext : Scans (.tag []) "><sup>" .text [] := ⟨_, rfl, rfl⟩
  have hnumber := scans_text (quotable_of_plain (plain_nat number))
  have hend : Scans .text "</sup> " .text [] := ⟨_, rfl, rfl⟩
  have hquote : ("\"><sup>" : String) = "\"" ++ "><sup>" := rfl
  have hall := ((hid.append hnext).append hnumber).append hend
  rw [PageSpan.text_definition, hquote]
  simpa only [String.append_assoc, List.append_nil] using hall

theorem scans_back (label : String) : Scans .text (PageSpan.back label).text .text [] := by
  have hopen : Scans .text " <a href=\"#" (.value "href".toList ['#']) [] := ⟨_, rfl, rfl⟩
  have htarget := scans_value (quotable_referenceIdentifier label) "href".toList ['#']
  have hend : Scans (.value "href".toList (['#'] ++ (referenceIdentifier label).toList))
      "\">↩</a></p>\n" .text [] := ⟨_, rfl, rfl⟩
  exact (hopen.append htarget).append hend

/-- A span puts its identifier on the page, and no other. -/
theorem scans_span {span : PageSpan} (h : span.IsClean) :
    Scans .text span.text .text span.identifier?.toList := by
  cases span with
  | markup text => exact h
  | heading level titled identifier => exact scans_heading level titled h.1
  | reference label number => exact scans_reference label number
  | definition label number => exact scans_definition label number
  | back label => exact scans_back label

/-- The identifiers on a page are those of its spans. -/
theorem scans_spell (spans : List PageSpan) (h : ∀ span ∈ spans, span.IsClean) :
    Scans .text (spell spans) .text (spans.filterMap PageSpan.identifier?) := by
  induction spans with
  | nil => exact Scans.empty .text
  | cons span rest ih =>
      have hspan := scans_span (h span List.mem_cons_self)
      have hrest := ih fun other hother => h other (List.mem_cons_of_mem span hother)
      rw [spell_cons, List.filterMap_cons]
      have hall := hspan.append hrest
      -- a span without an identifier adds nothing to the list
      cases hidentifier : span.identifier? with
      | none => simpa [hidentifier] using hall
      | some identifier => simpa [hidentifier] using hall

/-! ## How often an identifier occurs -/

/-- The identifiers of references and definitions hold a dot. -/
theorem dot_mem_referenceIdentifier (label : String) :
    '.' ∈ (referenceIdentifier label).toList := by
  rw [referenceIdentifier, String.toList_append]
  exact List.mem_append_left _ (by decide)

theorem dot_mem_definitionIdentifier (label : String) :
    '.' ∈ (definitionIdentifier label).toList := by
  rw [definitionIdentifier, String.toList_append]
  exact List.mem_append_left _ (by decide)

/-- What an escape writes tells which character was escaped, whatever follows. -/
theorem escapeChar_cancel {c d : Char} {rest rest' : List Char}
    (h : escapeChar c ++ rest = escapeChar d ++ rest') : c = d ∧ rest = rest' := by
  unfold escapeChar at h
  -- two references differ in their second character, and a character that is written as it is
  -- cannot be the `&` of a reference
  split_ifs at h <;> simp_all <;> exact absurd h.1.symm ‹¬d = '&'›

theorem escapeChar_ne_nil (c : Char) : escapeChar c ≠ [] := by
  unfold escapeChar
  split_ifs <;> simp

theorem escape_injective : Function.Injective escape := by
  suffices hlists : ∀ left right : List Char,
      left.flatMap escapeChar = right.flatMap escapeChar → left = right by
    intro s t h
    have hchars := congrArg String.toList h
    rw [escape, escape, String.toList_ofList, String.toList_ofList] at hchars
    exact String.toList_inj.mp (hlists _ _ hchars)
  intro left
  induction left with
  | nil =>
      intro right h
      cases right with
      | nil => rfl
      | cons d others =>
          rw [List.flatMap_nil, List.flatMap_cons] at h
          have hnil := (List.append_eq_nil_iff.mp h.symm).1
          exact absurd hnil (escapeChar_ne_nil d)
  | cons c rest ih =>
      intro right h
      cases right with
      | nil =>
          rw [List.flatMap_nil, List.flatMap_cons] at h
          have hnil := (List.append_eq_nil_iff.mp h).1
          exact absurd hnil (escapeChar_ne_nil c)
      | cons d others =>
          rw [List.flatMap_cons, List.flatMap_cons] at h
          obtain ⟨rfl, hrest⟩ := escapeChar_cancel h
          rw [ih others hrest]

theorem referenceIdentifier_inj {label other : String} :
    referenceIdentifier label = referenceIdentifier other ↔ label = other := by
  rw [referenceIdentifier, referenceIdentifier, String.append_right_inj, escape_injective.eq_iff]

theorem definitionIdentifier_inj {label other : String} :
    definitionIdentifier label = definitionIdentifier other ↔ label = other := by
  rw [definitionIdentifier, definitionIdentifier, String.append_right_inj,
    escape_injective.eq_iff]

/-- References and definitions have identifiers of their own. -/
theorem referenceIdentifier_ne_definitionIdentifier (label other : String) :
    referenceIdentifier label ≠ definitionIdentifier other := by
  intro h
  have hchars := congrArg String.toList h
  rw [referenceIdentifier, definitionIdentifier, String.toList_append,
    String.toList_append] at hchars
  have hfirst : 'r' = 'f' := (List.cons.inj hchars).1
  exact absurd hfirst (by decide)

/-- The label that a span refers to. -/
def PageSpan.referenced? (span : PageSpan) : Option String :=
  span.landmark?.bind Landmark.referenced?

/-- The label that a span defines. -/
def PageSpan.defined? (span : PageSpan) : Option String :=
  span.landmark?.bind Landmark.defined?

/-- Values picked from a list in two ways occur equally often if they are picked from the same
places. -/
theorem count_filterMap_eq {α β γ : Type} [DecidableEq β] [DecidableEq γ] {f : α → Option β}
    {g : α → Option γ} {b : β} {c : γ} {l : List α}
    (h : ∀ a ∈ l, f a = some b ↔ g a = some c) :
    (l.filterMap f).count b = (l.filterMap g).count c := by
  rw [List.count_filterMap, List.count_filterMap]
  refine List.countP_congr fun a ha => ?_
  rw [beq_iff_eq, beq_iff_eq]
  exact h a ha

section

variable {spans : List PageSpan}

/-- A reference's identifier occurs as often as its label is referenced. -/
theorem count_reference (h : ∀ span ∈ spans, span.IsClean) (label : String) :
    (spans.filterMap PageSpan.identifier?).count (referenceIdentifier label)
      = (spans.filterMap PageSpan.referenced?).count label := by
  refine count_filterMap_eq fun span hspan => ?_
  cases span with
  | markup text => simp [PageSpan.identifier?, PageSpan.referenced?, PageSpan.landmark?]
  | heading level titled identifier =>
      -- the identifier of a heading holds no dot
      have hdot : '.' ∉ identifier.toList := (h _ hspan).2
      have hne : identifier ≠ referenceIdentifier label := by
        rintro rfl
        exact hdot (dot_mem_referenceIdentifier label)
      simp [PageSpan.identifier?, PageSpan.referenced?, PageSpan.landmark?, Landmark.referenced?,
        hne]
  | reference other number =>
      simp [PageSpan.identifier?, PageSpan.referenced?, PageSpan.landmark?, Landmark.referenced?,
        referenceIdentifier_inj]
  | definition other number =>
      have hne := (referenceIdentifier_ne_definitionIdentifier label other).symm
      simp [PageSpan.identifier?, PageSpan.referenced?, PageSpan.landmark?, Landmark.referenced?,
        hne]
  | back other =>
      simp [PageSpan.identifier?, PageSpan.referenced?, PageSpan.landmark?, Landmark.referenced?]

/-- A definition's identifier occurs as often as its label is defined. -/
theorem count_definition (h : ∀ span ∈ spans, span.IsClean) (label : String) :
    (spans.filterMap PageSpan.identifier?).count (definitionIdentifier label)
      = (spans.filterMap PageSpan.defined?).count label := by
  refine count_filterMap_eq fun span hspan => ?_
  cases span with
  | markup text => simp [PageSpan.identifier?, PageSpan.defined?, PageSpan.landmark?]
  | heading level titled identifier =>
      have hdot : '.' ∉ identifier.toList := (h _ hspan).2
      have hne : identifier ≠ definitionIdentifier label := by
        rintro rfl
        exact hdot (dot_mem_definitionIdentifier label)
      simp [PageSpan.identifier?, PageSpan.defined?, PageSpan.landmark?, Landmark.defined?, hne]
  | reference other number =>
      have hne := referenceIdentifier_ne_definitionIdentifier other label
      simp [PageSpan.identifier?, PageSpan.defined?, PageSpan.landmark?, Landmark.defined?, hne]
  | definition other number =>
      simp [PageSpan.identifier?, PageSpan.defined?, PageSpan.landmark?, Landmark.defined?,
        definitionIdentifier_inj]
  | back other =>
      simp [PageSpan.identifier?, PageSpan.defined?, PageSpan.landmark?, Landmark.defined?]

/-- An identifier without a dot occurs as often as headings have it. -/
theorem count_heading {identifier : String} (hdot : '.' ∉ identifier.toList) :
    (spans.filterMap PageSpan.identifier?).count identifier
      = (spans.filterMap PageSpan.headingIdentifier?).count identifier := by
  refine count_filterMap_eq fun span _ => ?_
  cases span with
  | reference label number =>
      have hne : referenceIdentifier label ≠ identifier := by
        rintro rfl
        exact hdot (dot_mem_referenceIdentifier label)
      simp [PageSpan.identifier?, PageSpan.headingIdentifier?, hne]
  | definition label number =>
      have hne : definitionIdentifier label ≠ identifier := by
        rintro rfl
        exact hdot (dot_mem_definitionIdentifier label)
      simp [PageSpan.identifier?, PageSpan.headingIdentifier?, hne]
  | _ => simp [PageSpan.identifier?, PageSpan.headingIdentifier?]

/-- Where headings have different identifiers, no identifier occurs twice exactly if no label is
referenced twice and none is defined twice. -/
theorem nodup_identifiers_iff (h : ∀ span ∈ spans, span.IsClean)
    (hheadings : (spans.filterMap PageSpan.headingIdentifier?).Nodup) :
    (spans.filterMap PageSpan.identifier?).Nodup ↔
      (spans.filterMap PageSpan.referenced?).Nodup ∧ (spans.filterMap PageSpan.defined?).Nodup := by
  rw [List.nodup_iff_count_le_one, List.nodup_iff_count_le_one, List.nodup_iff_count_le_one]
  constructor
  · intro hcount
    constructor
    · intro label
      rw [← count_reference h]
      exact hcount _
    · intro label
      rw [← count_definition h]
      exact hcount _
  · rintro ⟨hreferences, hdefinitions⟩ identifier
    by_cases hmem : identifier ∈ spans.filterMap PageSpan.identifier?
    · obtain ⟨span, hspan, hidentifier⟩ := List.mem_filterMap.mp hmem
      -- an identifier is that of a heading, a reference or a definition, and is counted as such
      cases span with
      | heading level titled other =>
          obtain rfl : other = identifier := Option.some.inj hidentifier
          rw [count_heading (h _ hspan).2]
          exact List.nodup_iff_count_le_one.mp hheadings _
      | reference label number =>
          obtain rfl : referenceIdentifier label = identifier := Option.some.inj hidentifier
          rw [count_reference h]
          exact hreferences label
      | definition label number =>
          obtain rfl : definitionIdentifier label = identifier := Option.some.inj hidentifier
          rw [count_definition h]
          exact hdefinitions label
      | _ => exact absurd hidentifier (by simp [PageSpan.identifier?])
    · rw [List.count_eq_zero_of_not_mem hmem]
      exact Nat.zero_le 1

end

end StaticSite.Html
