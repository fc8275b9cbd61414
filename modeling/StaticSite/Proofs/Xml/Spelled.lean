import StaticSite.Proofs.Xml.LineEnd
import StaticSite.Xml.Document
import Mathlib.Data.List.Nodup

/-!
# Elements read back

What a row of segments says: elements with text after each, with names in the spaces that their
qualifiers stand for. Texts and values are as they were written but for white space: line ends
become line feeds, and in values all white space becomes spaces.

## What this module delivers

- `Begins`, `Spells`: what a tag says in a scope, and the elements that a row of segments spells.
- `readElement?_of_spells`: the reader of elements adds them to the element around.
- `cutAtRootEnd_of_spells`: such a row ends as many elements as it begins.
- `begins_plain`: tags whose names have no qualifier.
-/

set_option autoImplicit false

namespace StaticSite.Xml

open StaticSite.Text

/-! ## What segments spell -/

/-- In a scope, a tag begins an element with a name, attributes and a scope for what is inside. -/
def Begins (scope : Scope) (tag : QualifiedName) (given : PlainAttributes) (name : Name)
    (attributes : List (Name × String)) (inside : Scope) : Prop :=
  Tag.begin? ⟨tag, writtenAttributes (unifiedAttributes given)⟩ {} scope
    = some { tag := tag, name := name, attributes := attributes, scope := inside }

/-- The elements that a row of segments spells, each with the text after it. -/
inductive Spells : Scope → List Segment → List (Element × String) → Prop where
  | done (scope : Scope) : Spells scope [] []
  | empty {scope inner : Scope} {tag : QualifiedName} {given : PlainAttributes} {name : Name}
      {attributes : List (Name × String)} {after : String} {rest : List Segment}
      {row : List (Element × String)} (hbegin : Begins scope tag given name attributes inner)
      (hrest : Spells scope rest row) :
      Spells scope (.empty tag given after :: rest)
        ((.mk name attributes "" [], unified after) :: row)
  | element {scope inner : Scope} {tag : QualifiedName} {given : PlainAttributes} {name : Name}
      {attributes : List (Name × String)} {text after : String} {inside rest : List Segment}
      {held row : List (Element × String)} (hbegin : Begins scope tag given name attributes inner)
      (hinside : Spells inner inside held) (hrest : Spells scope rest row) :
      Spells scope (.opening tag given text :: (inside ++ .closing tag after :: rest))
        ((.mk name attributes (unified text) held, unified after) :: row)

theorem Spells.append {scope : Scope} {front back : List Segment}
    {first second : List (Element × String)} (h : Spells scope front first)
    (h' : Spells scope back second) : Spells scope (front ++ back) (first ++ second) := by
  induction h with
  | done scope => exact h'
  | empty hbegin _ ih => exact .empty hbegin (ih h')
  | element hbegin hinside _ _ ih =>
      rw [List.cons_append, List.append_assoc, List.cons_append]
      exact .element hbegin hinside (ih h')

/-! ## Reading elements -/

/-- The stretches of text that the parts of a text are. -/
def stretches (s : String) : List (List Char) :=
  (writtenParts s.toList).map ValuePart.chars

theorem joined_stretches (s : String) : OpenElement.joined (stretches s).reverse = s := by
  rw [OpenElement.joined, List.reverse_reverse, stretches, ← List.flatMap_def,
    flatMap_chars_writtenParts, String.ofList_toList]

/-- A text after a tag as it is read: stretches and references. -/
def textMarks (text : String) : List Markup :=
  (writtenParts (unified text).toList).map ValuePart.toMarkup

/-- What segments are read as, as it stands. -/
def marks (segments : List Segment) : List Markup :=
  (segments.map Segment.unified).flatMap Segment.marks

/-- What segments are read as, with their references replaced. -/
def plainMarks (segments : List Segment) : List Markup :=
  (segments.map Segment.unified).flatMap fun segment => segment.marks.map Markup.plain

theorem plain_textMarks (text : String) :
    (textMarks text).map Markup.plain = (stretches (unified text)).map Markup.text := by
  rw [stretches, textMarks, List.map_map, List.map_map]
  refine List.map_congr_left fun part _ => ?_
  cases part <;> rfl

theorem marks_append (front back : List Segment) :
    marks (front ++ back) = marks front ++ marks back := by
  rw [marks, List.map_append, List.flatMap_append]
  rfl

theorem plainMarks_eq_map (segments : List Segment) :
    plainMarks segments = (marks segments).map Markup.plain := by
  rw [marks, plainMarks, List.map_flatMap]

section

variable {tag : QualifiedName} {given : PlainAttributes} {text after : String}
  {inside others : List Segment}

theorem marks_empty :
    marks (.empty tag given after :: others)
      = .empty ⟨tag, writtenAttributes (unifiedAttributes given)⟩
        :: (textMarks after ++ marks others) :=
  rfl

theorem marks_element :
    marks (.opening tag given text :: (inside ++ .closing tag after :: others))
      = .opening ⟨tag, writtenAttributes (unifiedAttributes given)⟩
        :: (textMarks text ++ (marks inside
          ++ .closing tag :: (textMarks after ++ marks others))) := by
  show _ :: (_ ++ marks (inside ++ .closing tag after :: others)) = _
  rw [marks_append]
  rfl

theorem plainMarks_empty :
    plainMarks (.empty tag given after :: others)
      = .empty ⟨tag, writtenAttributes (unifiedAttributes given)⟩
        :: ((stretches (unified after)).map Markup.text ++ plainMarks others) := by
  rw [plainMarks_eq_map, marks_empty, List.map_cons, List.map_append, plain_textMarks,
    ← plainMarks_eq_map]
  rfl

theorem plainMarks_element :
    plainMarks (.opening tag given text :: (inside ++ .closing tag after :: others))
      = .opening ⟨tag, writtenAttributes (unifiedAttributes given)⟩
        :: ((stretches (unified text)).map Markup.text ++ (plainMarks inside
          ++ .closing tag :: ((stretches (unified after)).map Markup.text
            ++ plainMarks others))) := by
  rw [plainMarks_eq_map, marks_element]
  simp only [List.map_cons, List.map_append, plain_textMarks, ← plainMarks_eq_map]
  rfl

end

namespace OpenElement

/-- An element with elements added to what it holds. -/
def addRow (row : List (Element × String)) (element : OpenElement) : OpenElement :=
  { element with
    inner := (row.map fun (inner, after) => (inner, (stretches after).reverse)).reverse
      ++ element.inner }

end OpenElement

section

variable {scope : Scope} {segments : List Segment} {row : List (Element × String)}

/-- Text is added stretch by stretch to what comes last in the element. -/
theorem readElement?_stretches (pieces : List (List Char)) (current : OpenElement)
    (outer : List OpenElement) (rest : List Markup) :
    readElement? {} current outer (pieces.map Markup.text ++ rest)
      = readElement? {} (pieces.foldl (fun element s => element.addText s) current) outer rest := by
  induction pieces generalizing current with
  | nil => rfl
  | cons s others ih =>
      rw [List.map_cons, List.cons_append, readElement?, ih, List.foldl_cons]

theorem foldl_addText_text (pieces : List (List Char)) {element : OpenElement}
    (h : element.inner = []) :
    pieces.foldl (fun element s => element.addText s) element
      = { element with text := pieces.reverse ++ element.text } := by
  induction pieces generalizing element with
  | nil => rfl
  | cons s others ih =>
      have hadd : element.addText s = { element with text := s :: element.text } := by
        rw [OpenElement.addText, h]
      have hinner : { element with text := s :: element.text }.inner = [] := h
      rw [List.foldl_cons, hadd, ih hinner, List.reverse_cons, List.append_assoc]
      rfl

theorem foldl_addText_inner (pieces : List (List Char)) {element : OpenElement} {last : Element}
    {after : List (List Char)} {others : List (Element × List (List Char))}
    (h : element.inner = (last, after) :: others) :
    pieces.foldl (fun element s => element.addText s) element
      = { element with inner := (last, pieces.reverse ++ after) :: others } := by
  induction pieces generalizing element after with
  | nil =>
      rw [List.foldl_nil, List.reverse_nil, List.nil_append, ← h]
  | cons s more ih =>
      have hadd : element.addText s = { element with inner := (last, s :: after) :: others } := by
        rw [OpenElement.addText, h]
      rw [List.foldl_cons, hadd, ih rfl, List.reverse_cons, List.append_assoc]
      rfl

theorem readElement?_closing {name : QualifiedName} {current next : OpenElement}
    {outer : List OpenElement} {rest : List Markup} (h : name = current.tag) :
    readElement? {} current (next :: outer) (.closing name :: rest)
      = readElement? {} (next.addElement current.finish) outer rest := by
  rw [readElement?, if_pos h]

theorem readElement?_end {name : QualifiedName} {current : OpenElement} {rest : List Markup}
    (h : name = current.tag) :
    readElement? {} current [] (.closing name :: rest) = some (current.finish, rest) := by
  rw [readElement?, if_pos h]

/-- An element that ends, and the text after it. -/
theorem readElement?_after (ended : Element) (after : String) (current : OpenElement)
    (outer : List OpenElement) (rest : List Markup) :
    readElement? {} (current.addElement ended) outer ((stretches after).map Markup.text ++ rest)
      = readElement? {} (current.addRow [(ended, after)]) outer rest := by
  rw [readElement?_stretches, foldl_addText_inner _ rfl, List.append_nil]
  rfl

theorem addRow_cons (ended : Element × String) (others : List (Element × String))
    (current : OpenElement) :
    (current.addRow [ended]).addRow others = current.addRow (ended :: others) := by
  simp [OpenElement.addRow]

/-- The element that ends after its text and the elements that it holds. -/
theorem finish_addRow (tag : QualifiedName) (name : Name) (attributes : List (Name × String))
    (inside : Scope) (text : String) (held : List (Element × String)) :
    (OpenElement.addRow held
      { tag := tag, name := name, attributes := attributes, scope := inside,
        text := (stretches text).reverse }).finish = .mk name attributes text held := by
  rw [OpenElement.finish, OpenElement.addRow]
  simp only [List.append_nil, List.reverse_reverse, List.map_map, joined_stretches]
  congr 1
  conv_rhs => rw [← List.map_id held]
  exact List.map_congr_left fun inner _ => congrArg _ (joined_stretches inner.2)

/-- The reader of elements adds what a row of segments spells to the element around it. -/
theorem readElement?_of_spells (h : Spells scope segments row) :
    ∀ (current : OpenElement) (outer : List OpenElement) (rest : List Markup),
      current.scope = scope →
      readElement? {} current outer (plainMarks segments ++ rest)
        = readElement? {} (current.addRow row) outer rest := by
  -- The induction is on what the segments spell; an inner row is read with one more element around.
  induction h with
  | done scope =>
      intro current outer rest _
      rfl
  | @empty scope inner tag given name attributes after others row hbegin _ ih =>
      intro current outer rest hscope
      rw [plainMarks_empty, List.cons_append, List.append_assoc, readElement?, hscope, hbegin]
      show readElement? {} (current.addElement (.mk name attributes "" [])) outer _ = _
      rw [readElement?_after, ih (current.addRow _) _ _ hscope, addRow_cons]
  | @element scope inner tag given name attributes text after inside others held row hbegin _ _
      ihInside ihRest =>
      intro current outer rest hscope
      rw [plainMarks_element, List.cons_append, readElement?, hscope, hbegin]
      simp only [Option.bind_eq_bind, Option.bind_some, List.append_assoc, List.cons_append]
      rw [readElement?_stretches, foldl_addText_text _ rfl, List.append_nil]
      dsimp only
      rw [ihInside _ _ _ rfl]
      refine (readElement?_closing rfl).trans ?_
      rw [finish_addRow, readElement?_after, ihRest (current.addRow _) _ _ hscope, addRow_cons]

/-! ## The end of the root element -/

/-- Whether a piece of content neither begins nor ends an element. -/
def Markup.isLevel : Markup → Bool
  | opening _ | closing _ => false
  | _ => true

theorem cutAtRootEnd_level {pieces : List Markup} (h : ∀ p ∈ pieces, p.isLevel) (depth : Nat)
    (rest : List Markup) :
    cutAtRootEnd (depth + 1) (pieces ++ rest)
      = (pieces ++ (cutAtRootEnd (depth + 1) rest).1, (cutAtRootEnd (depth + 1) rest).2) := by
  induction pieces with
  | nil => rfl
  | cons piece others ih =>
      have hpiece := h piece (by simp)
      have hothers := ih fun p hp => h p (List.mem_cons_of_mem piece hp)
      cases piece with
      | opening tag => exact absurd hpiece (by simp [Markup.isLevel])
      | closing name => exact absurd hpiece (by simp [Markup.isLevel])
      | _ => simp [cutAtRootEnd, hothers]

theorem isLevel_of_mem_textMarks {text : String} : ∀ p ∈ textMarks text, p.isLevel := by
  intro p hp
  obtain ⟨part, -, rfl⟩ := List.mem_map.1 hp
  cases part <;> rfl

/-- Inside the root element, a row of segments ends as many elements as it begins. -/
theorem cutAtRootEnd_of_spells (h : Spells scope segments row) :
    ∀ (depth : Nat) (rest : List Markup),
      cutAtRootEnd (depth + 1) (marks segments ++ rest)
        = (marks segments ++ (cutAtRootEnd (depth + 1) rest).1,
          (cutAtRootEnd (depth + 1) rest).2) := by
  induction h with
  | done scope =>
      intro depth rest
      rfl
  | @empty scope inner tag given name attributes after others row _ _ ih =>
      intro depth rest
      have hlevel : ∀ p ∈ (Markup.empty ⟨tag, writtenAttributes (unifiedAttributes given)⟩
          :: textMarks after), p.isLevel := by
        intro p hp
        rcases List.mem_cons.1 hp with rfl | hp
        · rfl
        · exact isLevel_of_mem_textMarks p hp
      rw [marks_empty, ← List.cons_append, List.append_assoc, cutAtRootEnd_level hlevel, ih,
        List.append_assoc]
  | @element scope inner tag given name attributes text after inside others held row _ _ _
      ihInside ihRest =>
      intro depth rest
      -- the tag takes the depth up by one, what is inside leaves it there, the end takes it back
      rw [marks_element]
      simp only [List.cons_append, List.append_assoc]
      rw [cutAtRootEnd]
      simp only [Nat.add_eq_zero_iff, Nat.one_ne_zero, and_false, if_false]
      rw [cutAtRootEnd_level isLevel_of_mem_textMarks, ihInside, cutAtRootEnd]
      simp only [Nat.add_sub_cancel, Nat.add_eq_zero_iff, Nat.one_ne_zero, and_false, if_false]
      rw [cutAtRootEnd_level isLevel_of_mem_textMarks, ihRest]

end

/-! ## Tags -/

theorem writtenAttributes_unified (given : PlainAttributes) :
    writtenAttributes (unifiedAttributes given)
      = given.map fun a => (a.1, writtenParts (unifyLineEnds a.2.toList)) := by
  rw [writtenAttributes, unifiedAttributes, List.map_map]
  refine List.map_congr_left fun a _ => ?_
  rw [Function.comp_apply, toList_unified]

/-- The attributes of a tag whose names are all different. -/
theorem attributesOf?_written {tag : QualifiedName} {given : PlainAttributes}
    (h : (given.map (·.1)).Nodup) :
    ({} : Declared).attributesOf? ⟨tag, writtenAttributes (unifiedAttributes given)⟩
      = some (given.map fun a => (a.1, flattened a.2)) := by
  have hwritten := writtenAttributes_unified given
  have hnames : ((writtenAttributes (unifiedAttributes given)).map (·.1)).Nodup := by
    rw [hwritten, List.map_map]
    exact h
  have hvalues : (writtenAttributes (unifiedAttributes given)).mapM (fun a => do
        let value ← ({} : Declared).value? ((({} : Declared).rule? tag a.1).all (·.isText)) a.2
        pure (a.1, value))
      = some ((writtenAttributes (unifiedAttributes given)).map fun a =>
          (a.1, String.ofList (Declared.spaced (a.2.flatMap ValuePart.chars)))) := by
    refine mapM_eq_some_map fun a ha => ?_
    rw [hwritten] at ha
    obtain ⟨⟨name, value⟩, -, rfl⟩ := List.mem_map.1 ha
    show (({} : Declared).value? true (writtenParts (unifyLineEnds value.toList))).bind _ = _
    rw [value?_writtenParts]
    dsimp only
    rw [flatMap_chars_writtenParts]
    rfl
  rw [Declared.attributesOf?, if_pos hnames]
  show Option.bind (List.mapM _ (writtenAttributes (unifiedAttributes given)))
    (fun read => some (read ++ [])) = _
  rw [hvalues, Option.bind_some, List.append_nil, hwritten, List.map_map]
  congr 1
  exact List.map_congr_left fun a _ => by
    rw [Function.comp_apply, flatMap_chars_writtenParts]
    rfl

/-- Attributes whose names have no qualifier. -/
def unqualified (given : List (String × String)) : PlainAttributes :=
  given.map fun a => (⟨none, a.1⟩, a.2)

theorem declaredQualifier?_of_ne {base : String} (h : base ≠ "xmlns") :
    declaredQualifier? ⟨none, base⟩ = none := by
  rw [declaredQualifier?]
  · simpa using h
  · simp

/-- A tag that declares no spaces leaves the scope as it is. -/
theorem enter?_of_plain {scope : Scope} {read : List (QualifiedName × String)}
    (h : ∀ a ∈ read, declaredQualifier? a.1 = none) : scope.enter? read = some scope := by
  induction read with
  | nil => rfl
  | cons a others ih =>
      rw [Scope.enter?, List.foldlM_cons]
      dsimp only
      rw [h a (by simp)]
      exact ih fun b hb => h b (List.mem_cons_of_mem a hb)

/-- The names of attributes without qualifier are in no space. -/
theorem mapM_attributeName? {scope : Scope} {read : List (QualifiedName × String)}
    (h : ∀ a ∈ read, a.1.qualifier = none) :
    (read.mapM fun a => do
        let name ← scope.attributeName? a.1
        pure (name, a.2))
      = some (read.map fun a => (({ base := a.1.base } : Name), a.2)) := by
  refine mapM_eq_some_map fun a ha => ?_
  rw [Scope.attributeName?, h a ha]
  rfl

/-- Attributes without qualifier as they are read. -/
def unqualifiedRead (given : List (String × String)) : List (QualifiedName × String) :=
  given.map fun a => (⟨none, a.1⟩, flattened a.2)

theorem attributesOf?_unqualified {tag : QualifiedName} {given : List (String × String)}
    (h : (given.map (·.1)).Nodup) :
    ({} : Declared).attributesOf? ⟨tag, writtenAttributes (unifiedAttributes (unqualified given))⟩
      = some (unqualifiedRead given) := by
  have hnodup : ((unqualified given).map (·.1)).Nodup := by
    rw [unqualified, List.map_map]
    exact List.Nodup.of_map QualifiedName.base (by rwa [List.map_map])
  rw [attributesOf?_written hnodup, unqualified, List.map_map]
  rfl

/-- A tag whose names have no qualifier begins an element in the default space. -/
theorem begins_plain (scope : Scope) (base : String) {given : List (String × String)}
    (hnames : (given.map (·.1)).Nodup) (hplain : ∀ a ∈ given, a.1 ≠ "xmlns") :
    Begins scope ⟨none, base⟩ (unqualified given) { space := (scope.lookup none).join, base := base }
      (given.map fun a => ({ base := a.1 }, flattened a.2)) scope := by
  have hmem : ∀ a ∈ unqualifiedRead given,
      a.1.qualifier = none ∧ declaredQualifier? a.1 = none := by
    intro a ha
    obtain ⟨b, hb, rfl⟩ := List.mem_map.1 ha
    exact ⟨rfl, declaredQualifier?_of_ne (hplain b hb)⟩
  have hbases : given.map (fun a => (({ base := a.1 } : Name), flattened a.2))
      = (unqualifiedRead given).map fun a => ({ base := a.1.base }, a.2) := by
    rw [unqualifiedRead, List.map_map]
    rfl
  have hdistinct : (((unqualifiedRead given).map
      fun a => (({ base := a.1.base } : Name), a.2)).map (·.1)).Nodup := by
    rw [← hbases, List.map_map]
    exact List.Nodup.of_map Name.base (by rwa [List.map_map])
  -- none of the attributes declares a space, so the tag has all of them and the scope stays
  have hkept : (unqualifiedRead given).filter (fun a => (declaredQualifier? a.1).isNone)
      = unqualifiedRead given := by
    apply List.filter_eq_self.2
    intro a ha
    rw [(hmem a ha).2]
    rfl
  rw [Begins, Tag.begin?, attributesOf?_unqualified hnames, hbases]
  show Option.bind (scope.enter? (unqualifiedRead given)) _ = _
  rw [enter?_of_plain fun a ha => (hmem a ha).2]
  show Option.bind (List.mapM _ ((unqualifiedRead given).filter
    fun a => (declaredQualifier? a.1).isNone)) _ = _
  rw [hkept, mapM_attributeName? fun a ha => (hmem a ha).1, Option.bind_some,
    decide_eq_true hdistinct]
  rfl

end StaticSite.Xml
