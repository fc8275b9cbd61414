import StaticSite.Proofs.Outcome
import StaticSite.Proofs.Template.Division
import StaticSite.Template.Basic

/-!
# Filling in a template

A template filled in for a page is the literal text of its division, with the value of a directive
in the place of each directive. A value is that of the directive's rule on its own: values put in
later never move or change it, and nothing that was put in is looked at again.

## What this module delivers

- `Template.valueOf`: what a directive is replaced by, found from that directive alone.
- `weave`: the literal texts of a division with values between them.
- `Template.spliceAll`: replacing stretches of one text in place, the last stretch first.
- `Template.Unfillable`: the two ways in which a directive can have no value at all.
- `fill_ofString`: the division of a template is the only one there is, its rules are found where its
  directives stand, filling in gives the woven text, replacing the stretches in place gives the same
  text, and filling in fails exactly if a directive has no value.
-/

set_option autoImplicit false

namespace StaticSite

open StaticSite.Text StaticSite.File StaticSite.Template

/-! ## Files that cannot be read -/

/-- Following names never meets a null character. -/
theorem File.Store.follow_ne_nullCharacter (tree : Node) (place names : List String) :
    Store.follow tree place names ≠ .error .nullCharacter := by
  fun_induction Store.follow tree place names <;> simp_all

/-- A file is refused for a null character exactly if its path holds one. -/
theorem File.Store.read_eq_nullCharacter_iff {store : Store} {p : Path} :
    store.read p = .error .nullCharacter ↔ p.hasNull = true := by
  have hlocate : store.locate p = .error .nullCharacter ↔ p.hasNull = true := by
    have hfollow := follow_ne_nullCharacter store.tree (store.start p.anchor) p.segments
    rw [locate, pathFault?]
    by_cases hnull : p.hasNull = true
    · simp [hnull]
    · by_cases hlong : pathLimit < p.text.utf8ByteSize
      · simp [hnull, hlong]
      · simp [hnull, hlong, hfollow]
  have hnode : store.node p = .error .nullCharacter ↔ store.locate p = .error .nullCharacter := by
    rw [node]
    cases store.locate p with
    | error fault => simp
    | ok place => cases hget : store.tree.get? place <;> simp [hget]
  have hread : store.read p = .error .nullCharacter ↔ store.node p = .error .nullCharacter := by
    rw [read]
    cases store.node p with
    | error fault => simp
    | ok node => cases node <;> simp
  rw [← hlocate, ← hnode, ← hread]

/-- A text file is refused with a fault if it is refused as a file, under the path asked for. -/
theorem File.Store.readText_eq_fault_iff {store : Store} {p q : Path} {fault : Fault} :
    store.readText p = .error (.fault fault q) ↔ store.read p = .error fault ∧ q = p := by
  rw [readText]
  cases store.read p with
  | error other => simp [eq_comm]
  | ok data => cases hdecode : decodeText data.bytes <;> simp [hdecode]

/-- A text file is refused for a null character exactly if its path holds one. -/
theorem File.Store.readText_eq_nullCharacter_iff {store : Store} {p : Path} :
    (∃ q, store.readText p = .error (.fault .nullCharacter q)) ↔ p.hasNull = true := by
  rw [← @read_eq_nullCharacter_iff store p]
  simp only [readText_eq_fault_iff, exists_eq_right]

/-! ## Links that lead nowhere -/

namespace Template

/-- A link leads nowhere exactly if the address is empty. -/
theorem relativeLink?_eq_none_iff {here : List String} {source target : String} :
    relativeLink? here source target = none ↔ target = "" := by
  rw [relativeLink?]
  split <;> simp_all [String.isEmpty_iff]

/-- Links to posts cannot be written exactly if a post has no address. -/
theorem linkItems_eq_none_iff {here : List String} {page : Post} {posts : List Post} :
    linkItems here page posts = none ↔ ∃ post ∈ posts, post.uri = "" := by
  induction posts with
  | nil => simp [linkItems]
  | cons post rest ih =>
      simp only [List.mem_cons, exists_eq_or_imp]
      rw [← @relativeLink?_eq_none_iff here page.uri, ← ih, linkItems]
      cases relativeLink? here page.uri post.uri <;> cases linkItems here page rest <;> simp

theorem mem_sortPosts {key : SortKey} {ascending : Bool} {posts : List Post} {post : Post} :
    post ∈ sortPosts key ascending posts ↔ post ∈ posts := by
  rw [sortPosts]
  split <;> exact List.mem_mergeSort

/-- The posts under a path cannot be listed exactly if one of them has no address. -/
theorem listing_eq_error_iff {template : Template} {context : FillContext} {page : Post}
    {path : String} {sort : Option SortOrder} {error : FillError} :
    template.listing context page path sort = .error error ↔
      error = .noAddress ∧
        ∃ post ∈ context.posts, post.path.isUnder (template.resolve path) ∧ post.uri = "" := by
  have hposts : ∀ posts : List Post, (∀ post, post ∈ posts ↔ post ∈ context.posts) →
      (linkItems context.store.here page
          (posts.filter (·.path.isUnder (template.resolve path))) = none ↔
        ∃ post ∈ context.posts, post.path.isUnder (template.resolve path) ∧ post.uri = "") := by
    intro posts hmem
    rw [linkItems_eq_none_iff]
    simp only [List.mem_filter, hmem, and_assoc]
  cases sort with
  | none =>
      rw [← hposts context.posts fun _ => Iff.rfl]
      simp only [listing]
      split
      · rename_i items hitems
        simp [hitems]
      · rename_i hnone
        simp [hnone, eq_comm]
  | some order =>
      rw [← hposts (sortPosts (.ofString order.key) order.ascending context.posts)
        fun _ => mem_sortPosts]
      simp only [listing]
      split
      · rename_i items hitems
        simp [hitems]
      · rename_i hnone
        simp [hnone, eq_comm]

/-! ## The value of a directive -/

variable (template : Template) (context : FillContext) (page : Post)

/-- What a directive is replaced by: the value of its rule, or the directive itself if it means no
rule or its rule has no value. -/
def valueOf (part : Part) : Except FillError (List Char) :=
  match part.rule? with
  | none => .ok part.directive
  | some rule =>
    (template.evaluate context page rule).outcome.map fun
      | some value => value.toList
      | none => part.directive

/-- A directive that has no value: it includes a file whose path holds a null character, or lists a
post without an address. -/
def Unfillable (part : Part) : Prop :=
  (∃ path, part.rule? = some (.inclusion path) ∧ (template.resolve path).hasNull = true) ∨
    ∃ path sort, part.rule? = some (.listing path sort) ∧
      ∃ post ∈ context.posts, post.path.isUnder (template.resolve path) ∧ post.uri = ""

/-- A file is not included for good exactly if its path holds a null character. -/
theorem exists_inclusion_error_iff (store : Store) (path : String) :
    (∃ error, (template.inclusion store path).outcome = .error error) ↔
      (template.resolve path).hasNull = true := by
  rw [← @Store.readText_eq_nullCharacter_iff store, inclusion]
  cases store.readText (template.resolve path) with
  | ok text => simp
  | error reason =>
      cases reason with
      | encoding error => simp [Except.map]
      | fault cause q => cases cause <;> simp [Except.map]

/-- A directive has no value exactly in the two ways. -/
theorem exists_valueOf_error_iff (part : Part) :
    (∃ error, template.valueOf context page part = .error error) ↔
      template.Unfillable context part := by
  have hmap : ∀ (x : Except FillError (Option String)) (f : Option String → List Char),
      (∃ error, x.map f = .error error) ↔ ∃ error, x = .error error := by
    intro x f
    cases x <;> simp [Except.map]
  rw [valueOf, Unfillable]
  cases hrule : part.rule? with
  | none => simp
  | some rule =>
      simp only [hmap, Option.some.injEq]
      cases rule with
      | contents => simp [evaluate]
      | stylesheets => simp [evaluate]
      | toc maxDepth => simp [evaluate]
      | metadata key => simp [evaluate]
      | inclusion path => simp [evaluate, exists_inclusion_error_iff]
      | listing path sort =>
          have hlist := @listing_eq_error_iff template context page path sort
          cases hl : template.listing context page path sort with
          | ok list =>
              simp only [hl, reduceCtorEq, false_iff] at hlist
              simp_all [evaluate, Except.map]
          | error error =>
              obtain ⟨rfl, hpost⟩ := hlist.1 hl
              simp_all [evaluate, Except.map]

/-! ## The parts filled in -/

/-- The literal texts of a division with a value after each. -/
def weave : List Part → List (List Char) → List Char → List Char
  | part :: parts, value :: values, last => part.before ++ (value ++ weave parts values last)
  | _, _, last => last

/-- The parts of a division filled in, the last one first. -/
def fillParts (last : List Char) : List Part → Except FillError (List Char)
  | [] => .ok last
  | part :: parts =>
    (fillParts last parts).bind fun after =>
      (template.valueOf context page part).map fun value => part.before ++ (value ++ after)

theorem outcome_fillPiece_directive (part : Part) :
    (template.fillPiece context page (.directive part.body part.rule?)).outcome =
      template.valueOf context page part := by
  have htext : (Piece.directive part.body part.rule?).text = part.directive := by
    simp [Piece.text, Part.directive, List.append_assoc]
  rw [valueOf]
  cases hrule : part.rule? with
  | none => simpa [fillPiece, hrule] using htext
  | some rule =>
      rw [hrule] at htext
      simp only [fillPiece, Report.outcome_bind, htext]
      cases (template.evaluate context page rule).outcome with
      | error error => rfl
      | ok value => cases value <;> rfl

/-- Filling in the pieces of a division is filling in its parts. -/
theorem outcome_fillPieces (parts : List Part) (last : List Char) :
    (template.fillPieces context page (piecesOf parts last)).outcome =
      template.fillParts context page last parts := by
  induction parts with
  | nil => simp [piecesOf, fillPieces, fillPiece, fillParts, Piece.text]
  | cons part parts ih =>
      have hliteral : (template.fillPiece context page (.literal part.before)).outcome =
          .ok part.before := rfl
      simp only [piecesOf, fillPieces, Report.outcome_bind, ih, hliteral,
        outcome_fillPiece_directive, fillParts]
      cases template.fillParts context page last parts with
      | error error => rfl
      | ok after => cases template.valueOf context page part <;> rfl

/-- The parts are filled in exactly if each directive has a value, and then with these values. -/
theorem fillParts_eq_ok_iff {parts : List Part} {last result : List Char} :
    template.fillParts context page last parts = .ok result ↔
      ∃ values, List.Forall₂ (fun part value => template.valueOf context page part = .ok value)
        parts values ∧ result = weave parts values last := by
  induction parts generalizing result with
  | nil => simp [fillParts, weave, eq_comm]
  | cons part parts ih =>
      rw [fillParts]
      constructor
      · intro h
        cases hafter : template.fillParts context page last parts with
        | error error => simp [hafter, Except.bind] at h
        | ok after =>
            cases hvalue : template.valueOf context page part with
            | error error => simp [hafter, hvalue, Except.bind, Except.map] at h
            | ok value =>
                obtain ⟨values, hvalues, rfl⟩ := ih.1 hafter
                simp only [hafter, hvalue, Except.bind, Except.map, Except.ok.injEq] at h
                exact ⟨value :: values, .cons hvalue hvalues, h.symm⟩
      · rintro ⟨values, hvalues, rfl⟩
        cases hvalues with
        | @cons _ value _ values hvalue hvalues =>
            rw [ih.2 ⟨values, hvalues, rfl⟩]
            simp [Except.bind, Except.map, hvalue, weave]

/-- The parts are not filled in exactly if some directive has no value. -/
theorem exists_fillParts_error_iff {parts : List Part} {last : List Char} :
    (∃ error, template.fillParts context page last parts = .error error) ↔
      ∃ part ∈ parts, template.Unfillable context part := by
  induction parts with
  | nil => simp [fillParts]
  | cons part parts ih =>
      simp only [List.mem_cons, exists_eq_or_imp]
      rw [← ih, ← exists_valueOf_error_iff template context page, fillParts]
      cases template.fillParts context page last parts <;>
        cases template.valueOf context page part <;> simp [Except.bind, Except.map]

/-! ## Replacing in place -/

/-- A text with a stretch of it replaced. -/
def splice (s : List Char) (start stop : Nat) (value : List Char) : List Char :=
  s.take start ++ (value ++ s.drop stop)

/-- A text in which stretches are replaced by the values of rules, the last stretch first. A rule
without a value leaves its stretch alone. The stretches are those of the text as it was at first. -/
def spliceAll (s : List Char) : List Replacement → Except FillError (List Char)
  | [] => .ok s
  | replacement :: rest =>
    (spliceAll s rest).bind fun s =>
      (template.evaluate context page replacement.rule).outcome.map fun
        | some value => splice s replacement.start replacement.stop value.toList
        | none => s

/-- The text that is divided into parts and a last literal text. -/
def joined : List Part → List Char → List Char
  | [], last => last
  | part :: parts, last => part.before ++ (part.directive ++ joined parts last)

/-- A division keeps every character. -/
theorem Divided.text_eq {s last : List Char} {parts : List Part}
    (h : Divided s parts last) : s = joined parts last := by
  induction h with
  | last _ => rfl
  | part text _ _ _ ih =>
      rw [text, ih]
      simp [joined, Part.directive, List.append_assoc]

theorem rulesAt_cons (place : Nat) (part : Part) (parts : List Part) :
    rulesAt place (part :: parts) =
      (part.rule?.map fun rule =>
        { start := place + part.before.length
          stop := place + part.before.length + part.directive.length
          rule := rule : Replacement }).toList ++
        rulesAt (place + part.before.length + part.directive.length) parts := by
  simp only [rulesAt, stretches, List.zip_cons_cons, List.filterMap_cons]
  cases part.rule? <;> simp

/-- Replacing in place after a front part that stays. The stretches after a directive are replaced
before it, so what stands up to its end is still the text as it was at first. -/
theorem spliceAll_rulesAt (parts : List Part) (last front : List Char) :
    template.spliceAll context page (front ++ joined parts last) (rulesAt front.length parts) =
      (template.fillParts context page last parts).map (front ++ ·) := by
  induction parts generalizing front with
  | nil => simp [rulesAt, stretches, spliceAll, fillParts, joined, Except.map]
  | cons part parts ih =>
      -- the part is added to the front, where the later replacements do not reach
      have htext : front ++ joined (part :: parts) last =
          (front ++ part.before ++ part.directive) ++ joined parts last := by
        simp [joined, List.append_assoc]
      have hrest := ih (front ++ part.before ++ part.directive)
      rw [← htext] at hrest
      simp only [List.length_append] at hrest
      rw [rulesAt_cons, fillParts, valueOf]
      cases hrule : part.rule? with
      | none =>
          simp only [Option.map_none, Option.toList_none, List.nil_append, hrest]
          cases template.fillParts context page last parts <;>
            simp [Except.map, Except.bind, List.append_assoc]
      | some rule =>
          simp only [Option.map_some, Option.toList_some, List.singleton_append, spliceAll, hrest]
          cases template.fillParts context page last parts with
          | error error => rfl
          | ok after =>
              have htake : (front ++ part.before ++ part.directive ++ after).take
                  (front.length + part.before.length) = front ++ part.before := by
                rw [List.append_assoc, ← List.length_append, List.take_left]
              have hdrop : (front ++ part.before ++ part.directive ++ after).drop
                  (front.length + part.before.length + part.directive.length) = after := by
                rw [← List.length_append, ← List.length_append, List.drop_left]
              cases (template.evaluate context page rule).outcome with
              | error error => rfl
              | ok value =>
                  cases value with
                  | none => simp [Except.map, Except.bind, List.append_assoc]
                  | some value =>
                      simp only [Except.map, Except.bind, splice, htake, hdrop]
                      simp [List.append_assoc]

/-! ## Templates from texts -/

/-- A directive that includes a file that cannot be read stays as it is. -/
theorem valueOf_of_unreadable {part : Part} {path : String} {reason : TextError}
    (hrule : part.rule? = some (.inclusion path))
    (hread : context.store.readText (template.resolve path) = .error reason)
    (hnull : (template.resolve path).hasNull = false) :
    template.valueOf context page part = .ok part.directive := by
  -- a null character in the path is the one reason that is an error
  have hreason : ∀ q, reason ≠ .fault .nullCharacter q := by
    rintro q rfl
    have := Store.readText_eq_nullCharacter_iff.1 ⟨q, hread⟩
    simp [hnull] at this
  have hnothing : (template.inclusion context.store path).outcome = .ok none := by
    rw [inclusion, hread]
    cases reason with
    | encoding error => rfl
    | fault cause q =>
        cases cause with
        | nullCharacter => exact absurd rfl (hreason q)
        | _ => rfl
  rw [valueOf, hrule]
  simp only [evaluate, hnothing]
  rfl

/-- What a template is and what comes of filling it in.

The text has one division. The rules found in the text are those of the directives of the division
that mean one, with the stretches of the text that these take up. Filling in gives the literal texts
of the division with the value of each directive between them, which is the same as replacing the
stretches in place from the last to the first. It gives a text exactly if every directive has a
value; a directive without a rule and one that includes an unreadable file are their own value. -/
theorem fill_ofString (text : String) (root : Path) (path : Option Path)
    (rawExtensions : List String) :
    let template := (ofString text root path rawExtensions).value
    ∃ parts last,
      Divided text.toList parts last ∧
      (∀ parts' last', Divided text.toList parts' last' → parts' = parts ∧ last' = last) ∧
      (∀ source, replacements 0 (readPieces source 0 text.toList).value = rulesAt 0 parts) ∧
      (∀ result, (template.fill context page).outcome = .ok result ↔
        ∃ values,
          List.Forall₂ (fun part value => template.valueOf context page part = .ok value)
            parts values ∧
          result = String.ofList (weave parts values last)) ∧
      (template.fill context page).outcome =
        (template.spliceAll context page text.toList (replacements 0 template.pieces)).map
          String.ofList ∧
      ((∃ result, (template.fill context page).outcome = .ok result) ↔
        ∀ part ∈ parts, ¬ template.Unfillable context part) ∧
      ∀ part ∈ parts,
        (part.rule? = none → template.valueOf context page part = .ok part.directive) ∧
        ∀ path reason, part.rule? = some (.inclusion path) →
          context.store.readText (template.resolve path) = .error reason →
          (template.resolve path).hasNull = false →
            template.valueOf context page part = .ok part.directive := by
  intro template
  obtain ⟨parts, last, hdivided, hpieces⟩ :=
    exists_divided (some ((path.map Path.text).getD "<string>")) 0 text.toList
  have hpieces' : template.pieces = piecesOf parts last := hpieces
  have hrules : ∀ source,
      replacements 0 (readPieces source 0 text.toList).value = rulesAt 0 parts := by
    intro source
    obtain ⟨parts', last', hdivided', hread⟩ := exists_divided source 0 text.toList
    obtain ⟨rfl, rfl⟩ := hdivided'.unique hdivided
    rw [hread, replacements_pieces]
  have hfill : (template.fill context page).outcome =
      (template.fillParts context page last parts).map String.ofList := by
    rw [fill, Report.outcome_bind, hpieces', outcome_fillPieces]
    cases template.fillParts context page last parts <;> rfl
  refine ⟨parts, last, hdivided, fun _ _ h => h.unique hdivided, hrules, ?_, ?_, ?_, ?_⟩
  · intro result
    rw [hfill]
    constructor
    · intro h
      cases hparts : template.fillParts context page last parts with
      | error error => simp [hparts, Except.map] at h
      | ok filled =>
          obtain ⟨values, hvalues, rfl⟩ := (template.fillParts_eq_ok_iff context page).1 hparts
          simp only [hparts, Except.map, Except.ok.injEq] at h
          exact ⟨values, hvalues, h.symm⟩
    · rintro ⟨values, hvalues, rfl⟩
      rw [(template.fillParts_eq_ok_iff context page).2 ⟨values, hvalues, rfl⟩]
      rfl
  · have hsplice := template.spliceAll_rulesAt context page parts last []
    rw [hfill, hpieces', replacements_pieces, hdivided.text_eq]
    simp only [List.nil_append, List.length_nil] at hsplice
    rw [hsplice]
    cases template.fillParts context page last parts <;> rfl
  · have herror := @exists_fillParts_error_iff template context page parts last
    rw [hfill]
    cases hparts : template.fillParts context page last parts with
    | ok filled =>
        simp only [hparts, reduceCtorEq, exists_false, false_iff, not_exists, not_and] at herror
        exact iff_of_true ⟨_, rfl⟩ herror
    | error error =>
        obtain ⟨part, hpart, hunfillable⟩ := herror.1 ⟨error, hparts⟩
        refine iff_of_false ?_ fun h => h part hpart hunfillable
        simp [Except.map]
  · intro part _
    exact ⟨fun hrule => by rw [valueOf, hrule], fun path reason hrule hread hnull =>
      template.valueOf_of_unreadable context page hrule hread hnull⟩

end Template

end StaticSite
