import Mathlib.Data.String.Basic
import Mathlib.Order.WithBot
import StaticSite.Post.Basic
import StaticSite.Proofs.Calendar.DateText

/-!
# Posts in order

Posts are ordered by the value that they have under a name, and a post without a value comes before
those with one. Posts whose values are the same keep their order, in both directions. A list in such
an order is told by its order and by the posts that share a value, so there is only one of them: to
reverse the direction is to sort the reversed list and to reverse the result, and a list in order is
left alone.

## What this module delivers

- `eq_of_pairwise_of_filter`: a list is told by its order and its classes of one value.
- `pairwise_mergeSort_key`, `filter_mergeSort_key`: sorting gives the order and keeps the classes.
- `Sortable`, `before?`: the values of posts and when they can be compared.
- `valueUnder`: the value of a post under a name.
- `Orders`, `sortPosts_orders`: posts in the order of a name.
-/

set_option autoImplicit false

namespace StaticSite

open StaticSite.Calendar StaticSite.File

/-! ## Lists in the order of a key -/

section

variable {α β : Type} [LinearOrder β] {key : α → β} {le : α → α → Bool} {items others : List α}
  {p : α → Bool}

/-- All items that are picked share a key. -/
def SharesKey (key : α → β) (p : α → Bool) : Prop :=
  ∀ a b, p a = true → p b = true → key a = key b

theorem sharesKey_key (key : α → β) (value : β) : SharesKey key fun a => key a = value := by
  intro a b ha hb
  rw [of_decide_eq_true ha, of_decide_eq_true hb]

/-- Lists that agree on the items of every key have the same keys. -/
theorem exists_mem_of_filter
    (h : ∀ p, SharesKey key p → items.filter p = others.filter p) {a : α} (ha : a ∈ items) :
    a ∈ others := by
  have hin : a ∈ items.filter fun b => key b = key a :=
    List.mem_filter.mpr ⟨ha, decide_eq_true rfl⟩
  rw [h _ (sharesKey_key key (key a))] at hin
  exact (List.mem_filter.mp hin).1

/-- A list is told by its order and by the items that share a key, in the order that they have. -/
theorem eq_of_pairwise_of_filter (hitems : items.Pairwise fun a b => key a ≤ key b)
    (hothers : others.Pairwise fun a b => key a ≤ key b)
    (h : ∀ p, SharesKey key p → items.filter p = others.filter p) : items = others := by
  induction items generalizing others with
  | nil =>
      cases others with
      | nil => rfl
      | cons b rest => exact absurd (exists_mem_of_filter (fun p hp => (h p hp).symm)
          List.mem_cons_self) List.not_mem_nil
  | cons a rest ih =>
      cases others with
      | nil => exact absurd (exists_mem_of_filter h List.mem_cons_self) List.not_mem_nil
      | cons b tail =>
          obtain ⟨hleast, hrest⟩ := List.pairwise_cons.mp hitems
          obtain ⟨hleast', htail⟩ := List.pairwise_cons.mp hothers
          -- each first item is in the other list, so both have the least key there is
          have hle : key a ≤ key b := by
            rcases List.mem_cons.mp (exists_mem_of_filter (fun p hp => (h p hp).symm)
              (List.mem_cons_self (a := b) (l := tail))) with rfl | hb
            · exact le_refl _
            · exact hleast b hb
          have hge : key b ≤ key a := by
            rcases List.mem_cons.mp (exists_mem_of_filter h
              (List.mem_cons_self (a := a) (l := rest))) with rfl | ha
            · exact le_refl _
            · exact hleast' a ha
          have hkey : key a = key b := le_antisymm hle hge
          obtain rfl : a = b := by
            have hclass := h _ (sharesKey_key key (key b))
            simp only [List.filter_cons, hkey, decide_true, if_true, List.cons.injEq] at hclass
            exact hclass.1
          have hclasses : ∀ p, SharesKey key p → rest.filter p = tail.filter p := by
            intro p hp
            have hclass := h p hp
            rw [List.filter_cons, List.filter_cons] at hclass
            split at hclass
            · exact (List.cons.inj hclass).2
            · exact hclass
          rw [ih hrest htail hclasses]

variable (hle : ∀ a b, le a b = true ↔ key a ≤ key b)

include hle

theorem le_trans_of_key (a b c : α) (hab : le a b = true) (hbc : le b c = true) :
    le a c = true := by
  rw [hle] at hab hbc ⊢
  exact le_trans hab hbc

theorem le_total_of_key (a b : α) : (le a b || le b a) = true := by
  rw [Bool.or_eq_true, hle, hle]
  exact le_total (key a) (key b)

/-- Sorting puts items in the order of their keys. -/
theorem pairwise_mergeSort_key (items : List α) :
    (items.mergeSort le).Pairwise fun a b => key a ≤ key b := by
  apply (List.pairwise_mergeSort (le_trans_of_key hle) (le_total_of_key hle) items).imp
  intro a b hab
  exact (hle a b).mp hab

/-- Sorting leaves items that share a key in the order that they have. -/
theorem filter_mergeSort_key (hp : SharesKey key p) (items : List α) :
    (items.mergeSort le).filter p = items.filter p := by
  -- these items are in order, so they are found in the result one after the other
  have hclass : (items.filter p).Pairwise fun a b => le a b = true := by
    rw [List.pairwise_iff_forall_sublist]
    intro a b hab
    have ha := List.mem_filter.mp (hab.subset List.mem_cons_self)
    have hb := List.mem_filter.mp (hab.subset (List.mem_cons_of_mem a List.mem_cons_self))
    rw [hle]
    exact le_of_eq (hp a b ha.2 hb.2)
  have hfound := List.sublist_mergeSort (le_trans_of_key hle) (le_total_of_key hle) hclass
    List.filter_sublist
  have hpicked := hfound.filter p
  rw [List.filter_filter] at hpicked
  simp only [Bool.and_self] at hpicked
  have hlength := ((List.mergeSort_perm items le).filter p).length_eq
  exact (hpicked.eq_of_length hlength.symm).symm

/-- A list in the order of its keys is the only one with its classes. -/
theorem eq_mergeSort_key (hothers : others.Pairwise fun a b => key a ≤ key b)
    (h : ∀ p, SharesKey key p → others.filter p = items.filter p) :
    others = items.mergeSort le := by
  apply eq_of_pairwise_of_filter hothers (pairwise_mergeSort_key hle items)
  intro p hp
  rw [h p hp, filter_mergeSort_key hle hp]

end

/-! ## The values of posts -/

/-- What a post can be ordered by. -/
inductive Sortable where
  | text (s : String)
  | date (d : Date)
  | texts (items : List String)
  | path (p : Path)
deriving DecidableEq, Repr

/-- Whether a value is less than another one: texts by their characters, dates by the calendar, and
lists and paths part by part. Values of different kinds cannot be compared. -/
def Sortable.less? : Sortable → Sortable → Option Bool
  | text s, text t => some (decide (s < t))
  | date d, date e => some (decide (d.sortKey < e.sortKey))
  | texts items, texts others => some (decide (items < others))
  | path p, path q => some (decide (p.sortKey < q.sortKey))
  | _, _ => none

/-- Whether a post belongs before another one by their values. One without a value belongs before
one with a value, and not before another one without. -/
def before? : Option Sortable → Option Sortable → Option Bool
  | none, none => some false
  | none, some _ => some true
  | some _, none => some false
  | some a, some b => a.less? b

/-- The value of a post under a name: a field of the post, or else something in its metadata. -/
def valueUnder (name : String) (post : Post) : Option Sortable :=
  match name with
  | "title" => some (.text post.title)
  | "date" => some (.date post.date)
  | "updated" => some (.date post.updated)
  | "category" => some (.text post.category)
  | "tags" => some (.texts post.tags)
  | "template" => post.template.map .path
  | key => (post.meta? key).map .text

/-- The dates of a post exist. -/
structure Post.HasDates (post : Post) : Prop where
  date : post.date.isValid
  updated : post.updated.isValid

/-- The texts that a value is compared by. -/
def Sortable.spelled : Sortable → List String
  | text s => [s]
  | date d => [d.text]
  | texts items => items
  | path p => p.sortKey

theorem value_ofString (name : String) (post : Post) :
    (SortKey.ofString name).value post = (valueUnder name post).map Sortable.spelled := by
  unfold SortKey.ofString valueUnder
  split
  · rfl
  · rfl
  · rfl
  · rfl
  · rfl
  · simp only [Option.map_map]
    rfl
  · simp only [Option.map_map]
    rfl

theorem singleton_lt_singleton_iff (s t : String) : [s] < [t] ↔ s < t := by
  rw [List.cons_lt_cons_iff]
  exact or_iff_left fun h => List.lt_irrefl [] h.2

/-- The values of two posts under one name can be compared, by the texts that spell them. -/
theorem less?_of_valueUnder {name : String} {post other : Post} {value another : Sortable}
    (hpost : post.HasDates) (hother : other.HasDates) (h : valueUnder name post = some value)
    (h' : valueUnder name other = some another) :
    value.less? another = some (decide (value.spelled < another.spelled)) := by
  have htexts : ∀ s t, Sortable.less? (.text s) (.text t)
      = some (decide ((Sortable.text s).spelled < (Sortable.text t).spelled)) := by
    intro s t
    simp only [Sortable.less?, Sortable.spelled, singleton_lt_singleton_iff]
  have hdates : ∀ d e : Date, d.isValid → e.isValid → Sortable.less? (.date d) (.date e)
      = some (decide ((Sortable.date d).spelled < (Sortable.date e).spelled)) := by
    intro d e hd he
    simp only [Sortable.less?, Sortable.spelled, singleton_lt_singleton_iff,
      Date.text_lt_text_iff (Date.isWritable_of_isValid hd) (Date.isWritable_of_isValid he)]
  unfold valueUnder at h h'
  split at h
  · cases h
    cases h'
    exact htexts _ _
  · cases h
    cases h'
    exact hdates _ _ hpost.date hother.date
  · cases h
    cases h'
    exact hdates _ _ hpost.updated hother.updated
  · cases h
    cases h'
    exact htexts _ _
  · cases h
    cases h'
    rfl
  · obtain ⟨p, -, rfl⟩ := Option.map_eq_some_iff.mp h
    obtain ⟨q, -, rfl⟩ := Option.map_eq_some_iff.mp h'
    rfl
  · simp only at h'
    obtain ⟨s, -, rfl⟩ := Option.map_eq_some_iff.mp h
    obtain ⟨t, -, rfl⟩ := Option.map_eq_some_iff.mp h'
    exact htexts s t

/-! ## The order of values -/

theorem valueLe_iff (a b : Option (List String)) :
    valueLe a b = true ↔ (show WithBot (List String) from a) ≤ b := by
  cases a with
  | none => exact iff_of_true rfl bot_le
  | some s =>
      cases b with
      | none => exact iff_of_false Bool.false_ne_true (WithBot.not_coe_le_bot s)
      | some t =>
          rw [valueLe, Bool.not_eq_true', decide_eq_false_iff_not, not_lt]
          exact WithBot.coe_le_coe.symm

/-- The place of a post in the order of a name, which is the lowest one without a value. -/
def rank (name : String) (post : Post) : WithBot (List String) :=
  (SortKey.ofString name).value post

variable {name : String} {post other : Post}

/-- Posts with the same value have the same place. -/
theorem rank_congr (h : valueUnder name post = valueUnder name other) :
    rank name post = rank name other := by
  rw [rank, rank, value_ofString, value_ofString, h]

/-- Any two posts can be compared by their places. -/
theorem before?_valueUnder (hpost : post.HasDates) (hother : other.HasDates) :
    before? (valueUnder name post) (valueUnder name other)
      = some (decide (rank name post < rank name other)) := by
  rw [rank, rank, value_ofString, value_ofString]
  cases hvalue : valueUnder name post with
  | none =>
      cases valueUnder name other with
      | none => exact congrArg some (decide_eq_false (lt_irrefl (⊥ : WithBot (List String)))).symm
      | some another =>
          exact congrArg some (decide_eq_true (WithBot.bot_lt_coe another.spelled)).symm
  | some value =>
      cases hanother : valueUnder name other with
      | none =>
          have hlast := WithBot.not_lt_bot (WithBot.some value.spelled)
          exact congrArg some (decide_eq_false hlast).symm
      | some another =>
          rw [before?, less?_of_valueUnder hpost hother hvalue hanother, Option.some.injEq,
            decide_eq_decide]
          exact WithBot.coe_lt_coe.symm

theorem ascending_iff (name : String) (post other : Post) :
    valueLe ((SortKey.ofString name).value post) ((SortKey.ofString name).value other) = true ↔
      rank name post ≤ rank name other :=
  valueLe_iff _ _

theorem descending_iff (name : String) (post other : Post) :
    valueLe ((SortKey.ofString name).value other) ((SortKey.ofString name).value post) = true ↔
      OrderDual.toDual (rank name post) ≤ OrderDual.toDual (rank name other) :=
  valueLe_iff _ _

/-! ## Posts in the order of a name -/

/-- Posts are put in the order of a name, by the values that they have under it. -/
structure Orders (name : String) (ascending : Bool) (posts sorted : List Post) : Prop where
  /-- No post is lost, found or repeated. -/
  perm : sorted.Perm posts
  /-- The values of any two posts can be compared, whether both have one or not. -/
  comparable : ∀ post ∈ posts, ∀ other ∈ posts,
    (before? (valueUnder name post) (valueUnder name other)).isSome
  /-- No post follows one that it belongs before, or the other way around. -/
  inOrder : sorted.Pairwise fun post later =>
    (if ascending then before? (valueUnder name later) (valueUnder name post)
      else before? (valueUnder name post) (valueUnder name later)) = some false
  /-- Posts with one value, and posts without any, keep the order that they had. -/
  stable : ∀ value, (sorted.filter fun post => valueUnder name post = value)
    = posts.filter fun post => valueUnder name post = value

variable {posts : List Post} {ascending : Bool}

theorem perm_sortPosts (key : SortKey) (ascending : Bool) (posts : List Post) :
    (sortPosts key ascending posts).Perm posts := by
  rw [sortPosts]
  split
  · exact List.mergeSort_perm posts _
  · exact List.mergeSort_perm posts _

/-- Sorting leaves posts of one place in the order that they had. -/
theorem filter_sortPosts {p : Post → Bool} (hp : SharesKey (rank name) p) :
    (sortPosts (.ofString name) ascending posts).filter p = posts.filter p := by
  cases ascending with
  | true => exact filter_mergeSort_key (ascending_iff name) hp posts
  | false =>
      have hp' : SharesKey (fun post => OrderDual.toDual (rank name post)) p := hp
      exact filter_mergeSort_key (descending_iff name) hp' posts

/-- Each direction is that of the places. -/
theorem pairwise_sortPosts : (sortPosts (.ofString name) ascending posts).Pairwise
    fun post later => if ascending then rank name post ≤ rank name later
      else rank name later ≤ rank name post := by
  cases ascending with
  | true => exact pairwise_mergeSort_key (ascending_iff name) posts
  | false => exact pairwise_mergeSort_key (descending_iff name) posts

/-- Posts are put in the order of a name, whatever values they have under it. Turning the direction
around is turning the posts around before and after, and posts in order are left alone. -/
theorem sortPosts_orders (hdates : ∀ post ∈ posts, post.HasDates) (name : String)
    (ascending : Bool) :
    Orders name ascending posts (sortPosts (.ofString name) ascending posts) ∧
      sortPosts (.ofString name) false posts
        = (sortPosts (.ofString name) true posts.reverse).reverse ∧
      sortPosts (.ofString name) ascending (sortPosts (.ofString name) ascending posts)
        = sortPosts (.ofString name) ascending posts := by
  have hperm := perm_sortPosts (.ofString name) ascending posts
  refine ⟨⟨hperm, ?_, ?_, ?_⟩, ?_, ?_⟩
  · intro post hpost other hother
    rw [before?_valueUnder (hdates post hpost) (hdates other hother)]
    rfl
  · apply pairwise_sortPosts.imp_of_mem
    intro post later hpost hlater hplace
    have hpost := hdates post (hperm.mem_iff.mp hpost)
    have hlater := hdates later (hperm.mem_iff.mp hlater)
    rw [before?_valueUnder hpost hlater, before?_valueUnder hlater hpost]
    cases ascending with
    | true => exact congrArg some (decide_eq_false (not_lt.mpr hplace))
    | false => exact congrArg some (decide_eq_false (not_lt.mpr hplace))
  · intro value
    apply filter_sortPosts
    intro post other hpost hother
    exact rank_congr ((of_decide_eq_true hpost).trans (of_decide_eq_true hother).symm)
  · -- both are descending, and have the posts of each place in the order of `posts`
    symm
    apply eq_mergeSort_key (descending_iff name)
    · rw [List.pairwise_reverse]
      exact pairwise_mergeSort_key (ascending_iff name) posts.reverse
    · intro p hp
      rw [List.filter_reverse, filter_sortPosts hp, List.filter_reverse, List.reverse_reverse]
  · cases ascending with
    | true =>
        have hrank := ascending_iff name
        exact List.mergeSort_of_pairwise
          (List.pairwise_mergeSort (le_trans_of_key hrank) (le_total_of_key hrank) posts)
    | false =>
        have hrank := descending_iff name
        exact List.mergeSort_of_pairwise
          (List.pairwise_mergeSort (le_trans_of_key hrank) (le_total_of_key hrank) posts)

/-! ## Posts with and without a template -/

/-- A post that asks for a template, or for none. -/
def templatePost (name : String) (template : Option Path) : Post where
  path := .ofString name
  date := { year := 2021, month := 3, day := 14 }
  updated := { year := 2021, month := 3, day := 14 }
  template := template

/-- Posts of which two ask for no template, and two for the same. The names of a path are compared
one by one, so a file in the directory `a` is before the file `a.html`. -/
def templatePosts : List Post :=
  [templatePost "none.md" none, templatePost "deep.md" (some (.ofString "a/z.html")),
   templatePost "flat.md" (some (.ofString "a.html")), templatePost "other.md" none,
   templatePost "also.md" (some (.ofString "a/z.html"))]

/-- The templates that come last are first, and the posts without one are last. -/
theorem sortPosts_orders_templates :
    (∀ post ∈ templatePosts, post.HasDates) ∧
      Orders "template" false templatePosts
        [templatePost "flat.md" (some (.ofString "a.html")),
         templatePost "deep.md" (some (.ofString "a/z.html")),
         templatePost "also.md" (some (.ofString "a/z.html")), templatePost "none.md" none,
         templatePost "other.md" none] := by
  have hdates : ∀ post ∈ templatePosts, post.HasDates := by
    simp only [templatePosts, List.forall_mem_cons]
    exact ⟨⟨rfl, rfl⟩, ⟨rfl, rfl⟩, ⟨rfl, rfl⟩, ⟨rfl, rfl⟩, ⟨rfl, rfl⟩, List.forall_mem_nil _⟩
  have horders := (sortPosts_orders hdates "template" false).1
  have hvalue : ∀ name template, (SortKey.ofString "template").value (templatePost name template)
      = template.map Path.sortKey := fun _ _ => rfl
  have hdeep : (Path.ofString "a/z.html").sortKey = ["a", "z.html"] := by cbv
  have hflat : (Path.ofString "a.html").sortKey = ["a.html"] := by cbv
  have hlt : ["a", "z.html"] < ["a.html"] := by decide +kernel
  have hsorted : sortPosts (.ofString "template") false templatePosts
      = [templatePost "flat.md" (some (.ofString "a.html")),
         templatePost "deep.md" (some (.ofString "a/z.html")),
         templatePost "also.md" (some (.ofString "a/z.html")), templatePost "none.md" none,
         templatePost "other.md" none] := by
    simp [sortPosts, templatePosts, List.mergeSort, hvalue, valueLe, hdeep, hflat, hlt,
      not_lt.mpr (le_of_lt hlt)]
  rw [hsorted] at horders
  exact ⟨hdates, horders⟩

end StaticSite
