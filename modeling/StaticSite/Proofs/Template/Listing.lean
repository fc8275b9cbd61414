import StaticSite.Proofs.File.Descent
import StaticSite.Proofs.Post.Order
import StaticSite.Proofs.Template.Filling

/-!
# Lists of links

A directive can ask for a list of links to the posts under a directory. The directory is where its
path leads, seen from the template; a post is taken to be in it by the names of the two paths.

## What this module delivers

- `orderedPosts`, `listItem`: the posts in the order asked for, and the item for one of them.
- `linkItems_eq`, `listing_eq`: a list of links is one item after the other.
- `Lists`, `listing_lists`: exactly which posts are listed, and in what order.
- `listing_misses`: a list without the posts of its directory, which is spelled by way of `..`.
-/

set_option autoImplicit false

namespace StaticSite.Template

open StaticSite.File

/-- Posts in the order that a directive asks for. -/
def orderedPosts (sort : Option SortOrder) (posts : List Post) : List Post :=
  match sort with
  | some order => sortPosts (.ofString order.key) order.ascending posts
  | none => posts

/-- The item of a list for a post, as it is written on a page. -/
def listItem (here : List String) (page post : Post) : String :=
  "<li><a href=\"" ++ (relativeLink? here page.uri post.uri).getD "" ++ "\">" ++
    StaticSite.Html.escapeText post.title ++ "</a></li>"

/-- The directory in which a template looks for paths without a leading slash. -/
def base (template : Template) : Path :=
  (template.path.map Path.parent).getD template.root

variable {template : Template} {context : FillContext} {page : Post} {path : String}
  {sort : Option SortOrder}

theorem resolve_eq_seenFrom (template : Template) (path : String) :
    template.resolve path = template.root.seenFrom template.base path := rfl

/-- No post is lost or found by putting posts in order. -/
theorem perm_orderedPosts (sort : Option SortOrder) (posts : List Post) :
    (orderedPosts sort posts).Perm posts := by
  cases sort with
  | none => exact List.Perm.refl posts
  | some order => exact perm_sortPosts (.ofString order.key) order.ascending posts

/-- Links to posts with addresses are written one after the other. -/
theorem linkItems_eq {here : List String} {posts : List Post} (h : ∀ post ∈ posts, post.uri ≠ "") :
    linkItems here page posts = some (String.join (posts.map (listItem here page))) := by
  induction posts with
  | nil => rfl
  | cons post rest ih =>
      obtain ⟨hpost, hrest⟩ := List.forall_mem_cons.mp h
      obtain ⟨link, hlink⟩ : ∃ link, relativeLink? here page.uri post.uri = some link :=
        Option.ne_none_iff_exists'.mp fun hnone => hpost (relativeLink?_eq_none_iff.mp hnone)
      rw [linkItems, hlink, ih hrest, List.map_cons, String.join_cons, listItem, hlink,
        Option.getD_some]

/-- A list is made of the links to the posts under the directory, in the order asked for. -/
theorem listing_eq (template : Template) (context : FillContext) (page : Post) (path : String)
    (sort : Option SortOrder) :
    template.listing context page path sort
      = (linkItems context.store.here page ((orderedPosts sort context.posts).filter
          (·.path.isUnder (template.resolve path)))).elim (.error .noAddress)
          fun items => .ok ("<ul>" ++ items ++ "</ul>") := by
  have hsorted : template.listing context page path sort
      = template.listing { context with posts := orderedPosts sort context.posts } page path
        none := by
    cases sort with
    | none => rfl
    | some order => rfl
  rw [hsorted]
  simp only [listing]
  split
  · rename_i items hitems
    rw [hitems]
    rfl
  · rename_i hnone
    rw [hnone]
    rfl

/-- What a directive lists. -/
structure Lists (template : Template) (context : FillContext) (page : Post) (path : String)
    (sort : Option SortOrder) (listed : List Post) : Prop where
  /-- The order is the one asked for, in which posts that are not listed are skipped. -/
  order : listed = (orderedPosts sort context.posts).filter fun post => decide (post ∈ listed)
  /-- A post is listed as often as it is given, or not at all. -/
  once : listed.Perm (context.posts.filter fun post => decide (post ∈ listed))
  /-- By names, a post is listed exactly if its path is that of the directory with names after
  it. -/
  names : ∀ post ∈ context.posts,
    (post ∈ listed ↔ ∃ names, post.path = (template.resolve path).under names)
  /-- If names other than `..` lead to the directory and to the post from a common path, this is to
  be in the directory. -/
  aligned : ∀ post ∈ context.posts, (template.resolve path).Aligned post.path →
    (post ∈ listed ↔ context.store.spelledPlace (template.resolve path)
      <+: context.store.spelledPlace post.path)
  /-- Of the posts below the root of the sources, those in the directory are listed exactly if no
  name in the path leads back. -/
  below : template.root.Aligned template.base → ¬ Path.StartsAnew path →
    ∀ post ∈ context.posts, template.root.LeadsDownTo post.path →
      (post ∈ listed ↔ ".." ∉ Path.readSegments path.toList ∧
        context.store.spelledPlace (template.resolve path)
          <+: context.store.spelledPlace post.path)
  /-- The list has an item for each post, unless one has no address. -/
  text : template.listing context page path sort
    = if ∃ post ∈ listed, post.uri = "" then .error .noAddress
      else .ok ("<ul>" ++ String.join (listed.map (listItem context.store.here page)) ++ "</ul>")

/-- A directive lists the posts that are by names under the directory that its path means. In the
order asked for, it has an item for each of them and for no other post. -/
theorem listing_lists (template : Template) (context : FillContext) (page : Post) (path : String)
    (sort : Option SortOrder) : ∃ listed, Lists template context page path sort listed := by
  let isListed (post : Post) : Bool := post.path.isUnder (template.resolve path)
  let listed := (orderedPosts sort context.posts).filter isListed
  -- whether a post is listed has nothing to do with the order
  have hmem : ∀ post ∈ context.posts, post ∈ listed ↔ isListed post = true := by
    intro post hpost
    rw [List.mem_filter, (perm_orderedPosts sort context.posts).mem_iff, and_iff_right hpost]
  have hsame : ∀ post ∈ context.posts, decide (post ∈ listed) = isListed post := by
    intro post hpost
    rw [Bool.eq_iff_iff, decide_eq_true_iff, hmem post hpost]
  refine ⟨listed, ?_, ?_, ?_, ?_, ?_, ?_⟩
  · apply List.filter_congr
    intro post hpost
    exact (hsame post ((perm_orderedPosts sort context.posts).mem_iff.mp hpost)).symm
  · rw [List.filter_congr hsame]
    exact (perm_orderedPosts sort context.posts).filter isListed
  · intro post hpost
    rw [hmem post hpost]
    exact Path.isUnder_iff
  · intro post hpost haligned
    rw [hmem post hpost]
    exact Path.isUnder_iff_of_aligned haligned
  · intro hbase hpath post hpost hdown
    rw [hmem post hpost]
    show post.path.isUnder (template.resolve path) = true ↔ _
    rw [resolve_eq_seenFrom]
    exact Path.isUnder_seenFrom_iff hbase hdown hpath
  · rw [listing_eq]
    split_ifs with hempty
    · rw [linkItems_eq_none_iff.mpr hempty]
      rfl
    · rw [linkItems_eq fun post hpost huri => hempty ⟨post, hpost, huri⟩]
      rfl

/-! ## A template beside the directory -/

/-- A template in a directory of its own, a page, and a post in another directory. -/
def besideTemplate : Template where
  pieces := []
  root := { segments := ["content"] }
  path := some { segments := ["content", "layouts", "page.html"] }
  rawExtensions := []

def besidePage : Post where
  path := { segments := ["content", "index.md"] }
  date := { year := 1970, month := 1, day := 1 }
  updated := { year := 1970, month := 1, day := 1 }
  uri := "/index.html"

def besidePost : Post where
  path := { segments := ["content", "notes", "p.md"] }
  title := "Hi"
  date := { year := 1970, month := 1, day := 1 }
  updated := { year := 1970, month := 1, day := 1 }
  uri := "/notes/p.html"

def besideContext : FillContext where
  posts := [besidePage, besidePost]
  render := id
  store := { tree := .directory [] }

/-- Seen from the root, the directory has the post. -/
theorem listing_lists_beside :
    (∃ listed, Lists besideTemplate besideContext besidePage "/notes" none listed) ∧
    besideTemplate.listing besideContext besidePage "/notes" none
      = .ok "<ul><li><a href=\"notes/p.html\">Hi</a></li></ul>" :=
  ⟨listing_lists besideTemplate besideContext besidePage "/notes" none, by decide +kernel⟩

/-- Seen from the template, by way of `..`, the directory is the same and has the same post, but
nothing is listed. -/
theorem listing_misses :
    besideContext.store.spelledPlace (besideTemplate.resolve "../notes") = ["content", "notes"] ∧
    besideContext.store.spelledPlace besidePost.path = ["content", "notes", "p.md"] ∧
    besidePost ∈ besideContext.posts ∧
    besideTemplate.listing besideContext besidePage "../notes" none = .ok "<ul></ul>" := by
  refine ⟨by decide +kernel, by decide +kernel, by decide, by decide +kernel⟩

end StaticSite.Template
