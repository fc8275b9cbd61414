import StaticSite.Calendar.Date
import StaticSite.File.Path

/-!
# Posts

A post is a document ready to become a page: its Markdown, what its author said about it, and where
its page will be found.
-/

set_option autoImplicit false

namespace StaticSite

open StaticSite.Calendar StaticSite.File

/-- A post. -/
structure Post where
  /-- The source file. -/
  path : Path
  /-- The text without the block of metadata. -/
  markdown : String := ""
  /-- All metadata, in the order in which the keys first appear. -/
  metadata : List (String × String) := []
  title : String := ""
  date : Date
  updated : Date
  category : String := ""
  tags : List String := []
  /-- The template that the post asks for. -/
  template : Option Path := none
  /-- The address of the page on the site. -/
  uri : String := "/"
  /-- The headings with their depths. -/
  outline : List (String × Int) := []
deriving DecidableEq, Repr

/-- What the author says about the post under a key. -/
def Post.meta? (post : Post) (key : String) : Option String :=
  post.metadata.lookup key

/-! ## Orders of posts

A list of posts can be ordered by a field that every post has or by a key of the metadata. Whatever
it is, the value is a list of texts, compared text by text. Posts without a value come before those
with one, and posts with equal values keep the order they had. -/

/-- A field of a post that lists can be ordered by. -/
inductive PostField where
  | title
  | date
  | updated
  | category
  | tags
  | template
deriving DecidableEq, Repr

/-- What a list of posts is ordered by. -/
inductive SortKey where
  | field (field : PostField)
  | metadata (key : String)
deriving DecidableEq, Repr

/-- The sort key of a name. The names of fields mean the fields, all others keys of the metadata. -/
def SortKey.ofString (name : String) : SortKey :=
  match name with
  | "title" => field .title
  | "date" => field .date
  | "updated" => field .updated
  | "category" => field .category
  | "tags" => field .tags
  | "template" => field .template
  | key => metadata key

/-- The value of a field. -/
def PostField.value (post : Post) : PostField → Option (List String)
  | title => some [post.title]
  | date => some [post.date.text]
  | updated => some [post.updated.text]
  | category => some [post.category]
  | tags => some post.tags
  | template => post.template.map (·.sortKey)

/-- The value that a post is ordered by. -/
def SortKey.value (key : SortKey) (post : Post) : Option (List String) :=
  match key with
  | field f => f.value post
  | metadata name => (post.meta? name).map fun value => [value]

/-- The order of values; a missing value comes first. -/
def valueLe : Option (List String) → Option (List String) → Bool
  | none, _ => true
  | some _, none => false
  | some a, some b => !decide (b < a)

/-- Posts in the order of a key. -/
def sortPosts (key : SortKey) (ascending : Bool) (posts : List Post) : List Post :=
  if ascending then posts.mergeSort fun a b => valueLe (key.value a) (key.value b)
  else posts.mergeSort fun a b => valueLe (key.value b) (key.value a)

end StaticSite
