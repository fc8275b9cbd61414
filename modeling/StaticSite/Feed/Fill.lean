import StaticSite.Calendar.Moment
import StaticSite.Feed.Load
import StaticSite.Post.Basic
import StaticSite.Xml.Character

/-!
# Filling feeds

A feed on the site repeats its description and has an entry for each post under its directory. It
was last changed when the latest of these posts was, or now if there are none.
-/

set_option autoImplicit false

namespace StaticSite.Feed

open StaticSite.Calendar StaticSite.Xml

/-- An entry of a feed. -/
structure Entry where
  /-- The address of the page, by which the entry is known. -/
  id : String
  title : String
  updated : Date
  published : Date
  category : String
  /-- The page as HTML. -/
  content : String
deriving DecidableEq, Repr

/-- The posts under the directory of a feed. -/
def posts (feed : Feed) (all : List Post) : List Post :=
  all.filter (·.path.isUnder feed.path.parent)

/-- The entry for a post. -/
def entry (feed : Feed) (render : String → String) (post : Post) : Entry :=
  { id := feed.link ++ post.uri
    title := post.title
    updated := post.updated
    published := post.date
    category := post.category
    content := render post.markdown }

/-- The last of some dates, if there are any. -/
def lastDate? : List Date → Option Date
  | [] => none
  | date :: dates => some (dates.foldl Date.latest date)

/-- When a feed was last changed. -/
def updated (now : Moment) (posts : List Post) : Moment :=
  ((lastDate? (posts.map (·.updated))).map Moment.midnight).getD now

/-- The address of the feed itself. -/
def selfLink (feed : Feed) : String :=
  String.ofList (Text.stripEndBy (· = '/') feed.link.toList) ++ "/" ++ feed.path.name

/-! ## Writing -/

/-- An attribute as it is written after a name. -/
def attributeText (name value : String) : String :=
  " " ++ name ++ "=\"" ++ escape value ++ "\""

/-- An attribute that is left out if it says nothing. -/
def optionalText (name : String) (value : Option String) : String :=
  match value.filter (!·.isEmpty) with
  | some value => attributeText name value
  | none => ""

/-- An element that holds text. -/
def elementText (name attributes content : String) : String :=
  "<" ++ name ++ attributes ++ ">" ++ escape content ++ "</" ++ name ++ ">\n"

/-- An element that holds nothing. -/
def emptyText (name attributes : String) : String :=
  "<" ++ name ++ attributes ++ "/>\n"

/-- The written form of an entry. -/
def Entry.text (entry : Entry) : String :=
  "  <entry>\n" ++
  "    " ++ elementText "title" "" entry.title ++
  "    " ++ elementText "id" "" entry.id ++
  "    " ++ emptyText "link" (attributeText "href" entry.id) ++
  "    " ++ elementText "updated" "" (Moment.midnight entry.updated).text ++
  "    " ++ elementText "published" "" (Moment.midnight entry.published).text ++
  (if entry.category.isEmpty then ""
    else "    " ++ emptyText "category" (attributeText "term" entry.category)) ++
  "    " ++ elementText "content" (attributeText "type" "html") entry.content ++
  "  </entry>\n"

/-- The written form of the generator, which is left out if it has no name. -/
def generatorText (feed : Feed) : String :=
  match feed.generator.filter (!·.isEmpty) with
  | some generator =>
    "  " ++ elementText "generator" (optionalText "uri" feed.generatorUri) generator
  | none => ""

/-- The written form of a feed with entries. -/
def text (feed : Feed) (updated : Moment) (entries : List Entry) : String :=
  "<?xml version=\"1.0\" encoding=\"utf-8\"?>\n" ++
  "<feed xmlns=\"http://www.w3.org/2005/Atom\"" ++ optionalText "xml:lang" feed.lang ++ ">\n" ++
  "  " ++ elementText "title" "" feed.title ++
  "  " ++ elementText "id" "" feed.link ++
  "  " ++ elementText "updated" "" updated.text ++
  feed.generatorText ++
  "  " ++ emptyText "link" (attributeText "href" feed.link) ++
  "  " ++ emptyText "link" (attributeText "href" feed.selfLink ++ attributeText "rel" "self" ++
    attributeText "type" "application/atom+xml") ++
  String.join (entries.map Entry.text) ++
  "</feed>"

/-- The feed filled with posts. -/
def fill (feed : Feed) (posts : List Post) (render : String → String) (now : Moment) : String :=
  let mine := feed.posts posts
  feed.text (updated now mine) (mine.map (feed.entry render))

end StaticSite.Feed
