import StaticSite.File.Path
import StaticSite.File.Store
import StaticSite.Text.Blank
import StaticSite.Xml.Document

/-!
# Loading feeds

A feed says something about itself: the file of a feed in the sources is its description, and the
same file on the site has the posts of its directory, too. The description is read from the elements
inside the root element of its file, whatever spaces they belong to: the first title, the first link
that leads somewhere, and the first generator with a name.
-/

set_option autoImplicit false

namespace StaticSite

open StaticSite.File StaticSite.Text

/-- The description of a feed. -/
structure Feed where
  /-- The file of the description. -/
  path : Path
  title : String
  /-- The address of the site. -/
  link : String
  lang : Option String := none
  /-- The program that makes the feed. -/
  generator : Option String := none
  generatorUri : Option String := none
deriving DecidableEq, Repr

/-- Why a file is no feed. -/
inductive FeedError where
  | unreadable (path : Path) (fault : Fault)
  | malformed (path : Path)
  /-- The root element is something else. -/
  | otherRoot (path : Path)
  | noTitle (path : Path)
  | noLink (path : Path)
deriving DecidableEq, Repr

/-- The report of a file that is no feed. -/
def FeedError.message : FeedError → String
  | unreadable path fault =>
    "Failed to parse atom feed '" ++ path.text ++ "': " ++ fault.message path
  | malformed path => "Failed to parse atom feed '" ++ path.text ++ "'"
  | otherRoot path => "Atom feed '" ++ path.text ++ "' does not have a <feed> root element."
  | noTitle path => "Atom feed '" ++ path.text ++ "' lacks a title tag."
  | noLink path => "Atom feed '" ++ path.text ++ "' lacks a link tag."

/-- Why a feed cannot be loaded. -/
inductive FeedLoadError where
  | feed (error : FeedError)
  /-- The path holds a null character. -/
  | nullCharacter
  | encoding (error : Xml.ReadError)
deriving DecidableEq, Repr

namespace Feed

/-- The elements inside an element with a name, in any space. -/
def named (root : Xml.Element) (base : String) : List Xml.Element :=
  root.children.filter (·.name.base = base)

/-- A text without blanks at its ends. -/
def label (element : Xml.Element) : String :=
  strip element.text

/-- The value of an attribute in no space. -/
def attribute? (element : Xml.Element) (base : String) : Option String :=
  element.attribute? { base := base }

/-- The generator with a name that comes first, or else the last one without. -/
def generator? (generators : List Xml.Element) : Option Xml.Element :=
  (generators.find? fun g => !(label g).isEmpty).or generators.getLast?

/-- The feed that an element describes. -/
def ofElement (path : Path) (root : Xml.Element) : Except FeedError Feed :=
  if root.name.base != "feed" then .error (.otherRoot path)
  else
    let title := ((named root "title").head?.map label).getD ""
    let link := (named root "link").filterMap (attribute? · "href") |>.find? (!·.isEmpty)
    let generator := generator? (named root "generator")
    match title.isEmpty, link with
    | true, _ => .error (.noTitle path)
    | false, none => .error (.noLink path)
    | false, some link => .ok
      { path := path
        title := title
        link := link
        lang := root.attribute? { space := some Xml.xmlSpace, base := "lang" }
        generator := (generator.map label).filter (!·.isEmpty)
        generatorUri := generator.bind (attribute? · "uri") }

/-- Loads the feed in a file. -/
def load (store : Store) (path : Path) : Except FeedLoadError Feed :=
  match store.read path with
  | .error .nullCharacter => .error .nullCharacter
  | .error fault => .error (.feed (.unreadable path fault))
  | .ok data =>
    match Xml.read data.bytes with
    | .error .malformed => .error (.feed (.malformed path))
    | .error error => .error (.encoding error)
    | .ok root => (ofElement path root).mapError .feed

end Feed

end StaticSite
