import StaticSite.File.Store
import StaticSite.Markdown.Document
import StaticSite.Markdown.Event
import StaticSite.Post.Basic
import StaticSite.Post.Metadata

/-!
# Loading posts

A Markdown file becomes a post. What its metadata leave open is taken from elsewhere: the title from
the first main heading or the name of the file, the dates from the times of the file.
-/

set_option autoImplicit false

namespace StaticSite

open StaticSite.Calendar StaticSite.File

/-- Why a source file is no post. -/
inductive PostError where
  | unreadable (path : Path) (reason : TextError)
  /-- A block of metadata does not end. -/
  | openMetadata (source : Option String)
deriving DecidableEq, Repr

/-- The report of a source file that is no post. -/
def PostError.message : PostError → String
  | unreadable path reason => "Failed to read post '" ++ path.text ++ "': " ++ reason.message
  | openMetadata source =>
    "Unexpected end of file while parsing meta block in '" ++ source.getD "None" ++ "'."

/-- Why a post cannot be loaded. -/
inductive LoadError where
  | post (error : PostError)
  /-- The path holds a null character. -/
  | nullCharacter
  /-- The page would have no address on the site. -/
  | noAddress
  /-- A time of the file has no date. -/
  | noDate (fault : Calendar.TimeFault)
deriving DecidableEq, Repr

namespace Post

/-- The address of the page for a source file: its place under the sources, with the extension of
pages. -/
def address? (root path : Path) (extension : String) : Option String :=
  ((path.relativeTo? root).bind (·.withExtension? extension)).map fun p => "/" ++ p.text

/-- The template that a post in a file asks for. -/
def templatePath (root path : Path) (value : String) : Option Path :=
  match value.toList with
  | [] => none
  | '/' :: rest => some (root.child (String.ofList rest))
  | _ => some (path.parent.child value)

/-- A text if it is not empty. -/
def given? (text : Option String) : Option String :=
  text.filter (!·.isEmpty)

/-- The text of the first main heading that has one. -/
def mainHeading? (outline : List (String × Int)) : Option String :=
  (outline.find? fun heading => heading.2 = 1 && !heading.1.isEmpty).map (·.1)

/-- The date that metadata give, or else the date of a time in seconds. -/
def readDate (path : Path) (seconds : Int) (value : Option String) :
    Report PostNote LoadError Date := do
  let fromFile : Report PostNote LoadError Date :=
    Report.ofExcept ((Date.ofSeconds seconds).mapError LoadError.noDate)
  match given? value with
  | none => fromFile
  | some text =>
    match Date.ofString? text with
    | some date => pure date
    | none =>
      Report.note (.badDate text path)
      fromFile

/-- Reads the data and the text of a source file. -/
def readSource (store : Store) (path : Path) : Except LoadError (FileData × String) :=
  match store.read path with
  | .error .nullCharacter => .error .nullCharacter
  | .error fault => .error (.post (.unreadable path (.fault fault path)))
  | .ok data =>
    match decodeText data.bytes with
    | .ok text => .ok (data, text)
    | .error error => .error (.post (.unreadable path (.encoding error)))

/-- Loads the post in a file. -/
def load (store : Store) (root path : Path) (extension : String) :
    Report PostNote LoadError Post := do
  let (data, text) ← Report.ofExcept (readSource store path)
  match ← Report.ofNoted (Metadata.split (some path.text) text) with
  | none => throw (.post (.openMetadata (some path.text)))
  | some (metadata, markdown) =>
    let outline := Markdown.outline (Markdown.readEvents markdown)
    let title := ((given? (metadata.lookup "title")).orElse fun _ =>
      (mainHeading? outline).orElse fun _ => given? (some path.stem)).getD path.name
    let date ← readDate path data.created (metadata.lookup "date")
    let updated ← readDate path data.modified (metadata.lookup "updated")
    match address? root path extension with
    | none => throw .noAddress
    | some uri =>
      pure
        { path := path
          markdown := markdown
          metadata := metadata
          title := title
          date := date
          updated := updated
          category := (metadata.lookup "category").getD ""
          tags := ((metadata.lookup "tags").map Metadata.readTags).getD []
          template := (metadata.lookup "template").bind (templatePath root path)
          uri := uri
          outline := outline }

end Post

end StaticSite
