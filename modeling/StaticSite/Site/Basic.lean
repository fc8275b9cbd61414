import StaticSite.Feed.Load
import StaticSite.File.Action
import StaticSite.Noted
import StaticSite.Post.Load
import StaticSite.Settings.Check
import StaticSite.Template.Basic

/-!
# Sites

What can be said while a site is made, and what can go wrong.
-/

set_option autoImplicit false

namespace StaticSite.Site

open StaticSite.File

/-- Something worth saying while a site is made. -/
inductive Note where
  | template (note : Template.Note)
  | post (note : PostNote)
  /-- A file with the extension of feeds is none and is copied. -/
  | noFeed (error : FeedError)
  /-- A template that a post asks for cannot be read, and the usual one is taken. -/
  | noTemplate (path : Path) (reason : TextError)
  /-- What was found in the sources. -/
  | scanned (root : Path) (posts feeds copies : Nat)
deriving DecidableEq, Repr

/-- Whether a note only tells how the work goes. -/
def Note.isProgress : Note → Bool
  | scanned .. => true
  | _ => false

/-- The text of a note. -/
def Note.message : Note → String
  | template note => note.message
  | post note => note.message
  | noFeed error => "failed to load atom feed, copying it instead: " ++ error.message
  | noTemplate path reason =>
    "failed to load html template " ++ path.text ++ ": " ++ reason.message
  | scanned root posts feeds copies =>
    "scanned " ++ root.text ++ ": " ++ toString posts ++ " posts, " ++ toString feeds ++
      " feeds, " ++ toString copies ++ " files to copy"

/-- Why a site cannot be made. -/
inductive Error where
  /-- Code is to be highlighted in a style that does not exist. -/
  | noStyle
  | noSource (root : Path)
  /-- It cannot be found out what the sources are. -/
  | source (fault : Fault)
  | post (error : LoadError)
  | feed (error : FeedLoadError)
  | settings (error : SettingsError)
  /-- A template is no text, or its path no path. -/
  | template (error : TextError)
  | fill (error : FillError)
  | action (failure : ActionFailure)
deriving DecidableEq, Repr

/-- The report of sources that are missing. -/
def noSourceMessage (root : Path) : String :=
  "Source directory '" ++ root.text ++ "' not found."

/-- Why a site cannot be made, in words. -/
def Error.message : Error → String
  | noStyle => "There is no such style for highlighted code."
  | noSource root => noSourceMessage root
  | source fault => fault.words
  | post (.post error) => error.message
  | post .nullCharacter => Fault.nullCharacter.words
  | post .noAddress => "A page has no address on the site."
  | post (.noDate _) => "A time of a file has no date."
  | feed (.feed error) => error.message
  | feed .nullCharacter => Fault.nullCharacter.words
  | feed (.encoding .multibyteEncoding) =>
    "The encoding of a feed has characters of several bytes."
  | feed (.encoding _) => "The encoding of a feed is not known."
  | settings error => error.message
  | template error => error.message
  | fill .nullCharacter => Fault.nullCharacter.words
  | fill .noAddress => "A list holds a page without an address."
  | action (.failed error) => error.message
  | action (.untried fault) => fault.words

end StaticSite.Site
