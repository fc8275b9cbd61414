import StaticSite.Template.Link
import StaticSite.Template.Piece
import StaticSite.Text.LowerCase

/-!
# Templates

A template is filled in for one page at a time: every directive is replaced by what its rule means
for the page, and everything else stays as it is. What is put in is never looked at again.
-/

set_option autoImplicit false

namespace StaticSite

open StaticSite.Text StaticSite.File StaticSite.Template

/-- A template. -/
structure Template where
  pieces : List Piece
  /-- The directory of the site's sources, where paths with a leading slash start. -/
  root : Path
  /-- The file that the template is from; other paths start in its directory. -/
  path : Option Path := none
  /-- The extensions of files that are included as they are. -/
  rawExtensions : List String
deriving DecidableEq, Repr

/-- What pages are filled in from: all posts, the addresses of the style sheets, the way to render
Markdown, and the files. -/
structure FillContext where
  posts : List Post := []
  stylesheets : List String := []
  render : String → String
  store : Store

/-- Why a template cannot be filled in. -/
inductive FillError where
  /-- A file to include has a path with a null character. -/
  | nullCharacter
  /-- A list holds a post without an address. -/
  | noAddress
deriving DecidableEq, Repr

/-- The extension of a file in lower case, without the dot. -/
def fileExtension (p : Path) : String :=
  lowerText (String.ofList (p.suffix.toList.drop 1))

namespace Template

/-- The extensions of files that are included as they are, unless something else is said. -/
def defaultRawExtensions : List String :=
  ["html", "htm", "svg"]

/-- The template that a text is. -/
def ofString (text : String) (root : Path) (path : Option Path) (rawExtensions : List String) :
    Noted Note Template := do
  let source := (path.map Path.text).getD "<string>"
  let pieces ← readPieces (some source) 0 text.toList
  pure { pieces := pieces, root := root, path := path
         rawExtensions := rawExtensions.map lowerText }

/-- The template in a file, or why it cannot be read. -/
def load (store : Store) (root path : Path) (rawExtensions : List String) :
    Report Note TextError Template := do
  let text ← Report.ofExcept (store.readText path)
  Report.ofNoted (ofString text root (some path) rawExtensions)

/-- The place that a path in a directive means. -/
def resolve (template : Template) (value : String) : Path :=
  match value.toList with
  | '/' :: rest => template.root.child (String.ofList rest)
  | _ => ((template.path.map Path.parent).getD template.root).child value

/-- The list of links to the posts under a path, in the order asked for. -/
def listing (template : Template) (context : FillContext) (page : Post) (path : String)
    (sort : Option SortOrder) : Except FillError String :=
  let directory := template.resolve path
  let posts := match sort with
    | some order => sortPosts (.ofString order.key) order.ascending context.posts
    | none => context.posts
  match linkItems context.store.here page (posts.filter (·.path.isUnder directory)) with
  | some items => .ok ("<ul>" ++ items ++ "</ul>")
  | none => .error .noAddress

/-- The content of a file to include, escaped unless its extension says that it is markup already. A
file that cannot be read gives nothing. -/
def inclusion (template : Template) (store : Store) (value : String) :
    Report Note FillError (Option String) :=
  let path := template.resolve value
  match store.readText path with
  | .ok text =>
    pure (some (if template.rawExtensions.contains (fileExtension path) then text
      else StaticSite.Html.escapeText text))
  | .error (.fault .nullCharacter _) => throw .nullCharacter
  | .error reason => do
    Report.note (.notIncluded path reason)
    pure none

/-- What a rule means for a page, if it means anything there. -/
def evaluate (template : Template) (context : FillContext) (page : Post) :
    Rule → Report Note FillError (Option String)
  | .contents => pure (some (context.render page.markdown))
  | .stylesheets => pure (some (stylesheetLinks page context.stylesheets))
  | .toc maxDepth => pure (some (tableOfContents page.outline (Int.ofNat maxDepth)))
  | .listing path sort => do
    let list ← Report.ofExcept (template.listing context page path sort)
    pure (some list)
  | .metadata key => pure (some ((page.meta? key).getD ""))
  | .inclusion path => template.inclusion context.store path

/-- A piece filled in for a page. A directive that means nothing stays. -/
def fillPiece (template : Template) (context : FillContext) (page : Post) :
    Piece → Report Note FillError (List Char)
  | .directive body (some rule) => do
    match ← template.evaluate context page rule with
    | some value => pure value.toList
    | none => pure (Piece.directive body (some rule)).text
  | piece => pure piece.text

/-- Pieces filled in for a page, the last one first. -/
def fillPieces (template : Template) (context : FillContext) (page : Post) :
    List Piece → Report Note FillError (List Char)
  | [] => pure []
  | piece :: rest => do
    let after ← template.fillPieces context page rest
    let text ← template.fillPiece context page piece
    pure (text ++ after)

/-- The template filled in for a page. -/
def fill (template : Template) (context : FillContext) (page : Post) :
    Report Note FillError String := do
  let text ← template.fillPieces context page template.pieces
  pure (String.ofList text)

end Template

end StaticSite
