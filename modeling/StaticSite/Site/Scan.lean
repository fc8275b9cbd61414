import StaticSite.Settings.Check
import StaticSite.Site.Basic

/-!
# Scanning the sources

Everything under the directory of the sources is looked at, a directory before what it holds and
names in order. A Markdown file is a post, a file with the extension of feeds should be a feed, and
other files are copied, unless they are templates of posts.
-/

set_option autoImplicit false

namespace StaticSite.Site

open StaticSite.File

/-- What is in the sources. -/
structure Scan where
  root : Path
  /-- The directories, each after the one that it is in. -/
  directories : List Path
  copies : List Path
  /-- The addresses of the style sheets. -/
  stylesheets : List String
  posts : List Post
  feeds : List Feed
  /-- The templates that posts ask for, as far as they can be read. -/
  templates : List (Path × Template)
  defaultTemplate : Template

/-- The template of a post, if it asks for one that can be read. -/
def Scan.ownTemplate? (scan : Scan) (post : Post) : Option Template :=
  post.template.bind fun path => scan.templates.lookup path

/-- The template of a post. -/
def Scan.templateFor (scan : Scan) (post : Post) : Template :=
  (scan.ownTemplate? post).getD scan.defaultTemplate

/-! ## The order of files -/

/-- The order in which things are found: by the directory that they are in, and then by name. -/
def foundBefore (p q : List String) : Bool :=
  let parent := p.dropLast
  let other := q.dropLast
  decide (parent < other) || (parent = other && !decide (q < p))

/-- Everything below a directory in the order it is found. -/
def inOrder (node : Node) : List (List String × Node) :=
  (node.contents []).mergeSort fun a b => foundBefore a.1 b.1

/-- The path of a place below a directory. -/
def below (root : Path) (place : List String) : Path :=
  { root with segments := root.segments ++ place }

/-! ## What files are -/

/-- The extension of posts. -/
def postExtension : String := "md"

/-- The extension of style sheets. -/
def stylesheetExtension : String := "css"

/-- What a source file is. -/
inductive Finding where
  | copy (path : Path)
  | post (post : Post)
  | feed (feed : Feed)

/-- Finds out what a source file is. -/
def find (store : Store) (settings : Settings) (root path : Path) : Report Note Error Finding :=
  let extension := fileExtension path
  if extension = settings.feedExtension then
    match Feed.load store path with
    | .ok feed => pure (.feed feed)
    | .error (.feed error) => do
      Report.note (.noFeed error)
      pure (.copy path)
    | .error error => throw (.feed error)
  else if extension != postExtension then pure (.copy path)
  else do
    let post ← (Post.load store root path settings.pageExtension).map Note.post Error.post
    pure (.post post)

/-! ## Templates -/

/-- The template of pages that ask for none. -/
def builtInTemplate : String :=
  "<!DOCTYPE html>\n<html>\n<head>\n<meta charset=\"utf-8\">\n" ++
  "<meta name=\"viewport\" content=\"width=device-width, initial-scale=1\">\n" ++
  "<title><!--P/ META title /P--></title>\n<!--P/ CSS /P-->\n</head>\n<body>\n" ++
  "<nav><!--P/ TOC 3 /P--></nav>\n<main>\n<!--P/ CONTENTS /P-->\n</main>\n</body>\n</html>\n"

/-- Loads the template of pages that ask for none. -/
def loadDefaultTemplate (store : Store) (settings : Settings) (root : Path) :
    Report Note Error Template :=
  match settings.templatePath with
  | none => Report.ofNoted
      ((Template.ofString builtInTemplate root none settings.rawExtensions).mapNotes Note.template)
  | some path =>
    (Template.load store root path settings.rawExtensions).map Note.template fun
      | .fault .nullCharacter path => .template (.fault .nullCharacter path)
      | .fault fault path => .settings (.noTemplate path (fault.message path))
      | .encoding error => .template (.encoding error)

/-- Loads templates that posts ask for. One that cannot be read is left out. -/
def loadTemplates (store : Store) (settings : Settings) (root : Path) :
    List Path → Report Note Error (List (Path × Template))
  | [] => pure []
  | path :: rest => do
    match store.readText path with
    | .ok text =>
      let template ← Report.ofNoted
        ((Template.ofString text root (some path) settings.rawExtensions).mapNotes Note.template)
      let templates ← loadTemplates store settings root rest
      pure ((path, template) :: templates)
    | .error (.fault .nullCharacter path) => throw (.template (.fault .nullCharacter path))
    | .error reason => do
      Report.note (.noTemplate path reason)
      loadTemplates store settings root rest

/-! ## Scanning -/

/-- Looks at everything in the sources. -/
def scanNode (store : Store) (settings : Settings) (node : Node) : Report Note Error Scan := do
  let root := settings.sourceRoot
  let found := inOrder node
  let directories := found.filterMap fun (place, node) =>
    match node with
    | .directory _ => some (below root place)
    | .file _ => none
  let files := found.filterMap fun (place, node) =>
    match node with
    | .directory _ => none
    | .file _ => some (below root place)
  let findings ← files.mapM (find store settings root)
  let posts := findings.filterMap fun
    | .post post => some post
    | _ => none
  let feeds := findings.filterMap fun
    | .feed feed => some feed
    | _ => none
  let templatePaths := (posts.filterMap (·.template)).eraseDups
  let copies := findings.filterMap fun
    | .copy path => if templatePaths.contains path then none else some path
    | _ => none
  Report.note (.scanned root posts.length feeds.length copies.length)
  let templates ← loadTemplates store settings root (templatePaths.mergeSort Path.le)
  let defaultTemplate ← loadDefaultTemplate store settings root
  pure
    { root := root
      directories := directories
      copies := copies
      stylesheets := (files.filter (fileExtension · = stylesheetExtension)).filterMap fun path =>
        (path.relativeTo? root).map fun p => "/" ++ p.text
      posts := posts
      feeds := feeds
      templates := templates
      defaultTemplate := defaultTemplate }

/-- What is below a root under paths that are too long, in order. -/
def tooLong (root : Path) (node : Node) : List (List String) :=
  (inOrder node).filterMap fun (place, _) =>
    if Store.pathFault? (below root place) = some .nameTooLong then some place else none

/-- The files in the directories that are found before the directory of a place. -/
def filesBefore (root : Path) (node : Node) (place : List String) : List Path :=
  (inOrder node).filterMap fun (other, node) =>
    match node with
    | .directory _ => none
    | .file _ => if other.dropLast < place.dropLast then some (below root other) else none

/-- Scans the sources of a site. A directory is listed as a whole before its files are looked at,
so that one thing in it under a path that is too long ends the scan there. -/
def scan (store : Store) (settings : Settings) : Report Note Error Scan :=
  let root := settings.sourceRoot
  match store.look root with
  | .error fault => throw (.source fault)
  | .ok (some (.directory entries)) =>
    let node := Node.directory entries
    match tooLong root node with
    | [] => scanNode store settings node
    | place :: _ => do
      let _ ← (filesBefore root node place).mapM (find store settings root)
      throw (.source .nameTooLong)
  | .ok _ => throw (.noSource root)

end StaticSite.Site
