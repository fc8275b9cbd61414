import StaticSite.Feed.Fill
import StaticSite.Html.Renderer
import StaticSite.Site.Scan

/-!
# Planning and making a site

A plan lists everything that has to be done to the target: old files go first if they have to, then
directories are made, files are copied, and the style sheet of highlighted code, the feeds and the
pages are written.
-/

set_option autoImplicit false

namespace StaticSite.Site

open StaticSite.Calendar StaticSite.File StaticSite.Html

/-- The place on the site for a place in the sources. -/
def placeOn (target root path : Path) : Path :=
  target.join ((path.relativeTo? root).getD path)

/-- The place of the page for a source file. -/
def pagePlace (settings : Settings) (root path : Path) : Path :=
  let place := (path.relativeTo? root).getD path
  settings.targetRoot.join ((place.withExtension? settings.pageExtension).getD place)

/-- The addresses of all style sheets of a site, the one of highlighted code last. -/
def stylesheets (scan : Scan) (renderer : Renderer) : List String :=
  scan.stylesheets ++ if renderer.highlights then ["/" ++ Highlight.stylesheetName] else []

/-- The page of a post. -/
def page (store : Store) (scan : Scan) (renderer : Renderer) (post : Post) :
    Report Note Error String :=
  let context : FillContext :=
    { posts := scan.posts
      stylesheets := stylesheets scan renderer
      render := renderer.markdown
      store := store }
  ((scan.templateFor post).fill context post).map Note.template Error.fill

/-- What has to be done to the target of a site. `now` is the time at which it is made. -/
def plan (store : Store) (settings : Settings) (scan : Scan) (renderer : Renderer) (now : Moment) :
    Report Note Error (List Action) := do
  let target := settings.targetRoot
  let place := placeOn target scan.root
  let deletions := if settings.clean then [Action.deleteDirectory target true true] else []
  let directories := (target :: scan.directories.map place).map (Action.createDirectory · true)
  let copies := scan.copies.map fun path => Action.copy path (place path)
  let sheet := if renderer.highlights then
      [Action.writeFile (target.child Highlight.stylesheetName) Highlight.stylesheet]
    else []
  let feeds := scan.feeds.map fun feed =>
    Action.writeFile (place feed.path) (feed.fill scan.posts renderer.markdown now)
  let pages ← scan.posts.mapM fun post => do
    let text ← page store scan renderer post
    pure (Action.writeFile (pagePlace settings scan.root post.path) text)
  pure (deletions ++ directories ++ copies ++ sheet ++ feeds ++ pages)

/-- The files that actions write. -/
def written (actions : List Action) : List Path :=
  actions.filterMap fun
    | .writeFile path _ => some path
    | _ => none

/-- The renderer that settings ask for. -/
def renderer (settings : Settings) : Except Error Renderer :=
  match Renderer.ofStyle? settings.style settings.highlight with
  | some renderer => .ok renderer
  | none => .error .noStyle

/-- Everything that has to be done to make a site. -/
def prepare (store : Store) (settings : Settings) (now : Moment) :
    Report Note Error (List Action) := do
  let renderer ← Report.ofExcept (renderer settings)
  let scan ← scan store settings
  plan store settings scan renderer now

/-- Does what has been prepared, and gives the files written. -/
def carryOut (store : Store) (prepared : Except Error (List Action)) :
    Store × Except Error (List Path) :=
  match prepared with
  | .error error => (store, .error error)
  | .ok actions =>
    match Action.runAll store actions with
    | (store, none) => (store, .ok (written actions))
    | (store, some failure) => (store, .error (.action failure))

/-- Makes a site: the store afterwards, and the files written. -/
def make (store : Store) (settings : Settings) (now : Moment) :
    Noted Note (Store × Except Error (List Path)) :=
  let prepared := prepare store settings now
  { value := carryOut store prepared.outcome, notes := prepared.notes }

end StaticSite.Site
