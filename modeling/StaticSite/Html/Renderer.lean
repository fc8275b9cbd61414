import StaticSite.Html.Writer
import StaticSite.Markdown.Document
import StaticSite.Text.LowerCase
import StaticSite.Text.Split

/-!
# Rendering content

All pages of a site are rendered alike: with the same way to highlight code, or with none. The look
of highlighted code is named by a style, and a style must be one of the known ones. Of the languages
only plain text is known: its lines are kept, without the empty ones at either end, and escaped for
HTML.
-/

set_option autoImplicit false

namespace StaticSite.Html.Highlight

/-- The names of the styles. -/
def styles : List String :=
  ["abap", "algol", "algol_nu", "arduino", "autumn", "bw", "borland", "coffee", "colorful",
   "default", "dracula", "emacs", "friendly_grayscale", "friendly", "fruity", "github-dark",
   "gruvbox-dark", "gruvbox-light", "igor", "inkpot", "lightbulb", "lilypond", "lovelace", "manni",
   "material", "monokai", "murphy", "native", "night-owl", "nord-darker", "nord", "one-dark",
   "paraiso-dark", "paraiso-light", "pastie", "perldoc", "rainbow_dash", "rrt", "sas",
   "solarized-dark", "solarized-light", "staroffice", "stata-dark", "stata-light", "tango", "trac",
   "vim", "vs", "xcode", "zenburn"]

/-- The file of the style sheet that pages with highlighted code need. -/
def stylesheetName : String :=
  "pygments.css"

/-- The style sheet. Plain text has no parts to tell apart, so it only says what plain text looks
like, which every style leaves to the page. -/
def stylesheet : String :=
  "pre > code \x7b color: inherit \x7d\n"

/-- Plain text as code: no byte order mark, no empty lines at the ends, one line end at the end. -/
def plainText (code : String) : String :=
  let body := match code.toList with
    | '\uFEFF' :: rest => rest
    | cs => cs
  let body := (StaticSite.Text.unifyLineEnds body).dropWhile (· == '\n')
  let body := (body.reverse.dropWhile (· == '\n')).reverse
  String.ofList ((body ++ ['\n']).flatMap escapeChar)

/-- Highlights plain text, and declines every other language. -/
def highlight : Highlighter := fun code language =>
  if StaticSite.Text.lowerText language == "text" then some (plainText code) else none

end StaticSite.Html.Highlight

namespace StaticSite.Html

/-- A way to render content. -/
structure Renderer where
  /-- Whether code is highlighted. -/
  highlights : Bool := false

namespace Renderer

/-- The renderer for a style, which has to exist if code is highlighted. -/
def ofStyle? (style : String) (highlights : Bool) : Option Renderer :=
  if highlights && !Highlight.styles.contains style then none else some { highlights := highlights }

/-- The way to highlight code. -/
def highlighter (renderer : Renderer) : Option Highlighter :=
  if renderer.highlights then some Highlight.highlight else none

/-- The page that a Markdown text becomes. -/
def markdown (renderer : Renderer) (text : String) : String :=
  render renderer.highlighter (StaticSite.Markdown.readEvents text)

end Renderer

end StaticSite.Html
