import StaticSite.Html.Escape
import StaticSite.Post.Basic

/-!
# Lists and links

What a page has to offer for getting about: the table of its own contents, and the links that lead
to other pages.
-/

set_option autoImplicit false

namespace StaticSite.Template

open StaticSite.Text StaticSite.File

/-! ## Tables of contents

The headings of a page as nested lists. A list is opened for every level that the headings descend
and closed for every level that they climb. -/

/-- The list tags between two depths. -/
def listTags (current depth : Int) : String :=
  if current < depth then String.join (List.replicate (depth - current).toNat "<ul>")
  else String.join (List.replicate (current - depth).toNat "</ul>")

/-- The items for headings, with `current` lists open. -/
def contentsFrom (current : Int) : List (String × Int) → String
  | [] => listTags (max current 0) 0
  | (heading, depth) :: rest =>
    listTags current depth ++ "<li>" ++ StaticSite.Html.escapeText heading ++ "</li>" ++
      contentsFrom depth rest

/-- The table of contents of headings down to a depth. Deeper headings are passed over. -/
def tableOfContents (headings : List (String × Int)) (maxDepth : Int) : String :=
  contentsFrom 0 (headings.filter fun heading => heading.2 ≤ maxDepth)

/-! ## Links between pages

The address of a page as seen from another page: up to the last directory that both are in, and down
from there. -/

/-- The names that lead to an address from the top of the site: `.` and empty names are dropped, and
`..` takes back the name before. An address without a leading slash starts at `here`. -/
def addressNames (here : List String) (address : String) : List String :=
  let start := if address.toList.head? == some '/' then [] else here
  (Path.readSegments address.toList).foldl
    (fun names name => if name = ".." then names.dropLast else names ++ [name]) start

/-- The directory part of an address: what stands before the last slash. -/
def addressDirectory (address : String) : String :=
  match cutAtLast? '/' address.toList with
  | none => "/"
  | some (before, _) =>
    let directory := stripEndBy (· == '/') before
    if directory.isEmpty then "/" else String.ofList directory

/-- Names without those that they have in common with other names at the front. -/
def dropCommon : (names others : List String) → List String × List String
  | a :: as, b :: bs => if a = b then dropCommon as bs else (a :: as, b :: bs)
  | as, bs => (as, bs)

/-- The link from the page at one address to another address. There is none to the empty address.
Addresses without a leading slash are seen from `here`. -/
def relativeLink? (here : List String) (source target : String) : Option String :=
  if target.isEmpty then none
  else
    let (up, down) := dropCommon (addressNames here (addressDirectory source))
      (addressNames here target)
    let names := up.map (fun _ => "..") ++ down
    some (if names.isEmpty then "." else String.intercalate "/" names)

/-- Links to posts, each as an item of a list. -/
def linkItems (here : List String) (page : Post) : List Post → Option String
  | [] => some ""
  | post :: rest =>
    match relativeLink? here page.uri post.uri, linkItems here page rest with
    | some link, some items =>
      some ("<li><a href=\"" ++ link ++ "\">" ++ StaticSite.Html.escapeText post.title ++
        "</a></li>" ++ items)
    | _, _ => none

/-- Links to the style sheets whose directory the address of a page begins with. -/
def stylesheetLinks (page : Post) (stylesheets : List String) : String :=
  String.join (stylesheets.filterMap fun css =>
    let directory := (cutAtLast? '/' css.toList).elim [] (·.1)
    if directory.isPrefixOf page.uri.toList then
      some ("<link rel=\"stylesheet\" type=\"text/css\" href=\"" ++ css ++ "\">")
    else none)

end StaticSite.Template
