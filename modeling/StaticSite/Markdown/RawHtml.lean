import StaticSite.Markdown.Line
import StaticSite.Text.Blank
import StaticSite.Text.Case
import StaticSite.Text.Split

/-!
# Raw HTML

The pieces of HTML that Markdown lets through: tags, comments, processing instructions, declarations
and character data, each recognised at the front of a text. The second half decides which lines
begin a block of HTML and which end it.
-/

set_option autoImplicit false

namespace StaticSite.Markdown.RawHtml

open StaticSite.Text

/-! ## Tags and their kin -/

/-- Whether a character may continue an element's name. -/
def isNameChar (c : Char) : Bool :=
  c.isAlphanum || c == '-'

/-- Whether a character may begin an attribute's name. -/
def beginsAttribute (c : Char) : Bool :=
  c.isAlpha || c == '_' || c == ':'

/-- Whether a character may continue an attribute's name. -/
def continuesAttribute (c : Char) : Bool :=
  beginsAttribute c || c.isDigit || c == '.' || c == '-'

/-- Whether a character may stand in a value without quotes. -/
def isBareValueChar (c : Char) : Bool :=
  0x20 < c.toNat && !(['"', '\'', '=', '<', '>', '\x60'].contains c)

/-- What may follow a value without quotes, the shortest rest first: a blank that is not ASCII may
belong to the value or end it. -/
def restsOfBareValue : List Char → List (List Char)
  | [] => []
  | c :: rest => if isBareValueChar c then restsOfBareValue rest ++ [rest] else []

/-- What may follow an attribute's value. -/
def restsOfValue : List Char → List (List Char)
  | '"' :: rest => ((cutAt? '"' rest).map (·.2)).toList
  | '\'' :: rest => ((cutAt? '\'' rest).map (·.2)).toList
  | s => restsOfBareValue s

/-- What may follow an attribute's value that stands after blanks, as many of them as possible. -/
def restsOfSpacedValue : List Char → List (List Char)
  | [] => []
  | c :: rest =>
    if isBlank c then restsOfSpacedValue rest ++ restsOfBareValue (c :: rest)
    else restsOfValue (c :: rest)

/-- What may follow an attribute, which stands after a blank; the value is optional. -/
def restsOfAttribute (s : List Char) : List (List Char) :=
  match s.head?.any isBlank, s.dropWhile isBlank with
  | true, c :: rest =>
    if beginsAttribute c then
      let afterName := rest.dropWhile continuesAttribute
      match afterName.dropWhile isBlank with
      | '=' :: value => restsOfSpacedValue value
      | _ => [afterName]
    else []
  | _, _ => []

/-- What follows the end of an opening tag. -/
def afterTagEnd? (s : List Char) : Option (List Char) :=
  match s.dropWhile isBlank with
  | '/' :: '>' :: rest => some rest
  | '>' :: rest => some rest
  | _ => none

/-- What follows the attributes of an opening tag and its end. Each attribute is a proper part of
the text, so `fuel` need not exceed its length. -/
def afterAttributes? : (fuel : Nat) → List Char → Option (List Char)
  | 0, s => afterTagEnd? s
  | fuel + 1, s =>
    ((restsOfAttribute s).findSome? (afterAttributes? fuel)).or (afterTagEnd? s)

/-- What follows an opening tag, given what follows its first bracket. -/
def afterOpenTag? (s : List Char) : Option (List Char) :=
  match s with
  | c :: rest =>
    if c.isAlpha then
      let afterName := rest.dropWhile isNameChar
      afterAttributes? afterName.length afterName
    else none
  | [] => none

/-- What follows a closing tag, given what follows its first bracket and slash. -/
def afterCloseTag? (s : List Char) : Option (List Char) :=
  match s with
  | c :: rest =>
    if c.isAlpha then
      match (rest.dropWhile isNameChar).dropWhile isBlank with
      | '>' :: rest => some rest
      | _ => none
    else none
  | [] => none

/-- What follows the end of a comment's body. Three hyphens in a row are passed together. -/
def afterCommentBody? : List Char → Option (List Char)
  | '-' :: '-' :: '>' :: rest => some rest
  | '-' :: '-' :: _ :: rest => afterCommentBody? rest
  | ['-', '-'] => none
  | '-' :: _ :: rest => afterCommentBody? rest
  | ['-'] => none
  | _ :: rest => afterCommentBody? rest
  | [] => none

/-- What follows a comment, given what follows `<!--`. -/
def afterComment? : List Char → Option (List Char)
  | '>' :: rest => some rest
  | '-' :: '>' :: rest => some rest
  | s => afterCommentBody? s

/-- What follows a tag, of either kind, at the front of a text. -/
def afterTag? : List Char → Option (List Char)
  | '<' :: '/' :: rest => afterCloseTag? rest
  | '<' :: rest => afterOpenTag? rest
  | _ => none

/-- What follows a piece of HTML at the front of a text. -/
def afterPiece? (s : List Char) : Option (List Char) :=
  match s with
  | '<' :: '!' :: '-' :: '-' :: rest => afterComment? rest
  | '<' :: '?' :: rest => (cutAtWord? ['?', '>'] rest).map (·.2)
  | '<' :: '!' :: '[' :: rest =>
    match dropWord? "CDATA[".toList rest with
    | some body => (cutAtWord? "]]>".toList body).map (·.2)
    | none => none
  | '<' :: '!' :: c :: rest => if c.isAlpha then (cutAt? '>' rest).map (·.2) else none
  | s => afterTag? s

/-! ## Blocks of HTML -/

/-- The elements whose content is not Markdown. -/
def verbatimElements : List String :=
  ["script", "pre", "style", "textarea"]

/-- The elements that stand for blocks. -/
def blockElements : List String :=
  ["address", "article", "aside", "base", "basefont", "blockquote", "body", "caption", "center",
   "col", "colgroup", "dd", "details", "dialog", "dir", "div", "dl", "dt", "fieldset", "figcaption",
   "figure", "footer", "form", "frame", "frameset", "h1", "h2", "h3", "h4", "h5", "h6", "head",
   "header", "hr", "html", "iframe", "legend", "li", "link", "main", "menu", "menuitem", "nav",
   "noframes", "ol", "optgroup", "option", "p", "param", "search", "section", "summary", "table",
   "tbody", "td", "tfoot", "th", "thead", "title", "tr", "track", "ul"]

/-- How a block of HTML ends. -/
inductive BlockEnd where
  /-- With the line that holds one of the words. -/
  | words (closers : List (List Char))
  /-- Before the first empty line. -/
  | emptyLine
deriving DecidableEq, Repr

/-- What follows an element's name, if it is in a list and the rest satisfies a condition. -/
def beginsWithElement (names : List String) (ends : List Char → Bool) (s : List Char) : Bool :=
  names.any fun name =>
    match dropWord? name.toList (foldLetters s) with
    | some rest => ends rest
    | none => false

/-- Whether the name of a verbatim element ends here. -/
def endsVerbatimName : List Char → Bool
  | [] => true
  | c :: _ => isBlank c || c == '>'

/-- Whether the name of a block element ends here. -/
def endsBlockName : List Char → Bool
  | [] => true
  | '/' :: '>' :: _ => true
  | c :: _ => isBlank c || c == '>'

/-- Whether a line is one tag and blanks. -/
def isLoneTag (line : List Char) : Bool :=
  match afterTag? line with
  | some rest => rest.all isBlank
  | none => false

/-- How the block of HTML that a line begins will end, and whether the block may interrupt a
paragraph; or that the line begins none. -/
def blockStart? (line : List Char) : Option (BlockEnd × Bool) :=
  match line with
  | '<' :: rest =>
    let name := (dropWord? ['/'] rest).getD rest
    if beginsWithElement verbatimElements endsVerbatimName rest then
      some (.words (verbatimElements.map fun name => "</".toList ++ name.toList ++ ['>']), true)
    else if (dropWord? "!--".toList rest).isSome then some (.words ["-->".toList], true)
    else if (dropWord? "?".toList rest).isSome then some (.words ["?>".toList], true)
    else if (dropWord? "!".toList rest).any (·.head?.any Char.isAlpha) then
      some (.words [">".toList], true)
    else if (dropWord? "![CDATA[".toList rest).isSome then some (.words ["]]>".toList], true)
    else if beginsWithElement blockElements endsBlockName name then some (.emptyLine, true)
    else if isLoneTag line then some (.emptyLine, false)
    else none
  | _ => none

/-- Whether a line ends a block. -/
def BlockEnd.holds (blockEnd : BlockEnd) (line : List Char) : Bool :=
  match blockEnd with
  | .words closers => closers.any fun word => (cutAtWord? word (foldLetters line)).isSome
  | .emptyLine => line.isEmpty

end StaticSite.Markdown.RawHtml
