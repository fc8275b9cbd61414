import StaticSite.Xml.DocumentType
import StaticSite.Xml.Element
import StaticSite.Xml.Encoding

/-!
# Documents

A document is an element, with a declaration and a document type before it and with comments,
instructions and white space around it. `read` gives the element or says why there is none.
-/

set_option autoImplicit false

namespace StaticSite.Xml

open StaticSite.Text

/-- What may come before the root element. -/
inductive Prelude where
  | aside
  | documentType (declared : Declared)

/-- The next thing before the root element, after white space; nothing at the element. -/
def prelude? (standalone : Bool) : Scanner (Option Prelude) := do
  Scanner.space
  let left ← Scanner.rest
  match left with
  | '<' :: '?' :: _ => do
    Scanner.word "<?"
    instruction
    pure (some .aside)
  | '<' :: '!' :: '-' :: _ => do
    Scanner.word "<!"
    comment
    pure (some .aside)
  | '<' :: '!' :: _ => do
    Scanner.word "<!DOCTYPE"
    let declared ← DocumentType.read standalone
    pure (some (.documentType declared))
  | _ => pure none

/-- What a document declares, going by what comes before its root element: there is one document
type at most. -/
def declaredBy? (preludes : List Prelude) : Option Declared :=
  match preludes.filterMap fun
    | .aside => none
    | .documentType declared => some declared with
  | [] => some {}
  | [declared] => some declared
  | _ => none

/-- Whether a piece of content may come after the root element. -/
def Markup.isMargin : Markup → Bool
  | text s => s.all isSpace
  | aside => true
  | _ => false

/-- The pieces that belong to the root element, from its first tag on, and the pieces after them.
`depth` is the number of elements that have begun and not ended. -/
def cutAtRootEnd : (depth : Nat) → List Markup → List Markup × List Markup
  | _, [] => ([], [])
  | depth, piece :: rest =>
    let after := match piece with
      | .opening _ => depth + 1
      | .closing _ => depth - 1
      | _ => depth
    if after = 0 then ([piece], rest)
    else
      let (inside, outside) := cutAtRootEnd after rest
      (piece :: inside, outside)

/-- The root element that pieces begin with, which have no references any more. -/
def rootElement? (declared : Declared) : List Markup → Option Element
  | .empty tag :: _ => (tag.begin? declared .outermost).map OpenElement.finish
  | .opening tag :: rest => do
    let root ← tag.begin? declared .outermost
    let (element, _) ← readElement? declared root [] rest
    pure element
  | _ => none

/-- The root element of a text without declaration. -/
def readText? (standalone : Bool) : Scanner Element := do
  let preludes ← Scanner.many (prelude? standalone)
  let declared ← Scanner.ofOption (declaredBy? preludes)
  let pieces ← Scanner.many markup?
  let (inside, outside) := cutAtRootEnd 0 pieces
  guard (outside.all Markup.isMargin)
  let expanded ← Scanner.ofOption (declared.content? inside)
  Scanner.ofOption (rootElement? declared expanded)

/-- The root element of the document that bytes are. -/
def read (bytes : List UInt8) : Except ReadError Element := do
  let (written, declaration, rest) ← decode bytes
  wellFormed ((readText? declaration.standalone).all? written.letters rest)

end StaticSite.Xml
