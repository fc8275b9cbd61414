import StaticSite.File.Utf8
import StaticSite.Xml.Charset
import StaticSite.Xml.Scanner

/-!
# Encodings of documents

The bytes of a document say themselves how they are to be read: by a mark at the front, by the zeros
in their first two, or by the name in the declaration at the start of the document. `decode` gives
the text after the declaration.
-/

set_option autoImplicit false

namespace StaticSite.Xml

open StaticSite.Text

/-- Why bytes are no document. -/
inductive ReadError where
  | malformed
  /-- The declaration names an encoding that does not exist. -/
  | unknownEncoding
  /-- The declaration names an encoding in which a character may take more than one byte. -/
  | multibyteEncoding
  /-- The declaration names an encoding that reads no bytes. -/
  | barrenEncoding
  /-- The declaration names an encoding in which not all bytes make sense where they stand. -/
  | brokenEncoding
deriving DecidableEq, Repr

/-- A result, or a document that is malformed. -/
def wellFormed {α : Type} : Option α → Except ReadError α
  | some a => .ok a
  | none => .error .malformed

/-! ## The declaration -/

/-- What the declaration at the start of a document says. -/
structure Declaration where
  encoding : Option String := none
  /-- Whether all declarations that matter are in the document itself. -/
  standalone : Bool := false
deriving DecidableEq, Repr

/-- Whether a character may be in a value of the declaration. -/
def isDeclarationChar (c : Char) : Bool :=
  c.isAlphanum || c = '.' || c = '-' || c = '_'

/-- A quoted value. -/
def declarationValue : Scanner String := do
  Scanner.space
  Scanner.word "="
  Scanner.space
  let mark ← Scanner.anyChar
  guard (mark = '"' || mark = '\'')
  let value ← Scanner.charsOf isDeclarationChar
  Scanner.word (String.singleton mark)
  pure (String.ofList value)

/-- A part of the declaration with a given name, if it comes next. White space comes before it. -/
def declarationPart? (name : String) : Scanner (Option String) := do
  let left ← Scanner.rest
  match dropWord? name.toList (left.dropWhile isSpace) with
  | some _ => do
    Scanner.someSpace
    Scanner.word name
    let value ← declarationValue
    pure (some value)
  | none => pure none

/-- The declaration, if the document begins with one. The version has to be there but may be any. -/
def declaration : Scanner Declaration := do
  let left ← Scanner.rest
  match dropWord? "<?xml".toList left with
  | some (c :: _) =>
    if isNameChar (← Scanner.letters) c || c = ':' then pure {} else do
    Scanner.word "<?xml"
    let version ← declarationPart? "version"
    guard version.isSome
    let encoding ← declarationPart? "encoding"
    guard (encoding.all fun name => (name.toList.head?).any Char.isAlpha)
    let standalone ← declarationPart? "standalone"
    guard (standalone.all fun value => value = "yes" || value = "no")
    Scanner.space
    Scanner.word "?>"
    pure { encoding := encoding, standalone := standalone = some "yes" }
  | _ => pure {}

/-! ## Bytes -/

/-- The order of the two bytes of a unit. -/
inductive ByteOrder where
  | littleEndian
  | bigEndian
deriving DecidableEq, Repr

/-- How many bytes a unit of text takes, as the first bytes show. -/
inductive UnitSize where
  | one
  | two (order : ByteOrder)
deriving DecidableEq, Repr

/-- How the units of a document are written, and its bytes without the mark at the front. -/
def unitSize : List UInt8 → UnitSize × List UInt8
  | 0xfe :: 0xff :: rest => (.two .bigEndian, rest)
  | 0xff :: 0xfe :: rest => (.two .littleEndian, rest)
  | 0xef :: 0xbb :: 0xbf :: rest => (.one, rest)
  | 0 :: second :: rest => (.two .bigEndian, 0 :: second :: rest)
  | first :: 0 :: rest => (.two .littleEndian, first :: 0 :: rest)
  | bytes => (.one, bytes)

/-- The units of two bytes each. Half a unit at the end counts as one that spells nothing. -/
def units (order : ByteOrder) : List UInt8 → List Nat
  | [] => []
  | [_] => [0xd800]
  | first :: second :: rest =>
    let unit := match order with
      | .bigEndian => first.toNat * 0x100 + second.toNat
      | .littleEndian => second.toNat * 0x100 + first.toNat
    unit :: units order rest

/-- The characters that units spell: one each, or two for a character beyond the first 65536. -/
def charsOfUnits : List Nat → Option (List Char)
  | [] => some []
  | [unit] => if 0xd800 ≤ unit && unit < 0xe000 then none else some [Char.ofNat unit]
  | high :: low :: rest =>
    if 0xd800 ≤ high && high < 0xdc00 then
      if 0xdc00 ≤ low && low < 0xe000 then
        let code := 0x10000 + (high - 0xd800) * 0x400 + (low - 0xdc00)
        (charsOfUnits rest).map (Char.ofNat code :: ·)
      else none
    else if 0xdc00 ≤ high && high < 0xe000 then none
    else (charsOfUnits (low :: rest)).map (Char.ofNat high :: ·)

/-- A text as it was written. -/
structure WrittenText where
  text : List Char
  /-- The letters that names in it are made of. -/
  letters : NameLetters := .listed

/-- A name of an encoding in the spelling that lists of names have: in lower case, its words joined
by single underscores. -/
def listedName (name : String) : String :=
  let plain := name.toList.map fun c => if c = '-' then '_' else c.toLower
  String.ofList (joinWith ['_'] ((splitAt '_' plain).filter (!·.isEmpty)))

/-- Whether an encoding with a name exists that cannot be used for a document, and how this shows.
-/
def unfitEncoding (name : String) : ReadError :=
  let name := listedName name
  if multibyteNames.contains name then .multibyteEncoding
  else if unfitNames.contains name then .malformed
  else if barrenNames.contains name then .barrenEncoding
  else if brokenNames.contains name then .brokenEncoding
  else .unknownEncoding

/-- The name of the encoding whose characters are the first 256 ones, if it is used as such. -/
def latinName : String := "ISO-8859-1"

/-- The text of bytes in the encoding with a name. -/
def decodeNamed (name : String) (bytes : List UInt8) : Except ReadError WrittenText :=
  let upper := name.toUpper
  if upper = "UTF-8" then
    match StaticSite.File.decode bytes with
    | .ok text => .ok { text := text.toList }
    | .error _ => .error .malformed
  else if ["UTF-16", "UTF-16BE", "UTF-16LE"].contains upper then .error .malformed
  else
    match Charset.all.find? (·.names.contains (listedName name)) with
    | some set => do
      let text ← wellFormed (bytes.mapM set.char?)
      pure { text := text, letters := if upper = latinName then .all else .listed }
    | none => .error (unfitEncoding name)

/-- Whether a document with units of two bytes may say that it is in the encoding with a name. -/
def checkWide (order : ByteOrder) (name : String) : Except ReadError Unit :=
  let ownName := match order with
    | .bigEndian => "UTF-16BE"
    | .littleEndian => "UTF-16LE"
  let upper := name.toUpper
  if upper = "UTF-16" || upper = ownName then .ok ()
  else if ["UTF-8", latinName, "US-ASCII", "UTF-16BE", "UTF-16LE"].contains upper then
    .error .malformed
  else if Charset.all.any (·.names.contains (listedName name)) then .error .malformed
  else .error (unfitEncoding name)

/-- The text of bytes. The declaration is written in ASCII, so it can be read before the encoding is
known. -/
def decodeText (bytes : List UInt8) : Except ReadError WrittenText :=
  match unitSize bytes with
  | (.two order, rest) => do
    let units := units order rest
    let (found, _) ← wellFormed (declaration .all (units.map Char.ofNat))
    match found.encoding with
    | some name => checkWide order name
    | none => pure ()
    let text ← wellFormed (charsOfUnits units)
    pure { text := text, letters := .all }
  | (.one, rest) => do
    let (found, _) ← wellFormed (declaration .listed (rest.map fun b => Char.ofNat b.toNat))
    decodeNamed (found.encoding.getD "UTF-8") rest

/-- The text of a document, with line feeds alone, what its declaration says, and the text after
that. -/
def decode (bytes : List UInt8) :
    Except ReadError (WrittenText × Declaration × List Char) := do
  let written ← decodeText bytes
  if written.text.all isDocumentChar then
    let written := { written with text := unifyLineEnds written.text }
    let (found, rest) ← wellFormed (declaration written.letters written.text)
    pure (written, found, rest)
  else .error .malformed

end StaticSite.Xml
