import StaticSite.Text.Blank
import StaticSite.Text.Case
import StaticSite.Text.Split
import StaticSite.Url.Percent
import StaticSite.Url.Punycode

/-!
# Addresses

An address taken apart into its scheme, authority, path, query and fragment, and put together again.
Addresses of every kind are taken apart, well formed or not: what cannot belong to a host name is
given back to the path. So putting an address together keeps its characters, apart from an empty
user name, the brackets of a host name that needs none, and a host name that is too long.
-/

set_option autoImplicit false

namespace StaticSite.Url

open StaticSite.Text

/-- The parts of an address. The scheme keeps its colon, the query its `?` and the fragment its
`#`. -/
structure Address where
  scheme : List Char := []
  slashes : Bool := false
  user : List Char := []
  host : List Char := []
  service : List Char := []
  path : List Char := []
  query : List Char := []
  fragment : List Char := []
deriving DecidableEq, Repr

namespace Address

/-- Whether a character may stand in a scheme. -/
def isSchemeChar (c : Char) : Bool :=
  let c := foldLetter c
  c.isAlphanum || c == '.' || c == '+' || c == '-'

/-- Takes the scheme off the front of an address. -/
def cutScheme (s : List Char) : List Char × List Char :=
  match s.takeWhile isSchemeChar, s.dropWhile isSchemeChar with
  | [], _ => ([], s)
  | scheme, ':' :: rest => (scheme ++ [':'], rest)
  | _, _ => ([], s)

/-- The schemes that are followed by two slashes and a host. -/
def slashedSchemes : List String :=
  ["http:", "https:", "ftp:", "gopher:", "file:"]

/-- The scheme that has no host. -/
def hostlessScheme : String := "javascript:"

/-- The characters that end an authority. -/
def endsAuthority (c : Char) : Bool :=
  c == '/' || c == '?' || c == '#'

/-- The characters that end a host name. -/
def endsHost (c : Char) : Bool :=
  "%/?;#'\x7b\x7d|\\^\x60<>\" \r\n\t".toList.contains c

/-- Takes the service off the end of a host: a colon and digits. -/
def cutService (host : List Char) : List Char × List Char :=
  match cutAtLast? ':' host with
  | some (name, service) => if service.all Char.isDigit then (name, service) else (host, [])
  | none => (host, [])

/-- Whether a character may stand in a label of a host name. -/
def isLabelChar (c : Char) : Bool :=
  c.isAlphanum || c == '+' || c == '_' || c == '-'

/-- Whether a label is well formed, where characters outside ASCII count as letters. -/
def isLabel (label : List Char) : Bool :=
  label.length ≤ 63 && label.all fun c => isLabelChar c || 127 < c.toNat

/-- Takes the well-formed labels off the front of a host name, and what is left of the first that is
not well formed together with the labels after it. -/
def cutLabels : List (List Char) → List (List Char) × Option (List (List Char))
  | [] => ([], none)
  | label :: labels =>
    if isLabel label then
      let (good, bad) := cutLabels labels
      (label :: good, bad)
    else
      let front := (label.takeWhile isLabelChar).take 63
      ([front], some (label.drop front.length :: labels))

/-- Whether a host name is written in brackets. -/
def isBracketed (host : List Char) : Bool :=
  host.head? == some '[' && host.getLast? == some ']'

/-- Reads the authority off the front of what follows the scheme. -/
def readAuthority (address : Address) (s : List Char) : Address × List Char :=
  let authority := s.takeWhile (!endsAuthority ·)
  let (user, s) := match cutAtLast? '@' authority with
    | some (user, _) => (user, s.drop (user.length + 1))
    | none => ([], s)
  let host := s.takeWhile (!endsHost ·)
  let host := if host.getLast? == some ':' then host.dropLast else host
  let rest := s.drop host.length
  let (name, service) := cutService host
  if isBracketed name then
    let name := if 255 < name.length then [] else name
    ({ address with user := user, service := service, host := (name.drop 1).dropLast }, rest)
  else
    let (good, bad) := cutLabels (splitAt '.' name)
    let rest := match bad with
      | some labels => joinWith ['.'] labels ++ rest
      | none => rest
    let name := joinWith ['.'] good
    let name := if 255 < name.length then [] else name
    ({ address with user := user, service := service, host := name }, rest)

/-- Splits path, query and fragment. -/
def readTail (address : Address) (s : List Char) : Address :=
  let beforeFragment := s.takeWhile (· != '#')
  { address with
    fragment := s.drop beforeFragment.length
    path := beforeFragment.takeWhile (· != '?')
    query := beforeFragment.dropWhile (· != '?') }

/-- Takes an address apart. Blanks around it do not belong to it. -/
def parse (s : List Char) : Address :=
  let (scheme, rest) := cutScheme (stripBy isBlank s)
  let schemeText := String.ofList scheme
  let hostless := schemeText == hostlessScheme
  match hostless, rest with
  | false, '/' :: '/' :: rest =>
    let (address, rest) := readAuthority { scheme := scheme, slashes := true } rest
    readTail address rest
  | false, rest =>
    if scheme.isEmpty || slashedSchemes.contains schemeText then
      readTail { scheme := scheme } rest
    else
      let (address, rest) := readAuthority { scheme := scheme } rest
      readTail address rest
  | true, rest => readTail { scheme := scheme } rest

/-- Puts an address together, where `write` writes its parts. The brackets around a host name that
needs them stay as they are. -/
def printWith (write : List Char → List Char) (address : Address) : List Char :=
  let host := write address.host
  write (address.scheme ++ (if address.slashes then ['/', '/'] else []) ++
    (if address.user.isEmpty then [] else address.user ++ ['@'])) ++
    (if address.host.contains ':' then '[' :: host ++ [']'] else host) ++
    write ((if address.service.isEmpty then [] else ':' :: address.service) ++
      address.path ++ address.query ++ address.fragment)

/-- Puts an address together. -/
def print (address : Address) : List Char :=
  address.printWith id

end Address

/-! ## Normal form

The form in which a link's address enters a document: the host name in ASCII and everything else in
the URL alphabet. `shown` is the opposite direction, for links whose text is their address. `isSafe`
refuses the schemes that run code. -/

/-- Whether host names under a scheme are domain names. -/
def hasDomainName (scheme : List Char) : Bool :=
  scheme.isEmpty || ["http:", "https:", "mailto:"].contains (String.ofList scheme)

/-- The characters that separate the labels of a domain name. -/
def isLabelSeparator (c : Char) : Bool :=
  c == '.' || c == '\u3002' || c == '\uFF0E' || c == '\uFF61'

/-- The labels of a domain name. -/
def domainLabels (host : List Char) : List (List Char) :=
  splitAt '.' (host.map fun c => if isLabelSeparator c then '.' else c)

/-- A domain name in ASCII. -/
def asciiDomain (host : List Char) : List Char :=
  joinWith ['.'] ((domainLabels host).map fun label =>
    if label.any (126 < ·.toNat) then "xn--".toList ++ Punycode.encode label else label)

/-- A domain name in its own script, if every label is well written. -/
def scriptDomain? (host : List Char) : Option (List Char) :=
  (domainLabels host).mapM (fun label =>
    match dropWord? "xn--".toList label with
    | some code => Punycode.decode (code.flatMap lower)
    | none => some label) |>.map (joinWith ['.'])

/-- The normal form of an address. -/
def normal (address : List Char) : List Char :=
  let parts := Address.parse address
  let parts := if !parts.host.isEmpty && hasDomainName parts.scheme then
      { parts with host := asciiDomain parts.host }
    else parts
  parts.printWith Percent.encode

/-- An address as shown to people. -/
def shown (address : List Char) : List Char :=
  let parts := Address.parse address
  let parts := if !parts.host.isEmpty && hasDomainName parts.scheme then
      { parts with host := (scriptDomain? parts.host).getD parts.host }
    else parts
  Percent.decode parts.print

/-- The schemes that are refused. -/
def unsafeSchemes : List (List Char) :=
  ["vbscript:".toList, "javascript:".toList, "file:".toList, "data:".toList]

/-- The data addresses that are accepted all the same: images. -/
def imageData : List (List Char) :=
  ["data:image/gif;".toList, "data:image/png;".toList, "data:image/jpeg;".toList,
   "data:image/webp;".toList]

/-- Whether an address in normal form may be linked to. -/
def isSafe (address : List Char) : Bool :=
  let address := (stripBy isBlank address).flatMap lower
  !unsafeSchemes.any (·.isPrefixOf address) || imageData.any (·.isPrefixOf address)

end StaticSite.Url
