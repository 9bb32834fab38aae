import RestConnector.Name.Identifier
import RestConnector.Text.Case
import RestConnector.Text.Blank
import RestConnector.Url.Address

/-!
# URLs

`Url.ofChars?` takes a URL apart into scheme, authority and path. Control characters and spaces in
front of it, and tabs and line ends inside it, are dropped first. What comes before the first colon is
the scheme if it is spelled like one; two slashes then open the authority, which ends at the next
slash, question mark or number sign. A URL is refused when the square brackets in its authority do not
enclose a numeric host, or when the authority has a character that compatibility normalization would
turn into one that ends it.

Two questions are asked of the parts: what the host is (`host`), from which an API gets its name, and
whether a text is an absolute URI at all (`isAbsolute`).
-/

namespace RestConnector.Url

open RestConnector.Text RestConnector.Name

/-- The parts of a URL that matter here. -/
structure Parts where
  scheme : List Char
  authority : List Char
  path : List Char
deriving DecidableEq, Repr

/-! ## Taking apart -/

/-- Whether a character can stand in a scheme. -/
def isSchemeChar (c : Char) : Bool :=
  c.isAlphanum || c = '+' || c = '-' || c = '.'

/-- Splits off the scheme, in lower case, if the text before the first colon is spelled like one. -/
def splitScheme (cs : List Char) : List Char × List Char :=
  match before ':' cs, behind? ':' cs with
  | c :: scheme, some rest =>
    if c.isAlpha && scheme.all isSchemeChar then ((c :: scheme).map Char.toLower, rest) else ([], cs)
  | _, _ => ([], cs)

/-- Whether a character ends an authority. -/
def endsAuthority (c : Char) : Bool :=
  c = '/' || c = '?' || c = '#'

/-- Splits off the authority that two slashes open. -/
def splitAuthority : List Char → List Char × List Char
  | '/' :: '/' :: cs =>
    (cs.takeWhile (!endsAuthority ·), cs.dropWhile (!endsAuthority ·))
  | cs => ([], cs)

/-- The characters whose compatibility form has one of the separators of a URL in it, as runs. -/
def separatorLookalikes : List (Nat × Nat) := [
  (0x2047, 0x2049), (0x2100, 0x2101), (0x2105, 0x2106), (0x2A74, 0x2A74), (0xFE13, 0xFE13),
  (0xFE16, 0xFE16), (0xFE55, 0xFE56), (0xFE5F, 0xFE5F), (0xFE6B, 0xFE6B), (0xFF03, 0xFF03),
  (0xFF0F, 0xFF0F), (0xFF1A, 0xFF1A), (0xFF1F, 0xFF20)]

/-- Whether normalization would turn a character into a separator. -/
def looksLikeSeparator (c : Char) : Bool :=
  separatorLookalikes.any fun run => run.1 ≤ c.toNat && c.toNat ≤ run.2

/-- The part of an authority behind the last at sign: the host and what follows it. -/
def site (authority : List Char) : List Char :=
  (authority.reverse.takeWhile (· != '@')).reverse

/-- Whether brackets, if there are any, enclose all of the host, and the host may stand in them. -/
def areBracketsSound (authority : List Char) : Bool :=
  match authority.contains '[', authority.contains ']' with
  | false, false => true
  | true, true =>
    let site := site authority
    match behind? '[' site with
    | some bracketed =>
      let rest := (behind? ']' bracketed).getD []
      (before '[' site).isEmpty && (rest.isEmpty || rest.head? = some ':') &&
        isBracketable (before ']' bracketed)
    | none => isBracketable (before ':' site)
  | _, _ => false

/-- Whether an authority can be trusted to have the host that it seems to have. -/
def isSoundAuthority (authority : List Char) : Bool :=
  areBracketsSound authority && !authority.any looksLikeSeparator

/-- The schemes whose last path segment may carry parameters behind a semicolon. -/
def parameterSchemes : List String := [
  "", "ftp", "hdl", "prospero", "http", "https", "shttp", "rtsp", "rtspu", "sip", "sips", "mms",
  "sftp", "tel"]

/-- Cuts the parameters off the last segment of a path. -/
def dropParameters (path : List Char) : List Char :=
  let last := (path.reverse.takeWhile (· != '/')).reverse
  path.take (path.length - last.length) ++ before ';' last

/-- Takes a URL apart, or refuses it. -/
def ofChars? (cs : List Char) : Option Parts :=
  let cs := (cs.dropWhile (· ≤ ' ')).filter fun c => c != '\t' && c != '\n' && c != '\r'
  let (scheme, rest) := splitScheme cs
  let (authority, rest) := splitAuthority rest
  if isSoundAuthority authority then
    let path := before '?' (before '#' rest)
    some ⟨scheme, authority,
      if parameterSchemes.any (·.toList == scheme) then dropParameters path else path⟩
  else none

/-! ## The host -/

/-- The host alone: what is in brackets, or what comes before the first colon. -/
def bareHost (authority : List Char) : List Char :=
  let site := site authority
  match behind? '[' site with
  | some bracketed => before ']' bracketed
  | none => before ':' site

/-- The host in lower case. The zone behind a per cent sign keeps its case. -/
def Parts.host (parts : Parts) : List Char :=
  let host := bareHost parts.authority
  let name := before '%' host
  lowerChars name ++ host.drop name.length

/-- The name of the API at a URL: the first label of its host, with the texts `api.` and `www.`
removed. A URL that gives no name, or one that begins with a digit, gives `fallback`. -/
def apiName (url fallback : String) : String :=
  match ofChars? url.toList with
  | none => fallback
  | some parts =>
    let name := pascalCase (String.ofList
      (before '.' (replace "www." "" (replace "api." "" parts.host))))
    if name.isEmpty || startsWithDigit name then fallback else name

/-! ## Absolute URIs -/

/-- The schemes whose URIs need no authority. -/
def schemesWithoutAuthority : List String := ["mailto", "urn", "tel", "data", "file"]

/-- Whether a text is an absolute URI: a scheme with an authority, or one of those schemes with a path. -/
def isAbsolute (text : String) : Bool :=
  let cs := trim text.toList
  !cs.isEmpty && !cs.contains ' ' &&
    match ofChars? cs with
    | none => false
    | some parts =>
      !parts.scheme.isEmpty &&
        (!parts.authority.isEmpty ||
          (schemesWithoutAuthority.any (·.toList == parts.scheme) && !parts.path.isEmpty))

end RestConnector.Url
