import LiveDeck.Text.Blank
import LiveDeck.Text.Percent
import LiveDeck.Text.Punycode

/-! # Addresses

The address of a link or an image, taken apart into protocol, credentials, host, number of the
service, path, query and fragment.  `Address.normalize` writes an address with its host in the
letters of ASCII and everything else percent-encoded, `Address.display` in readable form, and
`Address.isSafe` refuses the addresses that run code.  Addresses are spelled; the pairs of
surrogates that cannot be percent-encoded are found by `Address.isEncodable`. -/

namespace LiveDeck.Markdown

open Text

/-- The parts of an address.  A host may be present and empty. -/
structure Address where
  protocol : List Char := []
  slashes : Bool := false
  credentials : List Char := []
  host : Option (List Char) := none
  portNumber : List Char := []
  path : List Char := []
  query : List Char := []
  fragment : List Char := []
  deriving DecidableEq, Repr

namespace Address

/-! ### Taking apart -/

/-- The letters of ASCII in lower case, and the letters of other alphabets that fold to them. -/
def lowerLetter (c : Char) : Char :=
  if c = '\u0130' || c = '\u0131' then 'i'
  else if c = '\u017f' then 's'
  else if c = '\u212a' then 'k'
  else c.toLower

/-- The protocol with its colon at the start of an address, and what follows it. -/
def splitProtocol (s : List Char) : List Char × List Char :=
  let isPart := fun c => let l := lowerLetter c; l.isAlphanum || "+.-".toList.contains c
  match s.takeWhile isPart, s.dropWhile isPart with
  | c :: name, ':' :: rest => (c :: name ++ [':'], rest)
  | _, _ => ([], s)

/-- Protocols whose host is written after two slashes and nothing else. -/
def isSlashed (protocol : List Char) : Bool :=
  ["http:", "https:", "ftp:", "gopher:", "file:"].contains (String.ofList protocol)

/-- The protocol that has no host. -/
def isHostless (protocol : List Char) : Bool := protocol == "javascript:".toList

/-- What stands before the last occurrence of a character and what stands after it. -/
def splitLast? (c : Char) (s : List Char) : Option (List Char × List Char) :=
  if s.contains c then
    let after := (s.reverse.takeWhile (· != c)).reverse
    some (s.take (s.length - after.length - 1), after)
  else none

/-- What stands before the first character that satisfies `p`, and the rest with it. -/
def splitAtFirst (p : Char → Bool) (s : List Char) : List Char × List Char :=
  (s.takeWhile fun c => !p c, s.dropWhile fun c => !p c)

/-- The characters that end the part in which an at sign separates credentials. -/
def endsCredentials (c : Char) : Bool := c == '/' || c == '?' || c == '#'

/-- The credentials before the last at sign of the authority, and what follows it. -/
def splitCredentials (s : List Char) : List Char × List Char :=
  let (authority, rest) := splitAtFirst endsCredentials s
  match splitLast? '@' authority with
  | some (credentials, host) => (credentials, host ++ rest)
  | none => ([], s)

/-- The characters that never stand in a host. -/
def endsHost (c : Char) : Bool :=
  "%/?;#'\x7b\x7d|\\^<>\" \r\n\t".toList.contains c || c == '\x60'

/-- The host with its `portNumber`, and what follows it; a colon with nothing after it is no part
of it. -/
def splitHost (s : List Char) : List Char × List Char :=
  let (host, rest) := splitAtFirst endsHost s
  match host.reverse with
  | ':' :: before => (before.reverse, ':' :: rest)
  | _ => (host, rest)

/-- The host and the `portNumber` after its last colon. -/
def splitNumber (host : List Char) : List Char × List Char :=
  match splitLast? ':' host with
  | some (name, number) => if number.all Char.isDigit then (name, number) else (host, [])
  | none => (host, [])

/-- Whether a code point may stand in a host name; all those beyond ASCII count as letters. -/
def isHostPoint : CodePoint → Bool
  | .char c => c.isAlphanum || "+_-".toList.contains c || 0x7F < c.toNat
  | .surrogate _ => true

/-- Whether a text is a part of a host name. -/
def isHostPart (part : List Char) : Bool :=
  (codePoints part).length ≤ 63 && (codePoints part).all isHostPoint

/-- The longest start of a part that is permitted, and what follows it. -/
def splitHostPart (part : List Char) : List Char × List Char :=
  let isPermitted := fun (c : Char) => c.isAlphanum || "+_-".toList.contains c
  let start := (part.take 63).takeWhile isPermitted
  (start, part.drop start.length)

/-- The permitted start of a host name, and what must be taken for the path; `done` are the
parts already accepted. -/
def checkHost (done : List (List Char)) : List (List Char) → List Char × Option (List Char)
  | [] => (['.'].intercalate done, none)
  | part :: rest =>
    if isHostPart part then checkHost (done ++ [part]) rest
    else
      let (start, others) := splitHostPart part
      (['.'].intercalate (done ++ [start]), some (['.'].intercalate (others :: rest)))

/-- The host name of an address, without the brackets of a numeric one, and what must be taken
for the path. -/
def hostName (name : List Char) : List Char × List Char :=
  let isNumeric := name.head? == some '[' && name.getLast? == some ']'
  let (accepted, spilled) :=
    if isNumeric then (name, none) else checkHost [] (name.splitOn '.')
  let bounded := if 255 < (codePoints accepted).length then [] else accepted
  (if isNumeric then (bounded.drop 1).dropLast else bounded, spilled.getD [])

/-- The parts of an address. -/
def parse (address : List Char) : Address :=
  let (protocol, afterProtocol) := splitProtocol (strip address)
  let hasSlashes := (dropPrefix? afterProtocol).isSome
  let slashes := hasSlashes && !isHostless protocol
  let rest := if slashes then afterProtocol.drop 2 else afterProtocol
  let withHost : Address × List Char :=
    if !isHostless protocol && (hasSlashes || (!protocol.isEmpty && !isSlashed protocol)) then
      let (credentials, afterCredentials) := splitCredentials rest
      let (authority, afterHost) := splitHost afterCredentials
      let (name, number) := splitNumber authority
      let (host, spilled) := hostName name
      (⟨protocol, slashes, credentials, some host, number, [], [], []⟩, spilled ++ afterHost)
    else (⟨protocol, slashes, [], none, [], [], [], []⟩, rest)
  let (front, fragment) := splitAtFirst (· == '#') withHost.2
  let (path, query) := splitAtFirst (· == '?') front
  { withHost.1 with path := path, query := query, fragment := fragment }
where
  dropPrefix? : List Char → Option (List Char)
    | '/' :: '/' :: rest => some rest
    | _ => none

/-! ### Writing -/

/-- The address as it was written. -/
def toText (a : Address) : List Char :=
  let host := a.host.getD []
  a.protocol ++ (if a.slashes then ['/', '/'] else []) ++
    (if a.credentials.isEmpty then [] else a.credentials ++ ['@']) ++
    (if host.contains ':' then '[' :: host ++ [']'] else host) ++
    (if a.portNumber.isEmpty then [] else ':' :: a.portNumber) ++ a.path ++ a.query ++ a.fragment

/-- Applies `f` to every label of a host name; what stands before an at sign is left alone. -/
def mapLabels (f : List Char → Option (List Char)) (host : List Char) : Option (List Char) :=
  let isDot := fun c => c == '.' || c == '\u3002' || c == '\uff0e' || c == '\uff61'
  let labels := fun (s : List Char) =>
    ((s.splitOnP isDot).mapM f).map fun mapped => ['.'].intercalate mapped
  match host.splitOn '@' with
  | user :: domain :: _ => (labels domain).map fun mapped => user ++ '@' :: mapped
  | _ => labels host

def acePrefix : List Char := "xn--".toList

/-- A label in the letters of ASCII. -/
def labelToAscii (label : List Char) : Option (List Char) :=
  some (if label.any (0x7E < ·.toNat) then acePrefix ++ Punycode.encode label else label)

/-- A label in its own letters; `none` if it encodes nothing. -/
def labelToUnicode (label : List Char) : Option (List Char) :=
  if acePrefix.isPrefixOf label then Punycode.decode? ((label.drop 4).map Char.toLower)
  else some label

/-- Whether the host is a name that `f` may change. -/
def hasNamedHost (a : Address) : Bool :=
  let name := String.ofList a.protocol
  (a.host.getD []) != [] && (name == "" || ["http:", "https:", "mailto:"].contains name)

/-- The address with its host name changed, if there is one and it can be. -/
def mapHost (f : List Char → Option (List Char)) (a : Address) : Address :=
  if hasNamedHost a then
    match mapLabels f (a.host.getD []) with
    | some host => { a with host := some host }
    | none => a
  else a

/-- An address with its host in the letters of ASCII. -/
def withAsciiHost (address : List Char) : List Char :=
  ((parse address).mapHost labelToAscii).toText

/-- An address as it is written into a document. -/
def normalize (address : List Char) : List Char := percentEncode (withAsciiHost address)

/-- Whether an address can be written into a document. -/
def isEncodable (address : List Char) : Bool := !holdPair (codePoints (withAsciiHost address))

/-- The characters that stay encoded in an address that is shown. -/
def keptEncoded : List Char := ";/?:@&=+$,#%".toList

/-- An address as it is shown. -/
def display (address : List Char) : List Char :=
  percentDecode keptEncoded ((parse address).mapHost labelToUnicode).toText

/-- Whether an address may be followed. -/
def isSafe (address : List Char) : Bool :=
  let s := (strip address).map Char.toLower
  let startsWith := fun (text : String) => text.toList.isPrefixOf s
  !(["vbscript:", "javascript:", "file:", "data:"].any startsWith) ||
    ["data:image/gif;", "data:image/png;", "data:image/jpeg;", "data:image/webp;"].any startsWith

end Address

end LiveDeck.Markdown
