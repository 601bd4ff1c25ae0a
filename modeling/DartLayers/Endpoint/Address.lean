import DartLayers.Endpoint.Host
import DartLayers.Text.Quoted

/-!
# DartLayers — absolute addresses

An endpoint may be an absolute address. It is cut into scheme, authority, path and query; a
fragment is dropped. Tabs and line breaks inside an address are ignored.

An address is refused when the brackets of its authority do not hold a single address, or when its
authority has characters that a compatibility normalisation turns into delimiters.

* **`looksAbsolute`** — which endpoints are taken for absolute addresses.
* **`Address.parse`** — the cut, or the fault.
-/

namespace DartLayers

/-- Why an address is refused. -/
inductive AddressFault where
  | brackets
  | ipv4InBrackets
  | futureAddress
  | noAddress (host : String)
  | disguisedDelimiter (authority : String)
  deriving Repr, DecidableEq

/-- The wording of a refusal. -/
def AddressFault.message : AddressFault → String
  | .brackets => "Invalid IPv6 URL"
  | .ipv4InBrackets => "An IPv4 address cannot be in brackets"
  | .futureAddress => "IPvFuture address is invalid"
  | .noAddress host => Text.quoted host ++ " does not appear to be an IPv4 or IPv6 address"
  | .disguisedDelimiter authority =>
    "netloc '" ++ authority ++ "' contains invalid characters under NFKC normalization"

/-- The parts of an absolute address. -/
structure Address where
  scheme : List Char
  authority : List Char
  path : List Char
  query : List Char
  deriving Repr, DecidableEq

namespace Address

/-! ## The scheme -/

/-- The long s, which counts as an S when case is disregarded. -/
def longS : Char := Char.ofNat 0x17F

/-- Whether a text is `http` or `https` in any case, and `://` after it. -/
def looksAbsolute (text : List Char) : Bool :=
  (text.take 4).map Char.toLower == "http".toList &&
    match text.drop 4 with
    | ':' :: '/' :: '/' :: _ => true
    | s :: ':' :: '/' :: '/' :: _ => s.toLower == 's' || s == longS
    | _ => false

/-- Characters of a scheme. -/
def isSchemeChar (c : Char) : Bool :=
  c.isAlphanum || c == '+' || c == '-' || c == '.'

/-- The scheme in lower case and what follows its colon; a text without a scheme is left as it
is. -/
def takeScheme (text : List Char) : List Char × List Char :=
  match Text.cutAt ':' text with
  | (c :: rest, some after) =>
    if c.isAlpha && rest.all isSchemeChar then ((c :: rest).map Char.toLower, after)
    else ([], text)
  | _ => ([], text)

/-! ## The authority -/

/-- Characters that end an authority. -/
def endsAuthority (c : Char) : Bool :=
  c == '/' || c == '?' || c == '#'

/-- The authority after two slashes and what follows it. -/
def takeAuthority (text : List Char) : List Char × List Char :=
  match text with
  | '/' :: '/' :: rest =>
    (rest.takeWhile fun c => !endsAuthority c, rest.dropWhile fun c => !endsAuthority c)
  | _ => ([], text)

/-- The fault of a host that has to be an address fit for brackets. -/
def bracketedHostFault? (host : List Char) : Option AddressFault :=
  if host.head? == some 'v' then
    if Host.isFutureAddress host then none else some .futureAddress
  else if Host.isIpv4 host then some .ipv4InBrackets
  else if Host.isIpv6 host then none
  else some (.noAddress (String.ofList host))

/-- The part of an authority after its last at sign. -/
def hostAndPort (authority : List Char) : List Char :=
  (authority.reverse.takeWhile (· != '@')).reverse

/-- The fault of an authority that has both brackets. -/
def bracketedFault? (authority : List Char) : Option AddressFault :=
  match Text.cutAt '[' (hostAndPort authority) with
  | (_ :: _, some _) => some .brackets
  | ([], some bracketed) =>
    match Text.cutAt ']' bracketed with
    | (_, some (c :: _)) =>
      -- Behind the closing bracket there can only be a port.
      if c == ':' then bracketedHostFault? (Text.cutAt ']' bracketed).1 else some .brackets
    | (host, _) => bracketedHostFault? host
  | (_, none) => bracketedHostFault? (Text.cutAt ':' (hostAndPort authority)).1

/-- The characters that a compatibility normalisation turns into text with a delimiter. -/
def disguisedDelimiters : List Nat := [
  0x2047, 0x2048, 0x2049, 0x2100, 0x2101, 0x2105, 0x2106, 0x2A74, 0xFE13, 0xFE16, 0xFE55, 0xFE56,
  0xFE5F, 0xFE6B, 0xFF03, 0xFF0F, 0xFF1A, 0xFF1F, 0xFF20]

/-- The fault of an authority, brackets first. -/
def authorityFault? (authority : List Char) : Option AddressFault :=
  let bracketFault :=
    if authority.contains '[' != authority.contains ']' then some AddressFault.brackets
    else if authority.contains '[' then bracketedFault? authority
    else none
  bracketFault.or <|
    if authority.any fun c => disguisedDelimiters.contains c.toNat then
      some (.disguisedDelimiter (String.ofList authority))
    else none

/-! ## The address -/

/-- Characters that are ignored inside an address. -/
def isIgnored (c : Char) : Bool :=
  c == '\t' || c == '\r' || c == '\n'

/-- The path and the query of a text: a fragment is dropped, and the query starts after the first
question mark. -/
def takePath (text : List Char) : List Char × List Char :=
  match Text.cutAt '?' (Text.cutAt '#' text).1 with
  | (path, query) => (path, query.getD [])

/-- Cuts an absolute address into its parts. -/
def parse (text : List Char) : Except AddressFault Address :=
  let (scheme, afterScheme) := takeScheme (text.filter fun c => !isIgnored c)
  let (authority, rest) := takeAuthority afterScheme
  match authorityFault? authority with
  | some fault => .error fault
  | none =>
    let (path, query) := takePath rest
    .ok { scheme, authority, path, query }

end Address

end DartLayers
