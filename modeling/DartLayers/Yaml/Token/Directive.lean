import DartLayers.Text.Utf8
import DartLayers.Yaml.Token

/-!
# DartLayers — reading directives, anchors and tags

The parts of a YAML text that do not hold data: directives in front of a document, names that nodes
are given or referred to by, and tags, which say how a node is to be understood.
-/

namespace DartLayers.Yaml.Reading

/-- A name, which cannot be empty. -/
def name : Reading (List Char) := do
  let name ← takeWhile isNameChar
  require !name.isEmpty
  return name

/-- The name of an anchor or an alias after its mark. -/
def anchorName : Reading (List Char) := do
  advance 1
  let name ← name
  require (endsAnchor (← peek))
  return name

/-- A part of the version of the format. -/
def versionNumber : Reading Nat := do
  let digits ← takeWhile Char.isDigit
  require !digits.isEmpty
  if digits.length > Text.maxIntegerDigits then throw (.value (.longInteger digits.length))
  return Text.decimalValue digits

/-- The major version of the format. -/
def version : Reading Nat := do
  skipWhile (· == ' ')
  let major ← versionNumber
  require ((← peek) == '.')
  advance 1
  discard versionNumber
  require (endsItem (← peek))
  return major

/-- The handle of a tag: an exclamation mark, or two with a name between them. Before a space the
single one is taken as it is. -/
def handle : Reading (List Char) := do
  let cursor ← get
  require (cursor.peek == '!')
  if cursor.peekAt 1 == ' ' then take 1
  else
    let width := (cursor.rest.drop 1).takeWhile isNameChar |>.length
    require (cursor.peekAt (width + 1) == '!')
    take (width + 2)

/-- The bytes of escapes in an address. -/
def addressBytes : (bound : Nat) → Reading (List UInt8)
  | 0 => return []
  | bound + 1 => do
    if (← peek) == '%' then
      advance 1
      let byte ← hexCode 2
      return UInt8.ofNat byte :: (← addressBytes bound)
    else return []

/-- The address of a tag up to its end; escapes in it are bytes of UTF-8. -/
def addressRest : (bound : Nat) → Reading (List Char)
  | 0 => return []
  | bound + 1 => do
    let text ← takeWhile fun c => isAddressChar c && c != '%'
    if (← peek) == '%' then
      let bytes ← addressBytes (← get).bound
      match String.fromUTF8? (ByteArray.mk bytes.toArray) with
      | none => refuse
      | some escaped => return text ++ escaped.toList ++ (← addressRest bound)
    else return text

/-- The address of a tag; it cannot be empty. -/
def address : Reading (List Char) := do
  require (isAddressChar (← peek))
  addressRest (← get).bound

/-- A handle and what it stands for. -/
def handleMeaning : Reading (List Char × List Char) := do
  skipWhile (· == ' ')
  let handle ← handle
  require ((← peek) == ' ')
  skipWhile (· == ' ')
  let address ← address
  require (endsItem (← peek))
  return (handle, address)

/-- A directive from its percent sign to the end of its line. -/
def directive : Reading Directive := do
  advance 1
  let name ← name
  require (endsItem (← peek))
  let directive ←
    if name == "YAML".toList then do pure (Directive.version (← version))
    else if name == "TAG".toList then do
      let (handle, address) ← handleMeaning
      pure (Directive.handle handle address)
    else do
      skipWhile fun c => !endsLine c
      pure .other
  restOfLine
  return directive

/-- Whether a tag, given from behind its first mark, has a second one. -/
def hasHandle (text : List Char) : Bool :=
  (text.takeWhile fun c => !endsItem c).contains '!'

/-- A tag: an address in angle brackets, a lone mark, or a handle with the rest of an address. -/
def tag : Reading Token := do
  let cursor ← get
  let second := cursor.peekAt 1
  let (handle, address) ←
    if second == '<' then do
      advance 2
      let address ← address
      require ((← peek) == '>')
      advance 1
      pure (none, address)
    else if endsWord second then do
      advance 1
      pure (none, ['!'])
    else do
      let handle ← if hasHandle (cursor.rest.drop 1) then handle else take 1
      pure (some handle, ← address)
  require (endsItem (← peek))
  return .tag handle address

end DartLayers.Yaml.Reading
