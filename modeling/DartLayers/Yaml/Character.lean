/-!
# DartLayers — character classes of YAML

The classes that the reader of a YAML text distinguishes. The end of the text counts as a character
of its own, NUL, which no text may hold.
-/

namespace DartLayers.Yaml

/-- Stands for the end of the text. -/
def endOfText : Char := '\x00'

/-- The mark that may precede a text. -/
def byteOrderMark : Char := Char.ofNat 0xFEFF

/-- Characters that a text may hold. -/
def isPrintable (c : Char) : Bool :=
  let n := c.toNat
  n == 0x09 || n == 0x0A || n == 0x0D || (0x20 ≤ n && n ≤ 0x7E) || n == 0x85 ||
    (0xA0 ≤ n && n ≤ 0xD7FF) || (0xE000 ≤ n && n ≤ 0xFFFD) || 0x10000 ≤ n

/-- Characters that break a line. -/
def isBreak (c : Char) : Bool :=
  c == '\r' || c == '\n' || c.toNat == 0x85 || c.toNat == 0x2028 || c.toNat == 0x2029

/-- A break or the end of the text. -/
def endsLine (c : Char) : Bool :=
  c == endOfText || isBreak c

/-- Blanks inside a line. -/
def isBlank (c : Char) : Bool :=
  c == ' ' || c == '\t'

/-- A space, a break or the end of the text. -/
def endsItem (c : Char) : Bool :=
  c == ' ' || endsLine c

/-- A blank, a break or the end of the text. -/
def endsWord (c : Char) : Bool :=
  isBlank c || endsLine c

/-- Characters of anchors, handles and directive names. -/
def isNameChar (c : Char) : Bool :=
  c.isAlphanum || c == '-' || c == '_'

/-- Characters of tag addresses. -/
def isAddressChar (c : Char) : Bool :=
  c.isAlphanum || "-;/?:@&=+$,_.!~*'()[]%".toList.contains c

/-- Characters that structure flow collections. -/
def isFlowIndicator (c : Char) : Bool :=
  c == ',' || c == '[' || c == ']' || c == '\x7b' || c == '\x7d'

/-- Characters that may follow the name of an anchor or an alias. -/
def endsAnchor (c : Char) : Bool :=
  endsWord c || c == '?' || c == ':' || c == ',' || c == ']' || c == '\x7d' || c == '%' ||
    c == '@' || c == '\x60'

/-- Characters that cannot start a plain scalar on their own. -/
def isIndicator (c : Char) : Bool :=
  isFlowIndicator c || "-?:#&*!|>'\"%@".toList.contains c || c == '\x60'

end DartLayers.Yaml
