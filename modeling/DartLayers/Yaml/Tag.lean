import DartLayers.Text.Split
import DartLayers.Yaml.Scalar.Time

/-!
# DartLayers — tags

A tag says how a node is to be understood. It is written in the text, or it follows from the form of
the node: a quoted scalar is text, and a plain one is whatever it looks like.

* **`Tag.ofAddress`** — the tag with a full address.
* **`Tag.ofPlain`** — the tag of a plain scalar.
-/

namespace DartLayers.Yaml

/-- How a node is to be understood; `merge` and `default` have a meaning as keys only. -/
inductive Tag where
  | null
  | bool
  | int
  | float
  | binary
  | time
  | orderedPairs
  | pairs
  | set
  | text
  | sequence
  | mapping
  | merge
  | default
  | unknown
  deriving Repr, DecidableEq

/-- The start of the addresses of the standard tags. -/
def standardAddress : List Char := "tag:yaml.org,2002:".toList

/-- The standard tags by their names. -/
def standardTags : List (String × Tag) := [
  ("null", .null), ("bool", .bool), ("int", .int), ("float", .float), ("binary", .binary),
  ("timestamp", .time), ("omap", .orderedPairs), ("pairs", .pairs), ("set", .set),
  ("str", .text), ("seq", .sequence), ("map", .mapping), ("merge", .merge), ("value", .default)]

/-- The tag with a full address. -/
def Tag.ofAddress (address : List Char) : Tag :=
  if standardAddress.isPrefixOf address then
    (standardTags.lookup (String.ofList (address.drop standardAddress.length))).getD .unknown
  else .unknown

/-- Words that stand for truth values. -/
def booleanWords : List String := [
  "yes", "Yes", "YES", "no", "No", "NO", "true", "True", "TRUE", "false", "False", "FALSE",
  "on", "On", "ON", "off", "Off", "OFF"]

/-- Words that stand for no value. -/
def nullWords : List String := ["", "~", "null", "Null", "NULL"]

/-- Words that stand for an infinity, after a sign. -/
def infinityWords : List String := [".inf", ".Inf", ".INF"]

/-- Words that stand for no number. -/
def nanWords : List String := [".nan", ".NaN", ".NAN"]

/-- A decimal digit or an underscore. -/
def isDigitOrMark (c : Char) : Bool :=
  c.isDigit || c == '_'

/-- A text without the sign in front of it. -/
def dropSign (text : List Char) : List Char :=
  (Text.takeSign text).2

/-- A number below sixty in one or two digits. -/
def isSexagesimalDigit (text : List Char) : Bool :=
  match text with
  | [c] => c.isDigit
  | [c, d] => '0' ≤ c && c ≤ '5' && d.isDigit
  | _ => false

/-- A number in base sixty: digits, and then numbers below sixty after colons. -/
def isSexagesimal (leastDigit : Char) (text : List Char) : Bool :=
  match Text.splitOn ':' text with
  | (c :: rest) :: others =>
    leastDigit ≤ c && c ≤ '9' && rest.all isDigitOrMark && !others.isEmpty &&
      others.all isSexagesimalDigit
  | _ => false

/-- Whether a text without its sign looks like a whole number. -/
def looksLikeInteger (text : List Char) : Bool :=
  match text with
  | ['0'] => true
  | '0' :: 'b' :: rest => !rest.isEmpty && rest.all fun c => c == '0' || c == '1' || c == '_'
  | '0' :: 'x' :: rest => !rest.isEmpty && rest.all fun c => (Text.hexValue? c).isSome || c == '_'
  | '0' :: rest => rest.all fun c => ('0' ≤ c && c ≤ '7') || c == '_'
  | c :: rest => (c.isDigit && rest.all isDigitOrMark) || isSexagesimal '1' (c :: rest)
  | [] => false

/-- Whether a text is empty or an exponent with a sign. -/
def isSignedExponent : List Char → Bool
  | [] => true
  | mark :: sign :: rest =>
    (mark == 'e' || mark == 'E') && (sign == '+' || sign == '-') && !rest.isEmpty &&
      rest.all Char.isDigit
  | _ => false

/-- Whether a text has a point, digits before it unless there is no sign, and an exponent with a
sign or none. -/
def looksLikeDecimal (hasSign : Bool) (text : List Char) : Bool :=
  match Text.cutAt '.' text with
  | (c :: whole, some after) =>
    c.isDigit && whole.all isDigitOrMark && isSignedExponent (after.dropWhile isDigitOrMark)
  | ([], some (c :: after)) =>
    !hasSign && c.isDigit && isSignedExponent (after.dropWhile isDigitOrMark)
  | _ => false

/-- Whether a text is a number in base sixty with a point. -/
def looksLikeSexagesimalFraction (text : List Char) : Bool :=
  match Text.cutAt '.' text with
  | (whole, some after) => isSexagesimal '0' whole && after.all isDigitOrMark
  | _ => false

/-- Whether a text looks like a fraction. -/
def looksLikeFraction (text : List Char) : Bool :=
  let unsigned := dropSign text
  looksLikeDecimal (unsigned.length != text.length) unsigned ||
    looksLikeSexagesimalFraction unsigned || infinityWords.contains (String.ofList unsigned) ||
    nanWords.contains (String.ofList text)

/-- The tag of a plain scalar without a line feed at its end. -/
def Tag.ofLine (text : List Char) : Tag :=
  let word := String.ofList text
  if booleanWords.contains word then .bool
  else if looksLikeFraction text then .float
  else if looksLikeInteger (dropSign text) then .int
  else if word = "<<" then .merge
  else if nullWords.contains word then .null
  else if looksLikeTime text then .time
  else if word = "=" then .default
  else if word = "!" || word = "&" || word = "*" then .unknown
  else .text

/-- The tag of a plain scalar. One line feed at its end does not count. -/
def Tag.ofPlain (text : List Char) : Tag :=
  match text.reverse with
  | '\n' :: c :: rest => Tag.ofLine (c :: rest).reverse
  | _ => Tag.ofLine text

end DartLayers.Yaml
