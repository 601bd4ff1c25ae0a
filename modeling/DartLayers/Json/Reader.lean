import DartLayers.Json
import DartLayers.Text.Number

/-!
# DartLayers — reading JSON

The reader takes a document from the front of a list of characters and leaves the rest. A fault is
kept as its kind and the number of characters that were left when it was met; `readJson` turns that
number into a place in the text.

Besides the standard grammar the reader takes `NaN`, `Infinity` and `-Infinity`, and it refuses
whole numbers of more than `Text.maxIntegerDigits` digits, a fault of its own kind.

A text is a sequence of characters, and half of a pair of code units is none. Where a literal escapes
such a half alone, the reader takes U+FFFD for it, and what is told about a document with such an
escape is told about the one with U+FFFD in its place.

* **`readChars`** — the inside of a string literal.
* **`readNumber`** — a number literal; one without fraction and exponent is a whole number.
* **`readValue`** — a value, by recursion on a bound for the steps.
* **`readJson`** — a whole document.
-/

namespace DartLayers

/-- What the reader expected or could not accept. -/
inductive JsonFault.Kind where
  | byteOrderMark
  | value
  | propertyName
  | colon
  | comma
  | extraData
  | controlCharacter
  | unterminatedString
  | escape
  | unicodeEscape
  deriving Repr, DecidableEq

/-- A fault met while reading: a malformed text, by the characters left, or a whole number with too
many digits. -/
inductive JsonTrouble where
  | malformed (kind : JsonFault.Kind) (left : Nat)
  | longInteger (digits : Nat)
  deriving Repr, DecidableEq

namespace JsonReader

/-- A value with the characters after it, or the fault. -/
abbrev Result (α : Type) := Except JsonTrouble (α × List Char)

/-- Blanks of the format. -/
def isBlank (c : Char) : Bool :=
  c == ' ' || c == '\t' || c == '\n' || c == '\r'

/-- The text after its leading blanks. -/
def skipBlanks (text : List Char) : List Char :=
  text.dropWhile isBlank

/-- A fault of the given kind in front of `rest`. -/
def failAt {α : Type} (kind : JsonFault.Kind) (rest : List Char) : Except JsonTrouble α :=
  .error (.malformed kind rest.length)

/-! ## Texts

A text is read from behind its opening quote. Two escapes that are halves of one character are
joined. -/

/-- The value of four hexadecimal digits. -/
def unit? (a b c d : Char) : Option Nat := do
  return (((← Text.hexValue? a) * 16 + (← Text.hexValue? b)) * 16 + (← Text.hexValue? c)) * 16 +
    (← Text.hexValue? d)

/-- The first half of a pair of code units. -/
def isHighUnit (code : Nat) : Bool :=
  0xD800 ≤ code && code < 0xDC00

/-- The second half of a pair of code units. -/
def isLowUnit (code : Nat) : Bool :=
  0xDC00 ≤ code && code < 0xE000

/-- The character of a code unit that stands alone. Half of a pair cannot be a character; U+FFFD takes
its place. -/
def loneUnit (code : Nat) : Char :=
  if isHighUnit code || isLowUnit code then Char.ofNat 0xFFFD else Char.ofNat code

/-- The character that a pair of code units denotes. -/
def pairedUnits (high low : Nat) : Char :=
  Char.ofNat (0x10000 + (high - 0xD800) * 0x400 + (low - 0xDC00))

/-- The character after a backslash, for the one-letter escapes. -/
def escaped? : Char → Option Char
  | '"' => some '"'
  | '\\' => some '\\'
  | '/' => some '/'
  | 'b' => some '\x08'
  | 'f' => some '\x0c'
  | 'n' => some '\n'
  | 'r' => some '\r'
  | 't' => some '\t'
  | _ => none

/-- Puts a character in front of the text that was read. -/
def consChar (c : Char) : Result (List Char) → Result (List Char)
  | .ok (text, rest) => .ok (c :: text, rest)
  | .error trouble => .error trouble

/-- The inside of a string literal up to its closing quote; `opening` counts the characters left at
the opening one. Four hexadecimal digits must be followed by another character, and a pair of
escapes that denotes one character is read as one when something follows the pair. -/
def readChars (opening : Nat) : List Char → Result (List Char)
  | [] => .error (.malformed .unterminatedString opening)
  | '"' :: rest => .ok ([], rest)
  | '\\' :: 'u' :: a :: b :: c :: d :: '\\' :: 'u' :: e :: f :: g :: h :: next :: rest =>
    match unit? a b c d with
    | none => failAt .unicodeEscape
        ('u' :: a :: b :: c :: d :: '\\' :: 'u' :: e :: f :: g :: h :: next :: rest)
    | some high =>
      if isHighUnit high then
        match unit? e f g h with
        | none => failAt .unicodeEscape ('u' :: e :: f :: g :: h :: next :: rest)
        | some low =>
          if isLowUnit low then
            consChar (pairedUnits high low) (readChars opening (next :: rest))
          else
            consChar (loneUnit high)
              (readChars opening ('\\' :: 'u' :: e :: f :: g :: h :: next :: rest))
      else
        consChar (loneUnit high)
          (readChars opening ('\\' :: 'u' :: e :: f :: g :: h :: next :: rest))
  | '\\' :: 'u' :: a :: b :: c :: d :: next :: rest =>
    match unit? a b c d with
    | none => failAt .unicodeEscape ('u' :: a :: b :: c :: d :: next :: rest)
    | some code => consChar (loneUnit code) (readChars opening (next :: rest))
  | '\\' :: 'u' :: rest => failAt .unicodeEscape ('u' :: rest)
  | ['\\'] => .error (.malformed .unterminatedString opening)
  | '\\' :: c :: rest =>
    match escaped? c with
    | some char => consChar char (readChars opening rest)
    | none => failAt .escape ('\\' :: c :: rest)
  | c :: rest =>
    if c.toNat < 0x20 then failAt .controlCharacter (c :: rest)
    else consChar c (readChars opening rest)

/-! ## Numbers

A number is taken as far as its grammar goes; a point or an exponent without digits is left to
what follows. -/

/-- A number literal by its parts. -/
structure NumberLiteral where
  negative : Bool
  whole : List Char
  fraction : Option (List Char)
  exponent : Option (Bool × List Char)
  deriving Repr, DecidableEq

/-- The digits of the whole part: a zero alone, or digits that start with another digit. -/
def takeWhole : List Char → Option (List Char × List Char)
  | '0' :: rest => some (['0'], rest)
  | c :: rest =>
    if c.isDigit then some (c :: rest.takeWhile Char.isDigit, rest.dropWhile Char.isDigit) else none
  | [] => none

/-- A point and the digits after it, if there is a digit. -/
def takeFraction : List Char → Option (List Char) × List Char
  | '.' :: rest =>
    match rest.takeWhile Char.isDigit with
    | [] => (none, '.' :: rest)
    | digits => (some digits, rest.dropWhile Char.isDigit)
  | rest => (none, rest)

/-- The letter E, a sign and digits, if there is a digit. -/
def takeExponent (text : List Char) : Option (Bool × List Char) × List Char :=
  match text with
  | c :: rest =>
    if c == 'e' || c == 'E' then
      let (negative, digits) := Text.takeSign rest
      match digits.takeWhile Char.isDigit with
      | [] => (none, text)
      | exponent => (some (negative, exponent), digits.dropWhile Char.isDigit)
    else (none, text)
  | [] => (none, text)

/-- The longest number literal in front of a text. -/
def takeNumber (text : List Char) : Option (NumberLiteral × List Char) :=
  let (negative, unsigned) := match text with
    | '-' :: rest => (true, rest)
    | rest => (false, rest)
  match takeWhole unsigned with
  | none => none
  | some (whole, afterWhole) =>
    let (fraction, afterFraction) := takeFraction afterWhole
    let (exponent, rest) := takeExponent afterFraction
    some (⟨negative, whole, fraction, exponent⟩, rest)

/-- The value of a literal: whole unless it has a fraction or an exponent. -/
def NumberLiteral.value (literal : NumberLiteral) : Except JsonTrouble Json :=
  match literal.fraction, literal.exponent with
  | none, none =>
    if literal.whole.length > Text.maxIntegerDigits then .error (.longInteger literal.whole.length)
    else .ok (.int (Text.signedValue literal.negative (Text.decimalValue literal.whole)))
  | fraction, exponent =>
    let fractionDigits := fraction.getD []
    let power := match exponent with
      | some (negative, digits) => Text.signedValue negative (Text.decimalValue digits)
      | none => 0
    .ok (.float (Double.ofDecimal literal.negative
      (Text.decimalValue (literal.whole ++ fractionDigits)) (power - fractionDigits.length)))

/-- A number in front of a text. -/
def readNumber (text : List Char) : Result Json :=
  match takeNumber text with
  | none => failAt .value text
  | some (literal, rest) => literal.value.map (·, rest)

/-! ## Values -/

mutual

/-- A value in front of a text, by recursion on a bound for the steps. -/
def readValue : (bound : Nat) → List Char → Result Json
  | 0, text => failAt .value text
  | bound + 1, text =>
    match text with
    | '"' :: rest => (readChars text.length rest).map fun (chars, after) =>
        (.string (String.ofList chars), after)
    | '{' :: rest =>
      match skipBlanks rest with
      | '}' :: after => .ok (.object [], after)
      | first => (readMembers bound first []).map fun (members, after) => (.object members, after)
    | '[' :: rest =>
      match skipBlanks rest with
      | ']' :: after => .ok (.array [], after)
      | first => (readItems bound first).map fun (items, after) => (.array items, after)
    | 'n' :: 'u' :: 'l' :: 'l' :: rest => .ok (.null, rest)
    | 't' :: 'r' :: 'u' :: 'e' :: rest => .ok (.bool true, rest)
    | 'f' :: 'a' :: 'l' :: 's' :: 'e' :: rest => .ok (.bool false, rest)
    | 'N' :: 'a' :: 'N' :: rest => .ok (.float .nan, rest)
    | 'I' :: 'n' :: 'f' :: 'i' :: 'n' :: 'i' :: 't' :: 'y' :: rest =>
      .ok (.float (.infinity false), rest)
    | '-' :: 'I' :: 'n' :: 'f' :: 'i' :: 'n' :: 'i' :: 't' :: 'y' :: rest =>
      .ok (.float (.infinity true), rest)
    | _ => readNumber text

/-- The items of an array from the first one to the closing bracket. -/
def readItems : (bound : Nat) → List Char → Result (List Json)
  | 0, text => failAt .value text
  | bound + 1, text =>
    match readValue bound text with
    | .error trouble => .error trouble
    | .ok (item, afterItem) =>
      match skipBlanks afterItem with
      | ']' :: after => .ok ([item], after)
      | ',' :: next => (readItems bound (skipBlanks next)).map fun (items, after) =>
          (item :: items, after)
      | other => failAt .comma other

/-- The members of an object from the first one to the closing brace, added to those before. -/
def readMembers : (bound : Nat) → List Char → List (String × Json) → Result (List (String × Json))
  | 0, text, _ => failAt .propertyName text
  | bound + 1, text, members =>
    match text with
    | '"' :: rest =>
      match readChars text.length rest with
      | .error trouble => .error trouble
      | .ok (key, afterKey) =>
        match skipBlanks afterKey with
        | ':' :: beforeValue =>
          match readValue bound (skipBlanks beforeValue) with
          | .error trouble => .error trouble
          | .ok (value, afterValue) =>
            let extended := insertMember (String.ofList key) value members
            match skipBlanks afterValue with
            | '}' :: after => .ok (extended, after)
            | ',' :: next => readMembers bound (skipBlanks next) extended
            | other => failAt .comma other
        | other => failAt .colon other
    | other => failAt .propertyName other

end

/-- A whole document: blanks, one value, blanks. An array in an array is two steps for one character,
so the bound is twice the length. -/
def readDocument (text : List Char) : Except JsonTrouble Json :=
  match text with
  | '\uFEFF' :: _ => failAt .byteOrderMark text
  | _ =>
    match readValue (2 * text.length + 1) (skipBlanks text) with
    | .error trouble => .error trouble
    | .ok (value, rest) =>
      match skipBlanks rest with
      | [] => .ok value
      | extra => failAt .extraData extra

end JsonReader

/-! ## Places of faults

A fault is met at some rest of the text and reported by its line and column. -/

/-- Why a text is not accepted: malformed at a place, or a whole number with too many digits. -/
inductive JsonFault where
  | malformed (kind : JsonFault.Kind) (line column offset : Nat)
  | longInteger (digits : Nat)
  deriving Repr, DecidableEq

/-- The place that is `offset` characters into a text: lines and columns count from one, and only
line feeds end lines. -/
def JsonFault.locate (kind : JsonFault.Kind) (text : List Char) (offset : Nat) : JsonFault :=
  let before := text.take offset
  .malformed kind (before.count '\n' + 1) ((before.reverse.takeWhile (· != '\n')).length + 1) offset

/-- Reads a JSON document. -/
def readJson (text : String) : Except JsonFault Json :=
  match JsonReader.readDocument text.toList with
  | .ok value => .ok value
  | .error (.longInteger digits) => .error (.longInteger digits)
  | .error (.malformed kind left) => .error (.locate kind text.toList (text.length - left))

/-- The wording of a kind of fault. -/
def JsonFault.Kind.message : JsonFault.Kind → String
  | .byteOrderMark => "Unexpected UTF-8 BOM (decode using utf-8-sig)"
  | .value => "Expecting value"
  | .propertyName => "Expecting property name enclosed in double quotes"
  | .colon => "Expecting ':' delimiter"
  | .comma => "Expecting ',' delimiter"
  | .extraData => "Extra data"
  | .controlCharacter => "Invalid control character at"
  | .unterminatedString => "Unterminated string starting at"
  | .escape => "Invalid \\escape"
  | .unicodeEscape => "Invalid \\uXXXX escape"

/-- The wording of a fault. -/
def JsonFault.message : JsonFault → String
  | .longInteger digits => Text.longIntegerMessage digits
  | .malformed kind line column offset =>
    kind.message ++ ": line " ++ toString line ++ " column " ++ toString column ++ " (char " ++
      toString offset ++ ")"

end DartLayers
