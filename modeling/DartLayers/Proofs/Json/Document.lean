import DartLayers.Json.Reader

/-!
# DartLayers — JSON documents and their spellings

A document is the tree that a JSON text denotes, before numbers are rounded and repeated keys are
merged. One document has many spellings: blanks stand around every token, a character of a text
stands for itself or is escaped in one of several ways, and an exponent has two letters and three
signs. The spellings are given by the grammar of RFC 8259, rule by rule, without the reader.

* **`Document`** — the tree, with numbers as literals and members in the order of the text.
* **`Spells`**, **`SpellsDocument`** — the grammar: a text spells a value, a whole text a document.
* **`Document.value`** — the JSON value that a document stands for.
-/

namespace DartLayers

open JsonReader

/-- A JSON document. An object has its members as they are written, repeated keys included. -/
inductive Document where
  | null
  | bool (value : Bool)
  | number (literal : NumberLiteral)
  | string (text : String)
  | array (items : List Document)
  | object (members : List (String × Document))

namespace Document

/-! ## Blanks and texts -/

/-- Insignificant whitespace. -/
def IsBlanks (text : List Char) : Prop :=
  ∀ c ∈ text, c = ' ' ∨ c = '\t' ∨ c = '\n' ∨ c = '\r'

instance (text : List Char) : Decidable (IsBlanks text) :=
  decidable_of_iff (text.all fun c => c = ' ' ∨ c = '\t' ∨ c = '\n' ∨ c = '\r')
    (by simp [IsBlanks])

/-- A hexadecimal digit of either case, with its value. -/
def IsHexDigit (value : Nat) (c : Char) : Prop :=
  "0123456789abcdef".toList[value]? = some c ∨ "0123456789ABCDEF".toList[value]? = some c

/-- The four digits of a code unit. -/
inductive SpellsUnit : (code : Nat) → List Char → Prop
  | mk {v w x y : Nat} {a b c d : Char} (ha : IsHexDigit v a) (hb : IsHexDigit w b)
      (hc : IsHexDigit x c) (hd : IsHexDigit y d) :
      SpellsUnit (((v * 16 + w) * 16 + x) * 16 + y) [a, b, c, d]

/-- The characters that have an escape of one letter, by their letters. -/
def letterEscapes : List (Char × Char) :=
  [('"', '"'), ('\\', '\\'), ('/', '/'), ('b', '\x08'), ('f', '\x0c'), ('n', '\n'), ('r', '\r'),
    ('t', '\t')]

/-- One character of a text: as it is, behind a backslash by its letter or by its code unit, or as
a pair of code units. -/
inductive SpellsChar : Char → List Char → Prop
  | plain {c : Char} (hcontrol : 0x20 ≤ c.toNat) (hquote : c ≠ '"') (hbackslash : c ≠ '\\') :
      SpellsChar c [c]
  | letter {letter c : Char} (h : (letter, c) ∈ letterEscapes) : SpellsChar c ['\\', letter]
  | unit {c : Char} {digits : List Char} (h : SpellsUnit c.toNat digits) :
      SpellsChar c ('\\' :: 'u' :: digits)
  | pair {c : Char} {high low : Nat} {highDigits lowDigits : List Char}
      (hhigh : SpellsUnit (0xD800 + high) highDigits) (hlow : SpellsUnit (0xDC00 + low) lowDigits)
      (hhighBound : high < 0x400) (hlowBound : low < 0x400)
      (hcode : c.toNat = 0x10000 + high * 0x400 + low) :
      SpellsChar c ('\\' :: 'u' :: highDigits ++ '\\' :: 'u' :: lowDigits)

/-- The inside of a string literal. -/
inductive SpellsText : (text inside : List Char) → Prop
  | nil : SpellsText [] []
  | cons {c : Char} {text spelled inside : List Char} (hchar : SpellsChar c spelled)
      (htext : SpellsText text inside) : SpellsText (c :: text) (spelled ++ inside)

/-- A string literal. -/
inductive SpellsString (text : String) : (literal : List Char) → Prop
  | mk {inside : List Char} (h : SpellsText text.toList inside) :
      SpellsString text ('"' :: (inside ++ ['"']))

/-! ## Numbers -/

/-- A run of digits. -/
def IsDigits (digits : List Char) : Prop :=
  digits ≠ [] ∧ ∀ c ∈ digits, c.isDigit = true

/-- The digits of a whole part: a leading zero stands alone. -/
def IsWholePart (digits : List Char) : Prop :=
  IsDigits digits ∧ (digits.head? = some '0' → digits = ['0'])

instance (digits : List Char) : Decidable (IsDigits digits) :=
  decidable_of_iff (digits ≠ [] ∧ digits.all Char.isDigit) (by simp [IsDigits])

instance (digits : List Char) : Decidable (IsWholePart digits) :=
  inferInstanceAs (Decidable (_ ∧ _))

inductive SpellsFraction : Option (List Char) → List Char → Prop
  | absent : SpellsFraction none []
  | present {digits : List Char} (h : IsDigits digits) : SpellsFraction (some digits) ('.' :: digits)

inductive SpellsExponent : Option (Bool × List Char) → List Char → Prop
  | absent : SpellsExponent none []
  | unsigned {letter : Char} {digits : List Char} (hletter : letter = 'e' ∨ letter = 'E')
      (h : IsDigits digits) : SpellsExponent (some (false, digits)) (letter :: digits)
  | plus {letter : Char} {digits : List Char} (hletter : letter = 'e' ∨ letter = 'E')
      (h : IsDigits digits) : SpellsExponent (some (false, digits)) (letter :: '+' :: digits)
  | minus {letter : Char} {digits : List Char} (hletter : letter = 'e' ∨ letter = 'E')
      (h : IsDigits digits) : SpellsExponent (some (true, digits)) (letter :: '-' :: digits)

/-- A number: a sign if it is negative, the whole part, a fraction and an exponent. -/
inductive SpellsNumber : NumberLiteral → List Char → Prop
  | mk {negative : Bool} {whole fractionText exponentText : List Char} {fraction : Option (List Char)}
      {exponent : Option (Bool × List Char)} (hwhole : IsWholePart whole)
      (hfraction : SpellsFraction fraction fractionText)
      (hexponent : SpellsExponent exponent exponentText) :
      SpellsNumber ⟨negative, whole, fraction, exponent⟩
        ((if negative then ['-'] else []) ++ (whole ++ (fractionText ++ exponentText)))

/-! ## Values -/

mutual

/-- A text spells a value. -/
inductive Spells : Document → List Char → Prop
  | null : Spells .null ['n', 'u', 'l', 'l']
  | true : Spells (.bool true) ['t', 'r', 'u', 'e']
  | false : Spells (.bool false) ['f', 'a', 'l', 's', 'e']
  | number {literal : NumberLiteral} {text : List Char} (h : SpellsNumber literal text) :
      Spells (.number literal) text
  | string {text : String} {literal : List Char} (h : SpellsString text literal) :
      Spells (.string text) literal
  | emptyArray {blanks : List Char} (h : IsBlanks blanks) :
      Spells (.array []) ('[' :: (blanks ++ [']']))
  | array {items : List Document} {inside : List Char} (h : SpellsItems items inside) :
      Spells (.array items) ('[' :: (inside ++ [']']))
  | emptyObject {blanks : List Char} (h : IsBlanks blanks) :
      Spells (.object []) ('\x7b' :: (blanks ++ ['\x7d']))
  | object {members : List (String × Document)} {inside : List Char}
      (h : SpellsMembers members inside) : Spells (.object members) ('\x7b' :: (inside ++ ['\x7d']))

/-- The items of an array with an item, separated by commas. -/
inductive SpellsItems : List Document → List Char → Prop
  | last {item : Document} {before spelled behind : List Char} (hbefore : IsBlanks before)
      (hitem : Spells item spelled) (hbehind : IsBlanks behind) :
      SpellsItems [item] (before ++ (spelled ++ behind))
  | more {item : Document} {rest : List Document} {before spelled behind others : List Char}
      (hbefore : IsBlanks before) (hitem : Spells item spelled) (hbehind : IsBlanks behind)
      (hrest : SpellsItems rest others) :
      SpellsItems (item :: rest) (before ++ (spelled ++ (behind ++ ',' :: others)))

/-- The members of an object with a member, separated by commas. -/
inductive SpellsMembers : List (String × Document) → List Char → Prop
  | last {member : String × Document} {before spelled behind : List Char}
      (hbefore : IsBlanks before) (hmember : SpellsMember member spelled)
      (hbehind : IsBlanks behind) : SpellsMembers [member] (before ++ (spelled ++ behind))
  | more {member : String × Document} {rest : List (String × Document)}
      {before spelled behind others : List Char} (hbefore : IsBlanks before)
      (hmember : SpellsMember member spelled) (hbehind : IsBlanks behind)
      (hrest : SpellsMembers rest others) :
      SpellsMembers (member :: rest) (before ++ (spelled ++ (behind ++ ',' :: others)))

/-- A key, a colon and a value. -/
inductive SpellsMember : String × Document → List Char → Prop
  | mk {key : String} {literal behindKey beforeValue spelled : List Char} {value : Document}
      (hkey : SpellsString key literal) (hbehind : IsBlanks behindKey)
      (hbefore : IsBlanks beforeValue) (hvalue : Spells value spelled) :
      SpellsMember (key, value) (literal ++ (behindKey ++ ':' :: (beforeValue ++ spelled)))

end

/-- A whole text spells a document: a value between blanks. -/
inductive SpellsDocument (document : Document) : List Char → Prop
  | mk {before spelled behind : List Char} (hbefore : IsBlanks before)
      (hvalue : Spells document spelled) (hbehind : IsBlanks behind) :
      SpellsDocument document (before ++ (spelled ++ behind))

end Document

/-! ## Values -/

namespace JsonReader.NumberLiteral

/-- Without a fraction and an exponent a number is whole. -/
def isWhole (literal : NumberLiteral) : Bool :=
  literal.fraction.isNone && literal.exponent.isNone

def power (literal : NumberLiteral) : Int :=
  match literal.exponent with
  | some (negative, digits) => Text.signedValue negative (Text.decimalValue digits)
  | none => 0

/-- The nearest binary64 number to a number that is not whole. -/
def rounded (literal : NumberLiteral) : Double :=
  let fraction := literal.fraction.getD []
  Double.ofDecimal literal.negative (Text.decimalValue (literal.whole ++ fraction))
    (literal.power - fraction.length)

/-- The number itself, whatever its length. -/
def number (literal : NumberLiteral) : Json :=
  if literal.isWhole then
    .int (Text.signedValue literal.negative (Text.decimalValue literal.whole))
  else .float literal.rounded

end JsonReader.NumberLiteral

namespace Document

mutual

/-- The numbers of a document. -/
def numbers : Document → List NumberLiteral
  | .number literal => [literal]
  | .array items => itemNumbers items
  | .object members => memberNumbers members
  | .null | .bool _ | .string _ => []

def itemNumbers : List Document → List NumberLiteral
  | [] => []
  | item :: rest => item.numbers ++ itemNumbers rest

def memberNumbers : List (String × Document) → List NumberLiteral
  | [] => []
  | (_, value) :: rest => value.numbers ++ memberNumbers rest

end

/-- No whole number is longer than the reader takes. -/
def IsReadable (literals : List NumberLiteral) : Prop :=
  ∀ literal ∈ literals, literal.isWhole = true → literal.whole.length ≤ Text.maxIntegerDigits

instance (literals : List NumberLiteral) : Decidable (IsReadable literals) :=
  inferInstanceAs (Decidable (∀ literal ∈ literals, _))

mutual

/-- What a document stands for: numbers are rounded, and a repeated key has its last value in the
place of the first. -/
def value : Document → Json
  | .null => .null
  | .bool value => .bool value
  | .number literal => literal.number
  | .string text => .string text
  | .array items => .array (itemValues items)
  | .object members => .object (collectMembers (memberValues members))

def itemValues : List Document → List Json
  | [] => []
  | item :: rest => item.value :: itemValues rest

def memberValues : List (String × Document) → List (String × Json)
  | [] => []
  | (key, value) :: rest => (key, value.value) :: memberValues rest

end

end Document

end DartLayers
