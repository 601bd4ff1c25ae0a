import DartLayers.Double
import DartLayers.Text.Blank
import DartLayers.Text.Digits
import DartLayers.Text.Quoted
import DartLayers.Text.Split

/-!
# DartLayers — numbers written as text

Settings and manifests hold numbers as text. Decimal digits of any script count, blanks around a
number do not, and a single underscore may stand between two digits of a whole number.

* **`readInteger`** — a whole number in a given base; in a base that is no power of two it may have
  at most `maxIntegerDigits` digits.
* **`readFraction`** — a decimal fraction, an infinity, or not a number.
-/

namespace DartLayers.Text

/-! ## Whole numbers -/

/-- The most digits that a whole number in base ten may have. -/
def maxIntegerDigits : Nat := 4300

/-- Why a text is no whole number. -/
inductive IntegerFault where
  | malformed
  | tooLong (digits : Nat)
  deriving Repr, DecidableEq

/-- A character of a number in its ASCII form; what cannot stand in a number becomes a question
mark. -/
def asciiForm (c : Char) : Char :=
  if c.toNat < 0x7F then c
  else if isBlank c then ' '
  else match digitValue? c with
    | some value => asciiDigit value
    | none => '?'

/-- ASCII blanks around a number. -/
def isNumberBlank (c : Char) : Bool :=
  c == ' ' || (0x09 ≤ c.toNat && c.toNat ≤ 0x0D)

/-- A sign, positive if there is none, and the text after it. -/
def takeSign : List Char → Bool × List Char
  | '-' :: rest => (true, rest)
  | '+' :: rest => (false, rest)
  | rest => (false, rest)

/-- The value of a digit in bases up to sixteen. -/
def digitIn? (base : Nat) (c : Char) : Option Nat :=
  (hexValue? c).filter (· < base)

/-- The letter of a base after a leading zero. -/
def baseLetter (base : Nat) (c : Char) : Bool :=
  (base == 16 && c.toLower == 'x') || (base == 8 && c.toLower == 'o') ||
    (base == 2 && c.toLower == 'b')

/-- A text without the mark of its base, and without one underscore after the mark. -/
def dropBaseMark (base : Nat) : List Char → List Char
  | '0' :: letter :: '_' :: rest =>
    if baseLetter base letter then rest else '0' :: letter :: '_' :: rest
  | '0' :: letter :: rest => if baseLetter base letter then rest else '0' :: letter :: rest
  | text => text

/-- Digits and underscores. -/
def isDigitOrMark (base : Nat) (c : Char) : Bool :=
  (digitIn? base c).isSome || c == '_'

/-- The digits in front of a text, single underscores between them left out, and the text after
them; none if an underscore does not stand between two digits. -/
def takeDigits (base : Nat) (text : List Char) : Option (List Nat × List Char) :=
  let run := text.takeWhile (isDigitOrMark base)
  if run.isEmpty || (splitOn '_' run).all (fun digits => !digits.isEmpty) then
    some (run.filterMap (digitIn? base), text.dropWhile (isDigitOrMark base))
  else none

/-- The number that digits denote. -/
def valueOfDigits (base : Nat) (digits : List Nat) : Nat :=
  digits.foldl (fun value digit => base * value + digit) 0

/-- A number with a sign. -/
def signedValue (negative : Bool) (magnitude : Nat) : Int :=
  if negative then -magnitude else magnitude

/-- A whole number in a base, which is two, eight, ten or sixteen. -/
def readInteger (base : Nat) (text : List Char) : Except IntegerFault Int :=
  let (negative, unsigned) := takeSign ((text.map asciiForm).dropWhile isNumberBlank)
  match takeDigits base (dropBaseMark base unsigned) with
  | none => .error .malformed
  | some (digits, rest) =>
    if base == 10 && digits.length > maxIntegerDigits then .error (.tooLong digits.length)
    else if digits.isEmpty || !rest.all isNumberBlank then .error .malformed
    else .ok (signedValue negative (valueOfDigits base digits))

/-- The most characters of a quoted text that a message about a whole number shows. -/
def shownNumberLength : Nat := 200

/-- The wording for a text that is no whole number. -/
def malformedIntegerMessage (base : Nat) (text : String) : String :=
  "invalid literal for int() with base " ++ toString base ++ ": " ++
    String.ofList ((quoted text).toList.take shownNumberLength)

/-- The wording of a limit on whole numbers. -/
def longIntegerMessage (digits : Nat) : String :=
  "Exceeds the limit (" ++ toString maxIntegerDigits ++
    " digits) for integer string conversion: value has " ++ toString digits ++
    " digits; use sys.set_int_max_str_digits() to increase the limit"

/-! ## Fractions -/

/-- The number of decimal digits in ASCII. -/
def decimalValue (digits : List Char) : Nat :=
  valueOfDigits 10 (digits.map fun c => c.toNat - 0x30)

/-- An exponent at the end of a number; zero if the text is empty. -/
def readExponent : List Char → Option Int
  | [] => some 0
  | c :: rest =>
    let (negative, digits) := takeSign rest
    if c.toLower == 'e' && !digits.isEmpty && digits.all Char.isDigit then
      some (signedValue negative (decimalValue digits))
    else none

/-- A magnitude: digits with a point among them, and an exponent. -/
def readMagnitude (negative : Bool) (text : List Char) : Option Double :=
  let whole := text.takeWhile Char.isDigit
  let (fraction, rest) := match text.dropWhile Char.isDigit with
    | '.' :: after => (after.takeWhile Char.isDigit, after.dropWhile Char.isDigit)
    | after => ([], after)
  if whole.isEmpty && fraction.isEmpty then none
  else (readExponent rest).map fun exponent =>
    Double.ofDecimal negative (decimalValue (whole ++ fraction)) (exponent - fraction.length)

/-- A decimal fraction, an infinity, or not a number. -/
def readFraction (text : List Char) : Option Double :=
  let (negative, unsigned) := takeSign (trimWhile isNumberBlank (text.map asciiForm))
  let word := String.ofList (unsigned.map Char.toLower)
  if word = "inf" || word = "infinity" then some (.infinity negative)
  else if word = "nan" then some .nan
  else readMagnitude negative unsigned

end DartLayers.Text
