import DartLayers.Json
import DartLayers.PathName
import DartLayers.Text.Blank
import DartLayers.Text.Digits
import DartLayers.Text.Number
import DartLayers.Validation

/-!
# DartLayers — values of settings

A setting is given as a JSON value and read by the kind of its field. Whole numbers and truth values
are also accepted as text and as numbers of another kind, as long as nothing of them is lost.
-/

namespace DartLayers.Settings

/-- How the values of a field are read: a refused value breaks a rule. -/
abbrev Read (α : Type) := Json → Except FieldRule α

/-! ## Whole numbers -/

/-- The bound of the whole numbers that have 64 bits with a sign. -/
def wordBound : Int := 0x8000000000000000

/-- A whole number in its plain form: digits without a zero in front of them, and possibly a minus
sign. Too many digits are refused before what follows them is looked at. -/
def readNumeral (text : List Char) : Except FieldRule Int :=
  let (negative, unsigned) := match text with
    | '-' :: rest => (true, rest)
    | rest => (false, rest)
  let digits := unsigned.takeWhile Char.isDigit
  if unsigned = ['0'] then .ok 0
  else if digits.isEmpty || digits.head? = some '0' then .error .integerText
  else if digits.length > Text.maxIntegerDigits then .error .integerSize
  else if digits.length ≠ unsigned.length then .error .integerText
  else .ok (Text.signedValue negative (Text.decimalValue digits))

/-- A text without a plus sign in front; a minus sign must not follow it. -/
def dropPlus : List Char → Option (List Char)
  | '+' :: '-' :: _ => none
  | '+' :: rest => some rest
  | text => some text

/-- The text behind a leading zero and the zeros and underscores after it, from the first digit or
minus sign on. The last of the skipped characters, `skipped`, stands for zero: it stays if it is all
there is, and before a point. -/
def skipZeros (skipped : Char) : List Char → Option (List Char)
  | [] => some [skipped]
  | c :: rest =>
    if c = '0' || c = '_' then skipZeros c rest
    else if c.isDigit || c = '-' then some (c :: rest)
    else if c = '.' then some (skipped :: c :: rest)
    else none

/-- A text without leading zeros. One that starts neither with a digit nor with a minus sign is no
number. -/
def dropZeros : List Char → Option (List Char)
  | [] => none
  | c :: rest =>
    if c = '0' then skipZeros c rest
    else if c.isDigit || c = '-' then some (c :: rest)
    else none

/-- A text without a fraction of zeros; an empty fraction stays. -/
def dropZeroFraction (text : List Char) : List Char :=
  match Text.cutAt '.' text with
  | (whole, some fraction) =>
    if !fraction.isEmpty && fraction.all (· == '0') then whole else text
  | (_, none) => text

/-- A text without its underscores, if each of them stands alone between other characters. -/
def dropUnderscores (text : List Char) : List Char :=
  let pieces := Text.splitOn '_' text
  if pieces.all fun piece => !piece.isEmpty then pieces.flatten else text

/-- A number without its sign, tidied. -/
def tidyUnsigned (text : List Char) : Option (List Char) :=
  (dropZeros text).map fun digits => dropUnderscores (dropZeroFraction digits)

/-- The plain form of a number that is written more freely: with white space around it, a plus sign,
leading zeros, a fraction of zeros, or underscores between its digits. -/
def tidyNumeral (text : List Char) : Option (List Char) :=
  match dropPlus (Text.trimWhile Text.isWhiteSpace text) with
  | none => none
  | some ('-' :: unsigned) => (tidyUnsigned unsigned).map ('-' :: ·)
  | some unsigned => tidyUnsigned unsigned

/-- The whole number in a text: the plain form goes before the freer ones. -/
def readIntegerText (text : String) : Except FieldRule Int :=
  match readNumeral text.toList with
  | .error .integerText =>
    match tidyNumeral text.toList with
    | some tidy => readNumeral tidy
    | none => .error .integerText
  | result => result

/-- The whole number that a fraction is, if it has 64 bits with a sign; the least of those numbers
does not count. -/
def wordOfFraction? (value : Double) : Option Int :=
  value.toInt?.filter fun whole => -wordBound < whole && whole < wordBound

/-- A whole number. -/
def readWhole : Read Int
  | .int value => .ok value
  | .bool value => .ok (if value then 1 else 0)
  | .string text => readIntegerText text
  | .float value =>
    if !value.isFinite then .error .finiteNumber
    else if value.toInt?.isNone then .error .wholeNumber
    else match wordOfFraction? value with
      | some whole => .ok whole
      | none => .error .integerSize
  | _ => .error .integer

/-- A whole number of at least one. -/
def readPositive : Read Int := fun value =>
  match readWhole value with
  | .ok whole => if 1 ≤ whole then .ok whole else .error .atLeastOne
  | .error rule => .error rule

/-! ## Truth values -/

/-- The words for true. -/
def trueWords : List String := ["1", "t", "y", "on", "yes", "true"]

/-- The words for false. -/
def falseWords : List String := ["0", "f", "n", "no", "off", "false"]

/-- The truth value in a text. -/
def readTruthText (text : String) : Except FieldRule Bool :=
  let word := String.ofList (text.toList.map Char.toLower)
  if trueWords.contains word then .ok true
  else if falseWords.contains word then .ok false
  else .error .booleanText

/-- The truth value that a whole number stands for. -/
def truthOfWhole (whole : Int) : Except FieldRule Bool :=
  if whole = 0 then .ok false
  else if whole = 1 then .ok true
  else if -wordBound ≤ whole && whole < wordBound then .error .booleanText
  else .error .boolean

/-- A truth value. -/
def readTruth : Read Bool
  | .bool value => .ok value
  | .string text => readTruthText text
  | .int value => truthOfWhole value
  | .float value =>
    match wordOfFraction? value with
    | some whole => truthOfWhole whole
    | none => .error .boolean
  | _ => .error .boolean

/-! ## Texts and paths -/

/-- A text. -/
def readText : Read String
  | .string text => .ok text
  | _ => .error .string

/-- A path. -/
def readPath : Read PathName
  | .string text => .ok (PathName.ofString text)
  | _ => .error .path

/-- A value that may be null. -/
def readOrNull {α : Type} (read : Read α) : Read (Option α)
  | .null => .ok none
  | value => (read value).map some

end DartLayers.Settings
