import DartLayers.Text.Casing
import DartLayers.Yaml.Scalar.Base64
import DartLayers.Yaml.Tag

/-!
# DartLayers — the values of scalars

A scalar is read as its tag says. Keys of a mapping are compared as values: numbers and truth values
that are equal are one key, whatever their kinds. What is not a number equals nothing, except that
the constant for it is one key wherever it is written.

* **`Scalar.read`** — the value of a text under a tag.
* **`Scalar.same`** — equality of keys.
-/

namespace DartLayers.Yaml

/-- The value of a scalar; `nan` is the constant that is not a number. -/
inductive Scalar where
  | null
  | bool (value : Bool)
  | int (value : Int)
  | float (value : Double)
  | nan
  | text (text : String)
  | day (day : Day)
  | instant (instant : Instant)
  | bytes (bytes : List UInt8)
  deriving Repr, DecidableEq

/-- A fault of a value. -/
def refuseValue {α : Type} (fault : ValueFault) : Except Fault α :=
  .error (.value fault)

/-! ## Numbers

A number that looks well-formed may still have no value: its digits are checked only here. -/

/-- A text without its underscores. -/
def dropMarks (text : List Char) : List Char :=
  text.filter (· != '_')

/-- A whole number in a base. -/
def readWhole (base : Nat) (text : List Char) : Except Fault Int :=
  match Text.readInteger base text with
  | .ok value => .ok value
  | .error .malformed => refuseValue (.notInteger base (String.ofList text))
  | .error (.tooLong digits) => refuseValue (.longInteger digits)

/-- A whole number without its sign: in base two, sixteen or eight after a zero, in base sixty with
colons, in base ten otherwise. -/
def readMagnitude (text : List Char) : Except Fault Int :=
  match text with
  | [] => refuseValue .noDigit
  | ['0'] => .ok 0
  | '0' :: 'b' :: rest => readWhole 2 rest
  | '0' :: 'x' :: rest => readWhole 16 rest
  | '0' :: _ => readWhole 8 text
  | _ =>
    if text.contains ':' then do
      let digits ← (Text.splitOn ':' text).mapM (readWhole 10)
      return digits.foldl (fun value digit => value * 60 + digit) 0
    else readWhole 10 text

/-- A whole number with underscores and a sign. -/
def readSigned (text : List Char) : Except Fault Int := do
  let digits := dropMarks text
  if digits.isEmpty then refuseValue .noDigit
  else
    let (negative, unsigned) := Text.takeSign digits
    let magnitude ← readMagnitude unsigned
    return if negative then -magnitude else magnitude

/-- A fraction without its sign. -/
def readPart (text : List Char) : Except Fault Double :=
  match Text.readFraction text with
  | some value => .ok value
  | none => refuseValue (.notFraction (String.ofList text))

/-- Adds up digits in base sixty, the last one first, as the arithmetic of fractions does it; a
weight beyond the largest number is a fault. -/
def sumSexagesimal (total : Float) (weight : Nat) : List Double → Except Fault Double
  | [] => .ok (.ofFloat total)
  | digit :: rest =>
    let scale : Double := .ofDecimal false weight 0
    if !scale.isFinite then refuseValue .hugeFraction
    else sumSexagesimal (total + digit.toFloat * scale.toFloat) (weight * 60) rest

/-- A fraction with underscores and a sign, in any case. -/
def readDecimal (text : List Char) : Except Fault Scalar := do
  let digits := Text.lowerChars (dropMarks text)
  if digits.isEmpty then refuseValue .noDigit
  else
    let (negative, unsigned) := Text.takeSign digits
    if unsigned == ".inf".toList then return .float (.infinity negative)
    else if unsigned == ".nan".toList then return .nan
    else
      let magnitude ←
        if unsigned.contains ':' then do
          let parts ← (Text.splitOn ':' unsigned).mapM readPart
          sumSexagesimal 0 1 parts.reverse
        else readPart unsigned
      return .float (if negative then magnitude.negate else magnitude)

/-! ## Truth values and times -/

/-- A truth value, in any case. -/
def readBoolean (text : List Char) : Except Fault Bool :=
  let word := Text.lower (String.ofList text)
  if ["yes", "true", "on"].contains word then .ok true
  else if ["no", "false", "off"].contains word then .ok false
  else refuseValue (.notBoolean word)

/-- A text without one line feed at its end. -/
def dropEndFeed (text : List Char) : List Char :=
  if text.getLast? == some '\n' then text.dropLast else text

/-- A day or a time. -/
def readTime (text : List Char) : Except Fault Scalar :=
  match readTime? (dropEndFeed text) with
  | none => refuseValue .notTime
  | some fields =>
    match fields.value with
    | .error fault => refuseValue (.time fault)
    | .ok (.inl day) => .ok (.day day)
    | .ok (.inr instant) => .ok (.instant instant)

namespace Scalar

/-! ## Values and keys -/

/-- The value of a text under a tag; the tag of a collection or an unknown one is a fault. -/
def read (tag : Tag) (text : List Char) : Except Fault Scalar :=
  match tag with
  | .null => .ok null
  | .bool => (readBoolean text).map bool
  | .int => (readSigned text).map int
  | .float => readDecimal text
  | .text => .ok (Scalar.text (String.ofList text))
  | .time => readTime text
  | .binary =>
    match decodeBase64 text with
    | some found => .ok (bytes found)
    | none => .error .malformed
  | _ => .error .malformed

/-- The number that a value is for comparison; none if it is no finite whole number. -/
def toInt? : Scalar → Option Int
  | .bool value => some (if value then 1 else 0)
  | .int value => some value
  | .float value => value.toInt?
  | _ => none

/-- Whether two values are one key wherever they are written. -/
def same (a b : Scalar) : Bool :=
  match a.toInt?, b.toInt? with
  | some m, some n => m == n
  | none, none =>
    match a, b with
    | .instant s, .instant t => s.same t
    | .float x, .float y => x == y && !x.isNaN
    | _, _ => decide (a = b)
  | _, _ => false

end Scalar

end DartLayers.Yaml
