import DartLayers.Text.Number
import DartLayers.Text.Quoted

/-!
# DartLayers — faults of YAML documents

Nearly every fault makes a document malformed, and its wording does not matter. Some scalars look
well-formed and yet have no value: a number without digits or with too many, a day that is in no
calendar, an escape beyond the last character. Those faults are told apart, because they are not
reported as a malformed document.
-/

namespace DartLayers.Yaml

/-- Why a point in time does not exist. An offset is given in seconds. -/
inductive TimeFault where
  | year (number : Nat)
  | month
  | day
  | hour
  | minute
  | second
  | offset (seconds : Int)
  deriving Repr, DecidableEq

/-- Why a well-formed scalar has no value. -/
inductive ValueFault where
  | notInteger (base : Nat) (text : String)
  | longInteger (digits : Nat)
  | notFraction (text : String)
  | hugeFraction
  | noDigit
  | notBoolean (text : String)
  | notTime
  | timeOfMapping
  | time (fault : TimeFault)
  | noCharacter
  | hugeCode
  deriving Repr, DecidableEq

/-- Why a document cannot be read. -/
inductive Fault where
  | malformed
  | value (fault : ValueFault)
  deriving Repr, DecidableEq

/-- A day has so many seconds. -/
def secondsPerDay : Int := 86400

/-- A span of seconds by whole days and the seconds left, parts that are zero left out. -/
def spanText (seconds : Int) : String :=
  let days := seconds.fdiv secondsPerDay
  let left := seconds.fmod secondsPerDay
  let parts := (if days = 0 then [] else ["days=" ++ toString days]) ++
    (if left = 0 then [] else ["seconds=" ++ toString left])
  "datetime.timedelta(" ++ (if parts.isEmpty then "0" else ", ".intercalate parts) ++ ")"

/-- The wording of a fault. -/
def TimeFault.message : TimeFault → String
  | .year number => "year " ++ toString number ++ " is out of range"
  | .month => "month must be in 1..12"
  | .day => "day is out of range for month"
  | .hour => "hour must be in 0..23"
  | .minute => "minute must be in 0..59"
  | .second => "second must be in 0..59"
  | .offset seconds =>
    "offset must be a timedelta strictly between -timedelta(hours=24) and timedelta(hours=24), not "
      ++ spanText seconds ++ "."

/-- The wording of a fault. -/
def ValueFault.message : ValueFault → String
  | .notInteger base text => Text.malformedIntegerMessage base text
  | .longInteger digits => Text.longIntegerMessage digits
  | .notFraction text => "could not convert string to float: " ++ Text.quoted text
  | .hugeFraction => "int too large to convert to float"
  | .noDigit => "string index out of range"
  | .notBoolean text => Text.quoted text
  | .notTime => "'NoneType' object has no attribute 'groupdict'"
  | .timeOfMapping => "expected string or bytes-like object, got 'list'"
  | .time fault => fault.message
  | .noCharacter => "chr() arg not in range(0x110000)"
  | .hugeCode => "Python int too large to convert to C int"

end DartLayers.Yaml
