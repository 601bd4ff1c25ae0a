import DartLayers.Text.Quoted

/-!
# DartLayers — where bytes stop being UTF-8

Whether bytes are text is decided by core's decoder. When they are not, the message names the first
ill-formed sequence: the offending byte or bytes, their position, and which rule they break.
-/

namespace DartLayers.Text.Utf8

/-- The rule that an ill-formed sequence breaks. -/
inductive Rule
  | start
  | continuation
  | ending
  deriving Repr, DecidableEq

/-- An ill-formed sequence: its bytes, the position of the first one, and the rule it breaks. -/
structure Fault where
  position : Nat
  bytes : List UInt8
  rule : Rule
  deriving Repr, DecidableEq

/-- A byte that may follow the first byte of a sequence. -/
def isContinuation (b : UInt8) : Bool :=
  0x80 ≤ b && b < 0xC0

/-- Whether `second` may follow `first`: besides being a continuation byte it must neither start an
overlong form nor a surrogate nor a code point above the last one. -/
def mayFollow (first second : UInt8) : Bool :=
  isContinuation second &&
    !(first == 0xE0 && second < 0xA0) && !(first == 0xED && second ≥ 0xA0) &&
    !(first == 0xF0 && second < 0x90) && !(first == 0xF4 && second ≥ 0x90)

/-- How many bytes a sequence has that starts with `first`; zero if none does. -/
def sequenceLength (first : UInt8) : Nat :=
  if first < 0x80 then 1
  else if first < 0xC2 then 0
  else if first < 0xE0 then 2
  else if first < 0xF0 then 3
  else if first < 0xF5 then 4
  else 0

/-- The fault of the sequence of `length` bytes that starts with `first`, if it is ill-formed. -/
def sequenceFault? (position : Nat) (first : UInt8) (rest : List UInt8) : Option Fault :=
  match sequenceLength first with
  | 0 => some ⟨position, [first], .start⟩
  | 1 => none
  | length =>
    let following := rest.take (length - 1)
    let good := following.zipIdx.takeWhile fun (b, i) =>
      if i == 0 then mayFollow first b else isContinuation b
    if good.length == length - 1 then none
    else
      let rule := if good.length == following.length then Rule.ending else .continuation
      some ⟨position, first :: good.map Prod.fst, rule⟩

/-- The first ill-formed sequence at or after `position`. -/
def faultFrom (position : Nat) : (skip : Nat) → List UInt8 → Option Fault
  | _, [] => none
  | skip + 1, _ :: rest => faultFrom (position + 1) skip rest
  | 0, first :: rest =>
    match sequenceFault? position first rest with
    | some fault => some fault
    | none => faultFrom (position + 1) (sequenceLength first - 1) rest

/-- The first ill-formed sequence of some bytes. -/
def fault? (bytes : ByteArray) : Option Fault :=
  faultFrom 0 0 bytes.toList

/-- The wording of a broken rule. -/
def Rule.message : Rule → String
  | .start => "invalid start byte"
  | .continuation => "invalid continuation byte"
  | .ending => "unexpected end of data"

/-- The wording of a fault: one byte is shown, several are only counted. -/
def Fault.message (fault : Fault) : String :=
  let place := match fault.bytes with
    | [b] => "byte 0x" ++ String.ofList (hexDigits 2 b.toNat) ++ " in position " ++
        toString fault.position
    | bytes => "bytes in position " ++ toString fault.position ++ "-" ++
        toString (fault.position + bytes.length - 1)
  "'utf-8' codec can't decode " ++ place ++ ": " ++ fault.rule.message

end DartLayers.Text.Utf8
