/-!
# DartLayers — bytes written as text

Four letters stand for three bytes. Characters that are no letters are passed over; a padding that
completes a group ends the text.
-/

namespace DartLayers.Yaml

/-- The six bits of a letter. -/
def letterBits? (c : Char) : Option Nat :=
  if 'A' ≤ c && c ≤ 'Z' then some (c.toNat - 0x41)
  else if 'a' ≤ c && c ≤ 'z' then some (c.toNat - 0x47)
  else if '0' ≤ c && c ≤ '9' then some (c.toNat + 4)
  else if c == '+' then some 62
  else if c == '/' then some 63
  else none

/-- The bytes of a text, given the letters of the group before it and how many paddings stand
between. A group that has begun must be completed. -/
def decodeLetters (group : List Nat) (paddings : Nat) : List Char → Option (List UInt8)
  | [] => if group.isEmpty then some [] else none
  | '=' :: rest =>
    match group with
    | [a, b] =>
      -- A group of two letters takes two paddings.
      if paddings ≥ 1 then some [UInt8.ofNat (a * 4 + b / 16)]
      else decodeLetters group (paddings + 1) rest
    | [a, b, c] => some [UInt8.ofNat (a * 4 + b / 16), UInt8.ofNat (b * 16 + c / 4)]
    | _ => decodeLetters group paddings rest
  | letter :: rest =>
    match letterBits? letter with
    | none => decodeLetters group paddings rest
    | some bits =>
      match group with
      | [a, b, c] =>
        (decodeLetters [] 0 rest).map fun bytes =>
          UInt8.ofNat (a * 4 + b / 16) :: UInt8.ofNat (b * 16 + c / 4) ::
            UInt8.ofNat (c * 64 + bits) :: bytes
      | _ => decodeLetters (group ++ [bits]) 0 rest

/-- The bytes of a text in ASCII. -/
def decodeBase64 (text : List Char) : Option (List UInt8) :=
  if text.all fun c => c.toNat < 0x80 then decodeLetters [] 0 text else none

end DartLayers.Yaml
