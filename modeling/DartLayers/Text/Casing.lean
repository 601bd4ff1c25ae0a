import DartLayers.Text.Casing.Context
import DartLayers.Text.Casing.Table

/-!
# DartLayers — upper and lower case of any text

Unlike core's `Char.toUpper`, which knows ASCII only, these follow the case mappings of Unicode
character by character; an upper-case form may take several characters. A single character, the
capital sigma, has a lower-case form that depends on its neighbours.
-/

namespace DartLayers.Text

/-- The shifted code point of the run that holds `c`, if one does. -/
def Casing.shifted? (runs : List Casing.Run) (c : Char) : Option Char :=
  (runs.find? (·.holds c.toNat)).map fun run => Char.ofNat ((c.toNat : Int) + run.shift).toNat

/-- The upper-case form of a character. -/
def upperChar (c : Char) : List Char :=
  if c.toNat < 0x80 then [c.toUpper]
  else match Casing.upperExpansions.find? (·.1 == c.toNat) with
    | some (_, codes) => codes.map Char.ofNat
    | none => [(Casing.shifted? Casing.upperRuns c).getD c]

/-- The lower-case form of a character; a capital I with a dot keeps its dot as a combining mark. -/
def lowerChar (c : Char) : List Char :=
  if c.toNat < 0x80 then [c.toLower]
  else if c.toNat == 0x130 then ['i', Char.ofNat 0x307]
  else [(Casing.shifted? Casing.lowerRuns c).getD c]

/-- A text in upper case. -/
def upper (text : String) : String :=
  String.ofList (text.toList.flatMap upperChar)

/-- Whether a text starts with a letter that has case, marks inside words left aside. -/
def startsCased (text : List Char) : Bool :=
  (text.find? fun c => !Casing.isPassedOver c).any Casing.hasCase

/-- The lower-case form of a capital sigma, the text before it given last first. A word that has
begun ends with a form of its own. -/
def lowerSigma (before after : List Char) : Char :=
  if startsCased before && !startsCased after then 'ς' else 'σ'

/-- Characters in lower case that follow other ones, which are given last first. -/
def lowerAfter (before : List Char) : List Char → List Char
  | [] => []
  | c :: after =>
    (if c = 'Σ' then [lowerSigma before after] else lowerChar c) ++ lowerAfter (c :: before) after

/-- Characters in lower case. -/
def lowerChars (text : List Char) : List Char :=
  lowerAfter [] text

/-- A text in lower case. -/
def lower (text : String) : String :=
  String.ofList (lowerChars text.toList)

/-- On ASCII the lower-case form is core's. -/
theorem lowerChar_of_lt {c : Char} (h : c.toNat < 0x80) : lowerChar c = [c.toLower] := by
  simp [lowerChar, h]

end DartLayers.Text
