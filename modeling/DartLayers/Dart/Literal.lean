/-!
# DartLayers — texts inside Dart string literals

A text stands between quotes of either kind. The backslash, both quotes and the dollar sign, which
would start an interpolation, are written after a backslash; every other character stands for
itself. Reading such a text takes each backslash with the character after it.
-/

namespace DartLayers.Dart

/-- Characters that mean something inside a literal. -/
def needsEscape (c : Char) : Bool :=
  c == '\\' || c == '\'' || c == '"' || c == '$'

/-- The inside of a literal for a text. -/
def escapeChars : List Char → List Char
  | [] => []
  | c :: rest => if needsEscape c then '\\' :: c :: escapeChars rest else c :: escapeChars rest

/-- The text that the inside of a literal stands for: a backslash makes the next character
literal. A quote or a dollar sign on its own, and a backslash at the end, are no such inside. -/
def unescapeChars : List Char → Option (List Char)
  | [] => some []
  | '\\' :: c :: rest => (unescapeChars rest).map (c :: ·)
  | c :: rest => if needsEscape c then none else (unescapeChars rest).map (c :: ·)

/-- The inside of a literal for a text. -/
def escape (text : String) : String :=
  String.ofList (escapeChars text.toList)

/-- Reading the inside that was written for a text gives the text. -/
theorem unescapeChars_escapeChars (text : List Char) :
    unescapeChars (escapeChars text) = some text := by
  induction text with
  | nil => rfl
  | cons c rest ih =>
    by_cases h : needsEscape c
    · simp [escapeChars, h, unescapeChars, ih]
    · have hne : c ≠ '\\' := by
        rintro rfl
        exact h (by decide)
      simp [escapeChars, h, unescapeChars, hne, ih]

end DartLayers.Dart
