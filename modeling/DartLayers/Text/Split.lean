import DartLayers.Text.Words

/-!
# DartLayers — cutting a text at a character

`splitOn` cuts at every occurrence and keeps empty pieces; `cutAt` cuts at the first one.
-/

namespace DartLayers.Text

/-- The pieces between the occurrences of `separator`: one more than there are occurrences. -/
def splitOn (separator : Char) : List Char → List (List Char)
  | [] => [[]]
  | c :: rest =>
    if c = separator then [] :: splitOn separator rest else consFirst c (splitOn separator rest)

/-- The text before the first `separator` and, if there is one, the text after it. -/
def cutAt (separator : Char) : List Char → List Char × Option (List Char)
  | [] => ([], none)
  | c :: rest =>
    if c = separator then ([], some rest)
    else
      let (before, after) := cutAt separator rest
      (c :: before, after)

/-- A cut loses nothing but the separator. -/
theorem cutAt_eq (separator : Char) (text : List Char) :
    text = (cutAt separator text).1 ++
      match (cutAt separator text).2 with
      | none => []
      | some after => separator :: after := by
  induction text with
  | nil => rfl
  | cons c rest ih =>
    by_cases h : c = separator
    · simp [cutAt, h]
    · simp only [cutAt, h, if_false, List.cons_append]
      rw [← ih]

end DartLayers.Text
