/-!
# DartLayers — line breaks

Two views of line structure are used. Files are *read* with universal line breaks: a carriage
return, alone or before a line feed, is one line feed (`normalizeBreaks`). Manifests are *edited*
line by line, where many more characters end a line and each line keeps its terminator
(`splitLines`), so that joining the lines gives the text back.
-/

namespace DartLayers.Text

/-- Reads every carriage return, and every pair of carriage return and line feed, as one line
feed. -/
def normalizeBreaks : List Char → List Char
  | [] => []
  | '\r' :: '\n' :: rest => '\n' :: normalizeBreaks rest
  | c :: rest => (if c = '\r' then '\n' else c) :: normalizeBreaks rest

/-- Characters that end a line when a text is cut into lines. -/
def endsLine (c : Char) : Bool :=
  let n := c.toNat
  (0x0A ≤ n && n ≤ 0x0D) || (0x1C ≤ n && n ≤ 0x1E) || n == 0x85 || n == 0x2028 || n == 0x2029

/-- The lines of a text, each with its terminator; only the last may lack one. -/
def splitLines : List Char → List (List Char)
  | [] => []
  | '\r' :: '\n' :: rest => ['\r', '\n'] :: splitLines rest
  | c :: rest =>
    if endsLine c then
      [c] :: splitLines rest
    else
      match splitLines rest with
      | [] => [[c]]
      | line :: others => (c :: line) :: others

/-- How many line breaks a text holds: carriage returns and line feeds. -/
def countBreaks (text : List Char) : Nat :=
  text.countP fun c => c == '\r' || c == '\n'

/-- Cutting into lines loses nothing. -/
theorem flatten_splitLines (text : List Char) : (splitLines text).flatten = text := by
  fun_induction splitLines text with
  | case1 => rfl
  | case2 rest ih => simp [ih]
  | case3 c rest _ _ ih => simp [ih]
  | case4 c rest _ _ h ih => simp_all
  | case5 c rest _ _ line others h ih => simp_all

end DartLayers.Text
