/-!
# DartLayers — blank characters

What counts as blank around an endpoint, a method, an answer or a line: the characters of Unicode
with the white-space or paragraph-separating bidirectional classes, which include the four
information separators U+001C to U+001F.
-/

namespace DartLayers.Text

/-- Blank characters: ASCII white space, the information separators, next line, and the Unicode
spaces and line or paragraph separators. -/
def isBlank (c : Char) : Bool :=
  let n := c.toNat
  (0x09 ≤ n && n ≤ 0x0D) || (0x1C ≤ n && n ≤ 0x20) || n == 0x85 || n == 0xA0 || n == 0x1680 ||
    (0x2000 ≤ n && n ≤ 0x200A) || n == 0x2028 || n == 0x2029 || n == 0x202F || n == 0x205F ||
    n == 0x3000

/-- White space in the sense of Unicode's property: blanks other than the information separators. -/
def isWhiteSpace (c : Char) : Bool :=
  isBlank c && !(0x1C ≤ c.toNat && c.toNat ≤ 0x1F)

/-- Drops characters of the class `p` from the end. -/
def dropEndWhile (p : Char → Bool) (text : List Char) : List Char :=
  (text.reverse.dropWhile p).reverse

/-- Drops characters of the class `p` from both ends. -/
def trimWhile (p : Char → Bool) (text : List Char) : List Char :=
  dropEndWhile p (text.dropWhile p)

/-- A string without the blanks around it. -/
def trim (text : String) : String :=
  String.ofList (trimWhile isBlank text.toList)

/-- A string without the slashes at its end. -/
def dropEndSlashes (text : String) : String :=
  String.ofList (dropEndWhile (· == '/') text.toList)

end DartLayers.Text
