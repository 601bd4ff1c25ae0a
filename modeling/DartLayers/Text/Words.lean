/-!
# DartLayers — words and identifier cases

Every generated name is built from the *words* of some text: maximal runs of ASCII letters and
digits, cut further at case boundaries (`userProfile`, `HTTPResponse`). Everything that is not an
ASCII letter or digit separates words and is dropped.

* **`endsWordBetween`** — the boundary rule, on two neighbours and the character after them.
* **`words`** — the split itself, a right fold: a character joins the first word of what follows
  unless a separator or a boundary stands between them.
* **`toPascal`, `toCamel`, `toSnake`** — the three spellings of a list of words.
-/

namespace DartLayers.Text

/-- A word ends between the alphanumeric neighbours `prev` and `next` when a lower-case letter or a
digit meets a capital, or when a capital meets a capital that starts a capitalised word. -/
def endsWordBetween (prev next : Char) (after : Option Char) : Bool :=
  ((prev.isLower || prev.isDigit) && next.isUpper) ||
    (prev.isUpper && next.isUpper && after.any Char.isLower)

/-- Whether the first character of `rest` continues the word that `c` belongs to. -/
def joinsNext (c : Char) : List Char → Bool
  | [] => false
  | next :: after => next.isAlphanum && !endsWordBetween c next after.head?

/-- Puts `c` in front of the first word. -/
def consFirst (c : Char) : List (List Char) → List (List Char)
  | [] => [[c]]
  | word :: others => (c :: word) :: others

/-- The words of a text, in order. -/
def words : List Char → List (List Char)
  | [] => []
  | c :: rest =>
    if c.isAlphanum then
      if joinsNext c rest then consFirst c (words rest) else [c] :: words rest
    else
      words rest

/-- A word with a capital first letter and lower-case letters after it. -/
def capitalize : List Char → List Char
  | [] => []
  | c :: rest => c.toUpper :: rest.map Char.toLower

/-- Words capitalised and joined. -/
def pascalChars (text : List Char) : List Char :=
  (words text).flatMap capitalize

/-- Words capitalised and joined, the very first letter lowered. -/
def camelChars (text : List Char) : List Char :=
  match pascalChars text with
  | [] => []
  | c :: rest => c.toLower :: rest

/-- Words lowered and joined by underscores. -/
def snakeChars (text : List Char) : List Char :=
  ['_'].intercalate ((words text).map (List.map Char.toLower))

/-- `order-items` becomes `OrderItems`. -/
def toPascal (text : String) : String :=
  String.ofList (pascalChars text.toList)

/-- `order-items` becomes `orderItems`. -/
def toCamel (text : String) : String :=
  String.ofList (camelChars text.toList)

/-- `OrderItems` becomes `order_items`. -/
def toSnake (text : String) : String :=
  String.ofList (snakeChars text.toList)

/-- The words of a string, as strings. -/
def splitWords (text : String) : List String :=
  (words text.toList).map String.ofList

/-- Whether a string starts with an ASCII digit. -/
def startsWithDigit (text : String) : Bool :=
  text.toList.head?.any Char.isDigit

end DartLayers.Text
