/-!
# DartLayers — escaping for the console

The console reads `[name]` in a shown text as a tag that starts a style and `[/name]` or `[/]` as
one that ends it. Backslashes before a tag are special: each pair of them stands for one, and an odd
one makes the tag plain text.

* **`Markup.isTag`** — whether a bracket opens a tag.
* **`Markup.escape`** — a text written so that the console shows it as it is.
-/

namespace DartLayers.Markup

/-- The first character of a tag's text. -/
def startsTag (c : Char) : Bool :=
  c.isLower || c == '#' || c == '/' || c == '@'

/-- Whether an opening bracket with the given text after it is that of a tag. -/
def isTag : List Char → Bool
  | [] => false
  | c :: rest => startsTag c && (rest.takeWhile (· != '[')).contains ']'

/-- Escapes a text with `pending` backslashes before it: those before a tag are doubled, and one
more makes the tag plain. -/
def escapeTags : (pending : Nat) → List Char → List Char
  | pending, [] => List.replicate pending '\\'
  | pending, c :: rest =>
    if c = '\\' then escapeTags (pending + 1) rest
    else if c = '[' && isTag rest then
      List.replicate (2 * pending + 1) '\\' ++ '[' :: escapeTags 0 rest
    else List.replicate pending '\\' ++ c :: escapeTags 0 rest

/-- Doubles a single backslash at the end of a text, where it could meet a tag. -/
def guardEnd (text : List Char) : List Char :=
  match text.reverse with
  | ['\\'] => ['\\', '\\']
  | '\\' :: c :: _ => if c = '\\' then text else text ++ ['\\']
  | _ => text

/-- A text written so that none of it is a tag. -/
def escape (text : String) : String :=
  String.ofList (guardEnd (escapeTags 0 text.toList))

end DartLayers.Markup
