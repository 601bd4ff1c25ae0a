import DartLayers.Markup.Emoji.Table
import DartLayers.Markup.Style

/-!
# DartLayers — emoji in a shown text

A name between colons stands for a picture, in any case. A variant after the name asks for a
coloured or a plain picture. What names no picture stays, and its second colon does not start
another name.

* **`Emoji.replace`** — a text with the pictures that are named in it.
-/

namespace DartLayers.Markup.Emoji

/-- Names and pictures from words in turn. -/
def pairUp : List String → List (String × String)
  | name :: picture :: rest => (name, picture) :: pairUp rest
  | _ => []

/-- The pictures by their names. -/
def table : List (String × String) :=
  tableLines.flatMap fun line => pairUp (Style.wordsOf line.toList)

/-- The variants of a picture, each with the character that asks for it. -/
def variants : List (List Char × Char) := [
  ("-emoji".toList, Char.ofNat 0xFE0F), ("-text".toList, Char.ofNat 0xFE0E)]

/-- A name without the variant at its end, and the characters that ask for that variant. -/
def splitVariant (name : List Char) : List Char × List Char :=
  match variants.find? fun (ending, _) => ending.isSuffixOf name with
  | some (ending, selector) => (name.take (name.length - ending.length), [selector])
  | none => (name, [])

/-- The picture of a name with a variant or without. -/
def picture? (name : List Char) : Option (List Char) :=
  let (plain, selector) := splitVariant name
  (table.lookup (Text.lower (String.ofList plain))).map fun picture => picture.toList ++ selector

/-- What stands for a name between colons: its picture, or the same. -/
def shown (name : List Char) : List Char :=
  (picture? name).getD (':' :: name ++ [':'])

/-- A text with its pictures, read behind a colon and the characters after it, if these may still
be a name; they are kept last character first. -/
def replaceFrom : (name : Option (List Char)) → List Char → List Char
  | none, [] => []
  | some name, [] => ':' :: name.reverse
  | none, c :: rest => if c = ':' then replaceFrom (some []) rest else c :: replaceFrom none rest
  | some name, c :: rest =>
    if c = ':' then shown name.reverse ++ replaceFrom none rest
    else if Text.isBlank c then ':' :: name.reverse ++ c :: replaceFrom none rest
    else replaceFrom (some (c :: name)) rest

/-- A text with the pictures that are named in it. -/
def replace (text : List Char) : List Char :=
  replaceFrom none text

end DartLayers.Markup.Emoji
