import DartLayers.Markup.Escape
import DartLayers.Text.Split

/-!
# DartLayers — the pieces of a marked-up text

A marked-up text is a row of tags with texts before, between and after them. The texts on both sides
of an escaped tag, and the tag itself, are pieces of their own: what spans two pieces is not seen as
one.

* **`Markup.Piece`** — a text, or a tag with its place.
* **`Markup.piecesOf`** — the pieces of a text.
-/

namespace DartLayers.Markup

/-- A tag: the position of its bracket, its name, and what follows the first equals sign in it. -/
structure Tag where
  position : Nat
  name : List Char
  parameters : Option (List Char)
  deriving Repr, DecidableEq

/-- A tag at a position with the text between its brackets. -/
def Tag.ofText (position : Nat) (text : List Char) : Tag :=
  let (name, parameters) := Text.cutAt '=' text
  { position, name, parameters }

/-- A tag as it is written. -/
def Tag.text (tag : Tag) : List Char :=
  match tag.parameters with
  | none => '[' :: tag.name ++ [']']
  | some parameters => '[' :: tag.name ++ '=' :: parameters ++ [']']

/-- A stretch of text that is shown, or a tag. -/
inductive Piece where
  | text (text : List Char)
  | tag (tag : Tag)
  deriving Repr, DecidableEq

/-- Where a text is read: outside of tags, behind a text and some backslashes, or inside a tag that
starts at a position and may be escaped. What has been read is kept last character first. -/
inductive Place where
  | outside (read : List Char) (backslashes : Nat)
  | inside (isEscaped : Bool) (start : Nat) (read : List Char)

/-- A text without the backslashes that protect brackets in it. -/
def dropProtection : List Char → List Char
  | [] => []
  | '\\' :: '[' :: rest => '[' :: dropProtection rest
  | c :: rest => c :: dropProtection rest

/-- The piece of a text, if there is any. -/
def textPiece (text : List Char) : List Piece :=
  if text.isEmpty then [] else [.text (dropProtection text)]

/-- The piece of a tag, which is shown if it is escaped. -/
def tagPiece (isEscaped : Bool) (start : Nat) (text : List Char) : Piece :=
  if isEscaped then .text ('[' :: text ++ [']']) else .tag (.ofText start text)

/-- The pieces of a text that is read from a position on. -/
def piecesFrom : (position : Nat) → Place → List Char → List Piece
  | _, .outside read backslashes, [] => textPiece (read.reverse ++ List.replicate backslashes '\\')
  | _, .inside _ _ _, [] => []
  | position, .outside read backslashes, c :: rest =>
    if c = '\\' then piecesFrom (position + 1) (.outside read (backslashes + 1)) rest
    else if c = '[' && isTag rest then
      textPiece read.reverse ++ textPiece (List.replicate (backslashes / 2) '\\') ++
        piecesFrom (position + 1) (.inside (backslashes % 2 = 1) position []) rest
    else
      let read := c :: List.replicate backslashes '\\' ++ read
      piecesFrom (position + 1) (.outside read 0) rest
  | position, .inside isEscaped start read, c :: rest =>
    if c = ']' then
      tagPiece isEscaped start read.reverse :: piecesFrom (position + 1) (.outside [] 0) rest
    else piecesFrom (position + 1) (.inside isEscaped start (c :: read)) rest

/-- The pieces of a marked-up text. -/
def piecesOf (markup : List Char) : List Piece :=
  piecesFrom 0 (.outside [] 0) markup

end DartLayers.Markup
