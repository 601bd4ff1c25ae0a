import DartLayers.Text.Digits
import DartLayers.Yaml.Character
import DartLayers.Yaml.Fault

/-!
# DartLayers — a place in a YAML text

A cursor is the text that is still to be read with its place: how many characters precede it, on
which line it is and in which column. A byte order mark has no width.

* **`Cursor.step`** — the place after one character.
* **`Reading`** — a reader that moves a cursor or fails.
-/

namespace DartLayers.Yaml

/-- What is left of a text, and its place. -/
structure Cursor where
  rest : List Char
  index : Nat := 0
  line : Nat := 0
  column : Nat := 0
  deriving Repr, DecidableEq

namespace Cursor

/-- The next character. -/
def peek (cursor : Cursor) : Char :=
  cursor.rest.headD endOfText

/-- The character that is `distance` after the next one. -/
def peekAt (cursor : Cursor) (distance : Nat) : Char :=
  cursor.rest.getD distance endOfText

/-- Whether a line ends between a character and the next one. -/
def breaksAfter (c : Char) (next : Option Char) : Bool :=
  isBreak c && !(c == '\r' && next == some '\n')

/-- The place after one character. -/
def step (cursor : Cursor) : Cursor :=
  match cursor.rest with
  | [] => cursor
  | c :: rest =>
    if breaksAfter c rest.head? then ⟨rest, cursor.index + 1, cursor.line + 1, 0⟩
    else if c == byteOrderMark then ⟨rest, cursor.index + 1, cursor.line, cursor.column⟩
    else ⟨rest, cursor.index + 1, cursor.line, cursor.column + 1⟩

/-- The place after some characters. -/
def advance : Nat → Cursor → Cursor
  | 0, cursor => cursor
  | count + 1, cursor => advance count cursor.step

/-- Whether a line consists of a given mark of three characters and what may follow it. -/
def atMark (mark : Char) (cursor : Cursor) : Bool :=
  cursor.rest.take 3 == [mark, mark, mark] && endsWord (cursor.peekAt 3)

/-- Whether a document starts or ends here; this matters at the start of a line only. -/
def atDocumentMark (cursor : Cursor) : Bool :=
  cursor.atMark '-' || cursor.atMark '.'

/-- How many steps are certainly enough for a loop that consumes characters. -/
def bound (cursor : Cursor) : Nat :=
  cursor.rest.length + 1

end Cursor

/-! ## Readers -/

/-- A reader of a text. -/
abbrev Reading := StateT Cursor (Except Fault)

namespace Reading

/-- Refuses the text. -/
def refuse {α : Type} : Reading α := throw .malformed

/-- Refuses the text unless a condition holds. -/
def require (condition : Bool) : Reading Unit :=
  if condition then pure () else refuse

/-- The next character. -/
def peek : Reading Char := return (← get).peek

/-- The column of the next character. -/
def column : Reading Nat := return (← get).column

/-- Passes over some characters. -/
def advance (count : Nat) : Reading Unit := modify (Cursor.advance count)

/-- Takes some characters. -/
def take (count : Nat) : Reading (List Char) := do
  let cursor ← get
  set (cursor.advance count)
  return cursor.rest.take count

/-- Takes the characters of a class. -/
def takeWhile (p : Char → Bool) : Reading (List Char) := do
  take ((← get).rest.takeWhile p).length

/-- Passes over the characters of a class. -/
def skipWhile (p : Char → Bool) : Reading Unit := discard (takeWhile p)

/-- Takes a line break, if there is one; the older ones become a line feed. -/
def lineBreak : Reading (List Char) := do
  let cursor ← get
  let c := cursor.peek
  if !isBreak c then return []
  else if c == '\r' && cursor.peekAt 1 == '\n' then
    advance 2
    return ['\n']
  else
    advance 1
    return [if c.toNat < 0x2028 then '\n' else c]

/-- Takes hexadecimal digits of a given number and gives their value. -/
def hexCode (width : Nat) : Reading Nat := do
  let digits := (← get).rest.take width
  require (digits.length == width)
  match digits.mapM Text.hexValue? with
  | none => refuse
  | some values =>
    advance width
    return Text.valueOfDigits 16 values

/-- Passes over spaces, a comment and a line break after them; nothing else may stand there. -/
def restOfLine : Reading Unit := do
  skipWhile (· == ' ')
  if (← peek) == '#' then skipWhile (fun c => !endsLine c)
  require (endsLine (← peek))
  discard lineBreak

end Reading

end DartLayers.Yaml
