import DartLayers.Markup.Literal.Fault

/-!
# DartLayers — tokens of literal expressions

An expression is read as a row of tokens. A token remembers the line on which it starts, how many
brackets are open behind it, and whether the scanner met the end of the text in looking for its end.

* **`Literal.Token`** — a token.
* **`Literal.Scanned`** — the tokens of a text, and how they end.
-/

namespace DartLayers.Markup.Literal

/-- The kinds of tokens; `mark` stands for operators, brackets and stray characters, and `close` for
the end of the text. -/
inductive TokenKind where
  | name
  | keyword
  | number
  | quotation
  | mark
  | lineEnd
  | indent
  | close
  deriving Repr, DecidableEq

/-- A token. -/
structure Token where
  kind : TokenKind
  text : List Char
  line : Nat
  level : Nat
  meetsEnd : Bool
  deriving Repr, DecidableEq

/-- How the tokens of a text end: with the end of the text, or where the scanner stops, which it
reports itself or leaves to the reader. -/
inductive Ending where
  | complete
  | faulty (fault : Fault)
  | stalled (fault : Fault)
  deriving Repr, DecidableEq

/-- The tokens of a text, how they end, and the innermost bracket that is still open then, with its
line. -/
structure Scanned where
  tokens : List Token
  ending : Ending
  opened : Option (Char × Nat)
  deriving Repr, DecidableEq

/-- Words that are no names. -/
def keywords : List String := [
  "False", "None", "True", "and", "as", "assert", "async", "await", "break", "class", "continue",
  "def", "del", "elif", "else", "except", "finally", "for", "from", "global", "if", "import", "in",
  "is", "lambda", "nonlocal", "not", "or", "pass", "raise", "return", "try", "while", "with",
  "yield"]

/-- Marks of more than one character; a mark is as long as possible. -/
def longMarks : List String := [
  "**=", "...", "//=", "<<=", ">>=", "!=", "%=", "&=", "**", "*=", "+=", "-=", "->", "//", "/=",
  ":=", "<<", "<=", "<>", "==", ">=", ">>", "@=", "^=", "|="]

end DartLayers.Markup.Literal
