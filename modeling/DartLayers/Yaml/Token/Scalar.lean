import DartLayers.Yaml.Token

/-!
# DartLayers — reading scalars

The four ways to write a scalar, each read from its first character on. A line break inside a
quoted or plain scalar is folded: one break becomes a space, more of them lose the first.

* **`Reading.flowScalar`** — between single or double quotes.
* **`Reading.blockScalar`** — indented lines after a header, literal or folded.
* **`Reading.plainScalar`** — without quotes, ended by what cannot belong to it.
-/

namespace DartLayers.Yaml

/-- What line breaks inside a scalar stand for. -/
def foldedBreaks (first others : List Char) : List Char :=
  (if first != ['\n'] then first else if others.isEmpty then [' '] else []) ++ others

/-- The character that a one-letter escape stands for. -/
def escapedChar? : Char → Option Char
  | '0' => some '\x00'
  | 'a' => some '\x07'
  | 'b' => some '\x08'
  | 't' => some '\t'
  | '\t' => some '\t'
  | 'n' => some '\n'
  | 'v' => some '\x0b'
  | 'f' => some '\x0c'
  | 'r' => some '\r'
  | 'e' => some '\x1b'
  | ' ' => some ' '
  | '"' => some '"'
  | '\\' => some '\\'
  | '/' => some '/'
  | 'N' => some (Char.ofNat 0x85)
  | '_' => some (Char.ofNat 0xA0)
  | 'L' => some (Char.ofNat 0x2028)
  | 'P' => some (Char.ofNat 0x2029)
  | _ => none

/-- How many hexadecimal digits an escape letter takes. -/
def escapeWidth? : Char → Option Nat
  | 'x' => some 2
  | 'u' => some 4
  | 'U' => some 8
  | _ => none

/-- What may follow the colon that ends a key. -/
def endsKey (inFlow : Bool) (c : Char) : Bool :=
  endsWord c || (inFlow && isFlowIndicator c)

/-- How many characters of a text belong to a plain scalar before a blank or its end. -/
def plainLength (inFlow : Bool) : List Char → Nat
  | [] => 0
  | c :: rest =>
    if endsWord c || (c == ':' && endsKey inFlow (rest.headD endOfText)) ||
        (inFlow && (c == '?' || isFlowIndicator c)) then 0
    else plainLength inFlow rest + 1

/-- What becomes of the line breaks at the end of a block scalar. -/
inductive Chomping where
  | clip
  | strip
  | keep
  deriving Repr, DecidableEq

namespace Reading

/-! ## Quoted scalars -/

/-- The character with a code; a code beyond the last one has none, and from 2^31 on it is not even
a code. -/
def character (code : Nat) : Reading Char :=
  if code ≥ 0x80000000 then throw (.value .hugeCode)
  else if code > 0x10FFFF then throw (.value .noCharacter)
  else return if 0xD800 ≤ code && code ≤ 0xDFFF then Char.ofNat 0xFFFD else Char.ofNat code

/-- The empty lines inside a quoted scalar; a document mark may not stand there. -/
def flowBreaks : (bound : Nat) → Reading (List Char)
  | 0 => return []
  | bound + 1 => do
    require !(← get).atDocumentMark
    skipWhile isBlank
    if isBreak (← peek) then return (← lineBreak) ++ (← flowBreaks bound)
    else return []

/-- What stands for an escape after its backslash. -/
def escape : Reading (List Char) := do
  let c ← peek
  match escapedChar? c, escapeWidth? c with
  | some char, _ =>
    advance 1
    return [char]
  | none, some width =>
    advance 1
    return [← character (← hexCode width)]
  | none, none =>
    require (isBreak c)
    discard lineBreak
    flowBreaks (← get).bound

/-- The text of a quoted scalar up to a blank, a break or its end. -/
def flowText (double : Bool) : (bound : Nat) → Reading (List Char)
  | 0 => return []
  | bound + 1 => do
    let text ← takeWhile fun c => !(c == '\'' || c == '"' || c == '\\' || endsWord c)
    let c ← peek
    if !double && c == '\'' && (← get).peekAt 1 == '\'' then
      advance 2
      return text ++ '\'' :: (← flowText double bound)
    else if (double && c == '\'') || (!double && (c == '"' || c == '\\')) then
      advance 1
      return text ++ c :: (← flowText double bound)
    else if double && c == '\\' then
      advance 1
      let escaped ← escape
      return text ++ escaped ++ (← flowText double bound)
    else return text

/-- Blanks inside a quoted scalar, or the line breaks that they surround. -/
def flowSpaces : Reading (List Char) := do
  let blanks ← takeWhile isBlank
  let c ← peek
  require (c != endOfText)
  if isBreak c then
    let first ← lineBreak
    return foldedBreaks first (← flowBreaks (← get).bound)
  else return blanks

/-- The words of a quoted scalar after the first, with what separates them. -/
def flowWords (quote : Char) : (bound : Nat) → Reading (List Char)
  | 0 => return []
  | bound + 1 => do
    if (← peek) == quote then return []
    else
      let spaces ← flowSpaces
      let text ← flowText (quote == '"') (← get).bound
      return spaces ++ text ++ (← flowWords quote bound)

/-- A quoted scalar. -/
def flowScalar (quote : Char) : Reading (List Char) := do
  advance 1
  let first ← flowText (quote == '"') (← get).bound
  let others ← flowWords quote (← get).bound
  advance 1
  return first ++ others

/-! ## Block scalars -/

/-- The sign in the header of a block scalar. -/
def chomping? : Reading (Option Chomping) := do
  match ← peek with
  | '+' => advance 1; return some .keep
  | '-' => advance 1; return some .strip
  | _ => return none

/-- The digit in the header of a block scalar; it cannot be zero. -/
def indentation? : Reading (Option Nat) := do
  let c ← peek
  if c.isDigit then
    require (c != '0')
    advance 1
    return some (c.toNat - 0x30)
  else return none

/-- The header of a block scalar: a sign and a digit in either order, each if it is there. -/
def blockHeader : Reading (Chomping × Option Nat) := do
  let before ← chomping?
  let indentation ← indentation?
  let after ← if before.isNone && indentation.isSome then chomping? else pure none
  require (endsItem (← peek))
  restOfLine
  return ((before.or after).getD .clip, indentation)

/-- The empty lines at the start of a block scalar and the deepest column of their spaces. -/
def leadingBreaks : (bound : Nat) → (deepest : Nat) → Reading (List Char × Nat)
  | 0, deepest => return ([], deepest)
  | bound + 1, deepest => do
    let c ← peek
    if c == ' ' then
      advance 1
      leadingBreaks bound (max deepest (← column))
    else if isBreak c then
      let first ← lineBreak
      let (others, deepest) ← leadingBreaks bound deepest
      return (first ++ others, deepest)
    else return ([], deepest)

/-- Passes over the indentation of a line. -/
def skipIndent (indent : Nat) : Reading Unit := do
  let cursor ← get
  advance (min (cursor.rest.takeWhile (· == ' ')).length (indent - cursor.column))

/-- The empty lines inside a block scalar, and the indentation of the line after them. -/
def blockBreaks (indent : Nat) : (bound : Nat) → Reading (List Char)
  | 0 => return []
  | bound + 1 => do
    skipIndent indent
    if isBreak (← peek) then return (← lineBreak) ++ (← blockBreaks indent bound)
    else return []

/-- Whether another line of a block scalar starts here. -/
def atBlockLine (indent : Nat) : Reading Bool := do
  let cursor ← get
  return cursor.column == indent && cursor.peek != endOfText

/-- The lines of a block scalar: their text, the break after the last one, and the breaks of the
empty lines after it. Between two lines that do not start with a blank, folding applies. -/
def blockLines (folded : Bool) (indent : Nat) :
    (bound : Nat) → (breaks : List Char) → Reading (List Char × List Char × List Char)
  | 0, breaks => return ([], [], breaks)
  | bound + 1, breaks => do
    let startsBlank := isBlank (← peek)
    let text ← takeWhile fun c => !endsLine c
    let ending ← lineBreak
    let following ← blockBreaks indent (← get).bound
    if ← atBlockLine indent then
      -- Folding joins two lines only if neither of them starts with a blank.
      let joint := if folded && ending == ['\n'] && !startsBlank && !isBlank (← peek) then
          if following.isEmpty then [' '] else []
        else ending
      let (lines, last, tail) ← blockLines folded indent bound following
      return (breaks ++ text ++ joint ++ lines, last, tail)
    else return (breaks ++ text, ending, following)

/-- A block scalar inside a collection that is indented to `column`; without a collection around it
the scalar may start in the second column. -/
def blockScalar (folded : Bool) (column : Int) : Reading (List Char) := do
  advance 1
  let (chomping, indentation) ← blockHeader
  let least := max (column + 1).toNat 1
  let (breaks, indent) ← match indentation with
    | none => do
      let (breaks, deepest) ← leadingBreaks (← get).bound 0
      pure (breaks, max least deepest)
    | some width => do
      let indent := least + width - 1
      pure (← blockBreaks indent (← get).bound, indent)
  let (text, last, tail) ←
    if ← atBlockLine indent then blockLines folded indent (← get).bound breaks
    else pure ([], [], breaks)
  return text ++ (if chomping == .strip then [] else last) ++
    (if chomping == .keep then tail else [])

/-! ## Plain scalars -/

/-- The empty lines inside a plain scalar; none if a document mark follows. -/
def plainBreaks : (bound : Nat) → Reading (Option (List Char))
  | 0 => return some []
  | bound + 1 => do
    let c ← peek
    if c == ' ' then
      advance 1
      plainBreaks bound
    else if isBreak c then
      let first ← lineBreak
      if (← get).atDocumentMark then return none
      else return (← plainBreaks bound).map (first ++ ·)
    else return some []

/-- Spaces inside a plain scalar, or the line breaks that they surround, and whether there was a
break. -/
def plainSpaces : Reading (List Char × Bool) := do
  let spaces ← takeWhile (· == ' ')
  if isBreak (← peek) then
    let first ← lineBreak
    if (← get).atDocumentMark then return ([], true)
    else match ← plainBreaks (← get).bound with
      | none => return ([], true)
      | some others => return (foldedBreaks first others, true)
  else return (spaces, false)

/-- The words of a plain scalar after `spaces`, and whether its end was met after a line break. -/
def plainWords (inFlow : Bool) (indent : Int) :
    (bound : Nat) → (spaces : List Char) → (afterBreak : Bool) → Reading (List Char × Bool)
  | 0, _, afterBreak => return ([], afterBreak)
  | bound + 1, spaces, afterBreak => do
    let cursor ← get
    let length := if cursor.peek == '#' then 0 else plainLength inFlow cursor.rest
    if length == 0 then return ([], afterBreak)
    else
      let text ← take length
      let (next, broken) ← plainSpaces
      let cursor ← get
      -- A comment ends the scalar only behind a blank, which is why spaces were read first.
      if next.isEmpty || cursor.peek == '#' || (!inFlow && cursor.column < indent) then
        return (spaces ++ text, broken)
      else
        let (others, broken) ← plainWords inFlow indent bound next broken
        return (spaces ++ text ++ others, broken)

/-- A plain scalar inside a collection that is indented to `column`, and whether its end was met
after a line break. -/
def plainScalar (inFlow : Bool) (column : Int) : Reading (List Char × Bool) := do
  plainWords inFlow (column + 1) (← get).bound [] false

end Reading

end DartLayers.Yaml
