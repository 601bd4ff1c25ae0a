import DartLayers.Markup.Literal.Quotation
import DartLayers.Markup.Literal.Reading

/-!
# DartLayers — literal expressions

The parameters of a handler are a literal expression: numbers, quoted texts, truth values, and
tuples, sets and mappings of them. The console wants only to know that they have a value, so that is
all that is found out here.

* **`Literal.check`** — whether a text is a literal expression with a value.
-/

namespace DartLayers.Markup.Literal

/-! ## Values -/

/-- What is known of a value: whether it can be a member or a key, whether it is a number, and if it
is a whole one, its size. -/
inductive Value where
  | plain
  | set
  | mapping
  | tuple (items : List Value)
  | whole (size : Nat)
  | fraction
  | imaginary

namespace Value

/-- Whether a value is a number, and none that is imaginary. -/
def isReal : Value → Bool
  | .whole _ | .fraction => true
  | _ => false

/-- Whether a value is a number. -/
def isNumber : Value → Bool
  | .imaginary => true
  | value => value.isReal

mutual

/-- What keeps a value from being a member or a key. -/
def unhashable? : Value → Option String
  | .set => some "set"
  | .mapping => some "dict"
  | .tuple items => unhashableOf? items
  | _ => none

/-- What keeps the first such value from being a member or a key. -/
def unhashableOf? : List Value → Option String
  | [] => none
  | item :: rest => item.unhashable?.or (unhashableOf? rest)

end

/-- Refuses a value that can be no member and no key. -/
def requireHashable (value : Value) : Except ValueFault Unit :=
  match value.unhashable? with
  | some kind => .error (.unhashable kind)
  | none => .ok ()

/-- The value of a number as it is written. -/
def ofNumber (text : List Char) : Value :=
  let digits := text.filter (· != '_')
  let lower := digits.map Char.toLower
  if lower.getLast? == some 'j' then .imaginary
  else
    match lower with
    | '0' :: 'x' :: rest => .whole (Text.valueOfDigits 16 (rest.filterMap Text.hexValue?))
    | '0' :: 'o' :: rest => .whole (Text.valueOfDigits 8 (rest.filterMap Text.hexValue?))
    | '0' :: 'b' :: rest => .whole (Text.valueOfDigits 2 (rest.filterMap Text.hexValue?))
    | _ => if lower.all Char.isDigit then .whole (Text.decimalValue lower) else .fraction

/-- The sum or the difference of a number and an imaginary one. -/
def combine (left right : Value) : Except ValueFault Value :=
  match left, right with
  | .whole size, .imaginary =>
    if (Double.ofDecimal false size 0).isFinite then .ok .imaginary else .error .hugeNumber
  | .fraction, .imaginary => .ok .imaginary
  | _, _ => .error .notLiteral

end Value

/-! ## Evaluation -/

/-- The parts between commas. -/
def listedParts (parts : List Phrase) : List Phrase :=
  parts.filter fun part => !part.isWord "," && !part.isWord "(" && !part.isWord ")" &&
    !part.isWord "\x7b" && !part.isWord "\x7d"

/-- The value of a token. -/
def valueOfToken (token : Token) : Except ValueFault Value :=
  if token.kind = .number then .ok (.ofNumber token.text)
  else if token.kind = .name then .error .notLiteral
  else .ok .plain

/-- The value of a phrase, nested at most `bound` deep. -/
def evaluate : (bound : Nat) → Phrase → Except ValueFault Value
  | 0, _ => .error .notLiteral
  | bound + 1, phrase =>
    match phrase with
    | .leaf token => valueOfToken token
    | .node .quotations parts =>
      if parts.any Phrase.hasPlaceholders then .error .notLiteral else .ok .plain
    | .node .whole (expression :: _) => evaluate bound expression
    | .node .bracketed [_, inner, _] => evaluate bound inner
    | .node .expressions (first :: second :: rest) => do
      return .tuple (← (listedParts (first :: second :: rest)).mapM (evaluate bound))
    | .node .tuple parts => evaluateTuple bound parts
    | .node .set [_, .node _ members, _] => evaluateSet bound (listedParts members)
    | .node .dictionary [_, .node _ entries, _] => evaluateEntries bound (listedParts entries)
    | .node .dictionary _ => .ok .mapping
    | .node .primary [function, opening, closing] =>
      if isSetName function && opening.isWord "(" && closing.isWord ")" then .ok .set
      else .error .notLiteral
    | .node .sum parts => evaluateSum bound parts
    | .node .factor [sign, operand] => evaluateSigned bound sign operand
    | .node .yielded _ => .error .notLiteral
    | .node _ [part] => evaluate bound part
    | .node _ _ => .error .notLiteral
where
  /-- The value of a tuple, given its parts with the brackets around them. -/
  evaluateTuple (bound : Nat) (parts : List Phrase) : Except ValueFault Value := do
    let items := (listedParts parts).flatMap fun part =>
      match part with
      | .node .starNamedExpressions others => listedParts others
      | _ => [part]
    return .tuple (← items.mapM (evaluate bound))
  /-- The value of a set: its members are evaluated and checked one after the other. -/
  evaluateSet (bound : Nat) (members : List Phrase) : Except ValueFault Value := do
    members.forM fun member => do (← evaluate bound member).requireHashable
    return .set
  /-- The value of a mapping: of each entry first the key, then the value is evaluated, and then the
  key is checked. -/
  evaluateEntries (bound : Nat) (entries : List Phrase) : Except ValueFault Value := do
    entries.forM fun entry => do
      match entry with
      | .node .entry [.node .pair [key, _, value]] => do
        let key ← evaluate bound key
        discard (evaluate bound value)
        key.requireHashable
      | _ => throw .unpacking
    return .mapping
  /-- The value of a sum, of which only those of two numbers have one. -/
  evaluateSum (bound : Nat) (parts : List Phrase) : Except ValueFault Value := do
    match parts with
    | [part] => evaluate bound part
    | [left, _, right] =>
      let left ← evaluateNumber bound left
      let right ← evaluateNumber bound right
      if isSigned bound (.node .sum [parts.getLast?.getD (.node .sum [])]) then throw .notLiteral
      else left.combine right
    | _ => throw .notLiteral
  /-- The value of a number with a sign. -/
  evaluateSigned (bound : Nat) (sign operand : Phrase) : Except ValueFault Value := do
    if sign.isWord "~" || isSigned bound operand then throw .notLiteral
    else evaluateNumber bound operand
  /-- The value of a phrase that has to be a number. -/
  evaluateNumber (bound : Nat) (phrase : Phrase) : Except ValueFault Value := do
    let value ← evaluate bound phrase
    if value.isNumber then return value else throw .notLiteral
  /-- Whether a phrase is a number with a sign or a sum. -/
  isSigned : (bound : Nat) → Phrase → Bool
    | 0, _ => true
    | bound + 1, phrase =>
      match phrase with
      | .leaf _ => false
      | .node .bracketed [_, inner, _] => isSigned bound inner
      | .node _ [part] => isSigned bound part
      | .node _ _ => true
  /-- Whether a phrase is the name of sets. -/
  isSetName : Phrase → Bool
    | .leaf token => token.kind == .name && token.text == "set".toList
    | .node _ [part] => isSetName part
    | .node _ _ => false

/-! ## Texts -/

/-- What is wrong with quoted texts side by side, with placeholders nested at most `bound` deep. The
expression of a placeholder is read in brackets. -/
def quotationFault? : (bound : Nat) → List Token → Option Fault
  | 0, _ => none
  | bound + 1, tokens =>
    partsFault? (fun expression =>
      match readPhrase .embedded (quotationFault? bound) ('(' :: expression ++ [')', '\n']) with
      | .ok _ => none
      | .error fault => some fault) none tokens

/-- Why a text is no literal expression with a value. -/
inductive Refusal where
  | form (fault : Fault)
  | value (fault : ValueFault)
  deriving Repr, DecidableEq

/-- Blanks that may stand in front of an expression. -/
def isLeadingBlank (c : Char) : Bool :=
  c == ' ' || c == '\t'

/-- Checks that a text is a literal expression with a value. -/
def check (text : List Char) : Except Refusal Unit :=
  let text := text.dropWhile isLeadingBlank
  if text.contains '\x00' then .error (.value .nullCharacter)
  else
    match readPhrase .whole (quotationFault? (text.length + 1)) text with
    | .error fault => .error (.form fault)
    | .ok phrase =>
      match evaluate (200 * (text.length + 2)) phrase with
      | .ok _ => .ok ()
      | .error fault => .error (.value fault)

end DartLayers.Markup.Literal
