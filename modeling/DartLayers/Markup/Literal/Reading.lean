import DartLayers.Markup.Literal.Grammar
import DartLayers.Markup.Literal.Scan
import Std.Data.HashMap

/-!
# DartLayers — reading an expression

A text is read by the rules of the grammar, first without the rules for mistakes. If that fails, a
second attempt with them looks for the reason. As a rule, a fault that the scanner finds further on
goes before the reason; and so does a bracket that is never closed, if the reader came to a later
line than that of the bracket.

* **`Literal.readPhrase`** — the phrase of a text, or why it has none.
-/

namespace DartLayers.Markup.Literal

/-- Why an attempt stops: the reader came to where the scanner stopped, or a rule refused. -/
inductive Stop where
  | reached (fault : Fault)
  | refused (fault : Fault)

/-- What a pattern comes to: phrases and the place behind them, nothing, or the end of all
alternatives of its rule. -/
inductive Found where
  | matched (parts : List Phrase) (place : Nat)
  | unmatched
  | abandoned

/-- What an attempt remembers: what rules have come to, and the last token that it looked at. -/
structure Memory where
  found : Std.HashMap (Rule × Nat) Found := {}
  reached : Nat := 0

/-- A part of an attempt. -/
abbrev Attempt := ExceptT Stop (StateM Memory)

/-- What an attempt works on: the tokens of a text, why there are no more, and what is wrong with
quoted texts that stand side by side. -/
structure Source where
  tokens : Array Token
  fault? : Option Fault
  quotationFault? : List Token → Option Fault

namespace Attempt

/-- The token at a place, which is looked at. -/
def look (source : Source) (place : Nat) : Attempt (Option Token) := do
  modify fun memory => { memory with reached := max memory.reached place }
  match source.tokens[place]?, source.fault? with
  | some token, _ => return some token
  | none, some fault => throw (.reached fault)
  | none, none => return none

/-- Matches a token. -/
def matchToken (source : Source) (place : Nat) (isMatch : Token → Bool) : Attempt Found := do
  match ← look source place with
  | some token => return if isMatch token then .matched [.leaf token] (place + 1) else .unmatched
  | none => return .unmatched

/-- The digits of a number in base ten. -/
def decimalDigits (text : List Char) : List Char :=
  if text.all fun c => c.isDigit || c == '_' then text.filter Char.isDigit else []

/-- Refuses a number with too many digits. -/
def checkNumber (token : Token) : Attempt Unit := do
  let digits := decimalDigits token.text
  if digits.length > Text.maxIntegerDigits then throw (.refused (.longNumber digits.length))

/-- The quoted texts from a place on. -/
def quotations (source : Source) : (bound place : Nat) → Attempt (List Token)
  | 0, _ => return []
  | bound + 1, place => do
    match ← look source place with
    | some token =>
      if token.kind = .quotation then return token :: (← quotations source bound (place + 1))
      else return []
    | none => return []

/-- Matches quoted texts that stand side by side. -/
def matchQuotations (source : Source) (place : Nat) : Attempt Found := do
  let found ← quotations source (source.tokens.size + 1) place
  if found.isEmpty then return .unmatched
  match source.quotationFault? found with
  | some fault => throw (.refused fault)
  | none => return .matched (found.map .leaf) (place + found.length)

/-- What a rule comes to, given what its pattern has come to. -/
def ofRule (rule : Rule) : Found → Found
  | .matched parts place => .matched [.node rule parts] place
  | .unmatched | .abandoned => .unmatched

/-- Matches a pattern at a place. -/
def matchPattern (source : Source) :
    (bound : Nat) → (seeksMistakes : Bool) → Pattern → (place : Nat) → Attempt Found
  | 0, _, _, _ => return .unmatched
  | bound + 1, seeksMistakes, pattern, place =>
    match pattern with
    | .word text => matchToken source place fun token =>
        (token.kind == .mark || token.kind == .keyword) && token.text == text.toList
    | .kind kind => do
      let found ← matchToken source place fun token => token.kind == kind
      if let .matched [.leaf token] _ := found then
        if kind = .number then checkNumber token
      return found
    | .named names => matchToken source place fun token =>
        token.kind == .name && names.contains (String.ofList token.text)
    | .quotations => matchQuotations source place
    | .rule rule => do
      discard (look source place)
      if rule.isMistake && !seeksMistakes then return .unmatched
      let memory ← get
      match if rule.isRemembered then memory.found[(rule, place)]? else none with
      | some found => return found
      | none =>
        let found := ofRule rule (← matchPattern source bound seeksMistakes rule.pattern place)
        if rule.isRemembered then
          modify fun memory => { memory with found := memory.found.insert (rule, place) found }
        return found
    | .all parts =>
      parts.foldlM (fun found part => do
        match found with
        | .matched before place =>
          match ← matchPattern source bound seeksMistakes part place with
          | .matched parts behind => return .matched (before ++ parts) behind
          | failed => return failed
        | failed => return failed) (.matched [] place)
    | .any alternatives =>
      alternatives.foldlM (fun found alternative => do
        match found with
        | .unmatched => matchPattern source bound seeksMistakes alternative place
        | known => return known) .unmatched
    | .optional part => do
      match ← matchPattern source bound seeksMistakes part place with
      | .matched parts behind => return .matched parts behind
      | _ => return .matched [] place
    | .many part => do
      match ← matchPattern source bound seeksMistakes part place with
      | .matched first behind =>
        match ← matchPattern source bound seeksMistakes (.many part) behind with
        | .matched rest behind => return .matched (first ++ rest) behind
        | _ => return .matched first behind
      | _ => return .matched [] place
    | .ahead part => do
      match ← matchPattern source bound seeksMistakes part place with
      | .matched _ _ => return .matched [] place
      | _ => return .unmatched
    | .notAhead part => do
      match ← matchPattern source bound seeksMistakes part place with
      | .matched _ _ => return .unmatched
      | _ => return .matched [] place
    | .quietly part => matchPattern source bound false part place
    | .refuse part mistake => do
      match ← matchPattern source bound seeksMistakes part place with
      | .matched parts _ =>
        match mistake parts with
        | some cause => throw (.refused (.mistake cause))
        | none => return .abandoned
      | _ => return .unmatched

/-- Matches a rule against a text from its start on. -/
def run (source : Source) (start : Rule) (seeksMistakes : Bool) :
    Except Stop Found × Memory :=
  let attempt := matchPattern source (200 * (source.tokens.size + 2)) seeksMistakes (.rule start) 0
  StateT.run (ExceptT.run attempt) {}

end Attempt

/-- The fault of a text that cannot be read for a reason. Whatever the scanner finds in the rest of
the text goes before it, and so does a bracket on a line before the last token that was looked at,
if it is never closed. -/
def prevailing (scanned : Scanned) (last : Option Token) (reason : Fault) : Fault :=
  match scanned.ending, scanned.opened with
  | .faulty fault, _ => fault
  | .stalled _, some (bracket, line) =>
    if line < (last.map Token.line).getD 0 then .neverClosed bracket else reason
  | _, _ => reason

/-- The fault of a text that the reader refused for a reason. Nothing goes before it once the
scanner has met the end of the text. -/
def refusal (scanned : Scanned) (last : Option Token) (reason : Fault) : Fault :=
  if (last.map Token.meetsEnd).getD false then reason else prevailing scanned last reason

/-- The phrase that a rule matches at the start of a text, or the fault of the text. -/
def readPhrase (start : Rule) (quotationFault? : List Token → Option Fault) (text : List Char) :
    Except Fault Phrase :=
  let scanned := scan text
  let fault? := match scanned.ending with
    | .complete => none
    | .faulty fault | .stalled fault => some fault
  let source : Source := { tokens := scanned.tokens.toArray, fault?, quotationFault? }
  let lastOf (reached : Nat) : Option Token :=
    source.tokens[reached]?.or scanned.tokens.getLast?
  match Attempt.run source start false with
  | (.ok (.matched [phrase] _), _) => .ok phrase
  | (.error (.reached fault), _) => .error fault
  | (.error (.refused reason), memory) =>
    .error (refusal scanned (lastOf memory.reached) reason)
  | (.ok _, first) =>
    match Attempt.run source start true with
    | (.error (.reached fault), _) => .error fault
    | (.error (.refused reason), second) =>
      .error (refusal scanned (lastOf (max first.reached second.reached)) reason)
    | (.ok _, second) =>
      match source.tokens[first.reached]?.map Token.kind with
      | some .indent => .error (.mistake .unexpectedIndent)
      | _ =>
        .error (prevailing scanned (lastOf (max first.reached second.reached)) (.mistake .invalid))

end DartLayers.Markup.Literal
