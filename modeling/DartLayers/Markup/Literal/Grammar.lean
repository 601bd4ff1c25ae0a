import DartLayers.Markup.Literal.Token

/-!
# DartLayers — the grammar of expressions

The rules of the grammar, each a pattern that is matched against tokens. Alternatives are tried in
order, and the first that matches counts. Some alternatives match mistakes only: they are tried when
no other reading is left, in a second attempt, and refuse the text. One that matches but finds no
mistake after all gives its whole rule up.

Square brackets do not occur: they would end the tag that an expression stands in.

* **`Literal.Phrase`** — what a rule has matched.
* **`Literal.Pattern`** — what a rule looks for.
* **`Literal.Rule.pattern`** — the rules.
-/

namespace DartLayers.Markup.Literal

/-- The rules of the grammar. -/
inductive Rule where
  | whole
  | embedded
  | expressions
  | expression
  | yielded
  | starExpressions
  | starExpression
  | starNamedExpressions
  | starNamedExpression
  | assignment
  | namedExpression
  | disjunction
  | conjunction
  | inversion
  | comparison
  | bitwiseOr
  | bitwiseXor
  | bitwiseAnd
  | shift
  | sum
  | term
  | factor
  | power
  | awaited
  | primary
  | atom
  | bracketed
  | function
  | parameters
  | slashPlain
  | slashDefault
  | starParameters
  | doubleStarParameter
  | plainParameter
  | defaultParameter
  | defaultValue
  | anyParameter
  | quotations
  | tuple
  | set
  | dictionary
  | entries
  | entry
  | pair
  | clauses
  | clause
  | setComprehension
  | generator
  | dictionaryComprehension
  | arguments
  | positional
  | keyworded
  | starredExpression
  | keywordOrStar
  | keywordOrDoubleStar
  | targets
  | target
  | starTarget
  | targetAtom
  | targetTuple
  | targetPrimary
  | mistakenExpression
  | mistakenCall
  | mistakenNamed
  | mistakenArguments
  | mistakenKeyword
  | mistakenComprehension
  | mistakenDictionaryComprehension
  | mistakenClause
  | mistakenGroup
  | mistakenEntries
  | mistakenPair
  | mistakenParameters
  | mistakenStar
  | mistakenDoubleStar
  | mistakenDefault
  deriving Repr, DecidableEq, Hashable

/-- What has been matched: a token, or the parts of what a rule has matched. -/
inductive Phrase where
  | leaf (token : Token)
  | node (rule : Rule) (parts : List Phrase)

/-- What a rule looks for. `quietly` matches without looking for mistakes, and `refuse` matches and
then refuses the text for the reason that it finds, if it finds one. -/
inductive Pattern where
  | word (text : String)
  | kind (kind : TokenKind)
  | named (names : List String)
  | rule (rule : Rule)
  | quotations
  | all (parts : List Pattern)
  | any (alternatives : List Pattern)
  | optional (part : Pattern)
  | many (part : Pattern)
  | ahead (part : Pattern)
  | notAhead (part : Pattern)
  | quietly (part : Pattern)
  | refuse (part : Pattern) (mistake : List Phrase → Option Mistake)

namespace Pattern

/-- A pattern that has to match at least once. -/
def several (part : Pattern) : Pattern := .all [part, .many part]

/-- Matches with commas between them. -/
def listed (part : Pattern) : Pattern := .all [part, .many (.all [.word ",", part])]

/-- A comma that may be missing. -/
def lastComma : Pattern := .optional (.word ",")

/-- A name. -/
def name : Pattern := .kind .name

/-- A mistake that is always the same. -/
def mistaken (parts : List Pattern) (mistake : Mistake) : Pattern :=
  .refuse (.all parts) fun _ => some mistake

/-- An operator and its right operand, any number of times, behind a left operand. -/
def chain (operand : Rule) (operators : List String) : Pattern :=
  .all [.rule operand,
    .many (.any (operators.map fun operator => .all [.word operator, .rule operand]))]

end Pattern

/-! ## Kinds of expressions -/

namespace Phrase

mutual

/-- The last token of a phrase. -/
def lastToken? : Phrase → Option Token
  | .leaf token => some token
  | .node _ parts => lastTokenOf? parts

/-- The last token of phrases. -/
def lastTokenOf? : List Phrase → Option Token
  | [] => none
  | part :: rest => (lastTokenOf? rest).or part.lastToken?

end

/-- Whether a phrase is a certain mark or keyword. -/
def isWord (text : String) : Phrase → Bool
  | .leaf token => (token.kind == .mark || token.kind == .keyword) && token.text == text.toList
  | .node _ _ => false

/-- The text of a token. -/
def text : Phrase → String
  | .leaf token => String.ofList token.text
  | .node _ _ => ""

/-- How a message calls the expression that a token is. -/
def kindOfToken (token : Token) : String :=
  if token.kind = .name then "name"
  else if token.kind = .keyword then String.ofList token.text
  else if token.kind = .mark then "ellipsis"
  else "literal"

/-- Whether a quotation has placeholders. -/
def hasPlaceholders : Phrase → Bool
  | .leaf token => (token.text.takeWhile Char.isAlpha).any fun c => c == 'f' || c == 'F'
  | .node _ _ => false

/-- How a message calls an expression. -/
def kind : Phrase → String
  | .leaf token => kindOfToken token
  | .node .quotations parts =>
    if parts.any hasPlaceholders then "f-string expression" else "literal"
  | .node .tuple _ => "tuple"
  | .node .set _ => "set display"
  | .node .dictionary _ => "dict literal"
  | .node .setComprehension _ => "set comprehension"
  | .node .dictionaryComprehension _ => "dict comprehension"
  | .node .generator _ => "generator expression"
  | .node .function _ => "lambda"
  | .node .yielded _ => "yield expression"
  | .node .bracketed [_, inner, _] => inner.kind
  | .node _ [part] => part.kind
  | .node .expression _ => "conditional expression"
  | .node .comparison _ => "comparison"
  | .node .awaited _ => "await expression"
  | .node .assignment _ => "named expression"
  | .node .starExpressions _ => "tuple"
  | .node .starExpression _ => "starred"
  | .node .primary parts =>
    match parts.reverse with
    | _ :: mark :: _ => if mark.isWord "." then "attribute" else "function call"
    | _ => "function call"
  | .node _ _ => "expression"

/-- The part of an iteration variable that nothing can be assigned to. -/
def unassignable? : (bound : Nat) → Phrase → Option Phrase
  | 0, _ => none
  | bound + 1, phrase =>
    match phrase with
    | .node .bracketed [_, inner, _] => unassignable? bound inner
    | .node .tuple parts | .node .starNamedExpressions parts =>
      parts.findSome? fun part =>
        match part with
        | .leaf _ => none
        | .node _ _ => unassignable? bound part
    | .node .starExpression [_, inner] | .node .starNamedExpression [_, inner] =>
      unassignable? bound inner
    | .node .comparison (left :: mark :: _ :: _) =>
      if mark.isWord "in" then unassignable? bound left else none
    | .node .starExpressions (first :: second :: rest) =>
      (first :: second :: rest).findSome? fun part =>
        match part with
        | .leaf _ => none
        | .node _ _ => unassignable? bound part
    | .node .quotations _ | .node .set _ | .node .dictionary _ | .node .generator _
    | .node .setComprehension _ | .node .dictionaryComprehension _ | .node .function _
    | .node .yielded _ => some phrase
    | .node _ [part] => unassignable? bound part
    | .leaf token => if token.kind = .name then none else some phrase
    | _ => if phrase.kind = "attribute" then none else some phrase

/-- The name that an old statement starts with, which is written like a call now. -/
def oldStatement? (phrase : Phrase) : Option String :=
  match phrase with
  | .leaf token =>
    if token.kind = .name && ["print", "exec"].contains (String.ofList token.text)
      then some (String.ofList token.text) else none
  | .node .bracketed [_, inner, _] => inner.oldStatement?
  | .node _ [part] => part.oldStatement?
  | .node _ _ => none

end Phrase

/-! ## The rules -/

namespace Rule

open Pattern

/-- The mistake of expressions without a comma between them. Inside brackets only, and not behind
the name of an old statement. -/
def missingComma (parts : List Phrase) : Option Mistake :=
  match parts, Phrase.lastTokenOf? parts with
  | first :: _, some token =>
    if first.oldStatement?.isSome || token.level = 0 then none else some .missingComma
  | _, _ => none

/-- The mistake of an old statement without brackets. -/
def missingCall (parts : List Phrase) : Option Mistake :=
  match parts with
  | first :: _ => first.oldStatement?.map .missingCall
  | [] => none

/-- The mistake of what stands in the first part. -/
def firstKind (mistake : String → Mistake) (parts : List Phrase) : Option Mistake :=
  parts.head?.map fun first => mistake first.kind

/-- The mistake of an iteration variable behind its keyword. -/
def badTarget (parts : List Phrase) : Option Mistake :=
  match parts.getLast? with
  | some phrase =>
    (phrase.unassignable? 400).map fun part => .assignmentTo part.kind
  | none => none

/-- Whether a phrase is an argument that unpacks a mapping. -/
def isUnpacked : Phrase → Bool
  | .node .keywordOrDoubleStar (mark :: _) => mark.isWord "**"
  | _ => false

/-- The mistake of arguments that follow named ones. -/
def argumentOrder (parts : List Phrase) : Option Mistake :=
  match parts with
  | .node _ found :: _ => some (.argumentOrder (found.any fun part =>
      match part with
      | .node .keyworded others => others.any isUnpacked
      | _ => false))
  | _ => none

/-- How many arguments without a name a part of arguments stands for. -/
def countArguments : Phrase → Nat
  | .node .keyworded parts => parts.countP fun part =>
      match part with
      | .node .keywordOrStar [_] => true
      | _ => false
  | part => if part.isWord "," then 0 else 1

/-- The mistake of a comprehension without brackets behind other arguments. -/
def bareComprehension (parts : List Phrase) : Option Mistake :=
  match parts with
  | .node _ found :: _ =>
    if (found.map countArguments).foldl Nat.add 0 ≤ 1 then none else some .bareComprehension
  | _ => none

/-- An argument without a name: an assignment or another expression, but not the name of one. -/
def argument : Pattern :=
  .any [.rule .starredExpression,
    .all [.any [.rule .assignment, .all [.rule .expression, .notAhead (.word ":=")]],
      .notAhead (.word "=")]]

/-- An expression without its mistakes. -/
def plainExpression : Pattern :=
  .any [
    .all [.rule .disjunction, .word "if", .rule .disjunction, .word "else", .rule .expression],
    .rule .disjunction,
    .rule .function]

/-- The start of an iteration up to its keyword `in`. -/
def iterationStart : Pattern :=
  .all [.optional (.word "async"), .word "for", .rule .targets, .word "in"]

/-- What a parameter without brackets ends with. -/
def parameterEnd : Pattern := .any [.word ",", .ahead (.word ":")]

/-- What may follow an iteration variable that has parts. -/
def targetFollower : Pattern := .any [.word "(", .word "."]

/-- Where a comma or the end of a function's parameters stands after a star. -/
def starEnd : Pattern :=
  .any [.word ":", .all [.word ",", .any [.word ":", .word "**"]]]

/-- What a rule looks for. -/
def pattern : Rule → Pattern
  | .whole => .all [.rule .expressions, .many (.kind .lineEnd), .kind .close]
  | .embedded => .rule .starExpressions
  | .expressions => .any [
    .all [.rule .expression, several (.all [.word ",", .rule .expression]), lastComma],
    .all [.rule .expression, .word ","],
    .rule .expression]
  | .expression => .any [.rule .mistakenExpression, .rule .mistakenCall, plainExpression]
  | .yielded => .any [
    .all [.word "yield", .word "from", .rule .expression],
    .all [.word "yield", .optional (.rule .starExpressions)]]
  | .starExpressions => .any [
    .all [.rule .starExpression, several (.all [.word ",", .rule .starExpression]), lastComma],
    .all [.rule .starExpression, .word ","],
    .rule .starExpression]
  | .starExpression => .any [.all [.word "*", .rule .bitwiseOr], .rule .expression]
  | .starNamedExpressions => .all [listed (.rule .starNamedExpression), lastComma]
  | .starNamedExpression => .any [.all [.word "*", .rule .bitwiseOr], .rule .namedExpression]
  | .assignment => .all [name, .word ":=", .rule .expression]
  | .namedExpression => .any [
    .rule .assignment,
    .rule .mistakenNamed,
    .all [.rule .expression, .notAhead (.word ":=")]]
  | .disjunction => chain .conjunction ["or"]
  | .conjunction => chain .inversion ["and"]
  | .inversion => .any [.all [.word "not", .rule .inversion], .rule .comparison]
  | .comparison => .all [.rule .bitwiseOr, .many (.any ([
      ["=="], ["!="], ["<="], ["<"], [">="], [">"], ["not", "in"], ["in"], ["is", "not"], ["is"]
    ].map fun words => .all (words.map .word ++ [.rule .bitwiseOr])))]
  | .bitwiseOr => chain .bitwiseXor ["|"]
  | .bitwiseXor => chain .bitwiseAnd ["^"]
  | .bitwiseAnd => chain .shift ["&"]
  | .shift => chain .sum ["<<", ">>"]
  | .sum => chain .term ["+", "-"]
  | .term => chain .factor ["*", "/", "//", "%", "@"]
  | .factor => .any [
    .all [.word "+", .rule .factor],
    .all [.word "-", .rule .factor],
    .all [.word "~", .rule .factor],
    .rule .power]
  | .power => .any [.all [.rule .awaited, .word "**", .rule .factor], .rule .awaited]
  | .awaited => .any [.all [.word "await", .rule .primary], .rule .primary]
  | .primary => .all [.rule .atom, .many (.any [
    .all [.word ".", name],
    .rule .generator,
    .all [.word "(", .optional (.rule .arguments), .word ")"]])]
  | .atom => .any [
    name, .word "True", .word "False", .word "None", .rule .quotations, .kind .number,
    .all [.ahead (.word "("), .any [.rule .tuple, .rule .bracketed, .rule .generator]],
    .all [.ahead (.word "\x7b"), .any [.rule .dictionary, .rule .set,
      .rule .dictionaryComprehension, .rule .setComprehension]],
    .word "..."]
  | .bracketed => .any [
    .all [.word "(", .any [.rule .yielded, .rule .namedExpression], .word ")"],
    .rule .mistakenGroup]
  | .function =>
    .all [.word "lambda", .optional (.rule .parameters), .word ":", .rule .expression]
  | .parameters => .any [
    .rule .mistakenParameters,
    .all [.rule .slashPlain, .many (.rule .plainParameter), .many (.rule .defaultParameter),
      .optional (.rule .starParameters)],
    .all [.rule .slashDefault, .many (.rule .defaultParameter),
      .optional (.rule .starParameters)],
    .all [several (.rule .plainParameter), .many (.rule .defaultParameter),
      .optional (.rule .starParameters)],
    .all [several (.rule .defaultParameter), .optional (.rule .starParameters)],
    .rule .starParameters]
  | .slashPlain => .all [several (.rule .plainParameter), .word "/", parameterEnd]
  | .slashDefault => .all [.many (.rule .plainParameter), several (.rule .defaultParameter),
    .word "/", parameterEnd]
  | .starParameters => .any [
    .rule .mistakenStar,
    .all [.word "*", .rule .plainParameter, .many (.rule .anyParameter),
      .optional (.rule .doubleStarParameter)],
    .all [.word "*", .word ",", several (.rule .anyParameter),
      .optional (.rule .doubleStarParameter)],
    .rule .doubleStarParameter]
  | .doubleStarParameter => .any [
    .rule .mistakenDoubleStar,
    .all [.word "**", .rule .plainParameter]]
  | .plainParameter => .all [name, parameterEnd]
  | .defaultParameter => .all [name, .rule .defaultValue, parameterEnd]
  | .anyParameter => .all [name, .optional (.rule .defaultValue), parameterEnd]
  | .defaultValue => .any [.all [.word "=", .rule .expression], .rule .mistakenDefault]
  | .quotations => .quotations
  | .tuple => .all [.word "(",
    .optional (.all [.rule .starNamedExpression, .word ",",
      .optional (.rule .starNamedExpressions)]),
    .word ")"]
  | .set => .all [.word "\x7b", .rule .starNamedExpressions, .word "\x7d"]
  | .dictionary => .any [
    .all [.word "\x7b", .optional (.rule .entries), .word "\x7d"],
    .all [.word "\x7b", .rule .mistakenEntries, .word "\x7d"]]
  | .entries => .all [listed (.rule .entry), lastComma]
  | .entry => .any [.all [.word "**", .rule .bitwiseOr], .rule .pair]
  | .pair => .all [.rule .expression, .word ":", .rule .expression]
  | .clauses => several (.rule .clause)
  | .clause => .any [
    .all [iterationStart, .rule .disjunction, .many (.all [.word "if", .rule .disjunction])],
    -- Once the keyword has been read, no other reading is tried.
    .all [.notAhead iterationStart, .rule .mistakenClause]]
  | .setComprehension => .any [
    .all [.word "\x7b", .rule .namedExpression, .rule .clauses, .word "\x7d"],
    .rule .mistakenComprehension]
  | .generator => .any [
    .all [.word "(", .any [.rule .assignment, .all [.rule .expression, .notAhead (.word ":=")]],
      .rule .clauses, .word ")"],
    .rule .mistakenComprehension]
  | .dictionaryComprehension => .any [
    .all [.word "\x7b", .rule .pair, .rule .clauses, .word "\x7d"],
    .rule .mistakenDictionaryComprehension]
  | .arguments => .any [
    .all [.rule .positional, lastComma, .ahead (.word ")")],
    .rule .mistakenArguments]
  | .positional => .any [
    .all [listed argument, .optional (.all [.word ",", .rule .keyworded])],
    .rule .keyworded]
  | .keyworded => .any [
    .all [listed (.rule .keywordOrStar), .word ",", listed (.rule .keywordOrDoubleStar)],
    listed (.rule .keywordOrStar),
    listed (.rule .keywordOrDoubleStar)]
  | .starredExpression => .all [.word "*", .rule .expression]
  | .keywordOrStar => .any [
    .rule .mistakenKeyword,
    .all [name, .word "=", .rule .expression],
    .rule .starredExpression]
  | .keywordOrDoubleStar => .any [
    .rule .mistakenKeyword,
    .all [name, .word "=", .rule .expression],
    .all [.word "**", .rule .expression]]
  | .targets => .any [
    .all [.rule .target, .notAhead (.word ",")],
    .all [.rule .target, .many (.all [.word ",", .rule .target]), lastComma]]
  | .target => .any [
    .all [.word "*", .notAhead (.word "*"), .rule .target],
    .rule .starTarget]
  | .starTarget => .any [
    .all [.rule .targetPrimary, .word ".", name, .notAhead targetFollower],
    .rule .targetAtom]
  | .targetAtom => .any [
    name,
    .all [.word "(", .rule .starTarget, .word ")"],
    .all [.word "(", .optional (.rule .targetTuple), .word ")"]]
  | .targetTuple => .any [
    .all [.rule .target, several (.all [.word ",", .rule .target]), lastComma],
    .all [.rule .target, .word ","]]
  | .targetPrimary => .all [.rule .atom, .ahead targetFollower, .many (.any [
    .all [.word ".", name, .ahead targetFollower],
    .all [.rule .generator, .ahead targetFollower],
    .all [.word "(", .optional (.rule .arguments), .word ")", .ahead targetFollower]])]
  | .mistakenExpression => .any [
    .refuse (.all [
      .notAhead (.any [.all [name, .kind .quotation], .named ["_", "case", "match"]]),
      .rule .disjunction, .quietly plainExpression]) missingComma,
    mistaken [.rule .disjunction, .word "if", .rule .disjunction,
      .notAhead (.any [.word "else", .word ":"])] .missingElse]
  | .mistakenCall =>
    .refuse (.all [name, .notAhead (.word "("), .rule .starExpressions]) missingCall
  | .mistakenNamed => .any [
    .refuse (.all [.rule .expression, .word ":=", .rule .expression])
      (firstKind .assignmentInside),
    mistaken [name, .word "=", .rule .bitwiseOr, .notAhead (.any [.word "=", .word ":="])]
      .comparisonMeant,
    .refuse (.all [
      .notAhead (.any [.rule .tuple, .rule .generator, .word "True", .word "None",
        .word "False"]),
      .rule .bitwiseOr, .word "=", .rule .bitwiseOr,
      .notAhead (.any [.word "=", .word ":="])]) (firstKind .assignmentHere)]
  | .mistakenArguments => .any [
    mistaken [.rule .positional, .word ",", .word "*"] .unpackingOrder,
    mistaken [.rule .expression, .rule .clauses, .word ",",
      .optional (.any [.rule .positional, .all [.rule .expression, .rule .clauses]])]
      .bareComprehension,
    mistaken [name, .word "=", .rule .expression, .rule .clauses] .comparisonMeant,
    .refuse (.all [.rule .positional, .rule .clauses]) bareComprehension,
    mistaken [.rule .positional, .word ",", .rule .expression, .rule .clauses]
      .bareComprehension,
    .refuse (.all [.rule .positional, .word ",", .rule .positional]) argumentOrder]
  | .mistakenKeyword => .any [
    .refuse (.all [.any [.word "True", .word "False", .word "None"], .word "="])
      (firstKind .assignmentTo),
    mistaken [name, .word "=", .rule .expression, .rule .clauses] .comparisonMeant,
    mistaken [.notAhead (.all [name, .word "="]), .rule .expression, .word "="]
      .argumentNotName]
  | .mistakenComprehension => .any [
    mistaken [.any [.word "(", .word "\x7b"], .rule .starredExpression, .rule .clauses]
      .starredComprehension,
    mistaken [.word "\x7b", .rule .starNamedExpression, .word ",",
      .rule .starNamedExpressions, .rule .clauses] .comprehensionTarget,
    mistaken [.word "\x7b", .rule .starNamedExpression, .word ",", .rule .clauses]
      .comprehensionTarget]
  | .mistakenDictionaryComprehension =>
    mistaken [.word "\x7b", .word "**", .rule .bitwiseOr, .rule .clauses, .word "\x7d"]
      .unpackedComprehension
  | .mistakenClause =>
    .refuse (.all [.optional (.word "async"), .word "for", .rule .starExpressions]) badTarget
  | .mistakenGroup => .any [
    mistaken [.word "(", .rule .starredExpression, .word ")"] .starredHere,
    mistaken [.word "(", .word "**", .rule .expression, .word ")"] .doubleStarredHere]
  | .mistakenEntries => .any [
    .all [listed (.rule .entry), .word ",", .rule .mistakenPair],
    mistaken [.rule .expression, .word ":", .word "*", .rule .bitwiseOr] .starredValue,
    mistaken [.rule .expression, .word ":", .ahead (.any [.word "\x7d", .word ","])]
      .missingValue]
  | .mistakenPair => .any [
    mistaken [.rule .expression, .notAhead (.word ":")] .missingColon,
    mistaken [.rule .expression, .word ":", .word "*", .rule .bitwiseOr] .starredValue,
    mistaken [.rule .expression, .word ":", .ahead (.any [.word "\x7d", .word ","])]
      .missingValue]
  | .mistakenParameters => .any [
    mistaken [.many (.rule .plainParameter),
      .any [.rule .slashDefault, several (.rule .defaultParameter)], .rule .plainParameter]
      .defaultOrder,
    mistaken [.many (.rule .plainParameter), .word "(", listed name, lastComma, .word ")"]
      .bracketedParameters,
    mistaken [.word "/", .word ","] .slashFirst,
    mistaken [.any [.rule .slashPlain, .rule .slashDefault], .many (.rule .anyParameter),
      .word "/"] .slashTwice,
    mistaken [.optional (.any [.rule .slashPlain, .rule .slashDefault]),
      .many (.rule .anyParameter), .word "*", .any [.word ",", .rule .plainParameter],
      .many (.rule .anyParameter), .word "/"] .slashBehindStar,
    mistaken [several (.rule .anyParameter), .word "/", .word "*"] .slashBesideStar]
  | .mistakenStar => .any [
    mistaken [.word "*", starEnd] .starWithoutNames,
    mistaken [.word "*", name, .word "="] .starDefault,
    mistaken [.word "*", .any [.rule .plainParameter, .word ","], .many (.rule .anyParameter),
      .word "*", .any [.rule .plainParameter, .word ","]] .starTwice]
  | .mistakenDoubleStar => .any [
    mistaken [.word "**", name, .word "="] .doubleStarDefault,
    mistaken [.word "**", name, .word ",",
      .any [name, .word "*", .word "**", .word "/"]] .behindDoubleStar]
  | .mistakenDefault =>
    mistaken [.word "=", .ahead (.any [.word ")", .word ","])] .missingDefault

/-- Whether a rule matches mistakes that the first attempt does not look for. Those of the entries
of a mapping are found at once. -/
def isMistake : Rule → Bool
  | .mistakenExpression | .mistakenCall | .mistakenNamed | .mistakenArguments | .mistakenKeyword
  | .mistakenComprehension | .mistakenDictionaryComprehension | .mistakenClause | .mistakenGroup
  | .mistakenParameters | .mistakenStar | .mistakenDoubleStar | .mistakenDefault => true
  | _ => false

/-- Whether what a rule has come to is remembered, also between attempts with and without
mistakes. -/
def isRemembered : Rule → Bool
  | .expression | .starExpression | .disjunction | .conjunction | .inversion | .bitwiseOr
  | .bitwiseXor | .bitwiseAnd | .shift | .sum | .term | .factor | .awaited | .primary | .quotations
  | .arguments | .target | .starTarget | .targetPrimary | .mistakenNamed => true
  | _ => false

end Rule

end DartLayers.Markup.Literal
