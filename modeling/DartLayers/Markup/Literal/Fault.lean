import DartLayers.Text.Number

/-!
# DartLayers — faults of literal expressions

Why a text is no literal expression. The scanner finds faults of single tokens and of brackets, the
grammar names some typical mistakes and calls all others invalid, and a well-formed expression may
still have no value.

* **`Literal.Fault`** — the faults of a text that is not well-formed.
* **`Literal.ValueFault`** — the faults of a value.
-/

namespace DartLayers.Markup.Literal

/-- The kinds of numbers that a message tells apart. -/
inductive NumberKind where
  | hexadecimal
  | octal
  | binary
  | decimal
  | imaginary
  deriving Repr, DecidableEq

/-- The word for a kind of number. -/
def NumberKind.word : NumberKind → String
  | .hexadecimal => "hexadecimal"
  | .octal => "octal"
  | .binary => "binary"
  | .decimal => "decimal"
  | .imaginary => "imaginary"

/-- Mistakes that the grammar names. -/
inductive Mistake where
  | invalid
  | unexpectedIndent
  | missingComma
  | missingElse
  | missingCall (name : String)
  | comparisonMeant
  | assignmentInside (kind : String)
  | assignmentHere (kind : String)
  | assignmentTo (kind : String)
  | argumentNotName
  | unpackingOrder
  | argumentOrder (unpacked : Bool)
  | bareComprehension
  | starredComprehension
  | comprehensionTarget
  | unpackedComprehension
  | starredHere
  | doubleStarredHere
  | starredValue
  | missingValue
  | missingColon
  | defaultOrder
  | bracketedParameters
  | slashFirst
  | slashTwice
  | slashBehindStar
  | slashBesideStar
  | starWithoutNames
  | starDefault
  | starTwice
  | doubleStarDefault
  | missingDefault
  | behindDoubleStar
  deriving Repr, DecidableEq

/-- The wording of a mistake. -/
def Mistake.message : Mistake → String
  | .invalid => "invalid syntax"
  | .unexpectedIndent => "unexpected indent"
  | .missingComma => "invalid syntax. Perhaps you forgot a comma?"
  | .missingElse => "expected 'else' after 'if' expression"
  | .missingCall name =>
    "Missing parentheses in call to '" ++ name ++ "'. Did you mean " ++ name ++ "(...)?"
  | .comparisonMeant => "invalid syntax. Maybe you meant '==' or ':=' instead of '='?"
  | .assignmentInside kind => "cannot use assignment expressions with " ++ kind
  | .assignmentHere kind =>
    "cannot assign to " ++ kind ++ " here. Maybe you meant '==' instead of '='?"
  | .assignmentTo kind => "cannot assign to " ++ kind
  | .argumentNotName => "expression cannot contain assignment, perhaps you meant \"==\"?"
  | .unpackingOrder => "iterable argument unpacking follows keyword argument unpacking"
  | .argumentOrder true => "positional argument follows keyword argument unpacking"
  | .argumentOrder false => "positional argument follows keyword argument"
  | .bareComprehension => "Generator expression must be parenthesized"
  | .starredComprehension => "iterable unpacking cannot be used in comprehension"
  | .comprehensionTarget => "did you forget parentheses around the comprehension target?"
  | .unpackedComprehension => "dict unpacking cannot be used in dict comprehension"
  | .starredHere => "cannot use starred expression here"
  | .doubleStarredHere => "cannot use double starred expression here"
  | .starredValue => "cannot use a starred expression in a dictionary value"
  | .missingValue => "expression expected after dictionary key and ':'"
  | .missingColon => "':' expected after dictionary key"
  | .defaultOrder => "non-default argument follows default argument"
  | .bracketedParameters => "Lambda expression parameters cannot be parenthesized"
  | .slashFirst => "at least one argument must precede /"
  | .slashTwice => "/ may appear only once"
  | .slashBehindStar => "/ must be ahead of *"
  | .slashBesideStar => "expected comma between / and *"
  | .starWithoutNames => "named arguments must follow bare *"
  | .starDefault => "var-positional argument cannot have default value"
  | .starTwice => "* argument may appear only once"
  | .doubleStarDefault => "var-keyword argument cannot have default value"
  | .missingDefault => "expected default value expression"
  | .behindDoubleStar => "arguments cannot follow var-keyword argument"

/-- Faults of the expressions inside a quoted text with placeholders. -/
inductive PlaceholderFault where
  | singleBrace
  | tooDeep
  | backslash
  | comment
  | tooNested
  | unmatched (bracket : Char)
  | mismatched (closing opening : Char)
  | unterminated
  | empty
  | emptyBefore (mark : Char)
  | unclosed
  | conversion
  deriving Repr, DecidableEq

/-- The wording of a fault of a placeholder. -/
def PlaceholderFault.message : PlaceholderFault → String
  | .singleBrace => "single '\x7d' is not allowed"
  | .tooDeep => "expressions nested too deeply"
  | .backslash => "expression part cannot include a backslash"
  | .comment => "expression part cannot include '#'"
  | .tooNested => "too many nested parenthesis"
  | .unmatched bracket => "unmatched '" ++ bracket.toString ++ "'"
  | .mismatched closing opening =>
    "closing parenthesis '" ++ closing.toString ++ "' does not match opening parenthesis '" ++
      opening.toString ++ "'"
  | .unterminated => "unterminated string"
  | .empty => "empty expression not allowed"
  | .emptyBefore mark => "expression required before '" ++ mark.toString ++ "'"
  | .unclosed => "expecting '\x7d'"
  | .conversion => "invalid conversion character: expected 's', 'r', or 'a'"

/-- Faults of a quoted text. The positions count the bytes of the text with its characters beyond
ASCII written as escapes. -/
inductive QuotationFault where
  | bytesBeyondAscii
  | bytesAndText
  | byteEscape (position : Nat)
  | escape (first last : Nat) (reason : String)
  | placeholder (fault : PlaceholderFault)
  deriving Repr, DecidableEq

/-- The wording of a fault of a quoted text. -/
def QuotationFault.message : QuotationFault → String
  | .bytesBeyondAscii => "bytes can only contain ASCII literal characters"
  | .bytesAndText => "cannot mix bytes and nonbytes literals"
  | .byteEscape position => "(value error) invalid \\x escape at position " ++ toString position
  | .escape first last reason =>
    "(unicode error) 'unicodeescape' codec can't decode " ++
      (if first = last then "byte 0x5c in position " ++ toString first
       else "bytes in position " ++ toString first ++ "-" ++ toString last) ++ ": " ++ reason
  | .placeholder fault =>
    -- These two do not name the part of the text, but the expression in it.
    (if fault = .backslash || fault = .comment then "f-string " else "f-string: ") ++ fault.message

/-- Why a text is not well-formed. What is wrong with the expression of a placeholder, at any depth,
is `nested` once. -/
inductive Fault where
  | invalidCharacter (c : Char)
  | unprintable (c : Char)
  | number (kind : NumberKind)
  | digit (c : Char) (kind : NumberKind)
  | leadingZeros
  | unterminated (isTriple : Bool) (line : Nat)
  | tooNested
  | unmatched (bracket : Char)
  | mismatched (closing opening : Char) (line : Option Nat)
  | neverClosed (bracket : Char)
  | continuation
  | endOfText
  | longNumber (digits : Nat)
  | mistake (mistake : Mistake)
  | quotation (fault : QuotationFault)
  | nested (fault : Fault)
  deriving Repr, DecidableEq

namespace Fault

/-- The code point of a character, in at least four hexadecimal digits. -/
def codePoint (c : Char) : String :=
  let width := if c.toNat < 0x10000 then 4 else if c.toNat < 0x100000 then 5 else 6
  "U+" ++ (String.ofList (Text.hexDigits width c.toNat)).toUpper

/-- Whether a fault is that of a single token or of a bracket. -/
def isOfToken : Fault → Bool
  | .invalidCharacter _ | .unprintable _ | .number _ | .digit _ _ | .leadingZeros
  | .unterminated _ _ | .tooNested | .unmatched _ | .mismatched _ _ _ => true
  | _ => false

/-- The wording of a fault. -/
def message : Fault → String
  | .invalidCharacter c => "invalid character '" ++ c.toString ++ "' (" ++ codePoint c ++ ")"
  | .unprintable c => "invalid non-printable character " ++ codePoint c
  | .number kind => "invalid " ++ kind.word ++ " literal"
  | .digit c kind => "invalid digit '" ++ c.toString ++ "' in " ++ kind.word ++ " literal"
  | .leadingZeros =>
    "leading zeros in decimal integer literals are not permitted; " ++
      "use an 0o prefix for octal integers"
  | .unterminated isTriple line =>
    "unterminated " ++ (if isTriple then "triple-quoted " else "") ++
      "string literal (detected at line " ++ toString line ++ ")"
  | .tooNested => "too many nested parentheses"
  | .unmatched bracket => "unmatched '" ++ bracket.toString ++ "'"
  | .mismatched closing opening line =>
    "closing parenthesis '" ++ closing.toString ++ "' does not match opening parenthesis '" ++
      opening.toString ++ "'" ++ (line.map fun line => " on line " ++ toString line).getD ""
  | .neverClosed bracket => "'" ++ bracket.toString ++ "' was never closed"
  | .continuation => "unexpected character after line continuation character"
  | .endOfText => "unexpected EOF while parsing"
  | .longNumber digits =>
    Text.longIntegerMessage digits ++ " - Consider hexadecimal for huge integer literals " ++
      "to avoid decimal conversion limits."
  | .mistake cause => cause.message
  | .quotation fault => fault.message
  | .nested fault => if isOfToken fault then message fault else "f-string: " ++ message fault

/-- The fault of a text, given one of a placeholder's expression in it. -/
def ofPlaceholder : Fault → Fault
  | .nested fault => .nested fault
  | fault => .nested fault

end Fault

/-- Why a text has no value although its form is no matter: it holds a null character and is not
read at all, or it is an expression and a part is no literal, entries are unpacked from nothing, a
member has no fixed place, or a number is too great to be added to another. -/
inductive ValueFault where
  | nullCharacter
  | notLiteral
  | unpacking
  | unhashable (kind : String)
  | hugeNumber
  deriving Repr, DecidableEq

/-- The wording of a fault of a value. -/
def ValueFault.message : ValueFault → String
  | .nullCharacter => "source code string cannot contain null bytes"
  | .notLiteral => "malformed node or string"
  | .unpacking => "malformed node or string: None"
  | .unhashable kind => "unhashable type: " ++ Text.quoted kind
  | .hugeNumber => "int too large to convert to float"

end DartLayers.Markup.Literal
