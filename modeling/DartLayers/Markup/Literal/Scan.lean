import DartLayers.Markup.Literal.Token
import DartLayers.Text.Letter
import DartLayers.Text.Printable

/-!
# DartLayers — the tokens of a literal expression

Inside brackets line ends and indentation do not count. Outside of them an indentation is a token,
as is a return to a smaller one.

* **`Literal.scan`** — the tokens of a text.
-/

namespace DartLayers.Markup.Literal

/-! ## Numbers -/

/-- A character of a name, or any character beyond ASCII. -/
def isNamePart (c : Char) : Bool :=
  c.isAlphanum || c == '_' || c.toNat ≥ 0x80

/-- Words that may follow a number directly. -/
def wholeFollowers : List String := ["and", "else", "for", "or", "not"]

/-- Letters that may follow a number directly, whatever comes behind them. -/
def openFollowers : List String := ["if", "in", "is"]

/-- Whether a word or letters that may follow a number stand at the start of a text. -/
def startsFollower (text : List Char) : Bool :=
  wholeFollowers.contains (String.ofList (text.takeWhile isNamePart)) ||
    openFollowers.any fun letters => letters.toList.isPrefixOf text

/-- What follows a number must not look like a part of it; only ASCII characters do. -/
def endNumber (kind : NumberKind) (rest : List Char) : Except Fault (List Char) :=
  if startsFollower rest then .ok rest
  else match rest with
    | c :: _ => if c.isAlphanum || c == '_' then .error (.number kind) else .ok rest
    | [] => .ok rest

/-- The text behind decimal digits, single underscores between them included. -/
def dropDigits : (behindMark : Bool) → List Char → Except Fault (List Char)
  | false, [] => .ok []
  | true, [] => .error (.number .decimal)
  | behindMark, c :: rest =>
    if c.isDigit then dropDigits false rest
    else if behindMark then .error (.number .decimal)
    else if c = '_' then dropDigits true rest
    else .ok (c :: rest)

/-- Where a number in a base other than ten is read: before its first digit, where an underscore may
stand, behind an underscore, or behind a digit. -/
inductive DigitPlace where
  | start
  | behindMark
  | behindDigit

/-- The text behind the digits of a base, single underscores before them included. A decimal digit
that is too great for the base is reported as such. -/
def dropBaseDigits (kind : NumberKind) (base : Nat) :
    DigitPlace → List Char → Except Fault (List Char)
  | .behindDigit, [] => .ok []
  | _, [] => .error (.number kind)
  | place, c :: rest =>
    if (Text.digitIn? base c).isSome then dropBaseDigits kind base .behindDigit rest
    else if c.isDigit then .error (.digit c kind)
    else match place with
      | .start =>
        if c = '_' then dropBaseDigits kind base .behindMark rest else .error (.number kind)
      | .behindMark => .error (.number kind)
      | .behindDigit =>
        if c = '_' then dropBaseDigits kind base .behindMark rest else .ok (c :: rest)

/-- The text behind zeros, underscores before digits included. -/
def dropLeadingZeros : (behindMark : Bool) → List Char → Except Fault (List Char)
  | false, [] => .ok []
  | true, [] => .error (.number .decimal)
  | behindMark, c :: rest =>
    if c = '0' then dropLeadingZeros false rest
    else if behindMark then
      if c.isDigit then .ok (c :: rest) else .error (.number .decimal)
    else if c = '_' then dropLeadingZeros true rest
    else .ok (c :: rest)

/-- The end of a number behind its last digit: it may be imaginary. -/
def dropImaginary : List Char → Except Fault (List Char)
  | c :: rest =>
    if c = 'j' || c = 'J' then endNumber .imaginary rest else endNumber .decimal (c :: rest)
  | [] => .ok []

/-- The text behind an exponent, if there is one. A letter without digits behind it is no
exponent. -/
def dropExponent : List Char → Except Fault (List Char)
  | e :: rest =>
    if e = 'e' || e = 'E' then
      match rest with
      | c :: digits =>
        if c = '+' || c = '-' then
          match digits with
          | d :: _ =>
            if d.isDigit then (dropDigits false digits).bind dropImaginary
            else .error (.number .decimal)
          | [] => .error (.number .decimal)
        else if c.isDigit then (dropDigits false rest).bind dropImaginary
        else endNumber .decimal (e :: rest)
      | [] => endNumber .decimal (e :: rest)
    else dropImaginary (e :: rest)
  | [] => .ok []

/-- The text behind the digits after a point, if there are any. -/
def dropFraction : List Char → Except Fault (List Char)
  | c :: rest =>
    if c.isDigit then (dropDigits false rest).bind dropExponent else dropExponent (c :: rest)
  | [] => .ok []

/-- The text behind a point with digits and an exponent, if they are there. -/
def dropDecimal : List Char → Except Fault (List Char)
  | '.' :: rest => dropFraction rest
  | rest => dropExponent rest

/-- The text behind a number that starts with a zero and has no base. -/
def dropZeroNumber (text : List Char) : Except Fault (List Char) := do
  let rest ← dropLeadingZeros false text
  match rest with
  | c :: _ =>
    let behind ← if c.isDigit then dropDigits false rest else pure rest
    match behind with
    | d :: _ =>
      if d = '.' || d = 'e' || d = 'E' || d = 'j' || d = 'J' then dropDecimal behind
      else if c.isDigit then throw .leadingZeros
      else endNumber .decimal behind
    | [] => if c.isDigit then throw .leadingZeros else return []
  | [] => return []

/-- The text behind a number, which starts with a digit or with a point and a digit. -/
def dropNumber : List Char → Except Fault (List Char)
  | '0' :: c :: rest =>
    if c = 'x' || c = 'X' then
      (dropBaseDigits .hexadecimal 16 .start rest).bind (endNumber .hexadecimal)
    else if c = 'o' || c = 'O' then
      (dropBaseDigits .octal 8 .start rest).bind (endNumber .octal)
    else if c = 'b' || c = 'B' then
      (dropBaseDigits .binary 2 .start rest).bind (endNumber .binary)
    else dropZeroNumber (c :: rest)
  | text => (dropDigits false text).bind dropDecimal

/-! ## Quoted texts -/

/-- The letters that may stand in front of a quoted text, in lower case. -/
def quotationLetters : List String := ["", "b", "r", "u", "f", "br", "rb", "fr", "rf"]

/-- Whether a text starts with a quoted text, perhaps with letters in front of it. -/
def startsQuotation (text : List Char) : Bool :=
  let letters := text.takeWhile Char.isAlpha
  quotationLetters.contains (String.ofList (letters.map Char.toLower)) &&
    match text.drop letters.length with
    | c :: _ => c == '\'' || c == '"'
    | [] => false

/-- The text behind a quoted text and the line on which it ends, read behind the opening quote with
`closing` of its `size` closing quotes; a backslash protects the character behind it. -/
def dropQuotation (quote : Char) (size : Nat) : (closing line : Nat) → (isProtected : Bool) →
    List Char → Except Fault (List Char × Nat)
  | closing, line, _, [] =>
    if closing = size then .ok ([], line) else .error (.unterminated (size == 3) line)
  | closing, line, isProtected, c :: rest =>
    let next := if c = '\n' && !rest.isEmpty then line + 1 else line
    if closing = size then .ok (c :: rest, line)
    else if isProtected then dropQuotation quote size 0 next false rest
    else if c = quote then dropQuotation quote size (closing + 1) line false rest
    else if c = '\n' && size == 1 then .error (.unterminated false line)
    else dropQuotation quote size 0 next (c == '\\') rest

/-- The text behind a quoted text that starts with its letters, and the line on which it ends. -/
def dropQuotationWithLetters (line : Nat) (text : List Char) :
    Except Fault (List Char × Nat) :=
  match text.dropWhile Char.isAlpha with
  | a :: b :: c :: rest =>
    if a = b && b = c then dropQuotation a 3 0 line false rest
    else if a = b then .ok (c :: rest, line)
    else dropQuotation a 1 0 line false (b :: c :: rest)
  | [a, b] => if a = b then .ok ([], line) else dropQuotation a 1 0 line false [b]
  | [a] => dropQuotation a 1 0 line false []
  | [] => .ok ([], line)

/-! ## Names and marks -/

/-- The first character that keeps a word from being a name. -/
def nameFault? : List Char → Option Fault
  | [] => none
  | c :: rest =>
    let wrong := if Text.startsName c then rest.find? fun d => !Text.continuesName d else some c
    wrong.map fun d => if Text.isPrintable d then .invalidCharacter d else .unprintable d

/-- The mark at the start of a text. -/
def takeMark (text : List Char) : List Char :=
  match longMarks.find? fun mark => mark.toList.isPrefixOf text with
  | some mark => mark.toList
  | none => text.take 1

/-- The bracket that a closing bracket belongs to. -/
def opening? : Char → Option Char
  | ')' => some '('
  | ']' => some '['
  | '}' => some '{'
  | _ => none

/-- Brackets may be nested this deep. -/
def nestingBound : Nat := 200

/-- What stands behind a backslash: the next line, which must not be the end of the text. -/
def dropContinuation : List Char → Except Fault (List Char)
  | '\n' :: [] => .error .endOfText
  | '\n' :: rest => .ok rest
  | _ => .error .continuation

/-! ## Lines -/

/-- The state of the scanner: the line, the open brackets with their lines, innermost first, whether
a line starts, and whether nothing but blanks and a comment has been found on it. -/
structure Scanner where
  line : Nat := 1
  opened : List (Char × Nat) := []
  atStart : Bool := true
  isBlankLine : Bool := false
  deriving Repr, DecidableEq

/-- Whether a token shows its own end. That of any other is seen on the character behind it. -/
def isSelfClosing (kind : TokenKind) (text : List Char) : Bool :=
  match kind with
  | .quotation => (text.dropWhile Char.isAlpha).length > 2
  | .mark => text == "...".toList
  | _ => false

namespace Scanner

/-- A token on the line of the scanner. -/
def token (scanner : Scanner) (kind : TokenKind) (text : List Char) : Token :=
  { kind, text, line := scanner.line, level := scanner.opened.length, meetsEnd := false }

/-- A token with a text behind it. -/
def tokenBefore (scanner : Scanner) (kind : TokenKind) (text behind : List Char) : Token :=
  { scanner.token kind text with meetsEnd := behind.isEmpty && !isSelfClosing kind text }

/-- The scanner behind an opening or a closing bracket. -/
def passMark (scanner : Scanner) (mark : List Char) : Except Fault Scanner :=
  match mark with
  | [c] =>
    if c = '(' || c = '[' || c = '\x7b' then
      if scanner.opened.length ≥ nestingBound then .error .tooNested
      else .ok { scanner with opened := (c, scanner.line) :: scanner.opened }
    else
      match opening? c, scanner.opened with
      | none, _ => if Text.isPrintable c then .ok scanner else .error (.unprintable c)
      | some _, [] => .error (.unmatched c)
      | some expected, (found, line) :: outer =>
        if found = expected then .ok { scanner with opened := outer }
        else .error (.mismatched c found (if line = scanner.line then none else some line))
  | _ => .ok scanner

/-- The end of a scan. -/
def finish (scanner : Scanner) (ending : Ending) (tokens : List Token) : Scanned where
  tokens := tokens.reverse
  ending := ending
  opened := scanner.opened.head?

/-- The end of a scan that cannot go on. A text that ends too early has a bracket to blame, if one
is open. -/
def stall (scanner : Scanner) (fault : Fault) (tokens : List Token) : Scanned :=
  match fault, scanner.opened with
  | .endOfText, (bracket, _) :: _ => scanner.finish (.stalled (.neverClosed bracket)) tokens
  | _, _ => scanner.finish (.stalled fault) tokens

end Scanner

/-- Passes over the blanks at the start of a line. `kept` says whether blanks stood in front of a
backslash, and `found` whether any were found; a form feed makes them not count. Returns whether the
line is indented, the lines passed over, and the text. -/
def dropIndent : (kept found : Bool) → (lines : Nat) → List Char →
    Except Fault (Bool × Nat × List Char)
  | kept, found, lines, [] => .ok (kept || found, lines, [])
  | kept, found, lines, c :: rest =>
    if c = ' ' || c = '\t' then dropIndent kept true lines rest
    else if c = '\x0c' then dropIndent kept false lines rest
    else if c = '\\' then
      match rest with
      | '\n' :: d :: behind => dropIndent (kept || found) found (lines + 1) (d :: behind)
      | ['\n'] => .error .endOfText
      | _ => .error .continuation
    else .ok (kept || found, lines, c :: rest)

/-- The token at the start of a text that is neither blank nor a line end, and the text and the
scanner behind it. -/
def scanToken (scanner : Scanner) (text : List Char) :
    Except Fault (Token × List Char × Scanner) := do
  match text with
  | [] => return (scanner.token .close [], [], scanner)
  | c :: rest =>
    let startsNumber := c.isDigit || (c == '.' && (rest.head?.map Char.isDigit).getD false)
    if startsQuotation text then
      let (behind, line) ← dropQuotationWithLetters scanner.line text
      let found := text.take (text.length - behind.length)
      return (scanner.tokenBefore .quotation found behind, behind, { scanner with line })
    else if startsNumber then
      let behind ← dropNumber text
      let found := text.take (text.length - behind.length)
      return (scanner.tokenBefore .number found behind, behind, scanner)
    else if isNamePart c then
      let word := text.takeWhile isNamePart
      match nameFault? word with
      | some fault => throw fault
      | none =>
        let kind := if keywords.contains (String.ofList word) then .keyword else .name
        let behind := text.drop word.length
        return (scanner.tokenBefore kind word behind, behind, scanner)
    else
      let mark := takeMark text
      let scanner ← scanner.passMark mark
      let behind := text.drop mark.length
      return (scanner.tokenBefore .mark mark behind, behind, scanner)

/-- Scans a text from a state of the scanner on; the tokens found are kept last first. -/
def scanFrom : (bound : Nat) → Scanner → List Token → List Char → Scanned
  | 0, scanner, tokens, _ => scanner.finish .complete tokens
  | bound + 1, scanner, tokens, text =>
    if scanner.atStart then
      match dropIndent false false 0 text with
      | .error fault => scanner.stall fault tokens
      | .ok (isIndented, lines, behind) =>
        let isBlankLine := behind.head? == some '#' || behind.head? == some '\n'
        let scanner := { scanner with line := scanner.line + lines, atStart := false, isBlankLine }
        let tokens := if isIndented && !isBlankLine && scanner.opened.isEmpty
          then scanner.token .indent [] :: tokens else tokens
        scanFrom bound scanner tokens behind
    else
      match text with
      | [] =>
        if scanner.opened.isEmpty then
          scanner.finish .complete (scanner.token .close [] :: tokens)
        else scanner.stall .endOfText tokens
      | c :: rest =>
        if c = ' ' || c = '\t' || c = '\x0c' then scanFrom bound scanner tokens rest
        else if c = '#' then scanFrom bound scanner tokens (rest.dropWhile (· != '\n'))
        else if c = '\n' then
          let tokens := if scanner.isBlankLine || !scanner.opened.isEmpty then tokens
            else scanner.token .lineEnd [] :: tokens
          scanFrom bound { scanner with line := scanner.line + 1, atStart := true } tokens rest
        else if c = '\\' then
          match dropContinuation rest with
          | .ok behind => scanFrom bound { scanner with line := scanner.line + 1 } tokens behind
          | .error fault => scanner.stall fault tokens
        else
          match scanToken scanner text with
          | .error fault => scanner.finish (.faulty fault) tokens
          | .ok (token, behind, scanner) => scanFrom bound scanner (token :: tokens) behind

/-- A text with every line end as a line feed. -/
def joinLineEnds : List Char → List Char
  | [] => []
  | '\r' :: '\n' :: rest => '\n' :: joinLineEnds rest
  | c :: rest => (if c = '\r' then '\n' else c) :: joinLineEnds rest

/-- The tokens of a text. -/
def scan (text : List Char) : Scanned :=
  let lines := joinLineEnds text
  scanFrom (2 * lines.length + 2) {} [] lines

end DartLayers.Markup.Literal
