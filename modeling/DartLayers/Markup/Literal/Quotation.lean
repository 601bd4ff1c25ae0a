import DartLayers.Markup.Literal.Token

/-!
# DartLayers — quoted texts of literal expressions

A quoted text may have letters in front of it: `r` keeps backslashes, `b` makes it bytes, and `f`
makes what stands in braces expressions. Quoted texts side by side are one text. Only their faults
matter here.

* **`Literal.quotationFault?`** — what is wrong with quoted texts side by side.
-/

namespace DartLayers.Markup.Literal

/-! ## Escapes -/

/-- A character as escapes are read: one beyond ASCII is an escape itself. -/
def asciiUnit (c : Char) : List Char :=
  if c.toNat < 0x80 then [c] else '\\' :: 'U' :: Text.hexDigits 8 c.toNat

/-- The characters of a text as escapes are read. A backslash that no ASCII character follows is an
escape itself. -/
def asciiUnits : List Char → List Char
  | [] => []
  | '\\' :: [] => "\\u005c".toList
  | '\\' :: c :: rest =>
    (if c.toNat < 0x80 then ['\\', c] else "\\u005c".toList ++ asciiUnit c) ++ asciiUnits rest
  | c :: rest => asciiUnit c ++ asciiUnits rest

/-- The hexadecimal escapes by their letters: how many digits they need, and how they are
written. -/
def hexEscapes : List (Char × Nat × String) := [
  ('x', 2, "\\xXX"), ('u', 4, "\\uXXXX"), ('U', 8, "\\UXXXXXXXX")]

/-- The value of hexadecimal digits. -/
def hexValueOf (digits : List Char) : Nat :=
  digits.foldl (fun value digit => 16 * value + (Text.hexValue? digit).getD 0) 0

/-- The fault of a hexadecimal escape at a position. -/
def hexFault? (position count : Nat) (form : String) (text : List Char) : Option QuotationFault :=
  let digits := (text.take count).takeWhile fun c => (Text.hexValue? c).isSome
  if digits.length < count then
    some (.escape position (position + 1 + digits.length) ("truncated " ++ form ++ " escape"))
  else if hexValueOf digits > 0x10FFFF then
    some (.escape position (position + 1 + count) "illegal Unicode character")
  else none

/-- The fault of an escape by name at a position, read behind its letter. There is no table of names
here: a name is refused as unknown even if there is a character of that name. -/
def nameFault (position : Nat) (text : List Char) : QuotationFault :=
  match text with
  | '{' :: rest =>
    let name := rest.takeWhile (· != '}')
    if name.isEmpty || name.length = rest.length then
      .escape position (position + 2 + name.length) "malformed \\N character escape"
    else .escape position (position + 3 + name.length) "unknown Unicode character name"
  | _ => .escape position (position + 1) "malformed \\N character escape"

/-- The first fault of the escapes in a text. -/
def escapeFault? : (position : Nat) → (isEscape : Bool) → List Char → Option QuotationFault
  | _, _, [] => none
  | position, false, c :: rest => escapeFault? (position + 1) (c == '\\') rest
  | position, true, c :: rest =>
    let fault := match hexEscapes.lookup c with
      | some (count, form) => hexFault? (position - 1) count form rest
      | none => if c = 'N' then some (nameFault (position - 1) rest) else none
    fault.or (escapeFault? (position + 1) false rest)

/-- The first fault of the escapes in bytes. -/
def byteFault? : (position : Nat) → (isEscape : Bool) → List Char → Option QuotationFault
  | _, _, [] => none
  | position, false, c :: rest => byteFault? (position + 1) (c == '\\') rest
  | position, true, c :: rest =>
    let digits := (rest.take 2).takeWhile fun c => (Text.hexValue? c).isSome
    if c = 'x' && digits.length < 2 then some (.byteEscape (position - 1))
    else byteFault? (position + 1) false rest

/-! ## Placeholders -/

/-- A stretch of a text with placeholders: its characters, what follows, and whether it ends with a
doubled brace, behind which no placeholder starts. -/
structure Stretch where
  text : List Char
  rest : List Char
  isDoubled : Bool

/-- The text behind a closing brace. -/
def dropName (text : List Char) : List Char :=
  (text.dropWhile (· != '}')).drop 1

/-- A stretch up to a brace or the end. `read` is what has been read, last character first. -/
def takeStretch (isRaw : Bool) (level : Nat) :
    (bound : Nat) → (read : List Char) → List Char → Except PlaceholderFault Stretch
  | 0, read, text => .ok ⟨read.reverse, text, false⟩
  | bound + 1, read, text =>
    match text with
    | [] => .ok ⟨read.reverse, [], false⟩
    | c :: rest =>
      let (read, c, rest) := match c, rest with
        | '\\', d :: behind => if isRaw then (read, c, rest) else ('\\' :: read, d, behind)
        | _, _ => (read, c, rest)
      let isEscape := read.head? == some '\\' && rest.length + 2 == text.length
      if isEscape && c = 'N' then
        -- Braces of a name are no placeholder; without them one character is passed over.
        let behind := match rest with
          | '{' :: inside => dropName inside
          | _ => rest.drop 1
        takeStretch isRaw level bound
          ((rest.take (rest.length - behind.length)).reverse ++ c :: read) behind
      else if c = '{' || c = '}' then
        if level = 0 && rest.head? == some c then .ok ⟨(c :: read).reverse, rest.drop 1, true⟩
        else if level = 0 && c = '}' then .error .singleBrace
        else .ok ⟨read.reverse, c :: rest, false⟩
      else takeStretch isRaw level bound (c :: read) rest

/-- The quotes that are open in an expression. -/
structure OpenQuote where
  quote : Char
  isTriple : Bool

/-- The expression at the start of a text, up to what ends it outside of quotes and brackets. -/
def takeExpression : (bound : Nat) → Option OpenQuote → (opened read : List Char) → List Char →
    Except PlaceholderFault (List Char × List Char)
  | 0, _, _, read, text => .ok (read.reverse, text)
  | bound + 1, quote, opened, read, text =>
    match text with
    | [] =>
      match quote, opened with
      | some _, _ => .error .unterminated
      | none, bracket :: _ => .error (.unmatched bracket)
      | none, [] => .ok (read.reverse, [])
    | c :: rest =>
      let isTriple := rest.take 2 == [c, c]
      let skipTwo := fun quote =>
        takeExpression bound quote opened (c :: c :: c :: read) (rest.drop 2)
      let skip := fun quote opened => takeExpression bound quote opened (c :: read) rest
      if c = '\\' then .error .backslash
      else match quote with
      | some inside =>
        if c = inside.quote && !inside.isTriple then skip none opened
        else if c = inside.quote && isTriple then skipTwo none
        else skip quote opened
      | none =>
        if c = '\'' || c = '"' then
          if isTriple then skipTwo (some ⟨c, true⟩) else skip (some ⟨c, false⟩) opened
        else if c = '(' || c = '[' || c = '{' then
          if opened.length ≥ 200 then .error .tooNested else skip none (c :: opened)
        else if c = '#' then .error .comment
        else if opened.isEmpty && ['!', ':', '}', '=', '<', '>'].contains c then
          if ['!', '=', '<', '>'].contains c && rest.head? == some '=' then
            takeExpression bound none opened ('=' :: c :: read) (rest.drop 1)
          else if c = '<' || c = '>' then skip none opened
          else .ok (read.reverse, text)
        else if c = ')' || c = ']' || c = '}' then
          match opened with
          | [] => .error (.unmatched c)
          | bracket :: outer =>
            let closing := if bracket = '(' then ')' else if bracket = '[' then ']' else '}'
            if c = closing then skip none outer else .error (.mismatched c bracket)
        else skip none opened

/-- Refuses an empty expression in front of what ends it. -/
def checkEmpty (expression rest : List Char) : Except PlaceholderFault Unit :=
  if expression.all fun c => c == ' ' || c == '\t' || c == '\n' || c == '\x0c' then
    match rest with
    | mark :: _ => .error (if mark = '}' then .empty else .emptyBefore mark)
    | [] => .error .empty
  else .ok ()

/-- The text behind the conversion of a placeholder, if it has one. -/
def dropConversion : List Char → Except PlaceholderFault (List Char)
  | '!' :: [] => .error .unclosed
  | '!' :: c :: rest => if c = 's' || c = 'r' || c = 'a' then .ok rest else .error .conversion
  | rest => .ok rest

/-- A fault of a placeholder as that of a text. -/
def ofPlaceholder {α : Type} : Except PlaceholderFault α → Except Fault α
  | .ok value => .ok value
  | .error fault => .error (.quotation (.placeholder fault))

/-- Checks a text with placeholders from a stretch on, and returns what follows it: nothing, or in a
format the brace at its end. `expressionFault?` says what is wrong with an expression. -/
def checkPlaceholders (expressionFault? : List Char → Option Fault) (isRaw : Bool) :
    (bound level : Nat) → List Char → Except Fault (List Char)
  | 0, _, text => .ok text
  | bound + 1, level, text => do
    let stretch ← ofPlaceholder (takeStretch isRaw level (text.length + 1) [] text)
    if !isRaw then
      if let some fault := escapeFault? 0 false (asciiUnits stretch.text) then
        throw (.quotation fault)
    if stretch.isDoubled then checkPlaceholders expressionFault? isRaw bound level stretch.rest
    else match stretch.rest with
      | '{' :: inside => do
        if level ≥ 2 then throw (.quotation (.placeholder .tooDeep))
        let (expression, rest) ←
          ofPlaceholder (takeExpression (inside.length + 1) none [] [] inside)
        if rest.isEmpty then throw (.quotation (.placeholder .unclosed))
        ofPlaceholder (checkEmpty expression rest)
        if let some fault := expressionFault? expression then throw (.ofPlaceholder fault)
        let rest := if rest.head? == some '=' then rest.drop 1 else rest
        let rest ← ofPlaceholder (dropConversion rest)
        let rest ← match rest with
          | ':' :: format =>
            if format.isEmpty then throw (.quotation (.placeholder .unclosed))
            else checkPlaceholders expressionFault? isRaw bound (level + 1) format
          | _ => pure rest
        match rest with
        | '}' :: behind => checkPlaceholders expressionFault? isRaw bound level behind
        | _ => throw (.quotation (.placeholder .unclosed))
      | rest => return rest

/-! ## Quoted texts -/

/-- A quoted text without its quotes. -/
def unquoted (text : List Char) : List Char :=
  match text with
  | a :: b :: c :: rest =>
    if a = b && b = c && rest.length ≥ 3 then rest.take (rest.length - 3)
    else (b :: c :: rest).dropLast
  | _ => []

/-- The fault of a quoted text, without that of its placeholders. -/
def plainFault? (isBytes isRaw : Bool) (text : List Char) : Option QuotationFault :=
  if isBytes then
    if text.any fun c => c.toNat ≥ 0x80 then some .bytesBeyondAscii
    else if isRaw then none
    else byteFault? 0 false text
  else if isRaw then none
  else escapeFault? 0 false (asciiUnits text)

/-- What is wrong with a quoted text. `othersAreBytes` says what the texts before it are. -/
def partFault? (expressionFault? : List Char → Option Fault) (othersAreBytes : Option Bool)
    (token : Token) : Option Fault :=
  let letters := (token.text.takeWhile Char.isAlpha).map Char.toLower
  let text := unquoted (token.text.drop letters.length)
  let isBytes := letters.contains 'b'
  let isRaw := letters.contains 'r'
  let hasPlaceholders := letters.contains 'f'
  let plain := if hasPlaceholders then none else plainFault? isBytes isRaw text
  match plain with
  | some fault => some (.quotation fault)
  | none =>
    if othersAreBytes == some !isBytes then some (.quotation .bytesAndText)
    else if hasPlaceholders then
      match checkPlaceholders expressionFault? isRaw (2 * text.length + 2) 0 text with
      | .ok _ => none
      | .error fault => some fault
    else none

/-- Whether a quoted text is bytes. -/
def areBytes (token : Token) : Bool :=
  (token.text.takeWhile Char.isAlpha).any fun c => c == 'b' || c == 'B'

/-- What is wrong with quoted texts side by side, the first fault first. -/
def partsFault? (expressionFault? : List Char → Option Fault) :
    (othersAreBytes : Option Bool) → List Token → Option Fault
  | _, [] => none
  | othersAreBytes, token :: rest =>
    (partFault? expressionFault? othersAreBytes token).or
      (partsFault? expressionFault? (some (areBytes token)) rest)

end DartLayers.Markup.Literal
