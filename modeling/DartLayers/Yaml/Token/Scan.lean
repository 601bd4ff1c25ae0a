import DartLayers.Yaml.Token.Directive
import DartLayers.Yaml.Token.Scalar

/-!
# DartLayers — reading a YAML text as tokens

Tokens are read one after the other. A scalar, an alias or a flow collection may turn out to be a
key when a colon follows on its line, at most `maxKeyLength` characters on; until then it is kept as
a *candidate*, and the tokens of a key and of a block mapping are put in front of it afterwards.

* **`Scanner.next`** — reads one more token.
* **`scanTokens`** — the tokens of a text. When a fault is met, the tokens before it are those that
  no candidate holds back, so that a fault of their structure comes first.
-/

namespace DartLayers.Yaml

/-- A token that may turn out to be a key: how many tokens precede it, whether it has to be one, and
its place. -/
structure Candidate where
  position : Nat
  isRequired : Bool
  index : Nat
  line : Nat
  column : Nat
  deriving Repr, DecidableEq

/-- The most characters between the start of a key and its colon. -/
def maxKeyLength : Nat := 1024

/-- The state of the reader. Tokens are kept last first, and candidates with the number of flow
collections around them; `indent` is the column of the innermost block collection, `outer` those of
the collections around it. -/
structure Scanner where
  cursor : Cursor
  tokens : List Token := []
  count : Nat := 0
  flowLevel : Nat := 0
  indent : Int := -1
  outer : List Int := []
  allowsKey : Bool := true
  candidates : List (Nat × Candidate) := []
  isDone : Bool := false

/-- Passes over spaces, comments and line breaks, and tells whether there was a break. -/
def skipToToken : (bound : Nat) → (afterBreak : Bool) → Reading Bool
  | 0, afterBreak => return afterBreak
  | bound + 1, afterBreak => do
    Reading.skipWhile (· == ' ')
    if (← Reading.peek) == '#' then Reading.skipWhile fun c => !endsLine c
    if (← Reading.lineBreak).isEmpty then return afterBreak
    else skipToToken bound true

namespace Scanner

/-- Puts a token at the end. -/
def push (token : Token) (scanner : Scanner) : Scanner :=
  { scanner with tokens := token :: scanner.tokens, count := scanner.count + 1 }

/-- Puts a token in front of those from `position` on. -/
def insertAt (position : Nat) (token : Token) (scanner : Scanner) : Scanner :=
  let behind := scanner.count - position
  { scanner with
    tokens := scanner.tokens.take behind ++ token :: scanner.tokens.drop behind
    count := scanner.count + 1 }

/-- Moves on by a reading. -/
def read {α : Type} (reading : Reading α) (scanner : Scanner) : Except Fault (α × Scanner) := do
  let (value, cursor) ← reading.run scanner.cursor
  return (value, { scanner with cursor })

/-! ## Candidates -/

/-- Whether the text is inside a flow collection. -/
def inFlow (scanner : Scanner) : Bool :=
  scanner.flowLevel != 0

/-- The candidate of the innermost flow collection. -/
def candidate? (scanner : Scanner) : Option Candidate :=
  scanner.candidates.lookup scanner.flowLevel

/-- Drops the candidate of the innermost flow collection; one that has to be a key is a fault. -/
def dropCandidate (scanner : Scanner) : Except Fault Scanner :=
  if scanner.candidate?.any Candidate.isRequired then .error .malformed
  else .ok { scanner with
    candidates := scanner.candidates.filter fun (level, _) => level != scanner.flowLevel }

/-- Whether a candidate is too far away to become a key. -/
def isStale (scanner : Scanner) (candidate : Candidate) : Bool :=
  candidate.line != scanner.cursor.line || scanner.cursor.index - candidate.index > maxKeyLength

/-- Drops the candidates that are too far away; one that has to be a key is a fault. -/
def dropStale (scanner : Scanner) : Except Fault Scanner :=
  let (stale, others) := scanner.candidates.partition fun (_, key) => scanner.isStale key
  if stale.any fun (_, key) => key.isRequired then .error .malformed
  else .ok { scanner with candidates := others }

/-- Makes the next token a candidate, if a key is allowed here. -/
def addCandidate (scanner : Scanner) : Except Fault Scanner := do
  if !scanner.allowsKey then return scanner
  else
    let cursor := scanner.cursor
    let isRequired := !scanner.inFlow && scanner.indent == cursor.column
    let key := ⟨scanner.count, isRequired, cursor.index, cursor.line, cursor.column⟩
    let scanner ← scanner.dropCandidate
    return { scanner with candidates := (scanner.flowLevel, key) :: scanner.candidates }

/-! ## Indentation -/

/-- The columns around a new column, with the number of collections that end at it. -/
def closing (column : Int) : (indent : Int) → List Int → Nat × Int × List Int
  | indent, [] => (0, indent, [])
  | indent, outer :: rest =>
    if indent > column then
      let (count, result) := closing column outer rest
      (count + 1, result)
    else (0, indent, outer :: rest)

/-- Ends the block collections that are indented deeper than a column. -/
def unwind (column : Int) (scanner : Scanner) : Scanner :=
  if scanner.inFlow then scanner
  else
    let (ended, indent, outer) := closing column scanner.indent scanner.outer
    { scanner with
      tokens := List.replicate ended .blockEnd ++ scanner.tokens
      count := scanner.count + ended
      indent
      outer }

/-- Whether a block collection in a column is a new one. -/
def opens (column : Nat) (scanner : Scanner) : Bool :=
  scanner.indent < column

/-- Starts a block collection in a column. -/
def indentTo (column : Nat) (scanner : Scanner) : Scanner :=
  { scanner with indent := column, outer := scanner.indent :: scanner.outer }

/-- Starts a block collection in the present column, unless it is there already. A new entry must be
allowed here. -/
def openBlock (start : Token) (scanner : Scanner) : Except Fault Scanner :=
  let column := scanner.cursor.column
  if scanner.inFlow then .ok scanner
  else if !scanner.allowsKey then .error .malformed
  else if scanner.opens column then .ok ((scanner.indentTo column).push start)
  else .ok scanner

/-! ## One token -/

/-- Passes over characters and adds a token for them. -/
def pushMark (width : Nat) (token : Token) (scanner : Scanner) : Scanner :=
  { scanner with cursor := scanner.cursor.advance width }.push token

/-- Ends the text. -/
def addEnd (scanner : Scanner) : Except Fault Scanner := do
  let scanner ← (scanner.unwind (-1)).dropCandidate
  return { scanner.push .endOfText with isDone := true }

/-- Adds a directive. -/
def addDirective (scanner : Scanner) : Except Fault Scanner := do
  let scanner ← (scanner.unwind (-1)).dropCandidate
  let (directive, scanner) ← scanner.read Reading.directive
  return { scanner with allowsKey := false }.push (.directive directive)

/-- Adds a document mark. -/
def addDocumentMark (token : Token) (scanner : Scanner) : Except Fault Scanner := do
  let scanner ← (scanner.unwind (-1)).dropCandidate
  return { scanner with allowsKey := false }.pushMark 3 token

/-- Adds the start of a flow collection. -/
def addFlowStart (token : Token) (scanner : Scanner) : Except Fault Scanner := do
  let scanner ← scanner.addCandidate
  return { scanner with flowLevel := scanner.flowLevel + 1, allowsKey := true }.pushMark 1 token

/-- Adds the end of a flow collection; there must be one to end. -/
def addFlowEnd (token : Token) (scanner : Scanner) : Except Fault Scanner := do
  let scanner ← scanner.dropCandidate
  if !scanner.inFlow then .error .malformed
  else
    let outside := { scanner with flowLevel := scanner.flowLevel - 1, allowsKey := false }
    return outside.pushMark 1 token

/-- Adds the mark between two entries of a flow collection. -/
def addFlowEntry (scanner : Scanner) : Except Fault Scanner := do
  let scanner ← { scanner with allowsKey := true }.dropCandidate
  return scanner.pushMark 1 .flowEntry

/-- Adds the mark of an entry of a block sequence. -/
def addBlockEntry (scanner : Scanner) : Except Fault Scanner := do
  let scanner ← scanner.openBlock .blockSequence
  let scanner ← { scanner with allowsKey := true }.dropCandidate
  return scanner.pushMark 1 .blockEntry

/-- Adds the mark of a key. -/
def addKey (scanner : Scanner) : Except Fault Scanner := do
  let scanner ← scanner.openBlock .blockMapping
  let scanner ← { scanner with allowsKey := !scanner.inFlow }.dropCandidate
  return scanner.pushMark 1 .key

/-- Makes a candidate a key. -/
def confirm (key : Candidate) (scanner : Scanner) : Scanner :=
  let scanner := { scanner with
    candidates := scanner.candidates.filter fun (level, _) => level != scanner.flowLevel
    allowsKey := false }.insertAt key.position .key
  -- The start of a mapping goes in front of the mark that was just put there.
  if !scanner.inFlow && scanner.opens key.column then
    (scanner.indentTo key.column).insertAt key.position .blockMapping
  else scanner

/-- Adds the mark of a value, of the candidate if there is one. -/
def addValue (scanner : Scanner) : Except Fault Scanner := do
  match scanner.candidate? with
  | some key => return (scanner.confirm key).pushMark 1 .value
  | none =>
    let scanner ← scanner.openBlock .blockMapping
    let scanner ← { scanner with allowsKey := !scanner.inFlow }.dropCandidate
    return scanner.pushMark 1 .value

/-- Adds a token that may be a key. -/
def addNode (reading : Reading Token) (scanner : Scanner) : Except Fault Scanner := do
  let scanner ← scanner.addCandidate
  let (token, scanner) ← scanner.read reading
  return { scanner with allowsKey := false }.push token

/-- Adds a block scalar. -/
def addBlockScalar (folded : Bool) (scanner : Scanner) : Except Fault Scanner := do
  let scanner ← { scanner with allowsKey := true }.dropCandidate
  let (text, scanner) ← scanner.read (Reading.blockScalar folded scanner.indent)
  return scanner.push (.scalar false text)

/-- Adds a plain scalar; after one that ends with a line break a key is allowed. -/
def addPlain (scanner : Scanner) : Except Fault Scanner := do
  let scanner ← scanner.addCandidate
  let ((text, afterBreak), scanner) ←
    scanner.read (Reading.plainScalar scanner.inFlow scanner.indent)
  return { scanner with allowsKey := afterBreak }.push (.scalar true text)

/-- Whether a plain scalar starts here. -/
def startsPlain (scanner : Scanner) : Bool :=
  let c := scanner.cursor.peek
  !(endsWord c || isIndicator c) ||
    (!endsWord (scanner.cursor.peekAt 1) &&
      (c == '-' || (!scanner.inFlow && (c == '?' || c == ':'))))

/-- Whether the next character is a mark that needs a blank after it outside flow collections. -/
def atMark (scanner : Scanner) : Bool :=
  scanner.inFlow || endsWord (scanner.cursor.peekAt 1)

/-- Adds the token that starts here. -/
def addToken (scanner : Scanner) : Except Fault Scanner :=
  let cursor := scanner.cursor
  let c := cursor.peek
  if c == endOfText then scanner.addEnd
  else if c == '%' && cursor.column == 0 then scanner.addDirective
  else if cursor.column == 0 && cursor.atMark '-' then scanner.addDocumentMark .documentStart
  else if cursor.column == 0 && cursor.atMark '.' then scanner.addDocumentMark .documentEnd
  else if c == '[' then scanner.addFlowStart .flowSequence
  else if c == '\x7b' then scanner.addFlowStart .flowMapping
  else if c == ']' then scanner.addFlowEnd .flowSequenceEnd
  else if c == '\x7d' then scanner.addFlowEnd .flowMappingEnd
  else if c == ',' then scanner.addFlowEntry
  else if c == '-' && endsWord (cursor.peekAt 1) then scanner.addBlockEntry
  else if c == '?' && scanner.atMark then scanner.addKey
  else if c == ':' && scanner.atMark then scanner.addValue
  else if c == '*' then scanner.addNode (.alias <$> Reading.anchorName)
  else if c == '&' then scanner.addNode (.anchor <$> Reading.anchorName)
  else if c == '!' then scanner.addNode Reading.tag
  else if c == '|' && !scanner.inFlow then scanner.addBlockScalar false
  else if c == '>' && !scanner.inFlow then scanner.addBlockScalar true
  else if c == '\'' || c == '"' then scanner.addNode (.scalar false <$> Reading.flowScalar c)
  else if scanner.startsPlain then scanner.addPlain
  else .error .malformed

/-! ## All tokens -/

/-- Passes over what does not matter and adds one more token. -/
def next (scanner : Scanner) : Except Fault Scanner := do
  let (afterBreak, scanner) ← scanner.read (skipToToken scanner.cursor.bound false)
  let allowsKey := scanner.allowsKey || (afterBreak && !scanner.inFlow)
  let scanner ← { scanner with allowsKey }.dropStale
  (scanner.unwind scanner.cursor.column).addToken

/-- The tokens that no candidate holds back. -/
def settled (scanner : Scanner) : List Token :=
  let pending := scanner.candidates.filter fun (_, key) => !scanner.isStale key
  let count := (pending.map fun (_, key) => key.position).foldl min scanner.count
  scanner.tokens.reverse.take count

/-- The tokens of the rest of a text. -/
def scan : (bound : Nat) → Scanner → List Token
  | 0, scanner => scanner.settled ++ [.fault .malformed]
  | bound + 1, scanner =>
    if scanner.isDone then scanner.tokens.reverse
    else match scanner.next with
      | .ok scanner => scan bound scanner
      | .error fault => scanner.settled ++ [.fault fault]

end Scanner

/-- The tokens of a text; a mark of the byte order may precede it. -/
def scanTokens (text : List Char) : List Token :=
  let cursor : Cursor := ⟨text, 0, 0, 0⟩
  let start := if cursor.peek == byteOrderMark then cursor.step else cursor
  Scanner.scan (text.length + 2) { cursor := start }

end DartLayers.Yaml
