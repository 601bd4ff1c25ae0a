import DartLayers.Markup.Emoji
import DartLayers.Markup.Handler
import DartLayers.Markup.Piece

/-!
# DartLayers — marked-up text

A tag opens a style, and a tag with a slash closes the last open one of its name, or the last one if
it has no name. What is still open at the end reaches to the end. The console looks at the styles
only when it shows the text; most styles that do not exist change nothing.

* **`Markup.read`** — the shown text of a marked-up text, and the styles over it.
* **`Markup.plain`** — the shown text alone.
* **`Markup.check`**, **`Markup.checkLine`** — whether the console can show a marked-up text.
-/

namespace DartLayers.Markup

/-! ## Faults -/

/-- Why a text cannot be shown: a tag closes what is not open, or has nothing left to close, a
handler cannot be read, or a part of a colour is no number. -/
inductive Fault where
  | notOpen (tag : String) (position : Nat)
  | noneOpen (position : Nat)
  | handler (fault : HandlerFault)
  | color (part : String) (fault : Text.IntegerFault)
  deriving Repr, DecidableEq

/-- The wording of a fault. -/
def Fault.message : Fault → String
  | .notOpen tag position =>
    "closing tag '" ++ tag ++ "' at position " ++ toString position ++
      " doesn't match any open tag"
  | .noneOpen position =>
    "closing tag '[/]' at position " ++ toString position ++ " has nothing to close"
  | .handler fault => fault.message
  | .color part .malformed => Text.malformedIntegerMessage 10 part
  | .color _ (.tooLong digits) => Text.longIntegerMessage digits

/-! ## Shown text -/

/-- Control characters that the console does not show: bell, backspace, vertical tab, form feed and
carriage return. -/
def isHidden (c : Char) : Bool :=
  c.toNat == 7 || c.toNat == 8 || c.toNat == 11 || c.toNat == 12 || c.toNat == 13

/-- A text without the control characters that the console does not show. -/
def dropHidden (text : String) : String :=
  String.ofList (text.toList.filter fun c => !isHidden c)

/-- A style over the characters from `start` up to `stop`. -/
structure Span where
  start : Nat
  stop : Nat
  style : String
  deriving Repr, DecidableEq

/-- A text as it is shown, with its styles in the order of their starts; of those that start
together, the ones that were closed last come first. -/
structure Shown where
  text : List Char
  spans : List Span
  deriving Repr, DecidableEq

/-! ## Reading -/

/-- A tag that is open: the name of its style, what follows the equals sign, and where it starts in
the shown text. -/
structure OpenTag where
  name : String
  parameters : Option (List Char)
  start : Nat
  deriving Repr, DecidableEq

namespace OpenTag

/-- Whether a tag names a handler. -/
def isHandler (tag : OpenTag) : Bool :=
  tag.name.toList.head? == some '@'

/-- The description of a tag's style. -/
def style (tag : OpenTag) : String :=
  match tag.parameters with
  | none => tag.name
  | some parameters => tag.name ++ " " ++ String.ofList parameters

/-- The style of a tag up to a place. -/
def span (tag : OpenTag) (stop : Nat) : Span :=
  { start := tag.start, stop, style := tag.style }

end OpenTag

/-- What has been read: the shown text, the open tags and the styles of closed ones, both last
first. -/
structure Reading where
  shown : List Char := []
  opened : List OpenTag := []
  spans : List Span := []
  deriving Repr, DecidableEq

namespace Reading

/-- The name of a style in a tag. -/
def styleName (text : List Char) : Except Fault String :=
  match Style.nameOf (String.ofList text) with
  | .ok name => .ok name
  | .error (.part part fault) => .error (.color part fault)
  | .error .malformed => .ok (Text.lower (Text.trim (String.ofList text)))

/-- Reads a text. -/
def addText (reading : Reading) (text : List Char) : Reading :=
  let shown := (Emoji.replace text).filter fun c => !isHidden c
  { reading with shown := reading.shown ++ shown }

/-- Reads a tag that opens a style or a handler. -/
def openTag (reading : Reading) (tag : Tag) : Except Fault Reading := do
  let opened : OpenTag :=
    { name := ← styleName tag.name, parameters := tag.parameters, start := reading.shown.length }
  return { reading with opened := opened :: reading.opened }

/-- Closes an open tag. A handler is read, and leaves no style behind. -/
def close (reading : Reading) (tag : OpenTag) : Except Fault Reading :=
  let reading := { reading with opened := reading.opened.erase tag }
  if tag.isHandler then
    match Handler.check (tag.parameters.getD []) with
    | .ok () => .ok reading
    | .error fault => .error (.handler fault)
  else .ok { reading with spans := tag.span reading.shown.length :: reading.spans }

/-- Reads a tag that closes one, with what stands behind its slash. -/
def closeTag (reading : Reading) (tag : Tag) (text : List Char) : Except Fault Reading := do
  let text := Text.trimWhile Text.isBlank text
  if text.isEmpty then
    match reading.opened with
    | [] => throw (.noneOpen tag.position)
    | last :: _ => reading.close last
  else
    let name ← styleName text
    match reading.opened.find? (·.name == name) with
    | none => throw (.notOpen (String.ofList tag.text) tag.position)
    | some found => reading.close found

/-- Reads a piece. -/
def addPiece (reading : Reading) : Piece → Except Fault Reading
  | .text text => .ok (reading.addText text)
  | .tag tag =>
    match tag.name with
    | '/' :: text => reading.closeTag tag text
    | _ => reading.openTag tag

/-- The end of a text, up to which all open tags reach. -/
def finish (reading : Reading) : Shown :=
  let spans := reading.opened.foldl (fun spans tag => tag.span reading.shown.length :: spans)
    reading.spans
  { text := reading.shown, spans := spans.mergeSort fun first second => first.start ≤ second.start }

end Reading

/-- The shown text of a marked-up text, and the styles over it. -/
def read (markup : String) : Except Fault Shown := do
  let reading ← (piecesOf markup.toList).foldlM Reading.addPiece {}
  return reading.finish

/-- What the console shows of a marked-up text. -/
def plain (markup : String) : Except Fault String := do
  return String.ofList (← read markup).text

/-! ## Showing -/

/-- Checks that a style can be looked at. One that does not exist changes nothing, but a part of a
colour has to be a number. -/
def Span.check (span : Span) : Except Fault Unit :=
  match Style.read span.style with
  | .error (.part part fault) => .error (.color part fault)
  | _ => .ok ()

/-- Whether a style is looked at when a text is shown in lines: a style over nothing but ends of
lines is not, if there are several lines. -/
def Shown.uses (shown : Shown) (span : Span) : Bool :=
  !shown.text.contains '\n' ||
    ((shown.text.drop span.start).take (span.stop - span.start)).any (· != '\n')

/-- Checks that the styles over a text that is shown in lines can be looked at. -/
def Shown.check (shown : Shown) : Except Fault Unit :=
  (shown.spans.filter shown.uses).forM Span.check

/-- Checks that the console can show a marked-up text. -/
def check (markup : String) : Except Fault Unit := do
  (← read markup).check

/-- Checks that the console can show a marked-up text as one line. -/
def checkLine (markup : String) : Except Fault Unit := do
  (← read markup).spans.forM Span.check

end DartLayers.Markup
