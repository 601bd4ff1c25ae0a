import DartLayers.Markup.Color
import DartLayers.Text.Blank

/-!
# DartLayers — the styles of the console

A style sets or resets attributes, and gives a colour, a colour behind the text, and a link. It is
described by words in any order. One name, made from what the words come to, stands for all
descriptions of a style; a text that describes none stands for itself in lower case.

* **`Style.read`** — the style that words describe.
* **`Style.name`** — the name of a style.
* **`Style.nameOf`** — the name that a description stands for.
-/

namespace DartLayers.Markup

/-! ## Attributes -/

/-- What a style can set or reset. -/
inductive Attribute where
  | bold
  | dim
  | italic
  | underline
  | blink
  | fastBlink
  | reverse
  | conceal
  | strike
  | doubleUnderline
  | frame
  | encircle
  | overline
  deriving Repr, DecidableEq

namespace Attribute

/-- All attributes, in the order in which a name lists them. -/
def all : List Attribute := [
  .bold, .dim, .italic, .underline, .blink, .fastBlink, .reverse, .conceal, .strike,
  .doubleUnderline, .frame, .encircle, .overline]

/-- The word for an attribute. -/
def word : Attribute → String
  | .bold => "bold"
  | .dim => "dim"
  | .italic => "italic"
  | .underline => "underline"
  | .blink => "blink"
  | .fastBlink => "blink2"
  | .reverse => "reverse"
  | .conceal => "conceal"
  | .strike => "strike"
  | .doubleUnderline => "underline2"
  | .frame => "frame"
  | .encircle => "encircle"
  | .overline => "overline"

/-- Short words for attributes. -/
def shortWords : List (String × Attribute) := [
  ("d", .dim), ("b", .bold), ("i", .italic), ("u", .underline), ("r", .reverse), ("c", .conceal),
  ("s", .strike), ("uu", .doubleUnderline), ("o", .overline)]

/-- The attribute that a word means. -/
def ofWord? (text : String) : Option Attribute :=
  (all.find? fun trait => trait.word == text).or (shortWords.lookup text)

/-- Every attribute is meant by its word. -/
theorem ofWord?_word (trait : Attribute) : ofWord? trait.word = some trait := by
  cases trait <;> decide

end Attribute

/-! ## Styles -/

/-- A style. Of several settings of an attribute the first one in the list counts. -/
structure Style where
  settings : List (Attribute × Bool) := []
  color : Option String := none
  background : Option String := none
  link : Option String := none
  deriving Repr, DecidableEq

/-- Why words describe no style: a word has no place, or a part of a colour is no number. -/
inductive StyleFault where
  | malformed
  | part (text : String) (fault : Text.IntegerFault)
  deriving Repr, DecidableEq

namespace Style

/-- The colour that a word means. -/
def colorOf (word : String) : Except StyleFault String :=
  match Color.readName word with
  | .ok name => .ok name
  | .error .unknown => .error .malformed
  | .error (.part text fault) => .error (.part text fault)

/-- A style with what words add to it. Only the word after `not` has to be in lower case. -/
def readWords : Style → List String → Except StyleFault Style
  | style, [] => .ok style
  | style, first :: rest => do
    let word := Text.lower first
    if word = "on" then
      match rest with
      | [] => throw .malformed
      | second :: rest => readWords { style with background := some (← colorOf second) } rest
    else if word = "not" then
      match rest with
      | [] => throw .malformed
      | second :: rest =>
        match Attribute.ofWord? second with
        | none => throw .malformed
        | some trait =>
          readWords { style with settings := (trait, false) :: style.settings } rest
    else if word = "link" then
      match rest with
      | [] => throw .malformed
      | second :: rest => readWords { style with link := some second } rest
    else
      match Attribute.ofWord? word with
      | some trait =>
        readWords { style with settings := (trait, true) :: style.settings } rest
      | none => readWords { style with color := some (← colorOf word) } rest

/-- The words of a text, without the blanks between them. -/
def wordsOf : List Char → List String
  | [] => []
  | c :: rest =>
    match Text.isBlank c, rest, wordsOf rest with
    | true, _, words => words
    | false, d :: _, word :: words =>
      if Text.isBlank d then String.singleton c :: word :: words
      else (String.singleton c ++ word) :: words
    | false, _, words => String.singleton c :: words

/-- The style that a text describes. The word for no style stands alone. -/
def read (text : String) : Except StyleFault Style :=
  match wordsOf text.toList with
  | ["none"] => .ok {}
  | words => readWords {} words

/-- The words for an attribute that a style sets or resets. -/
def settingWords (style : Style) (trait : Attribute) : List String :=
  match style.settings.lookup trait with
  | none => []
  | some true => [trait.word]
  | some false => ["not", trait.word]

/-- The name of a style: its attributes, its colours and its link in a fixed order. -/
def name (style : Style) : String :=
  let words := Attribute.all.flatMap style.settingWords ++ style.color.toList ++
    (style.background.map fun color => ["on", color]).getD [] ++
    (style.link.map fun address => ["link", address]).getD []
  if words.isEmpty then "none" else " ".intercalate words

/-- The name that a description stands for. Only a part of a colour that is no number makes it
fail. -/
def nameOf (text : String) : Except StyleFault String :=
  match read text with
  | .ok style => .ok style.name
  | .error .malformed => .ok (Text.lower (Text.trim text))
  | .error fault => .error fault

end Style

end DartLayers.Markup
