import DartLayers.Endpoint.Method
import DartLayers.Text.Digits
import DartLayers.Text.Quoted
import DartLayers.Text.Split

/-!
# DartLayers — words of a command line

A word of the command line is an option, with or without a value attached to it, or plain text. A
long option may be shortened as far as it stays unambiguous. What looks like an option but is none
is kept apart from plain text: it cannot be the value of an option.

* **`CommandOption`** — the options.
* **`CommandFault`** — why a command line is refused.
* **`CommandWord.readAll`** — the words of a command line.
-/

namespace DartLayers

/-! ## Options -/

/-- The options of the command line. -/
inductive CommandOption where
  | help
  | endpoint
  | method
  | output
  | projectPath
  | baseUrl
  | token
  | yes
  deriving Repr, DecidableEq

namespace CommandOption

/-- All options, in the order in which they are listed. -/
def all : List CommandOption :=
  [.help, .endpoint, .method, .output, .projectPath, .baseUrl, .token, .yes]

/-- The long name of an option. -/
def longName : CommandOption → String
  | .help => "--help"
  | .endpoint => "--endpoint"
  | .method => "--method"
  | .output => "--output"
  | .projectPath => "--project-path"
  | .baseUrl => "--base-url"
  | .token => "--token"
  | .yes => "--yes"

/-- The letter of an option's short name. -/
def letter? : CommandOption → Option Char
  | .help => some 'h'
  | .endpoint => some 'e'
  | .method => some 'm'
  | .output => some 'o'
  | .projectPath => some 'p'
  | .yes => some 'y'
  | .baseUrl | .token => none

/-- Whether an option has a value. -/
def takesValue : CommandOption → Bool
  | .help | .yes => false
  | _ => true

/-- The option with a given letter. -/
def ofShort? (letter : Char) : Option CommandOption :=
  all.find? fun option => option.letter? == some letter

/-- How a message names an option: by all its names. -/
def label (option : CommandOption) : String :=
  match option, option.letter? with
  | .help, some letter => "-" ++ letter.toString ++ "/" ++ option.longName
  | _, some letter => option.longName ++ "/-" ++ letter.toString
  | _, none => option.longName

/-- The options whose long names start with a text. -/
def startingWith (text : List Char) : List CommandOption :=
  all.filter fun option => text.isPrefixOf option.longName.toList

end CommandOption

/-! ## Words -/

/-- Why a command line is refused. -/
inductive CommandFault where
  | missingValue (option : CommandOption)
  | ignoredValue (option : CommandOption) (value : String)
  | invalidMethod (value : String)
  | ambiguous (word : String) (options : List CommandOption)
  | unrecognized (words : List String)
  deriving Repr, DecidableEq

/-- The wording of a fault. -/
def CommandFault.message : CommandFault → String
  | .missingValue option => "argument " ++ option.label ++ ": expected one argument"
  | .ignoredValue option value =>
    "argument " ++ option.label ++ ": ignored explicit argument " ++ Text.quoted value
  | .invalidMethod value =>
    "argument " ++ CommandOption.method.label ++ ": invalid choice: " ++ Text.quoted value ++
      " (choose from " ++
      ", ".intercalate (HttpMethod.all.map fun method => Text.quoted method.name) ++ ")"
  | .ambiguous word options =>
    "ambiguous option: " ++ word ++ " could match " ++
      ", ".intercalate (options.map CommandOption.longName)
  | .unrecognized words => "unrecognized arguments: " ++ " ".intercalate words

/-- A word of the command line. An option is named by its short or by its long name. -/
inductive CommandWord where
  | plain (text : String)
  | unknown (text : String)
  | separator
  | named (option : CommandOption) (isShort : Bool) (value : Option String)
  deriving Repr, DecidableEq

/-- The word after which all others are plain. -/
def separator : String := "--"

namespace CommandWord

/-- Digits without anything else. -/
def isDigits (text : List Char) : Bool :=
  text.all fun c => (Text.digitValue? c).isSome

/-- Whether the text after a minus sign makes it a negative number. -/
def isNumber (text : List Char) : Bool :=
  let text := if text.getLast? == some '\n' then text.dropLast else text
  match Text.cutAt '.' text with
  | (whole, none) => !whole.isEmpty && isDigits whole
  | (whole, some fraction) => isDigits whole && !fraction.isEmpty && isDigits fraction

/-- A word that starts like an option but names none: a negative number and a text with a space are
plain. -/
def ofOther (text : String) : CommandWord :=
  if isNumber (text.toList.drop 1) || text.toList.contains ' ' then .plain text
  else .unknown text

/-- A word that starts with two dashes; its name ends at the first equals sign. An exact name goes
before names that the word only starts. -/
def ofLong (text : String) : Except CommandFault CommandWord :=
  let (name, value) := Text.cutAt '=' text.toList
  let value := value.map String.ofList
  match CommandOption.all.find? fun option => option.longName.toList == name with
  | some option => .ok (.named option false value)
  | none =>
    match CommandOption.startingWith name with
    | [] => .ok (ofOther text)
    | [option] => .ok (.named option false value)
    | options => .error (.ambiguous text options)

/-- A word that starts with one dash: a letter, and the text attached to it, which an equals sign
may separate from it. -/
def ofShort (text : String) (letter : Char) (rest : List Char) : CommandWord :=
  match CommandOption.ofShort? letter, rest with
  | none, _ => ofOther text
  | some option, [] => .named option true none
  | some option, '=' :: value => .named option true (some (String.ofList value))
  | some option, value => .named option true (some (String.ofList value))

/-- Reads a word. A lone dash is plain. -/
def read (text : String) : Except CommandFault CommandWord :=
  match text.toList with
  | '-' :: '-' :: _ => ofLong text
  | '-' :: letter :: rest => .ok (ofShort text letter rest)
  | _ => .ok (.plain text)

/-- Reads the words of a command line. -/
def readAll : List String → Except CommandFault (List CommandWord)
  | [] => .ok []
  | text :: rest =>
    if text = DartLayers.separator then .ok (.separator :: rest.map .plain)
    else do return (← read text) :: (← readAll rest)

end CommandWord

end DartLayers
