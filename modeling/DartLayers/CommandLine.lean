import DartLayers.CommandLine.Word

/-!
# DartLayers — reading the command line

The words of a command line are taken one after the other. Every option may be given several times;
the last value counts. Short options without a value may be joined, and a value may be attached to
its option. Words that belong to no option are reported together, after all else is read.

* **`OptionValue`** — what a command line gives to an option.
* **`CommandLine`** — what a command line asks for.
* **`CommandStop`** — why it is not carried out: a fault, or a request for help.
* **`readCommandLine`** — the words read.
-/

namespace DartLayers

/-- What a command line gives to an option: nothing, a text, or a value of which nothing is left,
because the text attached to the option was a separator. -/
inductive OptionValue where
  | absent
  | emptied
  | text (value : String)
  deriving Repr, DecidableEq

namespace OptionValue

/-- The value that an attached or a following text gives. -/
def given (value : String) : OptionValue :=
  if value = separator then .emptied else .text value

/-- The text of a value, if it has one that is not empty. -/
def nonempty? : OptionValue → Option String
  | .text value => if value.isEmpty then none else some value
  | .absent | .emptied => none

end OptionValue

/-- What a command line asks for. -/
structure CommandLine where
  endpoint : OptionValue := .absent
  method : OptionValue := .text HttpMethod.get.name
  output : OptionValue := .absent
  projectPath : OptionValue := .absent
  baseUrl : OptionValue := .absent
  token : OptionValue := .absent
  yes : Bool := false
  deriving Repr, DecidableEq

/-- Why a command line is not carried out. -/
inductive CommandStop where
  | help
  | fault (fault : CommandFault)
  deriving Repr, DecidableEq

namespace CommandLine

/-- Uses of options in one word: some without a value, and the last with its value, if that is
attached. -/
structure Uses where
  switches : List CommandOption := []
  last : CommandOption
  value : Option String := none

/-- The uses that an attached text makes of an option and of the ones joined to it. A text that can
neither be a value nor name a short option is refused. -/
def attached (option : CommandOption) (isShort : Bool) :
    (text : List Char) → Except CommandFault Uses
  | [] =>
    -- Nothing behind an equals sign is an empty value.
    if option.takesValue then .ok { last := option, value := some "" }
    else .error (.ignoredValue option "")
  | c :: rest =>
    if option.takesValue then .ok { last := option, value := some (String.ofList (c :: rest)) }
    else if isShort then
      match CommandOption.ofShort? c, rest with
      | some next, [] => .ok { switches := [option], last := next }
      | some next, d :: others =>
        match attached next true (d :: others) with
        | .ok uses => .ok { uses with switches := option :: uses.switches }
        | .error fault => .error fault
      | none, _ => .error (.ignoredValue option (String.ofList (c :: rest)))
    else .error (.ignoredValue option (String.ofList (c :: rest)))

/-- The uses of options in a word. -/
def usesOf (option : CommandOption) (isShort : Bool) : Option String → Except CommandFault Uses
  | none => .ok { last := option }
  | some text => attached option isShort text.toList

/-- The method that a value names. A value of which nothing is left is none of the choices, but it
is not compared with them. -/
def methodOf : OptionValue → Except CommandStop OptionValue
  | .text value =>
    match HttpMethod.ofName? (Text.upper value) with
    | some method => .ok (.text method.name)
    | none => .error (.fault (.invalidMethod (Text.upper value)))
  | value => .ok value

/-- A command line with a value for an option. -/
def withValue (line : CommandLine) (option : CommandOption) (value : OptionValue) :
    Except CommandStop CommandLine :=
  match option with
  | .endpoint => .ok { line with endpoint := value }
  | .method => (methodOf value).map fun method => { line with method }
  | .output => .ok { line with output := value }
  | .projectPath => .ok { line with projectPath := value }
  | .baseUrl => .ok { line with baseUrl := value }
  | .token => .ok { line with token := value }
  | .help | .yes => .ok line

/-- A command line after a switch. -/
def withSwitch (line : CommandLine) (option : CommandOption) : Except CommandStop CommandLine :=
  match option with
  | .help => .error .help
  | .yes => .ok { line with yes := true }
  | _ => .ok line

/-- A command line after the uses of options in a word. -/
def withUses (line : CommandLine) (switches : List CommandOption) (last : CommandOption)
    (value : Option String) : Except CommandStop CommandLine := do
  let line ← switches.foldlM withSwitch line
  match value with
  | some value => line.withValue last (.given value)
  | none => line.withSwitch last

/-- Reads words into a command line. The words that belong to no option are returned. -/
def readWords (line : CommandLine) : List CommandWord →
    Except CommandStop (CommandLine × List String)
  | [] => .ok (line, [])
  | .plain text :: rest => do
    let (line, others) ← readWords line rest
    return (line, text :: others)
  | .unknown text :: rest => do
    let (line, others) ← readWords line rest
    return (line, text :: others)
  | .separator :: rest => do
    let (line, others) ← readWords line rest
    return (line, separator :: others)
  | .named option isShort value :: rest =>
    match usesOf option isShort value with
    | .error fault => .error (.fault fault)
    | .ok uses =>
      if uses.last.takesValue && uses.value.isNone then
        match rest with
        | .plain text :: rest => do
          readWords (← line.withUses uses.switches uses.last (some text)) rest
        | _ => .error (.fault (.missingValue uses.last))
      else do readWords (← line.withUses uses.switches uses.last uses.value) rest

end CommandLine

/-- Reads a command line. -/
def readCommandLine (arguments : List String) : Except CommandStop CommandLine :=
  match CommandWord.readAll arguments with
  | .error fault => .error (.fault fault)
  | .ok words =>
    match CommandLine.readWords {} words with
    | .error stop => .error stop
    | .ok (line, []) => .ok line
    | .ok (_, others) => .error (.fault (.unrecognized others))

end DartLayers
