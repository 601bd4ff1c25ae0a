import DartLayers.Json.Display
import DartLayers.Markup

/-!
# DartLayers — what reaches the console

The console is a list of entries in the order in which they are shown. Messages are escaped, so that
a bracket in a file name or in a fault is shown as it is.

* **`LogEntry`** — one thing that the console is given.
* **`LogEntry.success`**, **`LogEntry.error`**, **`LogEntry.warning`**, **`LogEntry.info`** —
  messages by their colour.
* **`LogEntry.check`** — whether the console can show an entry.
* **`Log.header`**, **`Log.summary`** — a title between rules, and a table of two columns.
-/

namespace DartLayers

/-- One thing that the console is given: an empty line, marked-up text, a rule with a title, a
table, a question, or the rejection of an answer. -/
inductive LogEntry where
  | blank
  | print (markup : String)
  | rule (title : String)
  | table (title : String) (headers : List String) (rows : List (List String))
  | ask (text : String)
  | invalid (markup : String)
  deriving Repr, DecidableEq

/-- What the console has been given, in order. -/
abbrev Log := List LogEntry

namespace LogEntry

/-- A text between the tags of a style, escaped. -/
def styled (style text : String) : LogEntry :=
  .print ("[" ++ style ++ "]" ++ Markup.escape text ++ "[/" ++ style ++ "]")

/-- A message of success. -/
def success (text : String) : LogEntry := styled "bold green" text

/-- A message of failure. -/
def error (text : String) : LogEntry := styled "bold red" text

/-- A warning. -/
def warning (text : String) : LogEntry := styled "bold yellow" text

/-- A message of progress. -/
def info (text : String) : LogEntry := styled "dim" text

/-- The cells of a table, column after column. -/
def columns (rows : List (List String)) : List String :=
  (List.range ((rows.map List.length).max?.getD 0)).flatMap fun place =>
    rows.filterMap fun row => row[place]?

/-- Checks that the console can show a table. First the cells are read to find the widths of the
columns; then the title is shown, and the rows below it. -/
def checkTable (title : String) (rows : List (List String)) : Except Markup.Fault Unit := do
  (columns rows).forM fun cell => do discard (Markup.read cell)
  Markup.check title
  rows.flatten.forM Markup.check

/-- Checks that the console can show an entry. -/
def check : LogEntry → Except Markup.Fault Unit
  | .blank | .ask _ => .ok ()
  | .print markup | .invalid markup => Markup.check markup
  | .rule title => Markup.checkLine title
  | .table title headers rows => checkTable title (headers :: rows)

end LogEntry

namespace Log

/-- A title on a rule, with an empty line on both sides. -/
def header (title : String) : Log :=
  [.blank, .rule ("[bold bright_cyan] " ++ title ++ " [/bold bright_cyan]"), .blank]

/-- The title of a summary that is given none. -/
def defaultTitle : String := "Summary"

/-- A table of labels and values under a title. -/
def summary (title : String) (rows : List (String × Json)) : Log :=
  [.table title ["Item", "Value"] (rows.map fun (label, value) => [label, value.display]), .blank]

end Log

end DartLayers
