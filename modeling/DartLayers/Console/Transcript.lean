import DartLayers.Console

/-!
# DartLayers — the console as text

A terminal without styles shows the entries of a console one after the other. What has been answered
so far is shown up to the next question, which waits for its answer.

* **`LogEntry.text`** — an entry as text.
* **`Log.untilQuestion`** — the entries up to a question.
-/

namespace DartLayers

/-- A marked-up text without its styles; a text that is no markup is shown as it is. -/
def plainText (markup : String) : String :=
  match Markup.plain markup with
  | .ok text => text
  | .error _ => markup

/-- An entry as text. A question leaves its line open for the answer. -/
def LogEntry.text : LogEntry → String
  | .blank => "\n"
  | .print markup | .rule markup | .invalid markup => plainText markup ++ "\n"
  | .table title _ rows =>
    String.join ((title :: rows.map (" ".intercalate ·)).map (· ++ "\n"))
  | .ask question => question

/-- Whether an entry is a question. -/
def LogEntry.isQuestion : LogEntry → Bool
  | .ask _ => true
  | _ => false

/-- The entries up to the first question after `answered` others. -/
def Log.untilQuestion : (answered : Nat) → Log → Log
  | _, [] => []
  | answered, entry :: rest =>
    if entry.isQuestion then
      match answered with
      | 0 => [entry]
      | answered + 1 => entry :: untilQuestion answered rest
    else entry :: untilQuestion answered rest

end DartLayers
