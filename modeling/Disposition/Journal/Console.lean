import Disposition.Journal.Fault
import Disposition.Value.Text

/-!
# Lines for people

A line is written as text: its time, its level, its event, the part of the service that wrote it,
and then its other facts by name. A trace and a report of a failure follow on lines of their own.
Colours are no part of the text here. The library writes so if the settings do not ask for JSON.

* `Console.text`: the text of a line.
-/

namespace Disposition.Console

/-- A text is shown in quotes if it has one of these characters. -/
def isAmbiguous (c : Char) : Bool :=
  c = ' ' || c = '\t' || c = '=' || c = '\r' || c = '\n' || c = Text.doubleQuote ||
    c = Text.singleQuote

/-- The value of a fact, with room for so many values inside it. -/
def valueText (room : Nat) : Value → Except TextFault String
  | .text s => .ok (if s.toList.any isAmbiguous then Text.quote s else s)
  | v => v.quoted (room + 1)

/-- The names of the facts that have a place of their own in the text. -/
def placed : List String :=
  ["timestamp", "level", "event", "logger", "logger_name", "stack", "exception"]

/-- A fact that stands at the start of the text without its name. -/
def headPart (room : Nat) (line : List (String × Value)) (name : String) :
    Except TextFault String :=
  match line.lookup name with
  | some v => v.shown room
  | none => .ok ""

/-- A fact with its name. -/
def namedPart (room : Nat) (name : String) (v : Value) : Except TextFault String :=
  return name ++ "=" ++ (← valueText room v)

/-- The facts of a line in one row, as long as none of them has a line break. -/
def row (room : Nat) (line : List (String × Value)) : Except TextFault String := do
  let heads ← (["timestamp", "level", "event", "logger", "logger_name"].filter fun name =>
    (line.lookup name).isSome).mapM (headPart room line)
  let others ← (line.filter fun (name, _) => !placed.contains name).mapM fun (name, v) =>
    namedPart room name v
  return String.intercalate " " (heads ++ others)

/-- The text of a fact that is written below the row; nothing for null. -/
def below (line : List (String × Value)) (name : String) : Except JournalFault (Option String) :=
  match Value.member line name with
  | .null => .ok none
  | .text s => .ok (some s)
  | v => .error (.notText v.kind)

/-- What separates a trace from the report of a failure. -/
def separator : String :=
  String.ofList (List.replicate 79 '=')

/-- The text of a line, with room for so many values inside a fact. -/
def text (room : Nat) (line : List (String × Value)) : Except JournalFault String := do
  let trace ← below line "stack"
  let failure ← below line "exception"
  let traced :=
    match trace, failure with
    | none, _ => ""
    | some s, none => "\n" ++ s
    | some s, some _ => "\n" ++ s ++ "\n\n" ++ separator ++ "\n"
  let failed := (failure.map ("\n" ++ ·)).getD ""
  return (← (row room line).mapError .text) ++ traced ++ failed

end Disposition.Console
