import Disposition.Journal.Console
import Disposition.Journal.Library
import Disposition.Journal.Template
import Disposition.Text.Occurrence

/-!
# A library for the journal

The library that the service runs with, as far as its log needs it. Traces and reports of failures
are left out of it: what asks for them is taken from the facts, and nothing is added.

* `LogLibrary.standard`: the library.
-/

namespace Disposition

/-- The facts without one. -/
def Line.without (name : String) (line : Line) : Line :=
  line.filter fun (other, _) => other ≠ name

namespace Entry

/-- The names of the operation that writes an entry: they cannot name a fact as well. -/
def ownNames : List String :=
  ["event", "self"]

/-- What an entry gives twice, if anything. -/
def givenTwice? (entry : Entry) : Option JournalFault :=
  match entry.fields.find? fun (name, _) => ownNames.contains name with
  | some (name, _) => some (.givenTwice entry.level.name name)
  | none =>
    if (entry.fields.lookup "method_name").isSome then
      some (.givenTwice "_proxy_to_logger" "method_name")
    else none

/-- The draft of an entry. Arguments that are given by place replace a fact of that name. -/
def drafted (entry : Entry) : Draft :=
  { fields := Value.setMember "event" (.text entry.event) <|
      if entry.arguments.isEmpty then entry.fields else entry.fields.without "positional_args"
    arguments := entry.arguments }

end Entry

namespace LogLibrary

/-- A processor that only changes the facts. -/
def changing (change : Occasion → Line → Line) : Processor := fun occasion draft =>
  .ok (some { draft with fields := change occasion draft.fields })

/-- Name the part of the service. The fact that should be a whole record can only be null. -/
def nameLogger : Processor := fun occasion draft =>
  match Value.member draft.fields "_record" with
  | .null =>
    changing (fun occasion => Value.setMember "logger" (.text occasion.logger)) occasion draft
  | v => .error (.notARecord v.kind)

/-- The arguments that stand in a fact; none if there is nothing in it. -/
def argumentsIn (v : Value) : Except JournalFault (Option Arguments) :=
  if v.isTruthy then
    match v with
    | .object [_] => .error .noFirst
    | .object _ | .list _ | .text _ => .ok (some (.ofSingle v))
    | v => .error (.uncountable v.kind)
  else .ok none

/-- The arguments of a draft: those that were given by place, or else those that stand in a fact. -/
def argumentsOf (draft : Draft) : Except JournalFault (Option Arguments) :=
  if draft.arguments.isEmpty then argumentsIn (Value.member draft.fields "positional_args")
  else .ok (some (.ofList draft.arguments))

/-- The words of some facts. -/
def wordsOf (fields : Line) : String :=
  ((fields.lookup "event").bind Value.text?).getD ""

/-- The facts without the one that the arguments can stand in, unless it is null. -/
def withoutArguments (fields : Line) : Line :=
  match Value.member fields "positional_args" with
  | .null => fields
  | _ => fields.without "positional_args"

/-- Fill the arguments into the words. -/
def fill : Processor := fun occasion draft => do
  let fields := withoutArguments draft.fields
  match ← argumentsOf draft with
  | none => return some { fields }
  | some arguments =>
    let words ←
      (Template.fill occasion.room (wordsOf draft.fields) arguments).mapError .template
    return some { fields := Value.setMember "event" (.text words) fields }

/-- The library. The parts that access the database write no less than warnings, whatever the
settings say. -/
def standard : LogLibrary where
  draft entry :=
    match entry.givenTwice? with
    | some fault => .error fault
    | none => .ok entry.drafted
  bind := Value.setMember
  clear _ := []
  ownLeast logger :=
    if logger = "sqlalchemy" || Text.startsWith "sqlalchemy." logger then
      some Level.warning.severity
    else none
  mergeBound bound := changing fun _ fields => fields.withDefaults bound
  filterByLevel occasion draft := .ok (if occasion.isEnabled then some draft else none)
  addLogger := nameLogger
  addLevel := changing fun occasion => Value.setMember "level" (.text occasion.level.name)
  fillArguments := fill
  addTime := changing fun occasion => Value.setMember "timestamp" (.text occasion.time)
  addTrace := changing fun _ => Line.without "stack_info"
  addFailure := changing fun _ => Line.without "exc_info"
  decode := changing fun _ fields => fields
  renderData occasion draft :=
    (Json.dump (occasion.room + 1) (.object draft.fields)).mapError .data
  renderText occasion draft := Console.text occasion.room draft.fields

end LogLibrary

end Disposition
