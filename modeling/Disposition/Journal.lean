import Disposition.Journal.Library
import Disposition.Settings
import Disposition.Text.Lines

/-!
# The journal

The log of the service. Every line names its event, its level, the part of the service that wrote
it and the service itself; while a shop is bound, every line names the shop too. This is
`configure_logging` with its `add_service_context`, and `bind_shop` and `clear_context`.

* `Journal.ofSettings`: the journal for some settings.
* `Journal.processors`: what a draft passes through, in this order.
* `Journal.writing`: what is written for an entry, or why it is not.
* `Journal.run`: what some steps write, step by step.
-/

namespace Disposition

namespace Level

/-- The names by which the least level can be given, and its severity. -/
def thresholds : List (String × Nat) :=
  [("DEBUG", 10), ("INFO", 20), ("WARNING", 30), ("WARN", 30), ("ERROR", 40), ("CRITICAL", 50),
    ("FATAL", 50), ("NOTSET", 0)]

/-- The upper case of a character, as far as it occurs in the name of a level. -/
def upperChar (c : Char) : Char :=
  if c.toNat = 0x131 then 'I' else if c.toNat = 0x17F then 'S' else c.toUpper

/-- The names that stand for something else than a level. -/
def otherNames : List (String × LevelFault) :=
  [("BASIC_FORMAT", .unknown "%(levelname)s:%(name)s:%(message)s"),
    ("_STYLES", .notALevel (
      "\x7b'%': (<class 'logging.PercentStyle'>, '%(levelname)s:%(name)s:%(message)s'), " ++
      "'\x7b': (<class 'logging.StrFormatStyle'>, " ++
      "'\x7blevelname\x7d:\x7bname\x7d:\x7bmessage\x7d'), " ++
      "'$': (<class 'logging.StringTemplateStyle'>, " ++
      "'$\x7blevelname\x7d:$\x7bname\x7d:$\x7bmessage\x7d')\x7d"))]

/-- The least severity that is written, that of `info` if the name is not known. -/
def threshold (name : String) : Except LevelFault Nat :=
  let upper := String.ofList (name.toList.map upperChar)
  match otherNames.lookup upper with
  | some fault => .error fault
  | none => .ok ((thresholds.lookup upper).getD 20)

end Level

/-- The journal of a service. -/
structure Journal where
  /-- The least severity that is written. -/
  threshold : Nat := 20
  /-- The name of the service. -/
  service : String := "returns-hub"
  /-- Lines are written as data. -/
  json : Bool := true
  /-- The facts that are bound. -/
  bound : Line := []
  deriving Repr, Inhabited

/-- What is written for an entry. -/
inductive Written
  /-- Nothing. -/
  | nothing
  /-- A text. -/
  | text (s : String)
  deriving DecidableEq, Repr

/-- How many lines are written. -/
def Written.lineCount : Written → Nat
  | nothing => 0
  | text s => Text.lineCount s

namespace Journal

/-- The journal for some settings. -/
def ofSettings (settings : LogSettings) : Except LevelFault Journal := do
  let threshold ← Level.threshold settings.level
  return { threshold, service := settings.serviceName, json := settings.json }

/-! ## The way of an entry -/

/-- Name the service, unless the facts name one. -/
def addService (service : String) : Processor := fun _ draft =>
  .ok (some { draft with fields := draft.fields.withDefault "service" (.text service) })

/-- A draft after some processors, unless one of them drops it. -/
def process (occasion : Occasion) : List Processor → Draft → Except JournalFault (Option Draft)
  | [], draft => .ok (some draft)
  | processor :: processors, draft => do
    match ← processor occasion draft with
    | some draft => process occasion processors draft
    | none => return none

variable (library : LogLibrary) (journal : Journal)

/-- What a draft passes through. -/
def processors : List Processor :=
  [library.mergeBound journal.bound, library.filterByLevel, library.addLogger, library.addLevel,
    library.fillArguments, library.addTime, library.addTrace, library.addFailure, library.decode,
    addService journal.service]

/-- What writes the facts in the end. -/
def render : Occasion → Draft → Except JournalFault String :=
  if journal.json then library.renderData else library.renderText

/-- What is known of an entry. A part of the service without a name is the root of all parts. -/
def occasion (entry : Entry) : Occasion where
  level := entry.level
  logger := if entry.logger = "" then "root" else entry.logger
  least := (library.ownLeast entry.logger).getD journal.threshold
  time := entry.time
  room := entry.room

/-- What is written for an entry. -/
def writing (entry : Entry) : Except JournalFault Written := do
  let occasion := journal.occasion library entry
  match ← process occasion (journal.processors library) (← library.draft entry) with
  | none => return .nothing
  | some draft =>
    let line ← journal.render library occasion draft
    return if occasion.isEnabled then .text (line ++ "\n") else .nothing

/-! ## Steps -/

/-- What can be done with a journal. -/
inductive Step
  /-- Bind a shop. -/
  | bindShop (shop : String)
  /-- Bind no shop. -/
  | clear
  /-- Write an entry. -/
  | write (entry : Entry)
  deriving Repr

/-- The journal after a step. -/
def next : Step → Journal
  | .bindShop shop => { journal with bound := library.bind "shop" (.text shop) journal.bound }
  | .clear => { journal with bound := library.clear journal.bound }
  | .write _ => journal

/-- What a step writes. -/
def written : Step → Except JournalFault Written
  | .write entry => journal.writing library entry
  | _ => .ok .nothing

/-- What some steps write, step by step. -/
def run (journal : Journal) : List Step → List (Except JournalFault Written)
  | [] => []
  | step :: steps => journal.written library step :: run (journal.next library step) steps

end Journal

end Disposition
