import Disposition.Event
import Disposition.Journal.Fault

/-!
# The library of the journal

The journal is built on a library for logs. It passes every entry through a row of processors: each
of them changes the facts of the entry, drops the entry or fails, and the last one writes the facts
as text. What the processors do is a matter of the library; which of them there are, and in which
order, is a matter of the journal.

* `Entry`: what is to be written, and when and where.
* `Draft`: an entry on its way through the processors.
* `LogLibrary`: the processors that the library has, and its other operations.
-/

namespace Disposition

/-- The named facts of a line. -/
abbrev Line := List (String × Value)

/-- A name with a value that is used where the name is not given. -/
def Line.withDefault (name : String) (v : Value) (line : Line) : Line :=
  if (line.lookup name).isSome then line else Value.setMember name v line

/-- All of some facts are used where their names are not given. -/
def Line.withDefaults (line defaults : Line) : Line :=
  defaults.foldl (fun line (name, v) => line.withDefault name v) line

/-- Something to be written to the journal. -/
structure Entry where
  /-- The level. -/
  level : Level
  /-- The part of the service that writes. -/
  logger : String
  /-- What happened, in words, with directives for the arguments if there are any. -/
  event : String
  /-- The arguments. -/
  arguments : List Value := []
  /-- The named facts. -/
  fields : Line := []
  /-- The time at which it is written. -/
  time : String := ""
  /-- How many values can stand inside each other there. -/
  room : Nat := Value.usualRoom
  deriving Repr

/-- What is known of an entry besides its facts. -/
structure Occasion where
  /-- The level. -/
  level : Level
  /-- The name of the part of the service. -/
  logger : String
  /-- The least severity that this part writes. -/
  least : Nat
  /-- The time. -/
  time : String
  /-- How many values can stand inside each other. -/
  room : Nat
  deriving DecidableEq, Repr

/-- The part of the service writes entries of this level. -/
def Occasion.isEnabled (occasion : Occasion) : Bool :=
  occasion.least ≤ occasion.level.severity

/-- An entry on its way through the processors. -/
structure Draft where
  /-- The facts. -/
  fields : Line
  /-- The arguments that are not yet filled into the words. -/
  arguments : List Value := []
  deriving Repr

/-- What changes a draft, drops it or fails. -/
abbrev Processor := Occasion → Draft → Except JournalFault (Option Draft)

/-- A library for logs. -/
structure LogLibrary where
  /-- The draft of an entry. -/
  draft : Entry → Except JournalFault Draft
  /-- The bound facts after one more was bound. -/
  bind : (name : String) → (v : Value) → (bound : Line) → Line
  /-- The bound facts after they were cleared. -/
  clear : (bound : Line) → Line
  /-- The least severity of a part of the service that has one of its own. -/
  ownLeast : (logger : String) → Option Nat
  /-- Add the bound facts. -/
  mergeBound : (bound : Line) → Processor
  /-- Drop what is not severe enough. -/
  filterByLevel : Processor
  /-- Name the part of the service. -/
  addLogger : Processor
  /-- Name the level. -/
  addLevel : Processor
  /-- Fill the arguments into the words. -/
  fillArguments : Processor
  /-- Name the time. -/
  addTime : Processor
  /-- Add a trace, if one is asked for. -/
  addTrace : Processor
  /-- Add the report of a failure, if one is asked for. -/
  addFailure : Processor
  /-- Decode the texts that are given as bytes. -/
  decode : Processor
  /-- Write the facts as data. -/
  renderData : Occasion → Draft → Except JournalFault String
  /-- Write the facts for people. -/
  renderText : Occasion → Draft → Except JournalFault String

end Disposition
