import Disposition.Text.Integer

/-!
# Faults of database addresses

* `EngineFault`: why an address makes no engine, and `EngineFault.message?`, the wording of those
  that have one.
-/

namespace Disposition

/-- What is wrong with the hosts of an address. -/
inductive HostFault
  /-- Ports stand behind hosts and by themselves. -/
  | portsTwice
  /-- A port is no integer. -/
  | malformedPort
  /-- There are not as many ports as hosts. -/
  | uneven
  /-- Of several hosts one has no name or no port. -/
  | incomplete
  deriving DecidableEq, Repr

/-- A kind of number that options have. -/
inductive NumberKind
  | integer
  | double
  deriving DecidableEq, Repr

/-- Why there is no engine. -/
inductive EngineFault
  /-- The address is none. -/
  | unreadableUrl
  /-- A port or an option is no integer. -/
  | integer (fault : Text.IntegerFault)
  /-- There is no such plugin. -/
  | unknownPlugin (name : String)
  /-- There are more parts than two: drivers behind the dialect, or ports behind a host. -/
  | severalParts
  /-- There is no such dialect or driver. -/
  | unknownDriver (name : String)
  /-- The module of the driver is not there. -/
  | missingModule (module : String)
  /-- The address of a file names a user, a host or a port. -/
  | fileOnHost
  /-- An option is no truth value. -/
  | notAFlag (word : String)
  /-- An option is no number. -/
  | notANumber (text : String)
  /-- An option that is a number has several values. -/
  | severalValues (kind : NumberKind)
  /-- The address has no file that its options could be added to. -/
  | noFile
  /-- The hosts are wrong. -/
  | hosts (fault : HostFault)
  /-- The driver waits for the database. -/
  | blockingDriver (driver : String)
  deriving DecidableEq, Repr

namespace EngineFault

/-- The wording of a fault, where it has one. -/
def message? : EngineFault → Option String
  | integer fault => some fault.message
  | severalParts => some "too many values to unpack (expected 2)"
  | missingModule module => some ("No module named '" ++ module ++ "'")
  | notAFlag word => some ("String is not true/false: " ++ Text.quote word)
  | notANumber text => some ("could not convert string to float: " ++ Text.quote text)
  | severalValues .integer =>
    some "int() argument must be a string, a bytes-like object or a real number, not 'tuple'"
  | severalValues .double =>
    some "float() argument must be a string or a real number, not 'tuple'"
  | noFile => some "unsupported operand type(s) for +=: 'NoneType' and 'str'"
  | _ => none

/-- The integer that a text writes. -/
def readInteger (s : String) : Except EngineFault Int :=
  (Text.readInteger s).mapError integer

end EngineFault

end Disposition
