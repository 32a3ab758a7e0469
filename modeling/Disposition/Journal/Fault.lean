import Disposition.Journal.Directive
import Disposition.Json.Dump

/-!
# Faults of the journal

* `LevelFault`: a name that is given for the least level is one of something else.
* `JournalFault`: why an entry is not written.
-/

namespace Disposition

/-- Why there is no journal. -/
inductive LevelFault
  /-- The least level is a text that names none. -/
  | unknown (text : String)
  /-- The least level is neither a level nor a text. -/
  | notALevel (shown : String)
  deriving DecidableEq, Repr

/-- The wording of a fault. -/
def LevelFault.message : LevelFault → String
  | unknown text => "Unknown level: " ++ Text.quote text
  | notALevel shown => "Level not an integer or a valid string: " ++ shown

/-- Why an entry is not written. -/
inductive JournalFault
  /-- A fact has the name of something that the journal gives itself. -/
  | givenTwice (method name : String)
  /-- The fact that should be a whole record is something else. -/
  | notARecord (kind : Kind)
  /-- The fact that should hold the arguments cannot be counted. -/
  | uncountable (kind : Kind)
  /-- The fact that should hold the arguments has a single member, which is none by place. -/
  | noFirst
  /-- The arguments do not fit the message. -/
  | template (fault : TemplateFault)
  /-- A fact that is written behind the line is no text. -/
  | notText (kind : Kind)
  /-- A fact has no text. -/
  | text (fault : TextFault)
  /-- A fact has no text on a line of data. -/
  | data (fault : DumpFault)
  deriving DecidableEq, Repr

/-- The wording of a fault. -/
def JournalFault.message : JournalFault → String
  | givenTwice method name =>
    "BoundLogger." ++ method ++ "() got multiple values for argument " ++ Text.quote name
  | notARecord kind => Text.quote kind.name ++ " object has no attribute 'name'"
  | uncountable kind => "object of type " ++ Text.quote kind.name ++ " has no len()"
  | noFirst => "0"
  | template fault => fault.message
  | notText kind => "can only concatenate str (not \"" ++ kind.name ++ "\") to str"
  | text fault => fault.message
  | data fault => fault.message

end Disposition
