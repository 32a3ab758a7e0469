import Disposition.Database.Fault
import Disposition.Database.Url
import Disposition.Number.Numeral
import Disposition.Text.Lower

/-!
# Options of a connection

The query of an address sets options of the connection. Each has a kind, and a value of another
kind is refused before anything is connected.

* `DatabaseUrl.flag`: an option that is a truth value.
* `DatabaseUrl.checkNumber`: an option that is a number.
* `DatabaseUrl.checkFileOptions`: the options of a database in a file.
-/

namespace Disposition

namespace NumberKind

open Text

/-- The text without underscores, each of which stands between two digits. The flag tells whether a
digit went before. -/
def joinedDigits? (afterDigit : Bool) : List Char → Option (List Char)
  | [] => some []
  | '_' :: c :: cs =>
    if afterDigit && isDigit c then (joinedDigits? true cs).map (c :: ·) else none
  | c :: cs => if c = '_' then none else (joinedDigits? (isDigit c) cs).map (c :: ·)

/-- A decimal digit of any script as an ASCII digit; other characters as they are. -/
def plainDigit (c : Char) : Char :=
  match decimalDigit? c with
  | some d => Char.ofNat (48 + d)
  | none => c

/-- A text writes a double, with digits of any script and single underscores between them. -/
def writesDouble (s : String) : Bool :=
  let cs := (trimBy isSpace s.toList).map plainDigit
  ((joinedDigits? false cs).bind Double.ofBareText?).isSome

/-- A text is a number of the kind. -/
def check (kind : NumberKind) (s : String) : Except EngineFault Unit :=
  match kind with
  | integer => (EngineFault.readInteger s).map fun _ => ()
  | double => if writesDouble s then .ok () else .error (.notANumber s)

end NumberKind

namespace DatabaseUrl

/-- The words for yes. -/
def yesWords : List String :=
  ["true", "yes", "on", "y", "t", "1"]

/-- The words for no. -/
def noWords : List String :=
  ["false", "no", "off", "n", "f", "0"]

/-- The truth value that a word stands for, spaces and case aside. -/
def readFlag (s : String) : Except EngineFault Bool :=
  let word := Text.normalize s
  if yesWords.contains word then .ok true
  else if noWords.contains word then .ok false
  else .error (.notAFlag word)

/-- An option that is a truth value; left out it is no, given several times it is yes. -/
def flag (url : DatabaseUrl) (name : String) : Except EngineFault Bool :=
  match url.queryValues name with
  | [] => .ok false
  | [s] => readFlag s
  | _ => .ok true

/-- An option that is a number has a single value, if it has any, and that is a number. -/
def checkNumber (url : DatabaseUrl) (kind : NumberKind) (name : String) :
    Except EngineFault Unit :=
  match url.queryValues name with
  | [] => .ok ()
  | [s] => kind.check s
  | _ => .error (.severalValues kind)

/-- The options of a file that the driver takes. -/
def fileOptions : List String :=
  ["uri", "timeout", "isolation_level", "detect_types", "check_same_thread", "cached_statements"]

/-- The names by which plugins are asked for. -/
def pluginOptions : List String :=
  ["plugin", "plugins"]

/-- The query has options that are added to the name of the file. -/
def extendsFile (url : DatabaseUrl) : Bool :=
  url.query.any fun (name, _) => !(fileOptions ++ pluginOptions).contains name

/-- The options of a database in a file, checked in their order. -/
def checkFileOptions (url : DatabaseUrl) : Except EngineFault Unit := do
  let isUri ← url.flag "uri"
  url.checkNumber .double "timeout"
  url.checkNumber .integer "detect_types"
  let _ ← url.flag "check_same_thread"
  url.checkNumber .integer "cached_statements"
  if isUri && url.database.isNone && url.extendsFile then .error .noFile else return

end DatabaseUrl

end Disposition
