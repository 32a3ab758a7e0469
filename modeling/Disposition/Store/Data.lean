import Disposition.Number.Power
import Disposition.Store.Cell
import Disposition.Store.Member
import Disposition.Time.Timestamp

/-!
# Data for rows

Rows are made and changed by data: named cells. Only some names are columns, only some cells fit a
column, and some columns must be filled; what is wrong with data is a `StoreFault`.

The checks have an order: first the names, then what the cells are, then whether the database takes
them, and last whether every column that must be filled is. So it is with the rows that
`BaseRepository.create` makes and `BaseRepository.update` changes.

* `Data.checkNew`, `Data.checkAssigned`: the names of data for a new row and for a change.
* `Data.changes`: the cells that differ from what a row holds.
* `Data.required`: the text of a column that must be filled.
* `Data.checkGiven`, `Data.takenChanges`, `Data.checkKept`: the checks of a new row and of a change.
-/

namespace Disposition

/-- Why an operation on the store fails. -/
inductive StoreFault
  /-- The time that a row is made at is none. -/
  | time (fault : TimeFault)
  /-- The data of a new row names a shop, which is given apart from it. -/
  | shopTwice (table : TableName)
  /-- The data of a new row names the row itself. -/
  | rowTwice
  /-- The data of a new row has a name that no row bears. -/
  | unknownColumn (table : TableName) (column : String)
  /-- A name that cannot be given is filled. -/
  | fixedName (name : String) (kind : Kind)
  /-- Rows are not found by something that is no single value. -/
  | notAnId (kind : Kind)
  /-- A flag is filled with something else. -/
  | notAFlag (cell : Cell)
  /-- A time is filled with something else. -/
  | notATime
  /-- An integer takes more than 64 bits. -/
  | integerTooLarge
  /-- The database does not take something that is no single value, at that place. -/
  | notAValue (place : Nat) (kind : Kind)
  /-- A column that must be filled is not. -/
  | notFilled (table : TableName) (column : String)
  /-- Another row has the same identifier. -/
  | repeatedId (table : TableName)
  /-- The state of a row was replaced, and something is looked up in what is there instead. -/
  | stateReplaced (kind : Kind) (name : String)
  /-- What a row is asked for its content by was replaced. -/
  | contentReplaced (kind : Kind)
  /-- The tables were never made. -/
  | noTable (table : TableName)
  /-- A transaction was given up. -/
  | aborted
  deriving DecidableEq, Repr

/-- The wording of a name that cannot be given. -/
def StoreFault.fixedNameText (name : String) (kind : Kind) : String :=
  if name = "__class__" then "__class__ must be set to a class, not '" ++ kind.name ++ "' object"
  else if name = "__dict__" then "__dict__ must be set to a dictionary, not a '" ++ kind.name ++ "'"
  else "attribute '" ++ name ++ "' of 'ShopMixin' objects is not writable"

/-- The wording of a flag that is none. -/
def StoreFault.flagText : Cell → String
  | .integer n =>
    match Value.integerText n with
    | .ok s => "Value " ++ s ++ " is not None, True, or False"
    | .error fault => fault.message
  | .real d => "Not a boolean value: " ++ d.text
  | .text s => "Not a boolean value: " ++ Text.quote s
  | cell => "unhashable type: '" ++ cell.kind.name ++ "'"

/-- The wording of a fault. -/
def StoreFault.message : StoreFault → String
  | time fault => fault.message
  | shopTwice table =>
    "shop_returns.db_models." ++ table.rowName ++
      "() got multiple values for keyword argument 'shop'"
  | rowTwice => "__init__() got multiple values for argument 'self'"
  | unknownColumn table column =>
    Text.quote column ++ " is an invalid keyword argument for " ++ table.rowName
  | fixedName name kind => fixedNameText name kind
  | notAnId kind => "unhashable type: '" ++ kind.name ++ "'"
  | notAFlag cell => flagText cell
  | notATime => "SQLite DateTime type only accepts Python datetime and date objects as input."
  | integerTooLarge => "Python int too large to convert to SQLite INTEGER"
  | notAValue place kind =>
    "Error binding parameter " ++ toString place ++ ": type '" ++ kind.name ++
      "' is not supported"
  | notFilled table column => "NOT NULL constraint failed: " ++ table.name ++ "." ++ column
  | repeatedId table => "UNIQUE constraint failed: " ++ table.name ++ ".id"
  | stateReplaced kind name =>
    "'" ++ kind.name ++ "' object has no attribute '" ++ name ++ "'"
  | contentReplaced kind => "'" ++ kind.name ++ "' object is not callable"
  | noTable table => "no such table: " ++ table.name
  | aborted => "abort"

/-- Named cells. -/
abbrev Data := List (String × Cell)

namespace Data

/-- The cell of a name, null if there is none. -/
def cell (data : Data) (column : String) : Cell :=
  (data.lookup column).getD .null

/-- A row is flagged as the default by the data. -/
def flagsDefault (data : Data) : Bool :=
  (data.cell "is_default").isTruthy

/-! ## Names -/

/-- The names of the data of a new row, one after the other. -/
def checkNames (table : TableName) : Data → Except StoreFault Unit
  | [] => .ok ()
  | (name, cell) :: data =>
    match table.member name with
    | .unknown | .state => .error (.unknownColumn table name)
    | .fixed => .error (.fixedName name cell.kind)
    | .column | .identity | .idle | .content => checkNames table data

/-- The data of a new row: all its names are borne by a row, neither the shop nor the row is given
twice, and the identifier is a single value. -/
def checkNew (table : TableName) (data : Data) : Except StoreFault Unit :=
  if (data.lookup "shop").isSome then .error (.shopTwice table)
  else if (data.lookup "self").isSome then .error .rowTwice
  else do
    data.checkNames table
    match data.cell "id" with
    | .compound kind _ => .error (.notAnId kind)
    | _ => .ok ()

/-- The names of the data of a change, one after the other. Names that no row bears and columns
that stay are passed over; once the state of the row is replaced, no column can be changed. -/
def checkAssigned (table : TableName) : (state : Option Cell) → Data → Except StoreFault Unit
  | _, [] => .ok ()
  | state, (name, cell) :: data =>
    match table.member name, state with
    | .column, some state => .error (.stateReplaced state.kind "_modified_event")
    | .fixed, _ => .error (.fixedName name cell.kind)
    | .state, _ => checkAssigned table (some cell) data
    | _, state => checkAssigned table state data

/-- The state of a changed row was not replaced. -/
def checkState (data : Data) : Except StoreFault Unit :=
  match data.lookup "_sa_instance_state" with
  | some state => .error (.stateReplaced state.kind "key")
  | none => .ok ()

/-! ## Cells -/

/-- The flags are filled with flags. -/
def checkFlags (table : TableName) (data : Data) : Except StoreFault Unit :=
  match data.find? fun (column, cell) => table.flags.contains column && !cell.isFlag with
  | some (_, cell) => .error (.notAFlag cell)
  | none => .ok ()

/-- Nothing but the database fills in the time of a change. -/
def checkTime (data : Data) : Except StoreFault Unit :=
  if data.cell "updated_at" = .null then .ok () else .error .notATime

/-- The database takes the cells, which are counted from that place on. -/
def checkValues : (place : Nat) → List Cell → Except StoreFault Unit
  | _, [] => .ok ()
  | place, cell :: cells =>
    match cell with
    | .integer n => if isWord n then checkValues (place + 1) cells else .error .integerTooLarge
    | .compound kind _ => .error (.notAValue place kind)
    | _ => checkValues (place + 1) cells

/-- The database takes what a new row is filled with. -/
def checkFilled (table : TableName) (data : Data) : Except StoreFault Unit :=
  checkValues 1 ((table.columns ++ ["id"]).map data.cell)

/-- The cells of data that differ from those that a row holds, in the order of its columns. -/
def changes (data held : Data) : Data :=
  held.filterMap fun (column, current) =>
    match data.lookup column with
    | some cell => if cell.equal current then none else some (column, cell)
    | none => none

/-! ## Columns -/

/-- What a column of a new row that must be filled is filled with. -/
def filled {α : Type} (table : TableName) (data : Data) (column : String) (fallback : Cell)
    (read : Cell → Option α) : Except StoreFault α :=
  let cell := data.cell column
  match read (if cell = .null then fallback else cell) with
  | some a => .ok a
  | none => .error (.notFilled table column)

/-- The text of a column that must be filled. -/
def required (table : TableName) (data : Data) (column : String) : Except StoreFault String :=
  data.filled table column .null Cell.text?

/-- What a column holds after a change: what it held, unless the data names it. -/
def changed {α : Type} (data : Data) (column : String) (current : α) (read : Cell → α) : α :=
  match data.lookup column with
  | some cell => read cell
  | none => current

/-- What a column that must be filled holds after a change. -/
def changedRequired {α : Type} (table : TableName) (data : Data) (column : String) (current : α)
    (read : Cell → Option α) : Except StoreFault α :=
  match data.lookup column with
  | none => .ok current
  | some cell =>
    match read cell with
    | some a => .ok a
    | none => .error (.notFilled table column)

/-! ## New rows and changes -/

/-- Nothing is wrong with the data of a new row before the database sees it. -/
def checkGiven (table : TableName) (data : Data) : Except StoreFault Unit := do
  data.checkNew table
  data.checkFlags table
  data.checkTime

/-- What the data changes of a row that holds some cells, if the database takes it. -/
def takenChanges (table : TableName) (data held : Data) : Except StoreFault Data := do
  data.checkAssigned table none
  let changes := data.changes held
  changes.checkFlags table
  data.checkTime
  checkValues 1 (changes.map (·.2))
  return changes

/-- The data leaves a changed row its time and its state. -/
def checkKept (table : TableName) (data : Data) : Except StoreFault Unit := do
  let _ ← data.changedRequired table "updated_at" "" Cell.text?
  data.checkState

end Data

end Disposition
