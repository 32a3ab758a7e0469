import Disposition.Rule
import Disposition.Store.Data

/-!
# Rows

The configuration of all shops is kept in rows. Every row has an identifier that no other row of
its table has, belongs to one shop, and knows when it was made.

* `DestinationRow`, `RuleRow`: the rows of the two tables (`ReturnDestinationRow`,
  `RoutingRuleRow`).
* `ofData`: a new row; columns with a default need not be filled.
* `patch`: a row after a change; its identifier, its shop and its time stay.
* `RuleRow.toRule`: the rule of a row, joined with the destination that it names
  (`to_routing_rule`).
-/

namespace Disposition

/-- A row of a shop. -/
class ShopRow (ρ : Type) where
  /-- The identifier of a row. -/
  id : ρ → String
  /-- The shop that a row belongs to. -/
  shop : ρ → String

/-- A destination of a shop. -/
structure DestinationRow extends Destination where
  /-- The shop. -/
  shop : String
  /-- When the row was made. -/
  createdAt : Timestamp
  deriving DecidableEq, Repr, Inhabited

/-- A rule of a shop. -/
structure RuleRow where
  /-- The identifier. -/
  id : String
  /-- The shop. -/
  shop : String
  /-- The name. -/
  name : String
  /-- Rules are tried in ascending order of priority. -/
  priority : Priority
  /-- Inactive rules are not tried. -/
  isActive : Bool
  /-- What the condition inspects. -/
  conditionType : String
  /-- What the condition compares with. -/
  conditionValue : String
  /-- The identifier of the destination. -/
  destinationId : String
  /-- When the row was made. -/
  createdAt : Timestamp
  deriving DecidableEq, Repr, Inhabited

instance : ShopRow DestinationRow where
  id row := row.id
  shop row := row.shop

instance : ShopRow RuleRow where
  id row := row.id
  shop row := row.shop

/-- The identifier that is issued after so many others. -/
def freshId (issued : Nat) : String :=
  "00000000-0000-0000-0000-" ++ String.ofList (Text.hexDigits 12 (issued + 1))

/-- What is issued for a row that is made. -/
structure Stamp where
  /-- An identifier, in case that the data has none. -/
  id : String
  /-- The time at which the row is made. -/
  time : Timestamp
  deriving DecidableEq, Repr, Inhabited

/-- What is issued with some identifier at the start of a year. -/
def Stamp.named (id : String) : Stamp :=
  { id, time := .start }

/-- What is issued after so many identifiers, with a clock that goes by them. -/
def Stamp.issue (clock : Nat → Timestamp) (issued : Nat) : Stamp :=
  ⟨freshId issued, clock issued⟩

/-- The identifier of a new row, the one that is issued if the data has none. -/
def Data.newId (table : TableName) (data : Data) (fresh : Stamp) : Except StoreFault String :=
  data.filled table "id" (.text fresh.id) Cell.text?

namespace DestinationRow

/-- A new row of a shop. -/
def ofData (shop : String) (fresh : Stamp) (data : Data) : Except StoreFault DestinationRow := do
  let table := TableName.destinations
  data.checkGiven table
  data.checkFilled table
  let name ← data.required table "name"
  let addressLine1 ← data.required table "address_line1"
  let city ← data.required table "city"
  let state ← data.required table "state"
  let postalCode ← data.required table "postal_code"
  let country ← data.filled table "country" (.text "US") Cell.text?
  let isDefault ← data.filled table "is_default" (.flag false) Cell.flag?
  let id ← data.newId table fresh
  return {
    id
    shop
    name
    addressLine1
    addressLine2 := (data.cell "address_line2").text?
    city
    state
    postalCode
    country
    phone := (data.cell "phone").text?
    isDefault
    createdAt := fresh.time }

/-- What the columns of a row hold. -/
def cells (row : DestinationRow) : Data :=
  [("name", .text row.name), ("address_line1", .text row.addressLine1),
    ("address_line2", .ofText? row.addressLine2), ("city", .text row.city),
    ("state", .text row.state), ("postal_code", .text row.postalCode),
    ("country", .text row.country), ("phone", .ofText? row.phone),
    ("is_default", .flag row.isDefault)]

/-- The row with some of its columns changed. -/
def changeColumns (row : DestinationRow) (changes : Data) :
    Except StoreFault DestinationRow := do
  let table := TableName.destinations
  let name ← changes.changedRequired table "name" row.name Cell.text?
  let addressLine1 ← changes.changedRequired table "address_line1" row.addressLine1 Cell.text?
  let city ← changes.changedRequired table "city" row.city Cell.text?
  let state ← changes.changedRequired table "state" row.state Cell.text?
  let postalCode ← changes.changedRequired table "postal_code" row.postalCode Cell.text?
  let country ← changes.changedRequired table "country" row.country Cell.text?
  let isDefault ← changes.changedRequired table "is_default" row.isDefault Cell.flag?
  return { row with
    name
    addressLine1
    addressLine2 := changes.changed "address_line2" row.addressLine2 Cell.text?
    city
    state
    postalCode
    country
    phone := changes.changed "phone" row.phone Cell.text?
    isDefault }

/-- The row after a change. -/
def patch (row : DestinationRow) (data : Data) : Except StoreFault DestinationRow := do
  let changes ← data.takenChanges .destinations row.cells
  let after ← row.changeColumns changes
  data.checkKept .destinations
  return after

end DestinationRow

namespace RuleRow

/-- A new row of a shop. -/
def ofData (shop : String) (fresh : Stamp) (data : Data) : Except StoreFault RuleRow := do
  let table := TableName.rules
  data.checkGiven table
  data.checkFilled table
  let name ← data.required table "name"
  let priority ← data.filled table "priority" (.integer 0) Cell.priority?
  let isActive ← data.filled table "is_active" (.flag true) Cell.flag?
  let conditionType ← data.required table "condition_type"
  let conditionValue ← data.required table "condition_value"
  let destinationId ← data.required table "destination_id"
  let id ← data.newId table fresh
  return {
    id
    shop
    name
    priority
    isActive
    conditionType
    conditionValue
    destinationId
    createdAt := fresh.time }

/-- What the columns of a row hold. -/
def cells (row : RuleRow) : Data :=
  [("name", .text row.name), ("priority", .ofPriority row.priority),
    ("is_active", .flag row.isActive), ("condition_type", .text row.conditionType),
    ("condition_value", .text row.conditionValue), ("destination_id", .text row.destinationId)]

/-- The row with some of its columns changed. -/
def changeColumns (row : RuleRow) (changes : Data) : Except StoreFault RuleRow := do
  let table := TableName.rules
  let name ← changes.changedRequired table "name" row.name Cell.text?
  let priority ← changes.changedRequired table "priority" row.priority Cell.priority?
  let isActive ← changes.changedRequired table "is_active" row.isActive Cell.flag?
  let conditionType ← changes.changedRequired table "condition_type" row.conditionType Cell.text?
  let conditionValue ←
    changes.changedRequired table "condition_value" row.conditionValue Cell.text?
  let destinationId ← changes.changedRequired table "destination_id" row.destinationId Cell.text?
  return { row with
    name, priority, isActive, conditionType, conditionValue, destinationId }

/-- The row after a change. -/
def patch (row : RuleRow) (data : Data) : Except StoreFault RuleRow := do
  let changes ← data.takenChanges .rules row.cells
  let after ← row.changeColumns changes
  data.checkKept .rules
  return after

/-- The rule of a row. Of destinations with the same identifier the last one is joined. -/
def toRule (destinations : List Destination) (row : RuleRow) : Rule where
  id := row.id
  name := row.name
  conditionType := .text row.conditionType
  conditionValue := .text row.conditionValue
  destinationId := some row.destinationId
  priority := row.priority
  isActive := row.isActive
  destination := destinations.reverse.find? (·.id = row.destinationId)

end RuleRow

end Disposition
