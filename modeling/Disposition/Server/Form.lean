import Disposition.Server.Scalar
import Disposition.Store.Data

/-!
# Forms

The bodies that make and change destinations and rules. A form is a list of fields; each field
checks its own member of the body, and what passes is data for a row.

* `Form.read`: the data of a body, or all its problems.
* `Form.newDestination`, `Form.newRule`: every column is there, given or by default
  (`DestinationCreate`, `RoutingRuleCreate`).
* `Form.changedDestination`, `Form.changedRule`: only the given columns, and null only where a
  column may be empty (`DestinationUpdate`, `RoutingRuleUpdate`, with `_reject_null`).
-/

namespace Disposition

/-- A field of a form. -/
structure FormField where
  /-- The name of the field, which is the name of its column. -/
  name : String
  /-- What fills the column if the field is left out: a cell, or nothing if the column is left out
  too. Without it the field is required. -/
  fallback? : Option (Option Cell)
  /-- What fills the column if the field is given. -/
  check : Json → Checked Cell

namespace FormField

/-- A text in a column. -/
def textCell (least : Nat) (most : Option Nat) (v : Json) : Checked Cell :=
  (Checked.boundedText least most v).map .text

/-- A text of any length in a column, or null. -/
def optionalCell (v : Json) : Checked Cell :=
  (Checked.orNull Checked.text v).map fun s? => (s?.map Cell.text).getD .null

/-- A flag in a column. -/
def flagCell (v : Json) : Checked Cell :=
  (Checked.bool v).map .flag

/-- A priority in a column. -/
def priorityCell (v : Json) : Checked Cell :=
  (Checked.natural v).map .integer

/-- The name of a kind of condition in a column. -/
def kindCell (v : Json) : Checked Cell :=
  (Checked.conditionKind v).map fun kind => .text kind.name

/-- A field that has to be given. -/
def required (name : String) (check : Json → Checked Cell) : FormField :=
  ⟨name, none, check⟩

/-- A field with a default. -/
def withDefault (name : String) (fallback : Cell) (check : Json → Checked Cell) : FormField :=
  ⟨name, some (some fallback), check⟩

/-- A field that may be left out. -/
def omissible (name : String) (check : Json → Checked Cell) : FormField :=
  ⟨name, some none, check⟩

/-- A field that may be left out, but not null. -/
def changed (name : String) (check : Json → Checked Cell) : FormField :=
  omissible name (Checked.notNull check)

/-- The named cell of a field, if its column is filled. -/
def read (field : FormField) (members : List (String × Json)) :
    Checked (Option (String × Cell)) :=
  (Checked.member field.name field.fallback? (fun v => (field.check v).map some) members).map
    fun cell? => cell?.map (field.name, ·)

end FormField

/-- The fields of a body. -/
abbrev Form := List FormField

namespace Form

open FormField

/-- The data of a body. -/
def read (form : Form) (body : Json) : Checked Data := do
  let members ← Checked.members body
  let cells ← Checked.all (form.map (·.read members))
  return cells.filterMap id

/-- The most characters of a name. -/
def nameLimit : Option Nat := some 200

/-- The body that makes a destination. -/
def newDestination : Form :=
  [ required "name" (textCell 1 nameLimit),
    required "address_line1" (textCell 1 none),
    withDefault "address_line2" .null optionalCell,
    required "city" (textCell 1 none),
    required "state" (textCell 1 none),
    required "postal_code" (textCell 1 none),
    withDefault "country" (.text "US") (textCell 2 (some 2)),
    withDefault "phone" .null optionalCell,
    withDefault "is_default" (.flag false) flagCell ]

/-- The body that changes a destination. -/
def changedDestination : Form :=
  [ changed "name" (textCell 1 nameLimit),
    changed "address_line1" (textCell 1 none),
    omissible "address_line2" optionalCell,
    changed "city" (textCell 1 none),
    changed "state" (textCell 1 none),
    changed "postal_code" (textCell 1 none),
    changed "country" (textCell 2 (some 2)),
    omissible "phone" optionalCell,
    changed "is_default" flagCell ]

/-- The body that makes a rule. -/
def newRule : Form :=
  [ required "name" (textCell 1 nameLimit),
    withDefault "priority" (.integer 0) priorityCell,
    withDefault "is_active" (.flag true) flagCell,
    required "condition_type" kindCell,
    required "condition_value" (textCell 1 none),
    required "destination_id" (textCell 1 none) ]

/-- The body that changes a rule. -/
def changedRule : Form :=
  [ changed "name" (textCell 1 nameLimit),
    changed "priority" priorityCell,
    changed "is_active" flagCell,
    changed "condition_type" kindCell,
    changed "condition_value" (textCell 1 none),
    changed "destination_id" (textCell 1 none) ]

end Form

end Disposition
