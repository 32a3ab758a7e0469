import Disposition.Store.Routing

/-!
# Records as data

The data that stands for the records of the service in responses: rows with their shop (`to_dict`),
decisions (`RouteResponse`), reports (`ValidationResponse`), and the facts of an event.
-/

namespace Disposition

/-- A destination as data. -/
def Destination.toMembers (destination : Destination) : List (String × Value) :=
  [("id", .text destination.id), ("name", .text destination.name),
    ("address_line1", .text destination.addressLine1),
    ("address_line2", .ofOption destination.addressLine2), ("city", .text destination.city),
    ("state", .text destination.state), ("postal_code", .text destination.postalCode),
    ("country", .text destination.country), ("phone", .ofOption destination.phone),
    ("is_default", .bool destination.isDefault)]

/-- A row of a destination as data. -/
def DestinationRow.toValue (row : DestinationRow) : Value :=
  .object (("shop", .text row.shop) :: row.toDestination.toMembers)

/-- A row of a rule as data, with the name of its destination. -/
def RuleRow.toValue (row : RuleRow) (destinationName : Option String) : Value :=
  .object [("id", .text row.id), ("shop", .text row.shop), ("name", .text row.name),
    ("priority", row.priority.toValue), ("is_active", .bool row.isActive),
    ("condition_type", .text row.conditionType), ("condition_value", .text row.conditionValue),
    ("destination_id", .text row.destinationId), ("destination_name", .ofOption destinationName)]

/-- A listing as data. -/
def listing (rows : List Value) : Value :=
  .object [("data", .list rows), ("count", .int rows.length)]

/-- A decision as data. -/
def Decision.toValue (decision : Decision) : Value :=
  let destination :=
    match decision.destination with
    | some destination => Value.object destination.toMembers
    | none => .null
  .object [("destination", destination),
    ("matched_rule_id", .ofOption (decision.matchedRule.map (·.id))),
    ("matched_rule_name", .ofOption (decision.matchedRule.map (·.name))),
    ("used_default", .bool decision.usedDefault), ("reason", .text decision.reason),
    ("return_request_id", .ofOption decision.requestId)]

/-- A report as data. -/
def Report.toValue (report : Report) : Value :=
  .object [("valid", .bool report.isValid), ("issues", .list (report.issues.map .text))]

/-- The facts of an event while a shop is bound. -/
def Event.fieldsFor (shop : String) (event : Event) : List (String × Value) :=
  Value.setMember "shop" (.text shop) event.fields

end Disposition
