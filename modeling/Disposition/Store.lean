import Disposition.Store.Table

/-!
# The store

The destinations and the rules of all shops. Every operation is confined to one shop. Changes are
work in a session, which may fail when something is changed already: `Work.session` undoes it then
(`get_session_context`). The operations are those of `DestinationRepository` and of
`RoutingRuleRepository`, with what both have from `BaseRepository`.

* A shop has at most one default destination: flagging one clears the flag of the others first.
* Destinations are listed with the default first, then by name; rules in the order in which they
  are tried, which ties of priority leave to the time and the identifier.
* A destination can be deleted while rules name it. Such a rule is kept, without a destination.
-/

namespace Disposition

/-- The configuration of all shops. -/
structure Store where
  /-- The destinations, in the order in which they were made. -/
  destinations : List DestinationRow := []
  /-- The rules, in the order in which they were made. -/
  rules : List RuleRow := []
  deriving DecidableEq, Repr, Inhabited

/-- Work on the store in a session. What it changes is there for the rest of the session, also if
the work fails. -/
abbrev Work (ε α : Type) := EStateM ε Store α

/-- What comes of work in a session of its own, and the store after it. The changes are kept if the
work succeeds, and undone if it fails. -/
def Work.session {ε α : Type} (work : Work ε α) (store : Store) : Except ε α × Store :=
  match work.run store with
  | .ok a worked => (.ok a, worked)
  | .error fault _ => (.error fault, store)

namespace DestinationRow

/-- The row without the flag of the default. -/
def withoutFlag (row : DestinationRow) : DestinationRow :=
  { row with isDefault := false }

/-- The rows after the flag was cleared for a shop, except for one identifier. -/
def clearDefault (rows : List DestinationRow) (shop : String) (kept : Option String) :
    List DestinationRow :=
  rows.map fun row => if row.shop = shop && kept ≠ some row.id then row.withoutFlag else row

/-- The order of listings: the default first, then by name. -/
def listedBefore (row other : DestinationRow) : Bool :=
  if row.isDefault = other.isDefault then row.name ≤ other.name else row.isDefault

end DestinationRow

/-- The order in which rules are tried: by priority, then by time, then by identifier. -/
def RuleRow.triedBefore (row other : RuleRow) : Bool :=
  if row.priority.same other.priority then
    if row.createdAt = other.createdAt then row.id ≤ other.id
    else row.createdAt ≤ other.createdAt
  else row.priority.le other.priority

namespace Store

/-! ## Destinations -/

/-- The destinations of a shop, the default first. -/
def listDestinations (store : Store) (shop : String) : List DestinationRow :=
  (Table.ofShop store.destinations shop).mergeSort DestinationRow.listedBefore

/-- A destination of a shop. -/
def destination? (store : Store) (shop id : String) : Option DestinationRow :=
  Table.find? store.destinations shop id

/-- The default destination of a shop. -/
def defaultDestination? (store : Store) (shop : String) : Option DestinationRow :=
  (Table.ofShop store.destinations shop).find? (·.isDefault)

/-- Clear the flag of a shop's default, except for one identifier. -/
def clearDefault (shop : String) (kept : Option String) : Work StoreFault Unit :=
  modify fun store =>
    { store with destinations := DestinationRow.clearDefault store.destinations shop kept }

/-- Make a destination. -/
def createDestination (shop : String) (fresh : Stamp) (data : Data) :
    Work StoreFault DestinationRow := do
  if data.flagsDefault then clearDefault shop none
  let row ← ofExcept (DestinationRow.ofData shop fresh data)
  let destinations ← ofExcept (Table.insert .destinations (← get).destinations row)
  modify fun store => { store with destinations }
  return row

/-- Change a destination, if the shop has it. -/
def updateDestination (shop id : String) (data : Data) :
    Work StoreFault (Option DestinationRow) := do
  match (← get).destination? shop id with
  | none => return none
  | some row =>
    if data.flagsDefault then clearDefault shop (some id)
    let row ← ofExcept (row.patch data)
    modify fun store => { store with destinations := Table.replace store.destinations row }
    return some row

/-- Delete a destination, if the shop has it. -/
def deleteDestination {ε : Type} (shop id : String) : Work ε Bool := do
  if ((← get).destination? shop id).isSome then
    modify fun store => { store with destinations := Table.erase store.destinations shop id }
    return true
  else return false

/-- The destinations of a shop, as routing takes them. -/
def loadDestinations (store : Store) (shop : String) : List Destination :=
  (store.listDestinations shop).map (·.toDestination)

/-! ## Rules -/

/-- The rules of a shop in the order in which they are tried, all of them or the active ones. -/
def listRules (store : Store) (shop : String) (activeOnly : Bool) : List RuleRow :=
  ((Table.ofShop store.rules shop).filter fun row => !activeOnly || row.isActive).mergeSort
    RuleRow.triedBefore

/-- A rule of a shop. -/
def rule? (store : Store) (shop id : String) : Option RuleRow :=
  Table.find? store.rules shop id

/-- Make a rule. -/
def createRule (shop : String) (fresh : Stamp) (data : Data) : Work StoreFault RuleRow := do
  let row ← ofExcept (RuleRow.ofData shop fresh data)
  let rules ← ofExcept (Table.insert .rules (← get).rules row)
  modify fun store => { store with rules }
  return row

/-- Change a rule, if the shop has it. -/
def updateRule (shop id : String) (data : Data) : Work StoreFault (Option RuleRow) := do
  match (← get).rule? shop id with
  | none => return none
  | some row =>
    let row ← ofExcept (row.patch data)
    modify fun store => { store with rules := Table.replace store.rules row }
    return some row

/-- Delete a rule, if the shop has it. -/
def deleteRule {ε : Type} (shop id : String) : Work ε Bool := do
  if ((← get).rule? shop id).isSome then
    modify fun store => { store with rules := Table.erase store.rules shop id }
    return true
  else return false

/-- The rules of a shop, joined with destinations, as routing takes them. -/
def loadRules (store : Store) (shop : String) (destinations : List Destination)
    (activeOnly : Bool) : List Rule :=
  (store.listRules shop activeOnly).map (RuleRow.toRule destinations)

end Store

end Disposition
