import Disposition.Destination
import Disposition.Priority

/-!
# Routing rules

A rule sends the returns that meet its condition to a destination. What its condition inspects is
kept as written, so that a rule with a condition of an unknown kind is kept too; it never holds.

* `ConditionKind`: the eight things that a condition can inspect, and their names (`ConditionType`).
* `Rule`: a rule (`RoutingRule`), and `Rule.kind?`, the kind of its condition
  (`ConditionType.parse`).
* `Rule.activeInOrder`: the active rules in the order in which they are tried
  (`ordered_active_rules`).
-/

namespace Disposition

/-- What a condition inspects. -/
inductive ConditionKind
  | productType
  | productTag
  | skuContains
  | orderValueAbove
  | orderValueBelow
  | returnReason
  | customerTag
  | productVendor
  deriving DecidableEq, Repr

namespace ConditionKind

/-- All kinds. -/
def all : List ConditionKind :=
  [productType, productTag, skuContains, orderValueAbove, orderValueBelow, returnReason,
    customerTag, productVendor]

/-- The name of a kind in rules. -/
def name : ConditionKind → String
  | productType => "product_type"
  | productTag => "product_tag"
  | skuContains => "sku_contains"
  | orderValueAbove => "order_value_above"
  | orderValueBelow => "order_value_below"
  | returnReason => "return_reason"
  | customerTag => "customer_tag"
  | productVendor => "product_vendor"

/-- The kind of a name. -/
def ofName? (s : String) : Option ConditionKind :=
  all.find? (·.name = s)

/-- A kind is found by its name. -/
theorem ofName?_name (kind : ConditionKind) : ofName? kind.name = some kind := by
  cases kind <;> decide

/-- The kind that a value names. -/
def ofValue? (v : Value) : Option ConditionKind :=
  v.text?.bind ofName?

/-- The operand of the condition is a numeric threshold. -/
def isThreshold : ConditionKind → Bool
  | orderValueAbove | orderValueBelow => true
  | _ => false

end ConditionKind

/-- A rule of a shop. -/
structure Rule where
  /-- The identifier. -/
  id : String
  /-- The name. -/
  name : String
  /-- What the condition inspects. -/
  conditionType : Value
  /-- What the condition compares with. -/
  conditionValue : Value
  /-- The identifier of the destination. -/
  destinationId : Option String
  /-- Rules are tried in ascending order of priority. -/
  priority : Priority := .integer 0
  /-- Inactive rules are not tried. -/
  isActive : Bool := true
  /-- The destination, if it still exists. -/
  destination : Option Destination := none
  deriving Repr, Inhabited

/-- The kind of a rule's condition, if it is known. -/
def Rule.kind? (rule : Rule) : Option ConditionKind :=
  ConditionKind.ofValue? rule.conditionType

/-- The priorities of the active rules can be compared with each other. -/
def Rule.checkPriorities (rules : List Rule) : Except PriorityFault Unit :=
  Priority.check ((rules.filter (·.isActive)).map (·.priority))

/-- The active rules by priority, and among equal priorities as they were given. -/
def Rule.arranged (rules : List Rule) : List Rule :=
  (rules.filter (·.isActive)).mergeSort fun r s => r.priority.le s.priority

/-- The active rules in the order in which they are tried, if their priorities can be compared. -/
def Rule.activeInOrder (rules : List Rule) : Except PriorityFault (List Rule) := do
  checkPriorities rules
  return arranged rules

end Disposition
