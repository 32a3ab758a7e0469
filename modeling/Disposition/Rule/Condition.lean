import Disposition.Context
import Disposition.Rule
import Disposition.Rule.Threshold
import Disposition.Text.Lower
import Disposition.Text.Occurrence

/-!
# Conditions

Whether the condition of a rule holds in a context. Every condition has an answer in every
context: an unknown kind, an operand of the wrong kind or facts of the wrong kind make it false.

Texts are compared without regard to case: the operand is trimmed and put in lower case, the text
of the context is only put in lower case.

* `ConditionKind.holds`: the matcher of each kind of condition.
* `Rule.holds`: the condition of a rule (`evaluate_condition`).
-/

namespace Disposition

namespace Value

/-- The lower case of a value that is a text. -/
def lowered? (v : Value) : Option String :=
  v.text?.map Text.lowerString

/-- The value is a text with that lower case. -/
def hasLower (operand : String) (v : Value) : Bool :=
  v.lowered? = some operand

/-- The value is a text in whose lower case the operand stands. -/
def lowerContains (operand : String) (v : Value) : Bool :=
  v.lowered?.any (Text.contains operand)

/-- The operand of a condition on texts; what is no text counts as the empty one. -/
def operand (v : Value) : String :=
  Text.normalize (v.text?.getD "")

/-- Both are there, and the second is below the first. -/
def exceeds (value threshold : Option Double) : Bool :=
  match value, threshold with
  | some d, some e => e.lt d
  | _, _ => false

end Value

/-- The condition of that kind and operand holds in a context. -/
def ConditionKind.holds (kind : ConditionKind) (operand : Value) (context : Context) : Bool :=
  match kind with
  | productType => context.items.any fun item => item.productType.hasLower operand.operand
  | productTag =>
    context.items.any fun item =>
      (item.productTags.getD []).any fun tag => tag.hasLower operand.operand
  | productVendor => context.items.any fun item => item.productVendor.hasLower operand.operand
  | skuContains => context.items.any fun item => item.sku.lowerContains operand.operand
  | orderValueAbove => Value.exceeds context.orderValue.quantity? operand.threshold?
  | orderValueBelow => Value.exceeds operand.threshold? context.orderValue.quantity?
  | returnReason => context.returnReason.hasLower operand.operand
  | customerTag => (context.customerTags.getD []).any fun tag => tag.hasLower operand.operand

/-- The condition of a rule holds in a context. -/
def Rule.holds (rule : Rule) (context : Context) : Bool :=
  match rule.kind? with
  | some kind => kind.holds rule.conditionValue context
  | none => false

/-- The rule has a condition of that kind with that operand. -/
def Rule.HasCondition (rule : Rule) (kind : ConditionKind) (operand : Value) : Prop :=
  rule.conditionType = .text kind.name ∧ rule.conditionValue = operand

/-- A rule holds where its condition does. -/
theorem Rule.HasCondition.holds_eq {rule : Rule} {kind : ConditionKind} {operand : Value}
    (h : rule.HasCondition kind operand) (context : Context) :
    rule.holds context = kind.holds operand context := by
  have hkind : rule.kind? = some kind := by
    rw [Rule.kind?, h.1]
    exact ConditionKind.ofName?_name kind
  rw [Rule.holds, hkind, h.2]

end Disposition
