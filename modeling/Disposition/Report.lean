import Disposition.Rule
import Disposition.Rule.Threshold
import Disposition.Value.Text

/-!
# Reports on a configuration

A check of all rules and destinations of a shop, active or not. It names every problem and keeps
nothing from being routed. There is no report if the wording of one of the problems cannot be
written. This is `validate_rule_set`, which makes a `ValidationReport`.

* `Issue`: a problem, and `Issue.text`, its wording.
* `Issue.list`: the problems of a configuration: first the one of the destinations, then those of
  each rule, then the priorities that active rules share.
* `Report`: the wordings; it is valid if there are none.
-/

namespace Disposition

/-- A problem of a configuration. -/
inductive Issue
  /-- There is no destination. -/
  | noDestinations
  /-- There are destinations, and none is the default. -/
  | noDefault
  /-- The destination of a rule does not exist. -/
  | dangling (ruleName : String)
  /-- The operand of a rule on the order value is no number. -/
  | unreadableThreshold (ruleName : String) (operand : Value)
  /-- Several active rules have the same priority. -/
  | sharedPriority (priority : Priority)
  deriving Repr

namespace Issue

/-- The wording of a problem, with room for so many values inside an operand. -/
def text (room : Nat) : Issue → Except TextFault String
  | noDestinations => .ok "No return destinations configured"
  | noDefault =>
    .ok "No default destination set - returns without matching rules will have no destination"
  | dangling ruleName => .ok ("Rule \"" ++ ruleName ++ "\" references a deleted destination")
  | unreadableThreshold ruleName operand =>
    return "Rule \"" ++ ruleName ++ "\" has invalid numeric value: " ++ (← operand.shown room)
  | sharedPriority priority =>
    return "Multiple active rules have the same priority (" ++ (← priority.shown) ++
      ") - order may be unpredictable"

/-- The problem of the destinations. -/
def ofDestinations (destinations : List Destination) : List Issue :=
  if destinations.isEmpty then [noDestinations]
  else if destinations.any (·.isDefault) then []
  else [noDefault]

/-- The rule has a destination, and its identifier is one of those. -/
def isJoined (knownIds : List String) (rule : Rule) : Bool :=
  rule.destination.isSome && rule.destinationId.any (knownIds.contains ·)

/-- The rule is on the order value and its operand is no number. -/
def isUnreadable (rule : Rule) : Bool :=
  rule.kind?.any (·.isThreshold) && rule.conditionValue.threshold?.isNone

/-- The problems of one rule. -/
def ofRule (knownIds : List String) (rule : Rule) : List Issue :=
  (if isJoined knownIds rule then [] else [dangling rule.name]) ++
    (if isUnreadable rule then [unreadableThreshold rule.name rule.conditionValue] else [])

/-- The priorities that stand in a list more than once, in the order of their first places. -/
def repeated (priorities : List Priority) : List Priority :=
  (priorities.eraseDupsBy Priority.same).filter fun p => 1 < priorities.countP p.same

/-- The priorities that active rules share. -/
def ofPriorities (rules : List Rule) : List Issue :=
  (repeated ((rules.filter (·.isActive)).map (·.priority))).map sharedPriority

/-- The problems of a configuration. -/
def list (rules : List Rule) (destinations : List Destination) : List Issue :=
  ofDestinations destinations ++
    rules.flatMap (ofRule (destinations.map (·.id))) ++ ofPriorities rules

end Issue

/-- The outcome of a check. -/
structure Report where
  /-- The wordings of the problems. -/
  issues : List String := []
  deriving DecidableEq, Repr, Inhabited

namespace Report

/-- The configuration has no problem. -/
def isValid (report : Report) : Bool :=
  report.issues.isEmpty

/-- The check of a configuration, with room for so many values inside an operand. -/
def check (room : Nat) (rules : List Rule) (destinations : List Destination) :
    Except TextFault Report := do
  return ⟨← (Issue.list rules destinations).mapM (Issue.text room)⟩

end Report

end Disposition
