import Disposition.Event
import Disposition.Rule.Condition

/-!
# Routing decisions

The first active rule, in order of priority, whose condition holds and whose destination exists
decides where a return goes. A rule that matches without a destination is reported and passed
over. If no rule decides, the default destination does, and if there is none the return has no
destination: none is ever invented. Rules that cannot be put in order decide nothing.

* `Rule.select`: the deciding rule, with the events on the way to it (`select_rule`).
* `Rule.destinationIn`: its destination (`find_matching_destination`).
* `Decision.resolve`: the decision, with all its events (`resolve_destination`).
-/

namespace Disposition

/-- The report that a rule matched without a destination. -/
def Rule.skippedEvent (rule : Rule) : Event :=
  .skipped rule.id rule.name rule.destinationId

/-- The first of the rules whose condition holds and whose destination exists. -/
def Rule.firstRoutable (context : Context) : List Rule → Option Rule × List Event
  | [] => (none, [])
  | rule :: rules =>
    if rule.holds context then
      if rule.destination.isSome then (some rule, [])
      else
        let (found, events) := firstRoutable context rules
        (found, rule.skippedEvent :: events)
    else firstRoutable context rules

/-- The rule that decides in a context, if the rules can be put in order. -/
def Rule.select (rules : List Rule) (context : Context) :
    Except PriorityFault (Option Rule × List Event) := do
  return firstRoutable context (← activeInOrder rules)

/-- The destination that the rules choose in a context. -/
def Rule.destinationIn (rules : List Rule) (context : Context) :
    Except PriorityFault (Option Destination) := do
  let (rule, _) ← select rules context
  return rule.bind (·.destination)

/-- Where one return goes. -/
structure Decision where
  /-- The destination, if there is one. -/
  destination : Option Destination
  /-- The rule that decided. -/
  matchedRule : Option Rule := none
  /-- The default destination was used. -/
  usedDefault : Bool := false
  /-- Why, in words. -/
  reason : String := ""
  /-- The return. -/
  requestId : Option String := none
  deriving Repr, Inhabited

namespace Decision

/-- The return has a destination. -/
def isRouted (decision : Decision) : Bool :=
  decision.destination.isSome

/-- The decision of a rule. -/
def ofRule (rule : Rule) (requestId : Option String) : Decision where
  destination := rule.destination
  matchedRule := some rule
  reason := "Rule '" ++ rule.name ++ "' matched"
  requestId := requestId

/-- The decision that no rule made. -/
def ofDefault (destinations : List Destination) (requestId : Option String) : Decision :=
  match Destination.default? destinations with
  | some destination => {
      destination := some destination
      usedDefault := true
      reason := "No rule matched; using default destination"
      requestId }
  | none => {
      destination := none
      reason := "No rule matched and no default destination is set"
      requestId }

/-- The report of a decision. -/
def event (decision : Decision) : Event :=
  .decided decision.requestId (decision.destination.map (·.id)) (decision.matchedRule.map (·.id))
    decision.usedDefault

/-- The decision of a rule, or of none. -/
def ofRule? (destinations : List Destination) (requestId : Option String) :
    Option Rule → Decision
  | some rule => ofRule rule requestId
  | none => ofDefault destinations requestId

/-- Decide where a return goes. -/
def resolve (rules : List Rule) (destinations : List Destination) (context : Context)
    (requestId : Option String) : Except PriorityFault (Decision × List Event) := do
  let (rule, events) ← Rule.select rules context
  let decision := ofRule? destinations requestId rule
  return (decision, events ++ [decision.event])

end Decision

end Disposition
