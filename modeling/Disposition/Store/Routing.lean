import Disposition.Decision
import Disposition.Report
import Disposition.Store

/-!
# Routing for a shop

A shop's return is routed by the shop's active rules and its destinations as they are stored at
that moment, and its configuration is checked with all its rules, active or not.

* `Store.snapshot`: the rules and destinations of a shop (`RoutingService.load_snapshot`).
* `Store.route`: the decision on a return, with all its events
  (`RoutingService.route_return_request`).
* `Store.validate`: the report on the configuration, with its events
  (`RoutingService.validate_routing_rules`).
-/

namespace Disposition

/-- The configuration of a shop at some moment. -/
structure Snapshot where
  /-- The rules, joined with their destinations. -/
  rules : List Rule
  /-- The destinations. -/
  destinations : List Destination
  deriving Repr, Inhabited

namespace Store

/-- The configuration of a shop, with all its rules or the active ones. -/
def snapshot (store : Store) (shop : String) (activeOnly : Bool) : Snapshot :=
  let destinations := store.loadDestinations shop
  ⟨store.loadRules shop destinations activeOnly, destinations⟩

/-- The report of a decision for a shop, which tried so many rules. -/
def routeEvent (shop : String) (rulesTried : Nat) (decision : Decision) : Event :=
  match decision.destination with
  | some destination =>
    .routed shop decision.requestId destination.id (decision.matchedRule.map (·.id))
      decision.usedDefault
  | none => .unrouted shop decision.requestId rulesTried

/-- Route a return of a shop, if its rules can be put in order. -/
def route (store : Store) (shop : String) (context : Context) (requestId : Option String) :
    Except PriorityFault (Decision × List Event) := do
  let snapshot := store.snapshot shop true
  let (decision, events) ←
    Decision.resolve snapshot.rules snapshot.destinations context requestId
  return (decision, events ++ [routeEvent shop snapshot.rules.length decision])

/-- Check the configuration of a shop. -/
def validate (store : Store) (shop : String) : Except TextFault (Report × List Event) := do
  let snapshot := store.snapshot shop false
  let report ← Report.check Value.usualRoom snapshot.rules snapshot.destinations
  return (report, if report.isValid then [] else [.issuesFound shop report.issues.length])

end Store

end Disposition
