import Disposition.Value

/-!
# Events

What routing reports while it works, for the log: the level, the wording and the named facts of
each event. The engine reports what it skips and decides (`select_rule`, `resolve_destination`), and
the service what it routed and checked (`RoutingService`).
-/

namespace Disposition

/-- How much an event matters. -/
inductive Level
  | debug | info | warning | error | critical
  deriving DecidableEq, Repr

/-- The name of a level. -/
def Level.name : Level → String
  | debug => "debug"
  | info => "info"
  | warning => "warning"
  | error => "error"
  | critical => "critical"

/-- The severity of a level. -/
def Level.severity : Level → Nat
  | debug => 10
  | info => 20
  | warning => 30
  | error => 40
  | critical => 50

/-- Something that happened while a return was routed or a configuration checked. -/
inductive Event
  /-- A rule matched whose destination no longer exists. -/
  | skipped (ruleId ruleName : String) (destinationId : Option String)
  /-- A return was decided on. -/
  | decided (requestId destinationId ruleId : Option String) (usedDefault : Bool)
  /-- A shop's return got a destination. -/
  | routed (shop : String) (requestId : Option String) (destinationId : String)
      (ruleId : Option String) (usedDefault : Bool)
  /-- A shop's return got no destination. -/
  | unrouted (shop : String) (requestId : Option String) (rulesEvaluated : Nat)
  /-- A shop's configuration has issues. -/
  | issuesFound (shop : String) (count : Nat)
  deriving DecidableEq, Repr

namespace Event

/-- The level of an event. -/
def level : Event → Level
  | skipped _ _ _ => .warning
  | decided _ _ _ _ => .debug
  | routed _ _ _ _ _ => .info
  | unrouted _ _ _ => .warning
  | issuesFound _ _ => .info

/-- The wording of an event. -/
def message : Event → String
  | skipped _ _ _ => "Skipping matched rule with missing destination"
  | decided _ _ _ _ => "Routing decision"
  | routed _ _ _ _ _ => "Return routed"
  | unrouted _ _ _ => "Return has no destination"
  | issuesFound _ _ => "Routing configuration has issues"

/-- The named facts of an event. -/
def fields : Event → List (String × Value)
  | skipped ruleId ruleName destinationId =>
    [("rule_id", .text ruleId), ("rule_name", .text ruleName),
      ("destination_id", .ofOption destinationId)]
  | decided requestId destinationId ruleId usedDefault =>
    [("return_request_id", .ofOption requestId), ("destination_id", .ofOption destinationId),
      ("rule_id", .ofOption ruleId), ("used_default", .bool usedDefault)]
  | routed shop requestId destinationId ruleId usedDefault =>
    [("shop", .text shop), ("return_request_id", .ofOption requestId),
      ("destination_id", .text destinationId), ("rule_id", .ofOption ruleId),
      ("used_default", .bool usedDefault)]
  | unrouted shop requestId rulesEvaluated =>
    [("shop", .text shop), ("return_request_id", .ofOption requestId),
      ("rules_evaluated", .int rulesEvaluated)]
  | issuesFound shop count => [("shop", .text shop), ("issue_count", .int count)]

end Event

end Disposition
