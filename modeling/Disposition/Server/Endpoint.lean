import Disposition.Text.Fields

/-!
# Endpoints

The path of a target is what stands before its query, taken literally. A path is the one of an
endpoint if its segments are; a single line break at the end is passed over, unless it belongs to
an identifier, which is any text without slashes.

* `Endpoint.ofPath?`: the endpoint of a path.
* `Endpoint.allows`: the methods of an endpoint.
* `Endpoint.isMoved`: the path is one of an endpoint but for slashes at its end.
-/

namespace Disposition

/-- A place of the service. -/
inductive Endpoint
  /-- The description of the service. -/
  | about
  /-- The health of the service. -/
  | health
  /-- The destinations of the shop. -/
  | destinations
  /-- One destination. -/
  | destination (id : String)
  /-- The rules of the shop. -/
  | rules
  /-- One rule. -/
  | rule (id : String)
  /-- The report on the configuration. -/
  | validate
  /-- The routing of a return. -/
  | route
  /-- A page of the manual. -/
  | manual
  deriving DecidableEq, Repr

namespace Endpoint

/-- The path of a target, without the query. -/
def pathOf (target : String) : List Char :=
  Text.beforeFirst '?' target.toList

/-- The segments of a path behind its first slash, with which every path starts. -/
def segments? (path : List Char) : Option (List String) :=
  match Text.fields '/' path with
  | [] :: segments => some (segments.map String.ofList)
  | _ => none

/-- The endpoints that have no identifier in their paths, by their segments. -/
def fixed : List (List String × Endpoint) :=
  [([""], about), (["health"], health), (["api", "routing", "destinations"], destinations),
    (["api", "routing", "rules"], rules), (["api", "routing", "validate"], validate),
    (["api", "routing", "route"], route), (["openapi.json"], manual), (["docs"], manual),
    (["docs", "oauth2-redirect"], manual), (["redoc"], manual)]

/-- The endpoint whose path has an identifier as its last segment. -/
def named? : List String → Option Endpoint
  | ["api", "routing", "destinations", id] => if id = "" then none else some (destination id)
  | ["api", "routing", "rules", id] => if id = "" then none else some (rule id)
  | _ => none

/-- The path without a line break at its end. -/
def withoutBreak (path : List Char) : List Char :=
  if path.getLast? = some '\n' then path.dropLast else path

/-- The endpoint of a path. -/
def ofPath? (path : List Char) : Option Endpoint :=
  match (segments? (withoutBreak path)).bind fun segments => fixed.lookup segments with
  | some endpoint => some endpoint
  | none => (segments? path).bind named?

/-- The methods of an endpoint. -/
def methods : Endpoint → List String
  | about | health | validate => ["GET"]
  | destinations | rules => ["GET", "POST"]
  | destination _ | rule _ => ["PATCH", "DELETE"]
  | route => ["POST"]
  | manual => ["GET", "HEAD"]

/-- The endpoint has a method. -/
def allows (endpoint : Endpoint) (method : String) : Bool :=
  endpoint.methods.contains method

/-- Without the slashes at its end the path is the one of an endpoint. The empty path only lacks
the slash. -/
def isMoved (path : List Char) : Bool :=
  match path.getLast? with
  | none => true
  | some last =>
    last = '/' && path ≠ ['/'] && (ofPath? (Text.trimEndBy (· = '/') path)).isSome

end Endpoint

end Disposition
