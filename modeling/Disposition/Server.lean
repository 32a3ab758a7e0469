import Disposition.Server.CrossOrigin
import Disposition.Server.Endpoint
import Disposition.Server.Form
import Disposition.Server.Payload
import Disposition.Server.Record
import Disposition.Server.RouteForm

/-!
# The web interface

A shop's configuration is read and changed, and its returns are routed, by requests. A request is
about the one shop that its header names, and it is work in a session of its own. It is refused or
carried out as a whole: a response that is no success leaves the store as it was. The definitions
bear the names of the endpoints, from `list_destinations` to `route_return`.

* `Server.respond`: the response to a request, and the server after it.
* `Server.run`: the responses to some requests.
-/

namespace Disposition

/-- The web interface with its store. -/
structure Server where
  /-- The settings. -/
  settings : ServerSettings := {}
  /-- The store. -/
  store : Store := {}
  /-- How many identifiers were issued. -/
  issued : Nat := 0
  /-- The time at which each of them is issued. -/
  clock : Nat → Timestamp := fun _ => .start
  deriving Inhabited

namespace Server

/-- The version of the service. -/
def version : String := "0.1.0"

/-- The description of the service. -/
def about : Value :=
  .object [("name", .text "Returns Hub"), ("version", .text version), ("docs", .text "/docs"),
    ("description", .text "Disposition routing for returned items")]

/-- What a request comes to: work on the store that ends in a response, unless it is refused. -/
abbrev Handled := Work Refusal Response

/-- A success with data. -/
def success (status : Nat) (v : Value) : Handled :=
  return .ofData status v []

/-- A success with data that is read off the store. -/
def found (read : Store → Value × List Event) : Handled := do
  let (v, events) := read (← get)
  return .ofData 200 v events

/-- The success of a deletion. -/
def deleted : Handled :=
  return { status := 204, body := .empty }

/-- Work that the database may refuse. -/
def stored {α : Type} (work : Work StoreFault α) : Work Refusal α :=
  work.adaptExcept fun _ => .failure

/-! ## Destinations -/

/-- List the destinations of a shop. -/
def listDestinations (shop : String) : Handled :=
  found fun store => (listing ((store.listDestinations shop).map (·.toValue)), [])

/-- Make a destination. -/
def createDestination (shop : String) (fresh : Stamp) (data : Data) : Handled := do
  let row ← stored (Store.createDestination shop fresh data)
  success 201 row.toValue

/-- Change a destination. -/
def updateDestination (shop id : String) (data : Data) : Handled := do
  match ← stored (Store.updateDestination shop id data) with
  | some row => success 200 row.toValue
  | none => throw .noDestination

/-- Delete a destination. -/
def deleteDestination (shop id : String) : Handled := do
  if ← Store.deleteDestination shop id then deleted else throw .noDestination

/-! ## Rules -/

/-- The name that a listing shows for a destination. Of listed destinations with the same
identifier the last one counts. -/
def listedName? (listed : List DestinationRow) (id : String) : Option String :=
  (listed.reverse.find? (·.id = id)).map (·.name)

/-- List the rules of a shop. -/
def listRules (shop : String) : Handled :=
  found fun store =>
    let listed := store.listDestinations shop
    (listing ((store.listRules shop false).map fun row =>
      row.toValue (listedName? listed row.destinationId)), [])

/-- The destination of a shop that the data of a rule names. -/
def namedDestination? (store : Store) (shop : String) (data : Data) : Option DestinationRow :=
  (data.cell "destination_id").text?.bind (store.destination? shop)

/-- Make a rule with one of the destinations of a shop. -/
def createRule (shop : String) (fresh : Stamp) (data : Data) : Handled := do
  match namedDestination? (← get) shop data with
  | none => throw .unknownDestination
  | some destination =>
    let row ← stored (Store.createRule shop fresh data)
    success 201 (row.toValue (some destination.name))

/-- The destination that the data of a rule names is none of the shop. -/
def namesUnknown (store : Store) (shop : String) (data : Data) : Bool :=
  (data.cell "destination_id").text?.any fun id => (store.destination? shop id).isNone

/-- Change a rule. -/
def updateRule (shop id : String) (data : Data) : Handled := do
  if namesUnknown (← get) shop data then throw .unknownDestination
  else
    match ← stored (Store.updateRule shop id data) with
    | none => throw .noRule
    | some row =>
      let destination := (← get).destination? shop row.destinationId
      success 200 (row.toValue (destination.map (·.name)))

/-- Delete a rule. -/
def deleteRule (shop id : String) : Handled := do
  if ← Store.deleteRule shop id then deleted else throw .noRule

/-! ## Reports and decisions -/

/-- Check the configuration of a shop. -/
def validate (shop : String) : Handled := do
  match (← get).validate shop with
  | .ok (report, events) => found fun _ => (report.toValue, events)
  | .error _ => throw .failure

/-- Route a return of a shop. -/
def route (shop : String) (form : RouteForm) : Handled := do
  match (← get).route shop form.context form.requestId with
  | .ok (decision, events) => found fun _ => (decision.toValue, events)
  | .error _ => throw .failure

/-! ## Requests -/

/-- What a request to an endpoint comes to. -/
def handle (fresh : Stamp) (request : Request) (endpoint : Endpoint) : Handled := do
  let shop := request.shop
  let isPost := request.method = "POST"
  let isDelete := request.method = "DELETE"
  match endpoint with
  | .about => success 200 about
  | .health => success 200 (.object [("status", .text "healthy"), ("version", .text version)])
  | .destinations =>
    if isPost then
      createDestination shop fresh (← ofExcept (request.checked Form.newDestination.read))
    else listDestinations shop
  | .destination id =>
    if isDelete then deleteDestination shop id
    else updateDestination shop id (← ofExcept (request.checked Form.changedDestination.read))
  | .rules =>
    if isPost then createRule shop fresh (← ofExcept (request.checked Form.newRule.read))
    else listRules shop
  | .rule id =>
    if isDelete then deleteRule shop id
    else updateRule shop id (← ofExcept (request.checked Form.changedRule.read))
  | .validate => validate shop
  | .route => route shop (← ofExcept (request.checked RouteForm.read))
  | .manual => return { status := 200, body := .empty }

/-- What a request comes to. -/
def dispatch (fresh : Stamp) (request : Request) : Handled :=
  let path := Endpoint.pathOf request.target
  match Endpoint.ofPath? path with
  | some endpoint =>
    if endpoint.allows request.method then handle fresh request endpoint
    else throw .noMethod
  | none => throw (if Endpoint.isMoved path then .moved else .noEndpoint)

/-- The request makes a row, so an identifier was issued for it even if the database refused. -/
def drawsId (request : Request) (result : Except Refusal Response) : Bool :=
  request.method = "POST" &&
    match Endpoint.ofPath? (Endpoint.pathOf request.target), result with
    | some .destinations, .ok _ | some .destinations, .error .failure
    | some .rules, .ok _ | some .rules, .error .failure => true
    | _, _ => false

/-- What is issued next. -/
def stamp (server : Server) : Stamp :=
  .issue server.clock server.issued

/-- The response to a request, and the server after it. -/
def respond (server : Server) (request : Request) : Response × Server :=
  match CrossOrigin.preflight? server.settings request with
  | some response => (response, server)
  | none =>
    let (result, store) := (dispatch server.stamp request).session server.store
    let issued := if drawsId request result then server.issued + 1 else server.issued
    let response :=
      match result with
      | .ok response => response
      | .error refusal => refusal.response
    (CrossOrigin.mark server.settings request response, { server with store, issued })

/-- The responses to some requests, one after the other, and the server after them. -/
def run (server : Server) : List Request → List Response × Server
  | [] => ([], server)
  | request :: requests =>
    let (response, server) := server.respond request
    let (responses, server) := run server requests
    (response :: responses, server)

end Server

end Disposition
