import Disposition.Context.Raw
import Disposition.Store.Routing

/-!
# Sessions

Every operation runs in a session of its own, and several of them can share one as a transaction.
A session that fails leaves the store as it was.

A row that is made or changed is asked for its content afterwards, which its data can keep it from.
The data of a new row can also name the time at which it was made.

* `Operation.run`: what an operation answers and reports, as work on the store.
* `Operation.perform`, `Database.perform`: an operation in a session of its own.
* `Database.transact`: operations in one session, up to the first that fails.
* `Database.run`: sessions one after the other.
-/

namespace Disposition

/-- An operation on the store. -/
inductive Operation
  | createDestination (shop : String) (data : Data)
  | getDestination (shop id : String)
  | getDefault (shop : String)
  | updateDestination (shop id : String) (data : Data)
  | deleteDestination (shop id : String)
  | listDestinations (shop : String)
  | destinationsById (shop : String)
  | loadDestinations (shop : String)
  | createRule (shop : String) (data : Data)
  | getRule (shop id : String)
  | updateRule (shop id : String) (data : Data)
  | deleteRule (shop id : String)
  | listRules (shop : String) (activeOnly : Bool)
  | rulesById (shop : String)
  | loadRules (shop : String) (destinations : List Destination) (activeOnly : Bool)
  | route (shop : String) (context : Except AccessFault Context) (requestId : Option String)
  | chooseDestination (shop : String) (context : Except AccessFault Context)
  | validate (shop : String)
  | snapshot (shop : String) (activeOnly : Bool)

/-- The answer to an operation. -/
inductive Answer
  | destination (row : Option DestinationRow)
  | destinations (rows : List DestinationRow)
  | loadedDestinations (records : List Destination)
  | rule (row : Option RuleRow)
  | rules (rows : List RuleRow)
  | loadedRules (records : List Rule)
  | deleted (done : Bool)
  | decision (decision : Decision)
  | chosen (destination : Option Destination)
  | report (report : Report)
  | snapshot (snapshot : Snapshot)
  deriving Repr

/-- Why a session fails. -/
inductive SessionFault
  /-- The store cannot do it. -/
  | store (fault : StoreFault)
  /-- The data of a return has not the shape it should have. -/
  | access (fault : AccessFault)
  /-- The rules of a shop cannot be put in order. -/
  | priority (fault : PriorityFault)
  /-- The problems of a configuration cannot be written. -/
  | text (fault : TextFault)
  deriving DecidableEq, Repr

/-- The wording of a fault. -/
def SessionFault.message : SessionFault → String
  | store fault => fault.message
  | access fault => fault.message
  | priority fault => fault.message
  | text fault => fault.message

/-- What comes of an operation: its answer and its events, or its fault. -/
abbrev Reply := Except SessionFault (Answer × List Event)

namespace Data

/-- The time that the data of a new row names, if it does. -/
def givenTime (data : Data) : Except StoreFault (Option Timestamp) :=
  match data.cell "created_at" with
  | .null => .ok none
  | .text s => ((Timestamp.read s).mapError .time).map some
  | _ => .error (.time .notText)

/-- What a row is asked for its content by was not replaced. -/
def checkContent (data : Data) : Except StoreFault Unit :=
  match data.lookup "to_dict" with
  | some cell => .error (.contentReplaced cell.kind)
  | none => .ok ()

end Data

namespace Operation

/-- Make a row at the time that its data names, or else at the one that is issued, and ask it for
its content. -/
def making {α : Type} (fresh : Stamp) (data : Data) (make : Stamp → Work StoreFault α) :
    Work StoreFault α := do
  let given ← ofExcept data.givenTime
  let row ← make { fresh with time := given.getD fresh.time }
  ofExcept data.checkContent
  return row

/-- Change a row and ask it for its content, if there is one. -/
def changing {α : Type} (data : Data) (change : Work StoreFault (Option α)) :
    Work StoreFault (Option α) := do
  match ← change with
  | none => return none
  | some row =>
    ofExcept data.checkContent
    return some row

/-- An answer that is read off the store. -/
def reading (answer : Store → Answer) : Work SessionFault (Answer × List Event) := do
  return (answer (← get), [])

/-- An answer of work that the store may refuse. -/
def writing {α : Type} (work : Work StoreFault α) (answer : α → Answer) :
    Work SessionFault (Answer × List Event) := do
  return (answer (← work.adaptExcept .store), [])

/-- An answer that the decision on a return of a shop gives, if there are facts of the return. -/
def deciding (shop : String) (context : Except AccessFault Context) (requestId : Option String)
    (answer : Decision → Answer) : Work SessionFault (Answer × List Event) := do
  let c ← ofExcept (context.mapError .access)
  let (decision, events) ← ofExcept (((← get).route shop c requestId).mapError .priority)
  return (answer decision, events)

/-- The report on the configuration of a shop. -/
def checking (shop : String) : Work SessionFault (Answer × List Event) := do
  let (report, events) ← ofExcept (((← get).validate shop).mapError .text)
  return (.report report, events)

/-- Run an operation. -/
def run (fresh : Stamp) : Operation → Work SessionFault (Answer × List Event)
  | createDestination shop data =>
    writing (making fresh data fun fresh => Store.createDestination shop fresh data) fun row =>
      .destination (some row)
  | getDestination shop id => reading fun store => .destination (store.destination? shop id)
  | getDefault shop => reading fun store => .destination (store.defaultDestination? shop)
  | updateDestination shop id data =>
    writing (changing data (Store.updateDestination shop id data)) .destination
  | deleteDestination shop id => writing (Store.deleteDestination shop id) .deleted
  | listDestinations shop => reading fun store => .destinations (store.listDestinations shop)
  | destinationsById shop => reading fun store => .destinations (Table.byId store.destinations shop)
  | loadDestinations shop =>
    reading fun store => .loadedDestinations (store.loadDestinations shop)
  | createRule shop data =>
    writing (making fresh data fun fresh => Store.createRule shop fresh data) fun row =>
      .rule (some row)
  | getRule shop id => reading fun store => .rule (store.rule? shop id)
  | updateRule shop id data => writing (changing data (Store.updateRule shop id data)) .rule
  | deleteRule shop id => writing (Store.deleteRule shop id) .deleted
  | listRules shop activeOnly => reading fun store => .rules (store.listRules shop activeOnly)
  | rulesById shop => reading fun store => .rules (Table.byId store.rules shop)
  | loadRules shop destinations activeOnly =>
    reading fun store => .loadedRules (store.loadRules shop destinations activeOnly)
  | route shop context requestId => deciding shop context requestId .decision
  | chooseDestination shop context =>
    deciding shop context none fun decision => .chosen decision.destination
  | validate shop => checking shop
  | snapshot shop activeOnly => reading fun store => .snapshot (store.snapshot shop activeOnly)

/-- An operation in a session of its own on a store: what comes of it, and the store after it. -/
def perform (fresh : Stamp) (operation : Operation) (store : Store) : Reply × Store :=
  (operation.run fresh).session store

/-- The table that an operation asks for first. -/
def firstTable : Operation → TableName
  | createRule _ _ | getRule _ _ | updateRule _ _ _ | deleteRule _ _ | listRules _ _
  | rulesById _ | loadRules _ _ _ => .rules
  | _ => .destinations

/-- What is wrong with an operation before it asks for a table. A new default destination asks for
the others first. -/
def earlyFault : Operation → Except SessionFault Unit
  | createDestination _ data => Except.mapError .store do
    let _ ← data.givenTime
    if data.flagsDefault then .ok () else data.checkGiven .destinations
  | createRule _ data => Except.mapError .store do
    let _ ← data.givenTime
    data.checkGiven .rules
  | route _ (.error fault) _ | chooseDestination _ (.error fault) => .error (.access fault)
  | _ => .ok ()

/-- Why an operation fails where the tables were never made. -/
def faultWithoutTables (operation : Operation) : SessionFault :=
  match operation.earlyFault with
  | .error fault => fault
  | .ok () => .store (.noTable operation.firstTable)

/-- The operation makes a row, and its data has no identifier. -/
def drawsId : Operation → Bool
  | createDestination _ data =>
    data.cell "id" = .null && data.givenTime.isOk && (data.checkNew .destinations).isOk
  | createRule _ data =>
    data.cell "id" = .null && data.givenTime.isOk && (data.checkNew .rules).isOk
  | _ => false

end Operation

/-- The database of the service. -/
structure Database where
  /-- The store, unless its tables were never made. -/
  store : Option Store := some {}
  /-- How many identifiers were issued. -/
  issued : Nat := 0
  /-- The time at which each of them is issued. -/
  clock : Nat → Timestamp := fun _ => .start
  deriving Inhabited

/-- The outcome of a transaction. -/
structure Outcome where
  /-- The answers of the operations that succeeded. -/
  answers : List Answer := []
  /-- Why the transaction failed, if it did. -/
  fault : Option SessionFault := none
  /-- The events of all operations. -/
  events : List Event := []
  deriving Repr

namespace Database

/-- What is issued next. -/
def stamp (database : Database) : Stamp :=
  .issue database.clock database.issued

/-- The database after an identifier was issued, if the operation draws one. -/
def afterDraw (database : Database) (operation : Operation) : Database :=
  if operation.drawsId then { database with issued := database.issued + 1 } else database

/-- An operation in a session of its own. -/
def perform (database : Database) (operation : Operation) : Reply × Database :=
  let drawn := database.afterDraw operation
  match database.store with
  | some store =>
    let (reply, after) := operation.perform database.stamp store
    (reply, { drawn with store := some after })
  | none => (.error operation.faultWithoutTables, drawn)

/-- An operation in a session that goes on: what it changed before it failed stays changed. -/
def attempt (database : Database) (operation : Operation) : Reply × Database :=
  let drawn := database.afterDraw operation
  match database.store with
  | some store =>
    match (operation.run database.stamp).run store with
    | .ok reply worked => (.ok reply, { drawn with store := some worked })
    | .error fault worked => (.error fault, { drawn with store := some worked })
  | none => (.error operation.faultWithoutTables, drawn)

/-- Operations one after the other in one session, up to the first that fails. -/
def sequence (database : Database) : List Operation → Outcome × Database
  | [] => ({}, database)
  | operation :: operations =>
    match database.attempt operation with
    | (.error fault, after) => ({ fault := some fault }, after)
    | (.ok (answer, events), after) =>
      let (outcome, last) := sequence after operations
      ({ outcome with
          answers := answer :: outcome.answers, events := events ++ outcome.events }, last)

/-- Operations as one transaction, which can be given up at its end. If it fails, what was changed
is undone; issued identifiers stay issued. -/
def transact (database : Database) (operations : List Operation) (giveUp : Bool) :
    Outcome × Database :=
  let (outcome, after) := database.sequence operations
  let fault :=
    match outcome.fault with
    | some fault => some fault
    | none => if giveUp then some (.store .aborted) else none
  ({ outcome with fault },
    if fault.isSome then { after with store := database.store } else after)

end Database

/-- What is done in one session. -/
inductive Session
  /-- A single operation. -/
  | single (operation : Operation)
  /-- A transaction, which can be given up at its end. -/
  | transaction (operations : List Operation) (giveUp : Bool)

/-- What comes of a session. -/
inductive SessionResult
  /-- The answer and the events of an operation, or its fault. -/
  | single (reply : Reply)
  /-- The outcome of a transaction. -/
  | transaction (outcome : Outcome)

namespace Database

/-- What comes of a session, and the database after it. -/
def step (database : Database) : Session → SessionResult × Database
  | .single operation =>
    let (reply, after) := database.perform operation
    (.single reply, after)
  | .transaction operations giveUp =>
    let (outcome, after) := database.transact operations giveUp
    (.transaction outcome, after)

/-- What comes of sessions one after the other, and the database after them. -/
def run (database : Database) : List Session → List SessionResult × Database
  | [] => ([], database)
  | session :: sessions =>
    let (result, after) := database.step session
    let (results, last) := run after sessions
    (result :: results, last)

end Database

end Disposition
