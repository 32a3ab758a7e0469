import Disposition.Proofs.DefaultDestination
import Disposition.Server

/-!
# Failures leave no trace

Work on the store changes it step by step, and it can fail after some of the steps: when a default
destination is made or changed, the flags of the others are cleared before the row itself is. What
fails is undone as a whole. That holds of an operation, of a transaction, and of a request.

Results:
* `Database.step_keeps`: a session that fails keeps the store.
* `Server.respond_keeps`: a response that is no success keeps the store.
* `createDestination_clears`, `updateDestination_clears`: what is undone if the default of a shop
  was to change.
* `failure_keeps`: all of it.
-/

namespace Disposition

/-! ## Sessions -/

/-- Why a session failed, if it did. -/
def SessionResult.fault? : SessionResult → Option SessionFault
  | .single (.error fault) => some fault
  | .single (.ok _) => none
  | .transaction outcome => outcome.fault

namespace Database

theorem perform_keeps {database : Database} {operation : Operation} {fault : SessionFault}
    (h : (database.perform operation).1 = .error fault) :
    (database.perform operation).2.store = database.store := by
  obtain ⟨held, issued, clock⟩ := database
  cases held with
  | none =>
    unfold perform afterDraw
    cases operation.drawsId <;> rfl
  | some store =>
    rw [perform_some] at h ⊢
    exact congrArg some (Work.session_error h)

theorem transact_keeps {database : Database} {operations : List Operation} {giveUp : Bool}
    (h : (database.transact operations giveUp).1.fault.isSome = true) :
    (database.transact operations giveUp).2.store = database.store := by
  unfold transact at h ⊢
  simp only at h ⊢
  rw [if_pos h]

/-- **A session that fails keeps the store**, however far it went. -/
theorem step_keeps {database : Database} {session : Session}
    (h : (database.step session).1.fault?.isSome = true) :
    (database.step session).2.store = database.store := by
  cases session with
  | single operation =>
    cases hreply : (database.perform operation).1 with
    | ok answer =>
      simp only [step, hreply] at h
      cases h
    | error fault => exact perform_keeps hreply
  | transaction operations giveUp => exact transact_keeps h

end Database

/-! ## Requests -/

namespace Server

/-- What is carried out is answered with a success. -/
abbrev Succeeds (handled : Handled) : Prop :=
  handled.Yields fun response => response.isSuccess = true

theorem succeeds_created (v : Value) : Succeeds (success 201 v) :=
  Work.yields_pure rfl

theorem succeeds_success (v : Value) : Succeeds (success 200 v) :=
  Work.yields_pure rfl

theorem succeeds_found (read : Store → Value × List Event) : Succeeds (found read) :=
  Work.yields_bind _ fun _ => Work.yields_pure rfl

theorem succeeds_deleted : Succeeds deleted :=
  Work.yields_pure rfl

theorem succeeds_createDestination (shop : String) (fresh : Stamp) (data : Data) :
    Succeeds (createDestination shop fresh data) :=
  Work.yields_bind _ fun _ => succeeds_created _

theorem succeeds_updateDestination (shop id : String) (data : Data) :
    Succeeds (updateDestination shop id data) := by
  refine Work.yields_bind _ fun row => ?_
  cases row with
  | some row => exact succeeds_success _
  | none => exact Work.yields_throw _

theorem succeeds_deleteDestination (shop id : String) : Succeeds (deleteDestination shop id) := by
  refine Work.yields_bind _ fun done => ?_
  cases done with
  | true => exact succeeds_deleted
  | false => exact Work.yields_throw _

theorem succeeds_createRule (shop : String) (fresh : Stamp) (data : Data) :
    Succeeds (createRule shop fresh data) := by
  refine Work.yields_bind _ fun store => ?_
  cases namedDestination? store shop data with
  | none => exact Work.yields_throw _
  | some destination => exact Work.yields_bind _ fun _ => succeeds_created _

theorem succeeds_updateRule (shop id : String) (data : Data) :
    Succeeds (updateRule shop id data) := by
  refine Work.yields_bind _ fun _ => Work.yields_ite (Work.yields_throw _)
    (Work.yields_bind _ fun row => ?_)
  cases row with
  | some row => exact Work.yields_bind _ fun _ => succeeds_success _
  | none => exact Work.yields_throw _

theorem succeeds_deleteRule (shop id : String) : Succeeds (deleteRule shop id) := by
  refine Work.yields_bind _ fun done => ?_
  cases done with
  | true => exact succeeds_deleted
  | false => exact Work.yields_throw _

theorem succeeds_route (shop : String) (form : RouteForm) : Succeeds (route shop form) := by
  refine Work.yields_bind _ fun store => ?_
  split
  · exact succeeds_found _
  · exact Work.yields_throw _

theorem succeeds_validate (shop : String) : Succeeds (validate shop) := by
  refine Work.yields_bind _ fun store => ?_
  split
  · exact succeeds_found _
  · exact Work.yields_throw _

theorem succeeds_handle (fresh : Stamp) (request : Request) (endpoint : Endpoint) :
    Succeeds (handle fresh request endpoint) := by
  cases endpoint with
  | about | health => exact succeeds_success _
  | destinations =>
    exact Work.yields_ite (Work.yields_bind _ fun data => succeeds_createDestination _ _ data)
      (succeeds_found _)
  | destination id =>
    exact Work.yields_ite (succeeds_deleteDestination _ id)
      (Work.yields_bind _ fun data => succeeds_updateDestination _ id data)
  | rules =>
    exact Work.yields_ite (Work.yields_bind _ fun data => succeeds_createRule _ _ data)
      (succeeds_found _)
  | rule id =>
    exact Work.yields_ite (succeeds_deleteRule _ id)
      (Work.yields_bind _ fun data => succeeds_updateRule _ id data)
  | validate => exact succeeds_validate _
  | route => exact Work.yields_bind _ fun form => succeeds_route _ form
  | manual => exact Work.yields_pure rfl

/-- **Only refusals are answered with something other than a success.** -/
theorem succeeds_dispatch (fresh : Stamp) (request : Request) :
    Succeeds (dispatch fresh request) := by
  unfold dispatch
  simp only
  split
  · exact Work.yields_ite (succeeds_handle _ _ _) (Work.yields_throw _)
  · exact Work.yields_throw _

theorem isSuccess_mark (settings : ServerSettings) (request : Request) (response : Response) :
    (CrossOrigin.mark settings request response).isSuccess = response.isSuccess := by
  unfold CrossOrigin.mark
  split <;> rfl

/-- **A response that is no success keeps the store.** -/
theorem respond_keeps {server : Server} {request : Request}
    (h : (server.respond request).1.isSuccess = false) :
    (server.respond request).2.store = server.store := by
  unfold respond at h ⊢
  split
  · rfl
  · rename_i hasks
    simp only [hasks, isSuccess_mark] at h
    cases hrun : (dispatch server.stamp request).run server.store with
    | ok response worked =>
      rw [Work.session_of_ok hrun] at h
      exact absurd (succeeds_dispatch _ _ _ _ _ hrun) (Bool.eq_false_iff.mp h)
    | error refusal worked => simp only [Work.session_of_error hrun]

end Server

/-! ## What is undone -/

/-- Work on a store ends with that one, whether it succeeds or not. -/
def Work.Ends {ε α : Type} (work : Work ε α) (store worked : Store) : Prop :=
  (∃ a, work.run store = .ok a worked) ∨ ∃ fault, work.run store = .error fault worked

namespace Operation

variable {α : Type} {data : Data} {store worked : Store} {fault : StoreFault}

/-- A row that could not be made was made first, or was not, but not at another time. -/
theorem ends_of_making {fresh : Stamp} {make : Stamp → Work StoreFault α}
    (hgiven : data.givenTime.isOk = true)
    (h : (making fresh data make).run store = .error fault worked) :
    ∃ time, (make { fresh with time }).Ends store worked := by
  unfold making at h
  cases htime : data.givenTime with
  | error fault => rw [htime] at hgiven; cases hgiven
  | ok given =>
    refine ⟨given.getD fresh.time, ?_⟩
    simp only [htime, EStateM.run_bind, Work.run_ofExcept, EStateM.run_pure] at h
    cases hmake : (make { fresh with time := given.getD fresh.time }).run store with
    | error fault middle =>
      rw [hmake] at h
      cases h
      exact .inr ⟨_, hmake⟩
    | ok row middle =>
      rw [hmake] at h
      cases hcontent : data.checkContent <;> simp only [hcontent] at h <;> cases h
      exact .inl ⟨_, hmake⟩

/-- So was a row that could not be changed. -/
theorem ends_of_changing {change : Work StoreFault (Option α)}
    (h : (changing data change).run store = .error fault worked) : change.Ends store worked := by
  unfold changing at h
  rw [EStateM.run_bind] at h
  cases hchange : change.run store with
  | error fault middle =>
    rw [hchange] at h
    cases h
    exact .inr ⟨_, hchange⟩
  | ok result middle =>
    rw [hchange] at h
    cases result with
    | none => cases h
    | some row =>
      simp only [EStateM.run_bind, Work.run_ofExcept, EStateM.run_pure] at h
      cases hcontent : data.checkContent <;> simp only [hcontent] at h <;> cases h
      exact .inl ⟨_, hchange⟩

end Operation

open DestinationRow

section Undone

variable {store worked : Store} {shop id : String} {data : Data}

/-- Where a destination is made the default, no other one is, whether it could be made or not. -/
theorem createDestination_clears {fresh : Stamp} (hf : data.flagsDefault = true)
    (h : (Store.createDestination shop fresh data).Ends store worked)
    (hid : Flagged store.destinations shop id) : ¬Flagged worked.destinations shop id := by
  have hcleared : ¬Flagged (store.destinations.map (giveWay data shop none)) shop id := fun hc =>
    (flagged_giveWay.mp hc).2 ⟨hf, rfl, by simp⟩
  have hids := Table.ids_map (giveWay_keeps data shop none store.destinations)
  unfold Work.Ends Store.createDestination at h
  simp only [EStateM.run_bind, Work.run_ofExcept, Store.run_giveWay, EStateM.run_get,
    EStateM.run_modify, EStateM.run_pure, Table.insert_eq] at h
  cases hrow : DestinationRow.ofData shop fresh data with
  | error fault =>
    simp only [hrow] at h
    rcases h with ⟨_, ⟨⟩⟩ | ⟨_, ⟨⟩⟩
    exact hcleared
  | ok row =>
    by_cases hnew : ShopRow.id row ∈ store.destinations.map ShopRow.id
    · simp only [hrow, hids, hnew, if_true] at h
      rcases h with ⟨_, ⟨⟩⟩ | ⟨_, ⟨⟩⟩
      exact hcleared
    · simp only [hrow, hids, hnew, if_false] at h
      rcases h with ⟨_, ⟨⟩⟩ | ⟨_, ⟨⟩⟩
      rw [flagged_append]
      rintro (hc | ⟨-, hrowid, -⟩)
      · exact hcleared hc
      · -- the new row is none of the old ones
        obtain ⟨old, hold, -, holdid, -⟩ := hid
        exact hnew (List.mem_map.mpr ⟨old, hold, holdid.trans hrowid.symm⟩)

/-- Where a destination becomes the default, no other one is, whether it could be changed or not. -/
theorem updateDestination_clears {named : String} {old : DestinationRow}
    (hf : data.flagsDefault = true) (hold : store.destination? shop named = some old)
    (h : (Store.updateDestination shop named data).Ends store worked) (hne : id ≠ named) :
    ¬Flagged worked.destinations shop id := by
  have hcleared : ¬Flagged (store.destinations.map (giveWay data shop (some named))) shop id :=
    fun hc => (flagged_giveWay.mp hc).2 ⟨hf, rfl, fun he => hne (Option.some.inj he).symm⟩
  unfold Work.Ends Store.updateDestination at h
  simp only [EStateM.run_bind, EStateM.run_get, hold, Work.run_ofExcept, Store.run_giveWay,
    EStateM.run_modify, EStateM.run_pure] at h
  cases hrow : old.patch data with
  | error fault =>
    simp only [hrow] at h
    rcases h with ⟨_, ⟨⟩⟩ | ⟨_, ⟨⟩⟩
    exact hcleared
  | ok row =>
    simp only [hrow] at h
    rcases h with ⟨_, ⟨⟩⟩ | ⟨_, ⟨⟩⟩
    obtain ⟨hm, holdid, hshop⟩ := Table.find?_some hold
    have hrowid : row.id = old.id := congrArg Prod.fst (patch_ok hrow).1
    have hstands := mem_map_giveWay_kept data hm
      (by rw [Table.key, holdid, hshop] : Table.key old = (named, shop))
    rw [flagged_replace hstands hrowid]
    rintro (⟨-, he, -⟩ | ⟨hc, -⟩)
    · exact hne (he.symm.trans (hrowid.trans holdid))
    · exact hcleared hc

end Undone

/-- **Failures keep the store.** A session that fails leaves the store as it was, and so does a
request that is not answered with a success. In particular, if a default destination is made or
changed and that fails when the flag of another one is cleared already, that one has its flag
still. -/
theorem failure_keeps :
    (∀ (database : Database) (session : Session),
        (database.step session).1.fault?.isSome = true →
          (database.step session).2.store = database.store) ∧
      (∀ (server : Server) (request : Request),
        (server.respond request).1.isSuccess = false →
          (server.respond request).2.store = server.store) ∧
      (∀ (store worked : Store) (shop : String) (fresh : Stamp) (id : String) (data : Data)
          (fault : StoreFault),
        data.flagsDefault = true → data.givenTime.isOk = true →
          (Operation.making fresh data fun fresh => Store.createDestination shop fresh data).run
              store = .error fault worked →
            Flagged store.destinations shop id →
              ¬Flagged worked.destinations shop id ∧
                ((Operation.createDestination shop data).perform fresh store) =
                  (.error (.store fault), store)) ∧
      ∀ (store worked : Store) (shop : String) (fresh : Stamp) (named id : String) (data : Data)
          (fault : StoreFault),
        data.flagsDefault = true →
          (Operation.changing data (Store.updateDestination shop named data)).run store =
              .error fault worked →
            Flagged store.destinations shop id → id ≠ named →
              ¬Flagged worked.destinations shop id ∧
                ((Operation.updateDestination shop named data).perform fresh store) =
                  (.error (.store fault), store) := by
  refine ⟨fun _ _ => Database.step_keeps, fun _ _ => Server.respond_keeps, ?_, ?_⟩
  · intro store worked shop fresh id data fault hf hgiven h hid
    obtain ⟨time, hends⟩ := Operation.ends_of_making hgiven h
    refine ⟨createDestination_clears hf hends hid, ?_⟩
    rw [Operation.perform, Operation.run, Operation.session_writing, Work.session_of_error h]
  · intro store worked shop fresh named id data fault hf h _ hne
    constructor
    · cases hold : store.destination? shop named with
      | some old => exact updateDestination_clears hf hold (Operation.ends_of_changing h) hne
      | none =>
        -- there is nothing to change, so nothing fails
        have hnone := Store.session_updateDestination store shop named data
        have hfails := Work.session_of_error h
        rw [Operation.session_changing, hnone, hold] at hfails
        cases hfails
    · rw [Operation.perform, Operation.run, Operation.session_writing, Work.session_of_error h]

/-- A store with two destinations, the first of which is the default. -/
def twoPlaces : Store :=
  Store.after {} [⟨.named "", .createDestination "acme" (.ofPlace "d1" true)⟩,
    ⟨.named "", .createDestination "acme" (.ofPlace "d2" false)⟩]

/-- Some failures: an identifier is given twice, a destination is unknown, and a change of the
default takes away a name. -/
theorem failure_keeps_twoPlaces :
    let cleared : Store := { destinations := clearDefault twoPlaces.destinations "acme" none }
    let nameless : Data := [("name", .null), ("is_default", .flag true)]
    (Database.step { store := some twoPlaces }
        (.single (.createDestination "acme" (.ofPlace "d2" true)))).2.store = some twoPlaces ∧
      (Server.respond { store := twoPlaces }
        { method := "DELETE", target := "/api/routing/destinations/d1" }).2.store = twoPlaces ∧
      (¬Flagged cleared.destinations "acme" "d1" ∧
        (Operation.createDestination "acme" (.ofPlace "d2" true)).perform (.named "") twoPlaces =
          (.error (.store (.repeatedId .destinations)), twoPlaces)) ∧
      ¬Flagged cleared.destinations "acme" "d1" ∧
        (Operation.updateDestination "acme" "d2" nameless).perform (.named "") twoPlaces =
          (.error (.store (.notFilled .destinations "name")), twoPlaces) :=
  have hdefault : Flagged twoPlaces.destinations "acme" "d1" :=
    ⟨_, List.mem_cons_self, rfl, rfl, rfl⟩
  ⟨failure_keeps.1 _ _ (by decide +kernel), failure_keeps.2.1 _ _ (by decide +kernel),
    failure_keeps.2.2.1 _ _ _ _ _ _ _ (by decide +kernel) (by decide +kernel) rfl hdefault,
    failure_keeps.2.2.2 _ _ _ _ "d2" _ _ _ (by decide +kernel) rfl hdefault (by decide)⟩

end Disposition
