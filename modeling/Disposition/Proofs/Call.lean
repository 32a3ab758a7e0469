import Disposition.Proofs.Admission
import Disposition.Proofs.Atomicity

/-!
# What a request does to the store

A request that is to make, change or delete something either writes one row, from data that passed
its form, or is refused and leaves the store as it was. Any other request only looks. A call is a
request with the identifier and the time that are issued for it, so that a run of calls says all
that a run of a server depends on.

Results:
* `Request.Asks.isBounded`: the data of requests is within bounds.
* `Server.dispatch_of_writes`, `Server.dispatch_of_not_writes`: what becomes of a request.
* `Server.answer_cases`: what a call does to the store, and what its response is.
* `Server.Wrote.destination_cases`, `Server.Wrote.rule_cases`: where the rows after it come from.
* `Server.run_eq`: the requests to a server are calls.
* `Server.stores_invariant`: what every write keeps, every run of calls keeps.
* `Server.reachable_stores`: calls lead to reachable stores only.
-/

namespace Disposition

namespace Server

open DestinationRow (giveWay)

section Equations

variable (store : Store) (shop id : String) (fresh : Stamp) (data : Data)

/-- A row that the database makes, and what it is answered with. -/
theorem session_stored {α : Type} (work : Work StoreFault α) :
    (stored work).session store =
      ((work.session store).1.mapError fun _ => .failure, (work.session store).2) :=
  Work.session_adaptExcept _ work store

theorem session_createDestination :
    (createDestination shop fresh data).session store =
      match Table.accept .destinations store.destinations
        (DestinationRow.ofData shop fresh data) with
      | .ok row =>
        (.ok (.ofData 201 row.toValue []),
          { store with destinations := store.destinations.map (giveWay data shop none) ++ [row] })
      | .error _ => (.error .failure, store) := by
  rw [createDestination, Work.session_bind, session_stored, Store.session_createDestination]
  generalize Table.accept .destinations store.destinations _ = taken
  cases taken <;> rfl

theorem session_updateDestination :
    (updateDestination shop id data).session store =
      match store.destination? shop id with
      | none => (.error .noDestination, store)
      | some row =>
        match row.patch data with
        | .ok after =>
          (.ok (.ofData 200 after.toValue []),
            { store with
              destinations :=
                Table.replace (store.destinations.map (giveWay data shop (some id))) after })
        | .error _ => (.error .failure, store) := by
  rw [updateDestination, Work.session_bind, session_stored, Store.session_updateDestination]
  cases store.destination? shop id with
  | none => rfl
  | some row =>
    dsimp only
    cases row.patch data <;> rfl

theorem session_deleteDestination :
    (deleteDestination shop id).session store =
      if (store.destination? shop id).isSome then
        (.ok { status := 204, body := .empty },
          { store with destinations := Table.erase store.destinations shop id })
      else (.error .noDestination, store) := by
  rw [deleteDestination, Work.session_bind, Store.session_deleteDestination]
  cases store.destination? shop id <;> rfl

theorem session_createRule :
    (createRule shop fresh data).session store =
      match namedDestination? store shop data with
      | none => (.error .unknownDestination, store)
      | some destination =>
        match Table.accept .rules store.rules (RuleRow.ofData shop fresh data) with
        | .ok row =>
          (.ok (.ofData 201 (row.toValue (some destination.name)) []),
            { store with rules := store.rules ++ [row] })
        | .error _ => (.error .failure, store) := by
  rw [createRule, Work.session_get_bind]
  cases namedDestination? store shop data with
  | none => rfl
  | some destination =>
    dsimp only
    rw [Work.session_bind, session_stored, Store.session_createRule]
    generalize Table.accept .rules store.rules _ = taken
    cases taken <;> rfl

theorem session_updateRule :
    (updateRule shop id data).session store =
      if namesUnknown store shop data then (.error .unknownDestination, store)
      else
        match store.rule? shop id with
        | none => (.error .noRule, store)
        | some row =>
          match row.patch data with
          | .ok after =>
            (.ok (.ofData 200 (after.toValue
                ((store.destination? shop after.destinationId).map (·.name))) []),
              { store with rules := Table.replace store.rules after })
          | .error _ => (.error .failure, store) := by
  rw [updateRule, Work.session_get_bind]
  cases namesUnknown store shop data with
  | true => rfl
  | false =>
    simp only [Bool.false_eq_true, if_false]
    rw [Work.session_bind, session_stored, Store.session_updateRule]
    cases store.rule? shop id with
    | none => rfl
    | some row =>
      dsimp only
      cases row.patch data <;> rfl

theorem session_deleteRule :
    (deleteRule shop id).session store =
      if (store.rule? shop id).isSome then
        (.ok { status := 204, body := .empty },
          { store with rules := Table.erase store.rules shop id })
      else (.error .noRule, store) := by
  rw [deleteRule, Work.session_bind, Store.session_deleteRule]
  cases store.rule? shop id <;> rfl

end Equations

end Server

/-! ## What a request asks for -/

namespace Endpoint

/-- A method of an endpoint that makes, changes or deletes something. -/
def writes : Endpoint → String → Bool
  | destinations, method | rules, method => method = "POST"
  | destination _, method | rule _, method => method = "PATCH" || method = "DELETE"
  | _, _ => false

end Endpoint

namespace Request

/-- The endpoint of a request. -/
def endpoint? (request : Request) : Option Endpoint :=
  Endpoint.ofPath? (Endpoint.pathOf request.target)

/-- The request is to make, change or delete something. -/
def writes (request : Request) : Bool :=
  request.endpoint?.any (·.writes request.method)

theorem writes_iff {request : Request} :
    request.writes = true ↔
      ∃ endpoint, request.endpoint? = some endpoint ∧ endpoint.writes request.method = true := by
  unfold writes
  cases request.endpoint? <;> simp

/-- The operation that a request asks for, with the data that its form makes of the body. -/
inductive Asks (request : Request) : Operation → Prop
  /-- To make a destination. -/
  | createDestination {data : Data} (hplace : request.endpoint? = some .destinations)
      (hmethod : request.method = "POST")
      (hdata : request.checked Form.newDestination.read = .ok data) :
      Asks request (.createDestination request.shop data)
  /-- To change a destination. -/
  | updateDestination {id : String} {data : Data}
      (hplace : request.endpoint? = some (.destination id)) (hmethod : request.method = "PATCH")
      (hdata : request.checked Form.changedDestination.read = .ok data) :
      Asks request (.updateDestination request.shop id data)
  /-- To delete a destination. -/
  | deleteDestination {id : String} (hplace : request.endpoint? = some (.destination id))
      (hmethod : request.method = "DELETE") : Asks request (.deleteDestination request.shop id)
  /-- To make a rule. -/
  | createRule {data : Data} (hplace : request.endpoint? = some .rules)
      (hmethod : request.method = "POST") (hdata : request.checked Form.newRule.read = .ok data) :
      Asks request (.createRule request.shop data)
  /-- To change a rule. -/
  | updateRule {id : String} {data : Data} (hplace : request.endpoint? = some (.rule id))
      (hmethod : request.method = "PATCH")
      (hdata : request.checked Form.changedRule.read = .ok data) :
      Asks request (.updateRule request.shop id data)
  /-- To delete a rule. -/
  | deleteRule {id : String} (hplace : request.endpoint? = some (.rule id))
      (hmethod : request.method = "DELETE") : Asks request (.deleteRule request.shop id)

theorem Asks.writes {request : Request} {operation : Operation} (h : request.Asks operation) :
    request.writes = true := by
  cases h with
  | createDestination hplace hmethod | createRule hplace hmethod =>
    exact writes_iff.mpr ⟨_, hplace, decide_eq_true hmethod⟩
  | updateDestination hplace hmethod | updateRule hplace hmethod
  | deleteDestination hplace hmethod | deleteRule hplace hmethod =>
    refine writes_iff.mpr ⟨_, hplace, ?_⟩
    rw [hmethod]
    rfl

/-- The data of a body passes the form. -/
theorem read_of_checked {request : Request} {form : Form} {data : Data}
    (h : request.checked form.read = .ok data) : ∃ body, form.read body = .ok data := by
  obtain ⟨body, -, h⟩ := bind_eq_ok_iff.mp h
  exact ⟨body, mapError_eq_ok_iff.mp h⟩

end Request

/-- The data of an operation is within the bounds of its table, and gives a new row all of its
columns. -/
def Operation.IsBounded : Operation → Prop
  | createDestination _ data => data.Fits .destinations ∧ data.IsComplete .destinations
  | updateDestination _ _ data => data.Fits .destinations
  | createRule _ data => data.Fits .rules ∧ data.IsComplete .rules
  | updateRule _ _ data => data.Fits .rules
  | _ => True

/-- **Requests ask for operations with data within bounds only.** -/
theorem Request.Asks.isBounded {request : Request} {operation : Operation}
    (h : request.Asks operation) : operation.IsBounded := by
  cases h with
  | createDestination _ _ hdata =>
    obtain ⟨body, hread⟩ := read_of_checked hdata
    exact ⟨Form.fits_of_read Form.newDestination_keeps hread,
      Form.isComplete_of_read Form.newDestination_keeps (by decide) hread⟩
  | updateDestination _ _ hdata =>
    obtain ⟨body, hread⟩ := read_of_checked hdata
    exact Form.fits_of_read Form.changedDestination_keeps hread
  | createRule _ _ hdata =>
    obtain ⟨body, hread⟩ := read_of_checked hdata
    exact ⟨Form.fits_of_read Form.newRule_keeps hread,
      Form.isComplete_of_read Form.newRule_keeps (by decide) hread⟩
  | updateRule _ _ hdata =>
    obtain ⟨body, hread⟩ := read_of_checked hdata
    exact Form.fits_of_read Form.changedRule_keeps hread
  | deleteDestination | deleteRule => trivial

namespace Server

open DestinationRow (giveWay)

/-! ## Requests that write -/

section Dispatch

variable {fresh : Stamp} {request : Request} {store : Store}

theorem session_dispatch {endpoint : Endpoint} (hplace : request.endpoint? = some endpoint) :
    (dispatch fresh request).session store =
      if endpoint.allows request.method then (handle fresh request endpoint).session store
      else (.error .noMethod, store) := by
  unfold Request.endpoint? at hplace
  unfold dispatch
  simp only [hplace]
  split <;> rfl

/-- A request whose handler needs the data of the body first. -/
theorem session_checked {endpoint : Endpoint} (hplace : request.endpoint? = some endpoint)
    (hallows : endpoint.allows request.method = true) {form : Form} {next : Data → Handled}
    (hhandle : handle fresh request endpoint =
      (do next (← ofExcept (request.checked form.read)) : Handled)) :
    (dispatch fresh request).session store =
      match request.checked form.read with
      | .ok data => (next data).session store
      | .error refusal => (.error refusal, store) := by
  rw [session_dispatch hplace, if_pos hallows, hhandle]
  cases request.checked form.read <;> rfl

/-- A request whose handler needs no body. -/
theorem session_bare {endpoint : Endpoint} (hplace : request.endpoint? = some endpoint)
    (hallows : endpoint.allows request.method = true) {work : Handled}
    (hhandle : handle fresh request endpoint = work) :
    (dispatch fresh request).session store = work.session store := by
  rw [session_dispatch hplace, if_pos hallows, hhandle]

theorem session_postDestination (hplace : request.endpoint? = some .destinations)
    (hmethod : request.method = "POST") :
    (dispatch fresh request).session store =
      match request.checked Form.newDestination.read with
      | .ok data => (createDestination request.shop fresh data).session store
      | .error refusal => (.error refusal, store) := by
  refine session_checked hplace (by rw [hmethod]; rfl) ?_
  unfold handle
  simp only [hmethod, if_true]

theorem session_patchDestination {id : String} (hplace : request.endpoint? = some (.destination id))
    (hmethod : request.method = "PATCH") :
    (dispatch fresh request).session store =
      match request.checked Form.changedDestination.read with
      | .ok data => (updateDestination request.shop id data).session store
      | .error refusal => (.error refusal, store) := by
  refine session_checked hplace (by rw [hmethod]; rfl) ?_
  unfold handle
  simp only [hmethod]
  rfl

theorem session_deletedDestination {id : String}
    (hplace : request.endpoint? = some (.destination id)) (hmethod : request.method = "DELETE") :
    (dispatch fresh request).session store = (deleteDestination request.shop id).session store := by
  refine session_bare hplace (by rw [hmethod]; rfl) ?_
  unfold handle
  simp only [hmethod, if_true]

theorem session_postRule (hplace : request.endpoint? = some .rules)
    (hmethod : request.method = "POST") :
    (dispatch fresh request).session store =
      match request.checked Form.newRule.read with
      | .ok data => (createRule request.shop fresh data).session store
      | .error refusal => (.error refusal, store) := by
  refine session_checked hplace (by rw [hmethod]; rfl) ?_
  unfold handle
  simp only [hmethod, if_true]

theorem session_patchRule {id : String} (hplace : request.endpoint? = some (.rule id))
    (hmethod : request.method = "PATCH") :
    (dispatch fresh request).session store =
      match request.checked Form.changedRule.read with
      | .ok data => (updateRule request.shop id data).session store
      | .error refusal => (.error refusal, store) := by
  refine session_checked hplace (by rw [hmethod]; rfl) ?_
  unfold handle
  simp only [hmethod]
  rfl

theorem session_deletedRule {id : String} (hplace : request.endpoint? = some (.rule id))
    (hmethod : request.method = "DELETE") :
    (dispatch fresh request).session store = (deleteRule request.shop id).session store := by
  refine session_bare hplace (by rw [hmethod]; rfl) ?_
  unfold handle
  simp only [hmethod, if_true]

end Dispatch

/-- **The destination that is fetched for a new rule is the one that the rule names**, so that its
name is the one that a later look-up gives. -/
theorem destination?_of_named {store : Store} {shop : String} {data : Data}
    {destination : DestinationRow} {row : RuleRow}
    (hnamed : namedDestination? store shop data = some destination) (h : row.FilledBy data) :
    store.destination? shop row.destinationId = some destination := by
  have hfills := h.destinationId
  unfold Data.Fills at hfills
  unfold namedDestination? at hnamed
  split at hfills
  · cases hfills
  · rwa [hfills, Option.bind_some] at hnamed

/-- A request that writes, its response, and the store after it. -/
inductive Wrote (fresh : Stamp) (request : Request) (store : Store) : Response → Store → Prop
  /-- A destination was made. -/
  | madeDestination {data : Data} {row : DestinationRow}
      (hasks : request.Asks (.createDestination request.shop data))
      (hrow : DestinationRow.ofData request.shop fresh data = .ok row)
      (hnew : ShopRow.id row ∉ store.destinations.map ShopRow.id) :
      Wrote fresh request store (.ofData 201 row.toValue [])
        { store with
          destinations := store.destinations.map (giveWay data request.shop none) ++ [row] }
  /-- A destination was changed. -/
  | changedDestination {id : String} {data : Data} {old row : DestinationRow}
      (hasks : request.Asks (.updateDestination request.shop id data))
      (hold : store.destination? request.shop id = some old) (hrow : old.patch data = .ok row) :
      Wrote fresh request store (.ofData 200 row.toValue [])
        { store with
          destinations :=
            Table.replace (store.destinations.map (giveWay data request.shop (some id))) row }
  /-- A destination was deleted. -/
  | deletedDestination {id : String} {old : DestinationRow}
      (hasks : request.Asks (.deleteDestination request.shop id))
      (hold : store.destination? request.shop id = some old) :
      Wrote fresh request store { status := 204, body := .empty }
        { store with destinations := Table.erase store.destinations request.shop id }
  /-- A rule was made. -/
  | madeRule {data : Data} {destination : DestinationRow} {row : RuleRow}
      (hasks : request.Asks (.createRule request.shop data))
      (hnamed : namedDestination? store request.shop data = some destination)
      (hrow : RuleRow.ofData request.shop fresh data = .ok row)
      (hnew : ShopRow.id row ∉ store.rules.map ShopRow.id) :
      Wrote fresh request store (.ofData 201 (row.toValue (some destination.name)) [])
        { store with rules := store.rules ++ [row] }
  /-- A rule was changed. -/
  | changedRule {id : String} {data : Data} {old row : RuleRow}
      (hasks : request.Asks (.updateRule request.shop id data))
      (hknown : namesUnknown store request.shop data = false)
      (hold : store.rule? request.shop id = some old) (hrow : old.patch data = .ok row) :
      Wrote fresh request store
        (.ofData 200 (row.toValue
          ((store.destination? request.shop row.destinationId).map (·.name))) [])
        { store with rules := Table.replace store.rules row }
  /-- A rule was deleted. -/
  | deletedRule {id : String} {old : RuleRow}
      (hasks : request.Asks (.deleteRule request.shop id))
      (hold : store.rule? request.shop id = some old) :
      Wrote fresh request store { status := 204, body := .empty }
        { store with rules := Table.erase store.rules request.shop id }

section Cases

variable (fresh : Stamp) (request : Request) (store : Store)

/-- What can come of a request that is to write: it wrote, or it was refused and left the store. -/
def WroteOrRefused (worked : Except Refusal Response × Store) : Prop :=
  (∃ response, worked.1 = .ok response ∧ Wrote fresh request store response worked.2) ∨
    ∃ refusal, worked = (.error refusal, store)

variable {fresh request store}

theorem postDestination_cases (hplace : request.endpoint? = some .destinations)
    (hmethod : request.method = "POST") :
    WroteOrRefused fresh request store ((dispatch fresh request).session store) := by
  rw [session_postDestination hplace hmethod]
  cases hdata : request.checked Form.newDestination.read with
  | error refusal => exact .inr ⟨refusal, rfl⟩
  | ok data =>
    simp only [session_createDestination]
    cases hrow : Table.accept .destinations store.destinations _ with
    | error fault => exact .inr ⟨_, rfl⟩
    | ok row =>
      obtain ⟨hmade, hnew⟩ := Table.accept_ok hrow
      exact .inl ⟨_, rfl, .madeDestination (.createDestination hplace hmethod hdata) hmade hnew⟩

theorem patchDestination_cases {id : String} (hplace : request.endpoint? = some (.destination id))
    (hmethod : request.method = "PATCH") :
    WroteOrRefused fresh request store ((dispatch fresh request).session store) := by
  rw [session_patchDestination hplace hmethod]
  cases hdata : request.checked Form.changedDestination.read with
  | error refusal => exact .inr ⟨refusal, rfl⟩
  | ok data =>
    simp only [session_updateDestination]
    cases hold : store.destination? request.shop id with
    | none => exact .inr ⟨_, rfl⟩
    | some old =>
      simp only
      cases hrow : old.patch data with
      | error fault => exact .inr ⟨_, rfl⟩
      | ok row =>
        exact .inl ⟨_, rfl, .changedDestination (.updateDestination hplace hmethod hdata) hold
          hrow⟩

theorem deleteDestination_cases {id : String} (hplace : request.endpoint? = some (.destination id))
    (hmethod : request.method = "DELETE") :
    WroteOrRefused fresh request store ((dispatch fresh request).session store) := by
  rw [session_deletedDestination hplace hmethod, session_deleteDestination]
  cases hold : store.destination? request.shop id with
  | none => exact .inr ⟨_, rfl⟩
  | some old =>
    exact .inl ⟨_, rfl, .deletedDestination (.deleteDestination hplace hmethod) hold⟩

theorem postRule_cases (hplace : request.endpoint? = some .rules)
    (hmethod : request.method = "POST") :
    WroteOrRefused fresh request store ((dispatch fresh request).session store) := by
  rw [session_postRule hplace hmethod]
  cases hdata : request.checked Form.newRule.read with
  | error refusal => exact .inr ⟨refusal, rfl⟩
  | ok data =>
    simp only [session_createRule]
    cases hnamed : namedDestination? store request.shop data with
    | none => exact .inr ⟨_, rfl⟩
    | some destination =>
      simp only
      cases hrow : Table.accept .rules store.rules _ with
      | error fault => exact .inr ⟨_, rfl⟩
      | ok row =>
        obtain ⟨hmade, hnew⟩ := Table.accept_ok hrow
        exact .inl ⟨_, rfl, .madeRule (.createRule hplace hmethod hdata) hnamed hmade hnew⟩

theorem patchRule_cases {id : String} (hplace : request.endpoint? = some (.rule id))
    (hmethod : request.method = "PATCH") :
    WroteOrRefused fresh request store ((dispatch fresh request).session store) := by
  rw [session_patchRule hplace hmethod]
  cases hdata : request.checked Form.changedRule.read with
  | error refusal => exact .inr ⟨refusal, rfl⟩
  | ok data =>
    simp only [session_updateRule]
    cases hknown : namesUnknown store request.shop data with
    | true => exact .inr ⟨_, rfl⟩
    | false =>
      simp only [Bool.false_eq_true, if_false]
      cases hold : store.rule? request.shop id with
      | none => exact .inr ⟨_, rfl⟩
      | some old =>
        simp only
        cases hrow : old.patch data with
        | error fault => exact .inr ⟨_, rfl⟩
        | ok row =>
          exact .inl ⟨_, rfl, .changedRule (.updateRule hplace hmethod hdata) hknown hold hrow⟩

theorem deleteRule_cases {id : String} (hplace : request.endpoint? = some (.rule id))
    (hmethod : request.method = "DELETE") :
    WroteOrRefused fresh request store ((dispatch fresh request).session store) := by
  rw [session_deletedRule hplace hmethod, session_deleteRule]
  cases hold : store.rule? request.shop id with
  | none => exact .inr ⟨_, rfl⟩
  | some old => exact .inl ⟨_, rfl, .deletedRule (.deleteRule hplace hmethod) hold⟩

/-- **What a request that is to write does**: it writes one row, or it is refused. -/
theorem dispatch_of_writes (h : request.writes = true) :
    WroteOrRefused fresh request store ((dispatch fresh request).session store) := by
  obtain ⟨endpoint, hplace, hwrites⟩ := Request.writes_iff.mp h
  cases endpoint with
  | destinations => exact postDestination_cases hplace (of_decide_eq_true hwrites)
  | rules => exact postRule_cases hplace (of_decide_eq_true hwrites)
  | destination id =>
    rcases Bool.or_eq_true _ _ ▸ hwrites with hmethod | hmethod
    · exact patchDestination_cases hplace (of_decide_eq_true hmethod)
    · exact deleteDestination_cases hplace (of_decide_eq_true hmethod)
  | rule id =>
    rcases Bool.or_eq_true _ _ ▸ hwrites with hmethod | hmethod
    · exact patchRule_cases hplace (of_decide_eq_true hmethod)
    · exact deleteRule_cases hplace (of_decide_eq_true hmethod)
  | about | health | validate | route | manual => cases hwrites

theorem session_route (shop : String) (form : RouteForm) :
    ((route shop form).session store).2 = store := by
  rw [route, Work.session_get_bind]
  cases store.route shop form.context form.requestId <;> rfl

theorem session_validate (shop : String) : ((validate shop).session store).2 = store := by
  rw [validate, Work.session_get_bind]
  cases store.validate shop <;> rfl

/-- A method of an endpoint that does not write keeps the store. -/
theorem handle_of_not_writes {endpoint : Endpoint} (hallows : endpoint.allows request.method = true)
    (h : endpoint.writes request.method = false) :
    ((handle fresh request endpoint).session store).2 = store := by
  unfold handle
  cases endpoint with
  | about | health | manual => rfl
  | validate => exact session_validate request.shop
  | destinations | rules =>
    simp only [if_neg (of_decide_eq_false h)]
    rfl
  | destination id | rule id =>
    -- an endpoint of one row has no other methods
    have hmem : request.method ∈ ["PATCH", "DELETE"] := List.contains_iff_mem.mp hallows
    simp only [Endpoint.writes, Bool.or_eq_false_iff, decide_eq_false_iff_not] at h
    simp [h.1, h.2] at hmem
  | route =>
    simp only
    rw [Work.session_ofExcept_bind]
    cases request.checked RouteForm.read with
    | error refusal => rfl
    | ok form => exact session_route request.shop form

/-- **A request that is not to write keeps the store.** -/
theorem dispatch_of_not_writes (h : request.writes = false) :
    ((dispatch fresh request).session store).2 = store := by
  cases hplace : request.endpoint? with
  | none =>
    unfold Request.endpoint? at hplace
    unfold dispatch
    simp only [hplace]
    rfl
  | some endpoint =>
    rw [session_dispatch hplace]
    rw [Request.writes, hplace] at h
    split
    · rename_i hallows
      exact handle_of_not_writes hallows h
    · rfl

end Cases

end Server

/-! ## Calls -/

/-- A request, and what is issued for it in case that it makes a row. -/
structure Call where
  /-- The identifier and the time. -/
  fresh : Stamp
  /-- The request. -/
  request : Request

/-- A call with its response. -/
structure Exchange extends Call where
  /-- The response. -/
  response : Response

namespace Server

/-- The response to a call on a store, and the store after it. -/
def answer (settings : ServerSettings) (store : Store) (call : Call) : Response × Store :=
  match CrossOrigin.preflight? settings call.request with
  | some response => (response, store)
  | none =>
    let (result, after) := (dispatch call.fresh call.request).session store
    let response :=
      match result with
      | .ok response => response
      | .error refusal => refusal.response
    (CrossOrigin.mark settings call.request response, after)

/-- The store after some calls. -/
def stores (settings : ServerSettings) (store : Store) : List Call → Store
  | [] => store
  | call :: calls => stores settings (answer settings store call).2 calls

/-- Some calls with their responses, one after the other. -/
def exchanges (settings : ServerSettings) (store : Store) : List Call → List Exchange
  | [] => []
  | call :: calls =>
    { call with response := (answer settings store call).1 } ::
      exchanges settings (answer settings store call).2 calls

variable {settings : ServerSettings} {store : Store}

theorem stores_append (first second : List Call) :
    stores settings store (first ++ second) =
      stores settings (stores settings store first) second := by
  induction first generalizing store with
  | nil => rfl
  | cons call first ih => exact ih

theorem exchanges_append (first second : List Call) :
    exchanges settings store (first ++ second) =
      exchanges settings store first ++
        exchanges settings (stores settings store first) second := by
  induction first generalizing store with
  | nil => rfl
  | cons call first ih => exact congrArg (_ :: ·) ih

/-- A request to a server is a call, for which the server issues what it does next. -/
theorem respond_eq (server : Server) (request : Request) :
    (server.respond request).1 =
        (answer server.settings server.store ⟨server.stamp, request⟩).1 ∧
      (server.respond request).2.settings = server.settings ∧
      (server.respond request).2.store =
        (answer server.settings server.store ⟨server.stamp, request⟩).2 := by
  unfold respond answer
  cases CrossOrigin.preflight? server.settings request <;> exact ⟨rfl, rfl, rfl⟩

/-- **The requests to a server are calls.** -/
theorem run_eq (server : Server) (requests : List Request) :
    ∃ calls : List Call, calls.map (·.request) = requests ∧
      (server.run requests).1 =
        (exchanges server.settings server.store calls).map (·.response) ∧
      (server.run requests).2.store = stores server.settings server.store calls := by
  induction requests generalizing server with
  | nil => exact ⟨[], rfl, rfl, rfl⟩
  | cons request requests ih =>
    obtain ⟨hresponse, hsettings, hstore⟩ := respond_eq server request
    obtain ⟨calls, hcalls, hresponses, hlast⟩ := ih (server.respond request).2
    rw [hsettings, hstore] at hresponses hlast
    refine ⟨⟨server.stamp, request⟩ :: calls, congrArg (request :: ·) hcalls, ?_, hlast⟩
    rw [run, exchanges, List.map_cons, ← hresponse, ← hresponses]

/-! ## What a call does -/

theorem mark_status (settings : ServerSettings) (request : Request) (response : Response) :
    (CrossOrigin.mark settings request response).status = response.status := by
  unfold CrossOrigin.mark
  split <;> rfl

theorem mark_body (settings : ServerSettings) (request : Request) (response : Response) :
    (CrossOrigin.mark settings request response).body = response.body := by
  unfold CrossOrigin.mark
  split <;> rfl

theorem isSuccess_refusal (refusal : Refusal) : refusal.response.isSuccess = false := by
  cases refusal with
  | problems problems =>
    rw [Refusal.response, Refusal.report]
    split <;> rfl
  | unreadable | unknownDestination | noDestination | noRule | noEndpoint | moved | noMethod
  | failure => rfl

/-- Only some requests are questions of browsers. -/
theorem preflight?_of_ne {request : Request} (h : request.method ≠ "OPTIONS") :
    CrossOrigin.preflight? settings request = none := by
  unfold CrossOrigin.preflight?
  split
  · exact if_neg h
  · rfl

/-- A request that is to write is none. -/
theorem preflight?_of_writes {request : Request} (h : request.writes = true) :
    CrossOrigin.preflight? settings request = none := by
  obtain ⟨endpoint, -, hwrites⟩ := Request.writes_iff.mp h
  refine preflight?_of_ne ?_
  rintro he
  rw [he] at hwrites
  cases endpoint <;> simp [Endpoint.writes] at hwrites

/-- The response to a request that is to write. -/
theorem answer_of_writes {call : Call} (h : call.request.writes = true) :
    answer settings store call =
      (CrossOrigin.mark settings call.request
        (match ((dispatch call.fresh call.request).session store).1 with
          | .ok response => response
          | .error refusal => refusal.response),
        ((dispatch call.fresh call.request).session store).2) := by
  unfold answer
  rw [preflight?_of_writes h]

/-- A success has a method that its endpoint has. -/
theorem allows_of_isSuccess {call : Call} {endpoint : Endpoint}
    (hplace : call.request.endpoint? = some endpoint) (hmethod : call.request.method ≠ "OPTIONS")
    (hsuccess : (answer settings store call).1.isSuccess = true) :
    endpoint.allows call.request.method = true := by
  by_contra hallows
  unfold answer at hsuccess
  rw [preflight?_of_ne hmethod, session_dispatch hplace, if_neg hallows] at hsuccess
  simp only [isSuccess_mark] at hsuccess
  rw [isSuccess_refusal] at hsuccess
  cases hsuccess

/-- The response to who asks for what is read off the store. -/
theorem answer_found (settings : ServerSettings) (store : Store) {call : Call}
    {endpoint : Endpoint} (read : Store → Value × List Event)
    (hplace : call.request.endpoint? = some endpoint) (hmethod : call.request.method = "GET")
    (hallows : endpoint.allows "GET" = true)
    (hhandle : (handle call.fresh call.request endpoint).session store =
      (found read).session store) :
    (answer settings store call).1.status = 200 ∧
      (answer settings store call).1.body = .data (read store).1 := by
  have hasks : CrossOrigin.preflight? settings call.request = none :=
    preflight?_of_ne (by rw [hmethod]; decide)
  unfold answer
  rw [hasks, session_dispatch hplace, hmethod, if_pos hallows, hhandle]
  simp only
  rw [mark_status, mark_body]
  exact ⟨rfl, rfl⟩

/-- **What a call does**: it writes one row, or it changes nothing, and if it was to write, its
response is no success. -/
theorem answer_cases (settings : ServerSettings) (store : Store) (call : Call) :
    (∃ response, Wrote call.fresh call.request store response (answer settings store call).2 ∧
        (answer settings store call).1 = CrossOrigin.mark settings call.request response) ∨
      (answer settings store call).2 = store ∧
        (call.request.writes = true → (answer settings store call).1.isSuccess = false) := by
  cases hwrites : call.request.writes with
  | false =>
    refine .inr ⟨?_, fun h => absurd h Bool.false_ne_true⟩
    unfold answer
    cases CrossOrigin.preflight? settings call.request with
    | some response => rfl
    | none => exact dispatch_of_not_writes hwrites
  | true =>
    rw [answer_of_writes hwrites]
    rcases dispatch_of_writes hwrites with ⟨response, hok, hwrote⟩ | ⟨refusal, hrefused⟩
    · exact .inl ⟨response, hwrote, by rw [hok]⟩
    · refine .inr ⟨by rw [hrefused], fun _ => ?_⟩
      rw [isSuccess_mark, hrefused]
      exact isSuccess_refusal refusal

/-- A request that writes is an operation. -/
theorem Wrote.performed {fresh : Stamp} {request : Request} {store after : Store}
    {response : Response} (h : Wrote fresh request store response after) :
    ∃ operation, request.Asks operation ∧ (operation.perform fresh store).2 = after := by
  cases h with
  | @madeDestination data row hasks hrow hnew =>
    refine ⟨_, hasks, ?_⟩
    obtain ⟨hfits, -⟩ := hasks.isBounded
    rw [Operation.perform_createDestination, hfits.made, Table.accept_of_new _ hrow hnew]
  | @changedDestination id data old row hasks hold hrow =>
    refine ⟨_, hasks, ?_⟩
    have hfits : data.Fits .destinations := hasks.isBounded
    rw [Operation.perform_updateDestination, hold]
    simp only [hfits.isHarmless.amend, hrow]
  | deletedDestination hasks hold =>
    exact ⟨_, hasks, by rw [Operation.perform_deleteDestination]⟩
  | @madeRule data destination row hasks hnamed hrow hnew =>
    refine ⟨_, hasks, ?_⟩
    obtain ⟨hfits, -⟩ := hasks.isBounded
    rw [Operation.perform_createRule, hfits.made, Table.accept_of_new _ hrow hnew]
  | @changedRule id data old row hasks hknown hold hrow =>
    refine ⟨_, hasks, ?_⟩
    have hfits : data.Fits .rules := hasks.isBounded
    rw [Operation.perform_updateRule, hold]
    simp only [hfits.isHarmless.amend, hrow]
  | deletedRule hasks hold =>
    exact ⟨_, hasks, by rw [Operation.perform_deleteRule]⟩

/-- **Where a destination comes from** that is stored after a write: it was there, and may have lost
the flag, or it was made or changed with data within bounds. -/
theorem Wrote.destination_cases {fresh : Stamp} {request : Request} {store after : Store}
    {response : Response} (h : Wrote fresh request store response after) {row : DestinationRow}
    (hm : row ∈ after.destinations) :
    (∃ old ∈ store.destinations, row = old ∨ row = old.withoutFlag) ∨
      (∃ data, data.Fits .destinations ∧ data.IsComplete .destinations ∧
        DestinationRow.ofData request.shop fresh data = .ok row) ∨
      ∃ old ∈ store.destinations, ∃ data, data.Fits .destinations ∧ old.patch data = .ok row := by
  have hgave : ∀ {data shop kept},
      row ∈ store.destinations.map (DestinationRow.giveWay data shop kept) →
        ∃ old ∈ store.destinations, row = old ∨ row = old.withoutFlag := by
    intro data shop kept hm
    obtain ⟨old, hold, rfl⟩ := List.mem_map.mp hm
    refine ⟨old, hold, ?_⟩
    unfold DestinationRow.giveWay
    split
    · exact .inr rfl
    · exact .inl rfl
  cases h with
  | madeDestination hasks hrow hnew =>
    rcases List.mem_append.mp hm with hm | hm
    · exact .inl (hgave hm)
    · obtain rfl := List.mem_singleton.mp hm
      exact .inr (.inl ⟨_, hasks.isBounded.1, hasks.isBounded.2, hrow⟩)
  | @changedDestination id data old changed hasks hold hrow =>
    have hheld := (Table.find?_some hold).1
    have hkept :=
      DestinationRow.mem_map_giveWay_kept data hheld (Table.key_of_find?_some hold)
    have hsame : changed.id = old.id := congrArg Prod.fst (DestinationRow.patch_ok hrow).1
    rcases (Table.mem_replace hkept hsame).mp hm with rfl | ⟨hother, -⟩
    · exact .inr (.inr ⟨_, hheld, _, hasks.isBounded, hrow⟩)
    · exact .inl (hgave hother)
  | deletedDestination => exact .inl ⟨row, (Table.mem_erase.mp hm).1, .inl rfl⟩
  | madeRule | changedRule | deletedRule => exact .inl ⟨row, hm, .inl rfl⟩

/-- **Where a rule comes from** that is stored after a write: it was there, or it was made or
changed with data within bounds. -/
theorem Wrote.rule_cases {fresh : Stamp} {request : Request} {store after : Store}
    {response : Response} (h : Wrote fresh request store response after) {row : RuleRow}
    (hm : row ∈ after.rules) :
    row ∈ store.rules ∨
      (∃ data, data.Fits .rules ∧ data.IsComplete .rules ∧
        RuleRow.ofData request.shop fresh data = .ok row) ∨
      ∃ old ∈ store.rules, ∃ data, data.Fits .rules ∧ old.patch data = .ok row := by
  cases h with
  | madeDestination | changedDestination | deletedDestination => exact .inl hm
  | madeRule hasks hnamed hrow hnew =>
    rcases List.mem_append.mp hm with hm | hm
    · exact .inl hm
    · obtain rfl := List.mem_singleton.mp hm
      exact .inr (.inl ⟨_, hasks.isBounded.1, hasks.isBounded.2, hrow⟩)
  | changedRule hasks hknown hold hrow =>
    obtain ⟨hheld, -, -⟩ := Table.find?_some hold
    rcases (Table.mem_replace hheld (congrArg Prod.fst (RuleRow.patch_ok hrow).1)).mp hm with
      rfl | ⟨hother, -⟩
    · exact .inr (.inr ⟨_, hheld, _, hasks.isBounded, hrow⟩)
    · exact .inl hother
  | deletedRule => exact .inl (Table.mem_erase.mp hm).1

/-- **What every write keeps, every run of calls keeps.** -/
theorem stores_invariant {P : Store → Prop}
    (hwrote : ∀ {fresh request store response after}, Wrote fresh request store response after →
      P store → P after) (h : P store) (calls : List Call) : P (stores settings store calls) := by
  induction calls generalizing store with
  | nil => exact h
  | cons call calls ih =>
    refine ih ?_
    rcases answer_cases settings store call with ⟨response, hw, -⟩ | ⟨hsame, -⟩
    · exact hwrote hw h
    · rwa [hsame]

/-- **Calls lead to reachable stores only.** -/
theorem reachable_stores (settings : ServerSettings) (hr : store.Reachable) (calls : List Call) :
    (stores settings store calls).Reachable := by
  refine stores_invariant (fun hwrote hr => ?_) hr calls
  obtain ⟨operation, -, rfl⟩ := hwrote.performed
  exact hr.step _ operation

end Server

end Disposition
