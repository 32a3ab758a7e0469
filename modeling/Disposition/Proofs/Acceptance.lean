import Disposition.Json.Printer
import Disposition.Proofs.Call

/-!
# What bodies that pass are answered with

A body that its form lets through has data within the bounds of its table, and the store takes such
data, unless an integer of it takes more than 64 bits. The bound of a priority has no upper end: a
priority that is too large passes the form and fails at the database, which is answered with 500.
That is the only such failure. All else is carried out, or refused because the shop has no such row.

Results:
* `RuleRow.hasWord_of_ofData`, `RuleRow.hasWord_of_patch`: what is stored of a priority is an
  integer of 64 bits.
* `Server.status_postDestination` and so on: the status of each answer.
* `Server.accepted_status`: all of them, after any run of calls.
-/

namespace Disposition

/-! ## Stored priorities -/

namespace RuleRow

/-- The priority is an integer of 64 bits. -/
def HasWord (row : RuleRow) : Prop :=
  ∃ n, row.priority = .integer n ∧ isWord n = true

/-- What data within bounds says of the priority is an integer. -/
theorem integer_of_lookup {data : Data} (h : data.Fits .rules) {cell : Cell}
    (hl : data.lookup "priority" = some cell) : ∃ n, cell = .integer n := by
  have hholds := h.holds (rfl : TableName.rules.bound? "priority" = some .natural) hl
  cases hholds with
  | @natural n _ => exact ⟨n, rfl⟩

theorem isWord_of_lookup {data : Data} (hsmall : data.isOversized = false) {n : Int}
    (hl : data.lookup "priority" = some (.integer n)) : isWord n = true := by
  cases hword : isWord n with
  | true => rfl
  | false =>
    have hlarge : (Cell.integer n).isOversized = true := congrArg not hword
    rw [Data.isOversized_iff.mpr ⟨_, _, mem_of_lookup hl, hlarge⟩] at hsmall
    cases hsmall

theorem hasWord_of_ofData {shop : String} {fresh : Stamp} {data : Data}
    {row : RuleRow} (h : data.Fits .rules) (hall : data.IsComplete .rules)
    (hrow : ofData shop fresh data = .ok row) : row.HasWord := by
  have hsmall : data.isOversized = false := by
    rw [Bool.eq_false_iff]
    intro hlarge
    rw [ofData_of_isOversized h shop fresh hlarge] at hrow
    cases hrow
  obtain ⟨cell, hl⟩ := Option.isSome_iff_exists.mp (hall "priority" (by decide))
  obtain ⟨n, rfl⟩ := integer_of_lookup h hl
  have hfills := (ofData_ok hrow).2.2.2.priority
  rw [Data.Fills, Data.cell, hl] at hfills
  exact ⟨n, (Option.some.inj hfills).symm, isWord_of_lookup hsmall hl⟩

theorem hasWord_of_patch {row after : RuleRow} {data : Data} (h : data.Fits .rules)
    (hword : row.HasWord) (hrow : row.patch data = .ok after) : after.HasWord := by
  obtain ⟨held, hheld, hheldword⟩ := hword
  have hsmall : data.isOversized = false := by
    rw [Bool.eq_false_iff]
    intro hlarge
    rw [patch_of_isOversized h hlarge hheld hheldword] at hrow
    cases hrow
  have hturns := (patch_ok hrow).2.2.priority
  unfold Data.Turns at hturns
  cases hl : data.lookup "priority" with
  | none =>
    simp only [hl] at hturns
    exact ⟨held, hturns.trans hheld, hheldword⟩
  | some cell =>
    simp only [hl] at hturns
    split at hturns
    · exact ⟨held, hturns.trans hheld, hheldword⟩
    · obtain ⟨n, rfl⟩ := integer_of_lookup h hl
      exact ⟨n, (Option.some.inj hturns).symm, isWord_of_lookup hsmall hl⟩

end RuleRow

/-! ## Answers -/

namespace Server

/-- The priorities of all rules are integers of 64 bits. -/
def WordPriorities (store : Store) : Prop :=
  ∀ row ∈ store.rules, row.HasWord

/-- **A write keeps the priorities integers of 64 bits.** -/
theorem Wrote.wordPriorities {fresh : Stamp} {request : Request} {store after : Store}
    {response : Response} (h : Wrote fresh request store response after)
    (hwords : WordPriorities store) : WordPriorities after := by
  intro row hm
  rcases h.rule_cases hm with hm | ⟨data, hfits, hall, hrow⟩ | ⟨old, hold, data, hfits, hrow⟩
  · exact hwords row hm
  · exact RuleRow.hasWord_of_ofData hfits hall hrow
  · exact RuleRow.hasWord_of_patch hfits (hwords old hold) hrow

section Status

variable {settings : ServerSettings} {store : Store} {call : Call} {id : String} {data : Data}

/-- The status of the answer to a request that is to write. -/
theorem status_of_writes (h : call.request.writes = true) :
    (answer settings store call).1.status =
      match ((dispatch call.fresh call.request).session store).1 with
      | .ok response => response.status
      | .error refusal => refusal.response.status := by
  rw [answer_of_writes h, mark_status]
  cases ((dispatch call.fresh call.request).session store).1 <;> rfl

theorem status_postDestination
    (hasks : call.request.Asks (.createDestination call.request.shop data))
    (hnew : call.fresh.id ∉ store.destinations.map ShopRow.id) :
    (answer settings store call).1.status = 201 := by
  obtain ⟨hfits, hall⟩ := hasks.isBounded
  rw [status_of_writes hasks.writes]
  cases hasks with
  | createDestination hplace hmethod hdata =>
    obtain ⟨row, hrow, hid⟩ :=
      DestinationRow.ofData_of_fits hfits hall call.request.shop call.fresh
    rw [session_postDestination hplace hmethod, hdata]
    simp only [session_createDestination]
    rw [Table.accept_of_new _ hrow (by rwa [← hid] at hnew)]
    rfl

theorem status_patchDestination
    (hasks : call.request.Asks (.updateDestination call.request.shop id data)) :
    (answer settings store call).1.status =
      if (store.destination? call.request.shop id).isSome then 200 else 404 := by
  have hfits : data.Fits .destinations := hasks.isBounded
  rw [status_of_writes hasks.writes]
  cases hasks with
  | updateDestination hplace hmethod hdata =>
    rw [session_patchDestination hplace hmethod, hdata]
    simp only [session_updateDestination]
    cases store.destination? call.request.shop id with
    | none => rfl
    | some old =>
      obtain ⟨row, hrow⟩ := DestinationRow.patch_of_fits hfits old
      simp only [hrow]
      rfl

theorem status_postRule (hasks : call.request.Asks (.createRule call.request.shop data))
    (hnew : call.fresh.id ∉ store.rules.map ShopRow.id) :
    (answer settings store call).1.status =
      if (namedDestination? store call.request.shop data).isSome then
        if data.isOversized then 500 else 201
      else 400 := by
  obtain ⟨hfits, hall⟩ := hasks.isBounded
  rw [status_of_writes hasks.writes]
  cases hasks with
  | createRule hplace hmethod hdata =>
    rw [session_postRule hplace hmethod, hdata]
    simp only [session_createRule]
    cases namedDestination? store call.request.shop data with
    | none => rfl
    | some destination =>
      simp only [Option.isSome_some, if_true]
      cases hlarge : data.isOversized with
      | true =>
        rw [RuleRow.ofData_of_isOversized hfits _ _ hlarge]
        rfl
      | false =>
        obtain ⟨row, hrow, hid⟩ :=
          RuleRow.ofData_of_fits hfits call.request.shop call.fresh hall hlarge
        rw [Table.accept_of_new _ hrow (by rwa [← hid] at hnew)]
        rfl

theorem status_patchRule (hwords : WordPriorities store)
    (hasks : call.request.Asks (.updateRule call.request.shop id data)) :
    (answer settings store call).1.status =
      if namesUnknown store call.request.shop data then 400
      else if (store.rule? call.request.shop id).isSome then
        if data.isOversized then 500 else 200
      else 404 := by
  have hfits : data.Fits .rules := hasks.isBounded
  rw [status_of_writes hasks.writes]
  cases hasks with
  | updateRule hplace hmethod hdata =>
    rw [session_patchRule hplace hmethod, hdata]
    simp only [session_updateRule]
    cases namesUnknown store call.request.shop data with
    | true => rfl
    | false =>
      simp only [Bool.false_eq_true, if_false]
      cases hold : store.rule? call.request.shop id with
      | none => rfl
      | some old =>
        simp only [Option.isSome_some, if_true]
        cases hlarge : data.isOversized with
        | true =>
          obtain ⟨n, hn, hword⟩ := hwords old (Table.find?_some hold).1
          rw [RuleRow.patch_of_isOversized hfits hlarge hn hword]
          rfl
        | false =>
          obtain ⟨row, hrow⟩ := RuleRow.patch_of_fits hfits hlarge old
          rw [hrow]
          rfl

end Status

/-- **What accepted bodies are answered with.** After any run of calls, a body that its form lets
through is answered with

* 201 if it makes a destination;
* 200 if it changes a destination that the shop has, else 404;
* 201 if it makes a rule, and 200 if it changes one that the shop has, else 404; but 400 if it names
  a destination that the shop does not have, and otherwise 500 if there is something to write and
  the priority takes more than 64 bits.

New rows get new identifiers. -/
theorem accepted_status (settings : ServerSettings) (calls : List Call) (call : Call) :
    let store := stores settings {} calls
    let shop := call.request.shop
    let status := (answer settings store call).1.status
    (∀ data, call.request.Asks (.createDestination shop data) →
        call.fresh.id ∉ store.destinations.map ShopRow.id → status = 201) ∧
      (∀ id data, call.request.Asks (.updateDestination shop id data) →
        status = if (store.destination? shop id).isSome then 200 else 404) ∧
      (∀ data, call.request.Asks (.createRule shop data) →
        call.fresh.id ∉ store.rules.map ShopRow.id →
          status =
            if (namedDestination? store shop data).isSome then
              if data.isOversized then 500 else 201
            else 400) ∧
      ∀ id data, call.request.Asks (.updateRule shop id data) →
        status =
          if namesUnknown store shop data then 400
          else if (store.rule? shop id).isSome then
            if data.isOversized then 500 else 200
          else 404 :=
  have hwords : WordPriorities (stores settings {} calls) :=
    stores_invariant Wrote.wordPriorities (fun _ hm => absurd hm List.not_mem_nil) calls
  ⟨fun _ hasks hnew => status_postDestination hasks hnew,
    fun _ _ hasks => status_patchDestination hasks,
    fun _ hasks hnew => status_postRule hasks hnew,
    fun _ _ hasks => status_patchRule hwords hasks⟩

/-- A request with data in its body. -/
def sending (method target : String) (members : List (String × Value)) : Request where
  method := method
  target := target
  headers := [("content-type", "application/json")]
  body := some (Json.print (.object members))

/-- A request that makes a destination. -/
def newPlace : Request :=
  sending "POST" "/api/routing/destinations" [("name", .text "Main"),
    ("address_line1", .text "1 Dock Rd"), ("city", .text "Reno"), ("state", .text "NV"),
    ("postal_code", .text "89501")]

/-- A request that makes a rule with a priority. -/
def newRule (priority : Int) : Request :=
  sending "POST" "/api/routing/rules" [("name", .text "Shoes"), ("priority", .int priority),
    ("condition_type", .text "product_type"), ("condition_value", .text "shoes"),
    ("destination_id", .text "d1")]

/-- A request that changes the priority of a rule. -/
def newPriority (priority : Int) : Request :=
  sending "PATCH" "/api/routing/rules/r1" [("priority", .int priority)]

/-- What a form makes of a body, from what it comes to. -/
theorem exists_checked {α : Type} {request : Request} {form : Form} {f : Data → α} {a : α}
    (h : (request.checked form.read).toOption.map f = some a) :
    ∃ data, request.checked form.read = .ok data ∧ f data = a := by
  cases hdata : request.checked form.read with
  | ok data =>
    rw [hdata] at h
    exact ⟨data, rfl, Option.some.inj h⟩
  | error refusal =>
    rw [hdata] at h
    cases h

/-- A destination is made, and a rule to it. -/
def placeAndRule : List Call :=
  [⟨.named "d1", newPlace⟩, ⟨.named "r1", newRule 0⟩]

/-- The destination that is made. -/
def madePlace : DestinationRow where
  id := "d1"
  shop := "default"
  name := "Main"
  addressLine1 := "1 Dock Rd"
  city := "Reno"
  state := "NV"
  postalCode := "89501"
  createdAt := Timestamp.start

/-- The rule that is made. -/
def madeRule : RuleRow where
  id := "r1"
  shop := "default"
  name := "Shoes"
  priority := .integer 0
  isActive := true
  conditionType := "product_type"
  conditionValue := "shoes"
  destinationId := "d1"
  createdAt := Timestamp.start

theorem stores_placeAndRule :
    stores {} {} (placeAndRule.take 1) = { destinations := [madePlace] } ∧
      stores {} {} placeAndRule = { destinations := [madePlace], rules := [madeRule] } := by
  decide +kernel

/-- A rule with the least priority that cannot be stored passes the form. -/
theorem asks_newRule :
    ∃ data, (newRule (twoTo 63)).Asks (.createRule "default" data) ∧
      data.cell "destination_id" = .text "d1" ∧ data.isOversized = true := by
  obtain ⟨data, hdata, hboth⟩ := exists_checked
    (by decide +kernel : ((newRule (twoTo 63)).checked Form.newRule.read).toOption.map
      (fun data => (data.cell "destination_id", data.isOversized)) = some (.text "d1", true))
  have hshop : (newRule (twoTo 63)).shop = "default" := by decide +kernel
  exact ⟨data, hshop ▸ .createRule (by decide +kernel) rfl hdata, Prod.mk.inj hboth⟩

/-- So does the change of a priority to that one. -/
theorem asks_newPriority :
    ∃ data, (newPriority (twoTo 63)).Asks (.updateRule "default" "r1" data) ∧
      data.cell "destination_id" = .null ∧ data.isOversized = true := by
  obtain ⟨data, hdata, hboth⟩ := exists_checked
    (by decide +kernel : ((newPriority (twoTo 63)).checked Form.changedRule.read).toOption.map
      (fun data => (data.cell "destination_id", data.isOversized)) = some (.null, true))
  have hshop : (newPriority (twoTo 63)).shop = "default" := by decide +kernel
  exact ⟨data, hshop ▸ .updateRule (by decide +kernel) rfl hdata, Prod.mk.inj hboth⟩

/-- A destination is made; a rule to it with the least priority that cannot be stored is not; and no
rule gets that priority. -/
theorem accepted_status_oversized :
    (answer {} {} ⟨.named "d1", newPlace⟩).1.status = 201 ∧
      (answer {} (stores {} {} (placeAndRule.take 1))
          ⟨.named "r1", newRule (twoTo 63)⟩).1.status = 500 ∧
      (answer {} (stores {} {} placeAndRule)
          ⟨.named "", newPriority (twoTo 63)⟩).1.status = 500 := by
  obtain ⟨hone, htwo⟩ := stores_placeAndRule
  refine ⟨?_, ?_, ?_⟩
  · obtain ⟨data, hdata, -⟩ := exists_checked
      (by decide +kernel : (newPlace.checked Form.newDestination.read).toOption.map (fun _ => ()) =
        some ())
    exact (accepted_status {} [] ⟨.named "d1", newPlace⟩).1 data
      (.createDestination (by decide +kernel) rfl hdata) List.not_mem_nil
  · obtain ⟨data, hasks, hcell, hlarge⟩ := asks_newRule
    have hshop : (newRule (twoTo 63)).shop = "default" := by decide +kernel
    have hknown :
        (namedDestination? { destinations := [madePlace] } "default" data).isSome = true := by
      rw [namedDestination?, hcell]
      decide +kernel
    have hstatus := (accepted_status {} (placeAndRule.take 1)
      ⟨.named "r1", newRule (twoTo 63)⟩).2.2.1 data
    rw [hone] at hstatus ⊢
    rw [hshop] at hstatus
    rw [hstatus hasks (by decide), hknown, hlarge]
    rfl
  · obtain ⟨data, hasks, hcell, hlarge⟩ := asks_newPriority
    have hshop : (newPriority (twoTo 63)).shop = "default" := by decide +kernel
    have hknown : namesUnknown { destinations := [madePlace], rules := [madeRule] } "default"
        data = false := by
      rw [namesUnknown, hcell]
      rfl
    have hstatus := (accepted_status {} placeAndRule
      ⟨.named "", newPriority (twoTo 63)⟩).2.2.2 "r1" data
    rw [htwo] at hstatus ⊢
    rw [hshop] at hstatus
    rw [hstatus hasks, hknown, hlarge]
    rfl

/-- Not every body that passes is answered with a success or a refusal: a rule with a priority of
more than 64 bits is a failure of the database. -/
theorem not_forall_accepted_status :
    ¬∀ (settings : ServerSettings) (calls : List Call) (call : Call) (shop : String) (data : Data),
      call.request.Asks (.createRule shop data) →
        call.fresh.id ∉ (stores settings {} calls).rules.map ShopRow.id →
          (answer settings (stores settings {} calls) call).1.status ∈ [201, 400, 404] := by
  intro h
  obtain ⟨data, hasks, -⟩ := asks_newRule
  have hstatus := h {} (placeAndRule.take 1) ⟨.named "r1", newRule (twoTo 63)⟩ "default" data
    hasks
  rw [stores_placeAndRule.1] at hstatus
  exact absurd (hstatus (by decide)) (by decide +kernel)

end Server

end Disposition
