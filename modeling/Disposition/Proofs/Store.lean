import Disposition.Proofs.Row
import Disposition.Store.Session

/-!
# What an operation does to the store

Every operation in a session of its own answers and leaves a store behind. The equations of this
module say what comes of each of the six that write, all in terms of the store before, and
`perform_cases` sums them up: an operation either wrote one row, or it changed nothing.

Results:
* `session_createDestination` to `session_deleteRule`: the six programs that write.
* `perform_createDestination` to `perform_deleteRule`: the operations that they are, with replies.
* `perform_cases`: what an operation can do.
* `Reachable`: the stores that operations lead to from the empty one; `Reachable.sound`: no two rows
  of a table have the same identifier.
-/

namespace Disposition

section Admission

variable {ρ : Type}

/-- A new row as a table takes it: its identifier is new. -/
def Table.accept [ShopRow ρ] (table : TableName) (rows : List ρ) (made : Except StoreFault ρ) :
    Except StoreFault ρ := do
  let row ← made
  if ShopRow.id row ∈ rows.map ShopRow.id then .error (.repeatedId table) else return row

theorem Table.accept_ok [ShopRow ρ] {table : TableName} {rows : List ρ}
    {made : Except StoreFault ρ} {row : ρ} (h : accept table rows made = .ok row) :
    made = .ok row ∧ ShopRow.id row ∉ rows.map ShopRow.id := by
  unfold accept at h
  obtain ⟨r, hr, h⟩ := bind_eq_ok_iff.mp h
  split at h
  · cases h
  · cases h
    exact ⟨hr, ‹_›⟩

/-- A row with a new identifier is taken. -/
theorem Table.accept_of_new [ShopRow ρ] {rows : List ρ} {made : Except StoreFault ρ} {row : ρ}
    (table : TableName) (hmade : made = .ok row) (hnew : ShopRow.id row ∉ rows.map ShopRow.id) :
    accept table rows made = .ok row := by
  rw [accept, hmade, ok_bind, if_neg hnew]
  rfl

/-- Whether a new row is taken depends on the table only for the identifier. -/
theorem Table.accept_congr [ShopRow ρ] {table : TableName} {rows others : List ρ}
    {made : Except StoreFault ρ}
    (h : ∀ row, made = .ok row →
      (ShopRow.id row ∈ rows.map ShopRow.id ↔ ShopRow.id row ∈ others.map ShopRow.id)) :
    accept table rows made = accept table others made := by
  unfold accept
  cases made with
  | error fault => rfl
  | ok row => simp only [ok_bind, h row rfl]

/-- A row after an operation: its data leaves it what it is asked for its content by. -/
def Data.amend (data : Data) (written : Except StoreFault ρ) : Except StoreFault ρ := do
  let row ← written
  data.checkContent
  return row

theorem Data.amend_ok {data : Data} {written : Except StoreFault ρ} {row : ρ}
    (h : data.amend written = .ok row) : written = .ok row := by
  obtain ⟨r, hr, h⟩ := bind_eq_ok_iff.mp h
  obtain ⟨-, -, h⟩ := bind_eq_ok_iff.mp h
  cases h
  exact hr

/-- A row after an operation that makes it, at the time that its data names or that is issued. -/
def Data.made (data : Data) (fresh : Stamp) (make : Stamp → Except StoreFault ρ) :
    Except StoreFault ρ := do
  let given ← data.givenTime
  data.amend (make { fresh with time := given.getD fresh.time })

theorem Data.made_ok {data : Data} {fresh : Stamp} {make : Stamp → Except StoreFault ρ} {row : ρ}
    (h : data.made fresh make = .ok row) : ∃ time, make { fresh with time } = .ok row := by
  obtain ⟨given, -, h⟩ := bind_eq_ok_iff.mp h
  exact ⟨_, Data.amend_ok h⟩

/-- What a row is made of may depend on the time at which it is made. -/
theorem Data.made_congr {data : Data} {fresh : Stamp} {make other : Stamp → Except StoreFault ρ}
    (h : ∀ time, make { fresh with time } = other { fresh with time }) :
    data.made fresh make = data.made fresh other := by
  unfold made
  exact congrArg _ (funext fun given => congrArg data.amend (h _))

/-- A change that comes to the same row again is taken again. -/
theorem Data.amend_again {data : Data} {patched again : Except StoreFault ρ} {row : ρ}
    (h : data.amend patched = .ok row) (hagain : again = .ok row) :
    data.amend again = .ok row := by
  rw [amend_ok h] at h
  rwa [hagain]

end Admission

namespace DestinationRow

/-- A row while another one is made the default: those of the shop lose the flag, except for one
identifier. -/
def giveWay (data : Data) (shop : String) (kept : Option String) (row : DestinationRow) :
    DestinationRow :=
  if data.flagsDefault = true ∧ row.shop = shop ∧ kept ≠ some row.id then row.withoutFlag else row

theorem giveWay_keeps (data : Data) (shop : String) (kept : Option String)
    (rows : List DestinationRow) : Table.Keeps rows (giveWay data shop kept) := by
  intro row _
  unfold giveWay
  split <;> rfl

theorem giveWay_of_ne (data : Data) {shop : String} (kept : Option String) {row : DestinationRow}
    (h : row.shop ≠ shop) : giveWay data shop kept row = row :=
  if_neg fun hc => h hc.2.1

theorem giveWay_kept (data : Data) (shop : String) (row : DestinationRow) :
    giveWay data shop (some row.id) row = row :=
  if_neg fun hc => hc.2.2 rfl

theorem map_giveWay (data : Data) (shop : String) (kept : Option String)
    (rows : List DestinationRow) :
    rows.map (giveWay data shop kept) =
      if data.flagsDefault then clearDefault rows shop kept else rows := by
  by_cases h : data.flagsDefault = true
  · rw [if_pos h]
    refine List.map_congr_left fun row _ => ?_
    simp only [giveWay, h, true_and, Bool.and_eq_true, decide_eq_true_eq]
  · rw [if_neg h]
    conv_rhs => rw [← List.map_id rows]
    exact List.map_congr_left fun row _ => if_neg fun hc => h hc.1

end DestinationRow

/-! ## The writing operations -/

namespace Store

open DestinationRow (giveWay giveWay_keeps map_giveWay)

variable {α : Type} (store : Store) (shop id : String) (fresh : Stamp) (data : Data)

/-- Work that goes on after the flags of a shop were cleared, if the data flags a row. -/
theorem run_giveWay (kept : Option String) (rest : Work StoreFault α) :
    EStateM.run
        (if data.flagsDefault = true then do
          clearDefault shop kept
          rest
        else rest) store =
      rest.run { store with destinations := store.destinations.map (giveWay data shop kept) } := by
  rw [map_giveWay]
  by_cases h : data.flagsDefault = true
  · rw [if_pos h, if_pos h]
    rfl
  · rw [if_neg h, if_neg h]

theorem session_createDestination :
    (createDestination shop fresh data).session store =
      match Table.accept .destinations store.destinations
        (DestinationRow.ofData shop fresh data) with
      | .ok row =>
        (.ok row,
          { store with destinations := store.destinations.map (giveWay data shop none) ++ [row] })
      | .error fault => (.error fault, store) := by
  unfold Work.session createDestination Table.accept
  simp only [EStateM.run_bind, Work.run_ofExcept, run_giveWay, EStateM.run_get,
    EStateM.run_modify, EStateM.run_pure, Table.insert_eq]
  cases DestinationRow.ofData shop fresh data with
  | error fault => rfl
  | ok row =>
    have hids := Table.ids_map (giveWay_keeps data shop none store.destinations)
    by_cases hn : ShopRow.id row ∈ store.destinations.map ShopRow.id
    · simp only [hids, hn, if_true, ok_bind]
    · simp only [hids, hn, if_false, ok_bind]
      rfl

theorem session_updateDestination :
    (updateDestination shop id data).session store =
      match store.destination? shop id with
      | none => (.ok none, store)
      | some row =>
        match row.patch data with
        | .ok after =>
          (.ok (some after),
            { store with
              destinations :=
                Table.replace (store.destinations.map (giveWay data shop (some id))) after })
        | .error fault => (.error fault, store) := by
  unfold Work.session updateDestination
  simp only [EStateM.run_bind, EStateM.run_get]
  cases store.destination? shop id with
  | none => rfl
  | some row =>
    simp only [EStateM.run_bind, Work.run_ofExcept, run_giveWay, EStateM.run_modify,
      EStateM.run_pure]
    cases row.patch data <;> rfl

theorem session_deleteDestination {ε : Type} :
    (deleteDestination shop id : Work ε Bool).session store =
      (.ok (store.destination? shop id).isSome,
        { store with destinations := Table.erase store.destinations shop id }) := by
  unfold Work.session deleteDestination
  simp only [EStateM.run_bind, EStateM.run_get]
  cases h : store.destination? shop id with
  | none => rw [Table.erase_of_find?_none h]; rfl
  | some row => rfl

theorem session_createRule :
    (createRule shop fresh data).session store =
      match Table.accept .rules store.rules (RuleRow.ofData shop fresh data) with
      | .ok row => (.ok row, { store with rules := store.rules ++ [row] })
      | .error fault => (.error fault, store) := by
  unfold Work.session createRule Table.accept
  simp only [EStateM.run_bind, Work.run_ofExcept, EStateM.run_get, EStateM.run_modify,
    EStateM.run_pure, Table.insert_eq]
  cases RuleRow.ofData shop fresh data with
  | error fault => rfl
  | ok row =>
    by_cases hn : ShopRow.id row ∈ store.rules.map ShopRow.id
    · simp only [hn, if_true, ok_bind]
    · simp only [hn, if_false, ok_bind]
      rfl

theorem session_updateRule :
    (updateRule shop id data).session store =
      match store.rule? shop id with
      | none => (.ok none, store)
      | some row =>
        match row.patch data with
        | .ok after => (.ok (some after), { store with rules := Table.replace store.rules after })
        | .error fault => (.error fault, store) := by
  unfold Work.session updateRule
  simp only [EStateM.run_bind, EStateM.run_get]
  cases store.rule? shop id with
  | none => rfl
  | some row =>
    simp only [EStateM.run_bind, Work.run_ofExcept, EStateM.run_modify, EStateM.run_pure]
    cases row.patch data <;> rfl

theorem session_deleteRule {ε : Type} :
    (deleteRule shop id : Work ε Bool).session store =
      (.ok (store.rule? shop id).isSome,
        { store with rules := Table.erase store.rules shop id }) := by
  unfold Work.session deleteRule
  simp only [EStateM.run_bind, EStateM.run_get]
  cases h : store.rule? shop id with
  | none => rw [Table.erase_of_find?_none h]; rfl
  | some row => rfl

end Store

/-! ## Operations -/

namespace Operation

open DestinationRow (giveWay)

theorem session_reading (answer : Store → Answer) (store : Store) :
    (reading answer).session store = (.ok (answer store, []), store) :=
  rfl

theorem session_writing {α : Type} (work : Work StoreFault α) (answer : α → Answer)
    (store : Store) :
    (writing work answer).session store =
      match work.session store with
      | (.ok a, after) => (.ok (answer a, []), after)
      | (.error fault, after) => (.error (.store fault), after) := by
  unfold Work.session writing
  simp only [EStateM.run_bind, EStateM.run_adaptExcept, EStateM.run_pure]
  cases work.run store <;> rfl

/-- A row is made in a session of its own. -/
theorem session_making {α : Type} (fresh : Stamp) (data : Data) (make : Stamp → Work StoreFault α)
    (store : Store) :
    (making fresh data make).session store =
      match data.givenTime with
      | .error fault => (.error fault, store)
      | .ok given =>
        match (make { fresh with time := given.getD fresh.time }).session store with
        | (.error fault, _) => (.error fault, store)
        | (.ok row, after) =>
          match data.checkContent with
          | .error fault => (.error fault, store)
          | .ok _ => (.ok row, after) := by
  rw [making, Work.session_ofExcept_bind]
  cases data.givenTime with
  | error fault => rfl
  | ok given =>
    dsimp only
    rw [Work.session_bind]
    cases (make { fresh with time := given.getD fresh.time }).session store with
    | mk result after =>
      cases result with
      | error fault => rfl
      | ok row =>
        dsimp only
        rw [Work.session_ofExcept_bind]
        cases data.checkContent <;> rfl

/-- A row is changed in a session of its own. -/
theorem session_changing {α : Type} (data : Data) (change : Work StoreFault (Option α))
    (store : Store) :
    (changing data change).session store =
      match change.session store with
      | (.error fault, _) => (.error fault, store)
      | (.ok none, after) => (.ok none, after)
      | (.ok (some row), after) =>
        match data.checkContent with
        | .error fault => (.error fault, store)
        | .ok _ => (.ok (some row), after) := by
  rw [changing, Work.session_bind]
  cases change.session store with
  | mk result after =>
    rcases result with fault | _ | row
    · rfl
    · rfl
    · dsimp only
      rw [Work.session_ofExcept_bind]
      cases data.checkContent <;> rfl

/-- The reply that the decision on a return of a shop gives. -/
def decidingReply (store : Store) (shop : String) (context : Except AccessFault Context)
    (requestId : Option String) (answer : Decision → Answer) : Reply := do
  let c ← context.mapError .access
  let (decision, events) ← (store.route shop c requestId).mapError .priority
  return (answer decision, events)

theorem session_deciding (shop : String) (context : Except AccessFault Context)
    (requestId : Option String) (answer : Decision → Answer) (store : Store) :
    (deciding shop context requestId answer).session store =
      (decidingReply store shop context requestId answer, store) := by
  unfold Work.session deciding decidingReply
  simp only [EStateM.run_bind, Work.run_ofExcept, EStateM.run_get, EStateM.run_pure]
  cases context.mapError SessionFault.access with
  | error fault => rfl
  | ok c =>
    simp only [ok_bind]
    cases (store.route shop c requestId).mapError SessionFault.priority <;> rfl

/-- The reply that the report on the configuration of a shop gives. -/
def checkingReply (store : Store) (shop : String) : Reply := do
  let (report, events) ← (store.validate shop).mapError .text
  return (.report report, events)

theorem session_checking (shop : String) (store : Store) :
    (checking shop).session store = (checkingReply store shop, store) := by
  unfold Work.session checking checkingReply
  simp only [EStateM.run_bind, Work.run_ofExcept, EStateM.run_get, EStateM.run_pure]
  cases (store.validate shop).mapError SessionFault.text <;> rfl

section Equations

variable (store : Store) (shop id : String) (fresh : Stamp) (data : Data)

theorem perform_createDestination :
    (createDestination shop data).perform fresh store =
      match data.made fresh fun fresh =>
        Table.accept .destinations store.destinations (DestinationRow.ofData shop fresh data) with
      | .ok row =>
        (.ok (.destination (some row), []),
          { store with destinations := store.destinations.map (giveWay data shop none) ++ [row] })
      | .error fault => (.error (.store fault), store) := by
  rw [perform, run, session_writing, session_making, Data.made]
  cases data.givenTime with
  | error fault => rfl
  | ok given =>
    dsimp only
    rw [ok_bind, Store.session_createDestination, Data.amend]
    generalize Table.accept .destinations store.destinations _ = taken
    cases taken with
    | error fault => rfl
    | ok row => cases data.checkContent <;> simp only [ok_bind] <;> rfl

theorem perform_updateDestination :
    (updateDestination shop id data).perform fresh store =
      match store.destination? shop id with
      | none => (.ok (.destination none, []), store)
      | some row =>
        match data.amend (row.patch data) with
        | .ok after =>
          (.ok (.destination (some after), []),
            { store with
              destinations :=
                Table.replace (store.destinations.map (giveWay data shop (some id))) after })
        | .error fault => (.error (.store fault), store) := by
  rw [perform, run, session_writing, session_changing, Store.session_updateDestination]
  cases store.destination? shop id with
  | none => rfl
  | some row =>
    dsimp only
    rw [Data.amend]
    cases row.patch data with
    | error fault => rfl
    | ok after => cases data.checkContent <;> simp only [ok_bind] <;> rfl

theorem perform_deleteDestination :
    (deleteDestination shop id).perform fresh store =
      (.ok (.deleted (store.destination? shop id).isSome, []),
        { store with destinations := Table.erase store.destinations shop id }) := by
  rw [perform, run, session_writing, Store.session_deleteDestination]

theorem perform_createRule :
    (createRule shop data).perform fresh store =
      match data.made fresh fun fresh =>
        Table.accept .rules store.rules (RuleRow.ofData shop fresh data) with
      | .ok row => (.ok (.rule (some row), []), { store with rules := store.rules ++ [row] })
      | .error fault => (.error (.store fault), store) := by
  rw [perform, run, session_writing, session_making, Data.made]
  cases data.givenTime with
  | error fault => rfl
  | ok given =>
    dsimp only
    rw [ok_bind, Store.session_createRule, Data.amend]
    generalize Table.accept .rules store.rules _ = taken
    cases taken with
    | error fault => rfl
    | ok row => cases data.checkContent <;> simp only [ok_bind] <;> rfl

theorem perform_updateRule :
    (updateRule shop id data).perform fresh store =
      match store.rule? shop id with
      | none => (.ok (.rule none, []), store)
      | some row =>
        match data.amend (row.patch data) with
        | .ok after =>
          (.ok (.rule (some after), []), { store with rules := Table.replace store.rules after })
        | .error fault => (.error (.store fault), store) := by
  rw [perform, run, session_writing, session_changing, Store.session_updateRule]
  cases store.rule? shop id with
  | none => rfl
  | some row =>
    dsimp only
    rw [Data.amend]
    cases row.patch data with
    | error fault => rfl
    | ok after => cases data.checkContent <;> simp only [ok_bind] <;> rfl

theorem perform_deleteRule :
    (deleteRule shop id).perform fresh store =
      (.ok (.deleted (store.rule? shop id).isSome, []),
        { store with rules := Table.erase store.rules shop id }) := by
  rw [perform, run, session_writing, Store.session_deleteRule]

end Equations

/-- The reply says that a row was made, changed or deleted. -/
def wrote : Operation → Reply → Bool
  | createDestination _ _, .ok _ | createRule _ _, .ok _ => true
  | updateDestination _ _ _, .ok (.destination (some _), _)
  | updateRule _ _ _, .ok (.rule (some _), _) => true
  | deleteDestination _ _, .ok (.deleted done, _) | deleteRule _ _, .ok (.deleted done, _) => done
  | _, _ => false

/-- An operation that writes, its reply, and the store after it. -/
inductive Wrote (fresh : Stamp) (store : Store) : Operation → Reply → Store → Prop
  /-- A destination was made. -/
  | madeDestination {shop : String} {data : Data} {row : DestinationRow} (hshop : row.shop = shop)
      (hflag : row.isDefault = data.flagsDefault)
      (hid : data.newId .destinations fresh = .ok row.id)
      (hnew : ShopRow.id row ∉ store.destinations.map ShopRow.id) :
      Wrote fresh store (.createDestination shop data) (.ok (.destination (some row), []))
        { store with destinations := store.destinations.map (giveWay data shop none) ++ [row] }
  /-- A destination was changed. -/
  | changedDestination {shop id : String} {data : Data} {old row : DestinationRow}
      (hold : old ∈ store.destinations) (hkey : Table.key old = (id, shop))
      (hsame : Table.key row = Table.key old)
      (hflag : row.isDefault = data.flagAfter old.isDefault) :
      Wrote fresh store (.updateDestination shop id data) (.ok (.destination (some row), []))
        { store with
          destinations :=
            Table.replace (store.destinations.map (giveWay data shop (some id))) row }
  /-- A destination was deleted. -/
  | deletedDestination {shop id : String} (hkey : (id, shop) ∈ Table.keys store.destinations) :
      Wrote fresh store (.deleteDestination shop id) (.ok (.deleted true, []))
        { store with destinations := Table.erase store.destinations shop id }
  /-- A rule was made. -/
  | madeRule {shop : String} {data : Data} {row : RuleRow} (hshop : row.shop = shop)
      (hid : data.newId .rules fresh = .ok row.id)
      (hnew : ShopRow.id row ∉ store.rules.map ShopRow.id) :
      Wrote fresh store (.createRule shop data) (.ok (.rule (some row), []))
        { store with rules := store.rules ++ [row] }
  /-- A rule was changed. -/
  | changedRule {shop id : String} {data : Data} {old row : RuleRow} (hold : old ∈ store.rules)
      (hkey : Table.key old = (id, shop)) (hsame : Table.key row = Table.key old) :
      Wrote fresh store (.updateRule shop id data) (.ok (.rule (some row), []))
        { store with rules := Table.replace store.rules row }
  /-- A rule was deleted. -/
  | deletedRule {shop id : String} (hkey : (id, shop) ∈ Table.keys store.rules) :
      Wrote fresh store (.deleteRule shop id) (.ok (.deleted true, []))
        { store with rules := Table.erase store.rules shop id }

section Cases

variable {fresh : Stamp} {shop id : String} {data : Data} {store after : Store} {reply : Reply}

theorem createDestination_cases
    (h : (createDestination shop data).perform fresh store = (reply, after)) :
    Wrote fresh store (createDestination shop data) reply after ∨
      after = store ∧ (createDestination shop data).wrote reply = false := by
  rw [perform_createDestination] at h
  cases hrow : data.made fresh fun fresh =>
      Table.accept .destinations store.destinations (DestinationRow.ofData shop fresh data) with
  | error fault =>
    rw [hrow] at h
    cases h
    exact .inr ⟨rfl, rfl⟩
  | ok row =>
    rw [hrow] at h
    cases h
    obtain ⟨time, htaken⟩ := Data.made_ok hrow
    obtain ⟨hdata, hnew⟩ := Table.accept_ok htaken
    obtain ⟨hshop, -, hid, hfilled⟩ := DestinationRow.ofData_ok hdata
    have hflag : row.isDefault = data.flagsDefault :=
      (Data.flagsDefault_of_fills hfilled.isDefault).symm
    exact .inl (.madeDestination hshop hflag hid hnew)

theorem updateDestination_cases
    (h : (updateDestination shop id data).perform fresh store = (reply, after)) :
    Wrote fresh store (updateDestination shop id data) reply after ∨
      after = store ∧ (updateDestination shop id data).wrote reply = false := by
  rw [perform_updateDestination] at h
  cases hold : store.destination? shop id with
  | none =>
    rw [hold] at h
    cases h
    exact .inr ⟨rfl, rfl⟩
  | some old =>
    rw [hold] at h
    cases hrow : data.amend (old.patch data) with
    | error fault =>
      simp only [hrow] at h
      cases h
      exact .inr ⟨rfl, rfl⟩
    | ok row =>
      simp only [hrow] at h
      cases h
      obtain ⟨hm, hid, hshop⟩ := Table.find?_some hold
      obtain ⟨hsame, -, hchanged⟩ := DestinationRow.patch_ok (Data.amend_ok hrow)
      exact .inl (.changedDestination hm (by rw [Table.key, hid, hshop]) hsame
        (Data.flag_of_turns hchanged.isDefault))

theorem deleteDestination_cases
    (h : (deleteDestination shop id).perform fresh store = (reply, after)) :
    Wrote fresh store (deleteDestination shop id) reply after ∨
      after = store ∧ (deleteDestination shop id).wrote reply = false := by
  rw [perform_deleteDestination] at h
  cases hold : store.destination? shop id with
  | none =>
    rw [hold, Table.erase_of_find?_none hold] at h
    cases h
    exact .inr ⟨rfl, rfl⟩
  | some old =>
    rw [hold] at h
    cases h
    exact .inl (.deletedDestination (Table.find?_isSome_iff.mp (Option.isSome_of_eq_some hold)))

theorem createRule_cases (h : (createRule shop data).perform fresh store = (reply, after)) :
    Wrote fresh store (createRule shop data) reply after ∨
      after = store ∧ (createRule shop data).wrote reply = false := by
  rw [perform_createRule] at h
  cases hrow : data.made fresh fun fresh =>
      Table.accept .rules store.rules (RuleRow.ofData shop fresh data) with
  | error fault =>
    rw [hrow] at h
    cases h
    exact .inr ⟨rfl, rfl⟩
  | ok row =>
    rw [hrow] at h
    cases h
    obtain ⟨time, htaken⟩ := Data.made_ok hrow
    obtain ⟨hdata, hnew⟩ := Table.accept_ok htaken
    obtain ⟨hshop, -, hid, -⟩ := RuleRow.ofData_ok hdata
    exact .inl (.madeRule hshop hid hnew)

theorem updateRule_cases (h : (updateRule shop id data).perform fresh store = (reply, after)) :
    Wrote fresh store (updateRule shop id data) reply after ∨
      after = store ∧ (updateRule shop id data).wrote reply = false := by
  rw [perform_updateRule] at h
  cases hold : store.rule? shop id with
  | none =>
    rw [hold] at h
    cases h
    exact .inr ⟨rfl, rfl⟩
  | some old =>
    rw [hold] at h
    cases hrow : data.amend (old.patch data) with
    | error fault =>
      simp only [hrow] at h
      cases h
      exact .inr ⟨rfl, rfl⟩
    | ok row =>
      simp only [hrow] at h
      cases h
      obtain ⟨hm, hid, hshop⟩ := Table.find?_some hold
      obtain ⟨hsame, -⟩ := RuleRow.patch_ok (Data.amend_ok hrow)
      exact .inl (.changedRule hm (by rw [Table.key, hid, hshop]) hsame)

theorem deleteRule_cases (h : (deleteRule shop id).perform fresh store = (reply, after)) :
    Wrote fresh store (deleteRule shop id) reply after ∨
      after = store ∧ (deleteRule shop id).wrote reply = false := by
  rw [perform_deleteRule] at h
  cases hold : store.rule? shop id with
  | none =>
    rw [hold, Table.erase_of_find?_none hold] at h
    cases h
    exact .inr ⟨rfl, rfl⟩
  | some old =>
    rw [hold] at h
    cases h
    exact .inl (.deletedRule (Table.find?_isSome_iff.mp (Option.isSome_of_eq_some hold)))

/-- **What an operation can do**: it writes one row, or it changes nothing and does not say that it
wrote. -/
theorem perform_cases {operation : Operation}
    (h : operation.perform fresh store = (reply, after)) :
    Wrote fresh store operation reply after ∨ after = store ∧ operation.wrote reply = false := by
  cases operation with
  | createDestination => exact createDestination_cases h
  | updateDestination => exact updateDestination_cases h
  | deleteDestination => exact deleteDestination_cases h
  | createRule => exact createRule_cases h
  | updateRule => exact updateRule_cases h
  | deleteRule => exact deleteRule_cases h
  | route | chooseDestination =>
    rw [perform, run, session_deciding] at h
    cases h
    exact .inr ⟨rfl, rfl⟩
  | validate =>
    rw [perform, run, session_checking] at h
    cases h
    exact .inr ⟨rfl, rfl⟩
  | getDestination | getDefault | listDestinations | destinationsById | loadDestinations | getRule
  | listRules | rulesById | loadRules | snapshot =>
    cases h
    exact .inr ⟨rfl, rfl⟩

end Cases

end Operation

/-! ## Reachable stores -/

namespace Store

/-- No two rows of a table have the same identifier. -/
structure Sound (store : Store) : Prop where
  /-- Destinations. -/
  destinations : Table.Distinct store.destinations
  /-- Rules. -/
  rules : Table.Distinct store.rules

theorem sound_empty : Sound {} :=
  ⟨Table.distinct_nil, Table.distinct_nil⟩

end Store

namespace DestinationRow

/-- The row that is replaced in a change still stands where the others gave way. -/
theorem mem_map_giveWay_kept (data : Data) {shop id : String} {rows : List DestinationRow}
    {old : DestinationRow} (hold : old ∈ rows) (hkey : Table.key old = (id, shop)) :
    old ∈ rows.map (giveWay data shop (some id)) := by
  have hid : old.id = id := congrArg Prod.fst hkey
  subst hid
  exact List.mem_map.mpr ⟨old, hold, giveWay_kept data shop old⟩

/-- A row while another one is changed: the others of the shop give way, and the one of that
identifier is replaced. -/
def settle (data : Data) (shop id : String) (row other : DestinationRow) : DestinationRow :=
  Table.put row (giveWay data shop (some id) other)

theorem replace_giveWay (data : Data) (shop id : String) (row : DestinationRow)
    (rows : List DestinationRow) :
    Table.replace (rows.map (giveWay data shop (some id))) row =
      rows.map (settle data shop id row) := by
  rw [Table.replace_eq_map, List.map_map]
  rfl

section Settle

variable {data : Data} {shop id : String} {rows : List DestinationRow} {old row : DestinationRow}

theorem settle_keeps (hd : Table.Distinct rows) (hold : old ∈ rows)
    (hkey : Table.key old = (id, shop)) (hsame : Table.key row = Table.key old) :
    Table.Keeps rows (settle data shop id row) := by
  have hkeeps := giveWay_keeps data shop (some id) rows
  have hput := Table.put_keeps (Table.distinct_map hkeeps hd) (mem_map_giveWay_kept data hold hkey)
    hsame
  intro other ho
  exact (hput _ (List.mem_map_of_mem ho)).trans (hkeeps other ho)

theorem settle_of_ne (hd : Table.Distinct rows) (hold : old ∈ rows)
    (hkey : Table.key old = (id, shop)) (hsame : Table.key row = Table.key old)
    {other : DestinationRow} (ho : other ∈ rows) (hne : other.shop ≠ shop) :
    settle data shop id row other = other := by
  have hshop : row.shop = shop := congrArg Prod.snd (hsame.trans hkey)
  unfold settle
  rw [giveWay_of_ne data (some id) hne]
  refine Table.put_of_ne hd hold hsame ho ?_
  rwa [← hshop] at hne

end Settle

end DestinationRow

open DestinationRow (giveWay giveWay_keeps replace_giveWay settle settle_keeps settle_of_ne)

theorem Operation.Wrote.sound {fresh : Stamp} {operation : Operation} {store after : Store}
    {reply : Reply} (h : Wrote fresh store operation reply after) (hs : store.Sound) :
    after.Sound := by
  cases h with
  | madeDestination hshop hflag hid hnew =>
    refine ⟨Table.distinct_append (Table.distinct_map (giveWay_keeps _ _ _ _) hs.destinations) ?_,
      hs.rules⟩
    rwa [Table.ids_map (giveWay_keeps _ _ _ _)]
  | @changedDestination shop id data old row hold hkey hsame hflag =>
    rw [replace_giveWay]
    exact ⟨Table.distinct_map (settle_keeps hs.destinations hold hkey hsame) hs.destinations,
      hs.rules⟩
  | deletedDestination hkey => exact ⟨Table.distinct_erase hs.destinations _ _, hs.rules⟩
  | madeRule hshop hid hnew => exact ⟨hs.destinations, Table.distinct_append hs.rules hnew⟩
  | changedRule hold hkey hsame =>
    exact ⟨hs.destinations, Table.distinct_map (Table.put_keeps hs.rules hold hsame) hs.rules⟩
  | deletedRule hkey => exact ⟨hs.destinations, Table.distinct_erase hs.rules _ _⟩

namespace Store

/-- A step keeps a store sound. -/
theorem Sound.perform {store : Store} (hs : store.Sound) (fresh : Stamp) (operation : Operation) :
    (operation.perform fresh store).2.Sound := by
  rcases Operation.perform_cases (Prod.eta (operation.perform fresh store)).symm with h | ⟨h, -⟩
  · exact h.sound hs
  · rw [h]
    exact hs

/-- The stores that operations lead to from the empty one, each in a session of its own, whatever
identifiers are issued. -/
inductive Reachable : Store → Prop
  /-- The empty store. -/
  | empty : Reachable {}
  /-- The store after one more operation. -/
  | step {store : Store} (h : Reachable store) (fresh : Stamp) (operation : Operation) :
    Reachable (operation.perform fresh store).2

/-- **In a reachable store no two rows of a table have the same identifier.** -/
theorem Reachable.sound {store : Store} (h : Reachable store) : store.Sound := by
  induction h with
  | empty => exact sound_empty
  | step _ fresh operation ih => exact ih.perform fresh operation

end Store

end Disposition
