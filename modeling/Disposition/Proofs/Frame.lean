import Disposition.Proofs.Run

/-!
# What an operation reads and changes

An operation is about one shop. It leaves the rows of every other shop as they are, their flags
included, and what it reads are the rows of its shop, in the order in which they were made. Only
when a row is made are the identifiers of all shops looked at.

Results:
* `Store.Sound.sameFor_next`: a step leaves the rows of other shops.
* `Store.SameFor.destination?` to `Store.SameFor.validate`: what the store is read by.
* `Operation.perform_of_not_writes`: what only reads answers by the rows of its shop.
-/

namespace Disposition

/-- The shop that an operation is about. -/
def Operation.shop : Operation → String
  | createDestination shop _ | getDestination shop _ | getDefault shop
  | updateDestination shop _ _ | deleteDestination shop _ | listDestinations shop
  | destinationsById shop | loadDestinations shop | createRule shop _ | getRule shop _
  | updateRule shop _ _ | deleteRule shop _ | listRules shop _ | rulesById shop
  | loadRules shop _ _ | route shop _ _ | chooseDestination shop _ | validate shop
  | snapshot shop _ => shop

/-- The operation makes, changes or deletes a row. -/
def Operation.writes : Operation → Bool
  | createDestination _ _ | updateDestination _ _ _ | deleteDestination _ _
  | createRule _ _ | updateRule _ _ _ | deleteRule _ _ => true
  | _ => false

namespace Store

/-- Two stores hold the same rows of a shop, in the same order. -/
structure SameFor (shop : String) (store other : Store) : Prop where
  /-- Destinations. -/
  destinations : Table.ofShop store.destinations shop = Table.ofShop other.destinations shop
  /-- Rules. -/
  rules : Table.ofShop store.rules shop = Table.ofShop other.rules shop

theorem SameFor.refl (shop : String) (store : Store) : store.SameFor shop store :=
  ⟨rfl, rfl⟩

theorem SameFor.symm {shop : String} {store other : Store} (h : store.SameFor shop other) :
    other.SameFor shop store :=
  ⟨h.destinations.symm, h.rules.symm⟩

theorem SameFor.trans {shop : String} {store other third : Store} (h : store.SameFor shop other)
    (hn : other.SameFor shop third) : store.SameFor shop third :=
  ⟨h.destinations.trans hn.destinations, h.rules.trans hn.rules⟩

end Store

/-! ## Changes -/

open DestinationRow

/-- **What writes a row of one shop leaves the rows of another.** -/
theorem Operation.Wrote.sameFor {fresh : Stamp} {other : String} {operation : Operation}
    {store after : Store} {reply : Reply} (h : Wrote fresh store operation reply after)
    (hs : store.Sound) (hne : operation.shop ≠ other) : after.SameFor other store := by
  cases h with
  | @madeDestination shop data row hshop hflag hid hnew =>
    replace hne : shop ≠ other := hne
    refine ⟨?_, rfl⟩
    rw [Table.ofShop_append_of_ne (fun he => hne (hshop.symm.trans he)),
      Table.ofShop_map_of_ne (giveWay_keeps _ _ _ _)
        (fun row _ hr => giveWay_of_ne data none hr) hne]
  | changedDestination hold hkey hsame hflag =>
    refine ⟨?_, rfl⟩
    rw [replace_giveWay]
    exact Table.ofShop_map_of_ne (settle_keeps hs.destinations hold hkey hsame)
      (fun r hr => settle_of_ne hs.destinations hold hkey hsame hr) hne
  | deletedDestination hkey => exact ⟨Table.ofShop_erase_of_ne _ _ hne, rfl⟩
  | madeRule hshop hid hnew =>
    exact ⟨rfl, Table.ofShop_append_of_ne fun he => hne (hshop.symm.trans he)⟩
  | @changedRule shop id data old row hold hkey hsame =>
    have hshop : ShopRow.shop row = shop := congrArg Prod.snd (hsame.trans hkey)
    exact ⟨rfl, Table.ofShop_map_of_ne (Table.put_keeps hs.rules hold hsame)
      (fun r hr hne => Table.put_of_ne hs.rules hold hsame hr (hshop ▸ hne)) hne⟩
  | deletedRule hkey => exact ⟨rfl, Table.ofShop_erase_of_ne _ _ hne⟩

/-- **A step leaves the rows of other shops.** -/
theorem Store.Sound.sameFor_next {store : Store} (hs : store.Sound) (step : Step) {other : String}
    (hne : step.operation.shop ≠ other) : (store.next step).SameFor other store := by
  rcases store.next_cases step with h | ⟨hsame, -⟩
  · exact h.sameFor hs hne
  · rw [hsame]
    exact .refl other store

/-! ## Reading -/

namespace Store.SameFor

variable {shop : String} {store other : Store}

theorem destination? (h : store.SameFor shop other) (id : String) :
    store.destination? shop id = other.destination? shop id := by
  unfold Store.destination?
  rw [← Table.find?_ofShop store.destinations, h.destinations, Table.find?_ofShop]

theorem rule? (h : store.SameFor shop other) (id : String) :
    store.rule? shop id = other.rule? shop id := by
  unfold Store.rule?
  rw [← Table.find?_ofShop store.rules, h.rules, Table.find?_ofShop]

theorem listDestinations (h : store.SameFor shop other) :
    store.listDestinations shop = other.listDestinations shop := by
  unfold Store.listDestinations
  rw [h.destinations]

theorem listRules (h : store.SameFor shop other) (activeOnly : Bool) :
    store.listRules shop activeOnly = other.listRules shop activeOnly := by
  unfold Store.listRules
  rw [h.rules]

theorem loadDestinations (h : store.SameFor shop other) :
    store.loadDestinations shop = other.loadDestinations shop := by
  unfold Store.loadDestinations
  rw [h.listDestinations]

theorem loadRules (h : store.SameFor shop other) (destinations : List Destination)
    (activeOnly : Bool) :
    store.loadRules shop destinations activeOnly =
      other.loadRules shop destinations activeOnly := by
  unfold Store.loadRules
  rw [h.listRules]

theorem snapshot (h : store.SameFor shop other) (activeOnly : Bool) :
    store.snapshot shop activeOnly = other.snapshot shop activeOnly := by
  unfold Store.snapshot
  simp only [h.loadDestinations, h.loadRules]

/-- **Routing reads the rows of the shop, and no others.** -/
theorem route (h : store.SameFor shop other) (context : Context) (requestId : Option String) :
    store.route shop context requestId = other.route shop context requestId := by
  unfold Store.route
  rw [h.snapshot]

theorem validate (h : store.SameFor shop other) : store.validate shop = other.validate shop := by
  unfold Store.validate
  rw [h.snapshot]

end Store.SameFor

namespace Operation

theorem perform_validate (fresh : Stamp) (shop : String) (store : Store) :
    (validate shop).perform fresh store = (checkingReply store shop, store) :=
  session_checking shop store

theorem perform_reading {fresh : Stamp} {operation : Operation} {answer : Store → Answer}
    (hrun : operation.run fresh = reading answer) {store other : Store}
    (h : answer store = answer other) :
    (operation.perform fresh store).1 = (operation.perform fresh other).1 ∧
      (operation.perform fresh store).2 = store ∧ (operation.perform fresh other).2 = other := by
  unfold perform
  rw [hrun, session_reading, session_reading, h]
  exact ⟨rfl, rfl, rfl⟩

/-- What comes of deciding is told by what comes of routing. -/
theorem perform_deciding {fresh : Stamp} {shop : String} {operation : Operation}
    {context : Except AccessFault Context} {requestId : Option String} {answer : Decision → Answer}
    (hrun : operation.run fresh = deciding shop context requestId answer) {store other : Store}
    (h : ∀ context requestId,
      store.route shop context requestId = other.route shop context requestId) :
    (operation.perform fresh store).1 = (operation.perform fresh other).1 ∧
      (operation.perform fresh store).2 = store ∧ (operation.perform fresh other).2 = other := by
  unfold perform
  rw [hrun, session_deciding, session_deciding]
  refine ⟨?_, rfl, rfl⟩
  unfold decidingReply
  simp only [h]

/-- **What only reads answers by the rows of its shop**, and leaves the store. -/
theorem perform_of_not_writes {operation : Operation} (hw : operation.writes = false)
    {store other : Store} (h : store.SameFor operation.shop other) (fresh : Stamp) :
    (operation.perform fresh store).1 = (operation.perform fresh other).1 ∧
      (operation.perform fresh store).2 = store ∧ (operation.perform fresh other).2 = other := by
  cases operation with
  | createDestination | updateDestination | deleteDestination | createRule | updateRule
  | deleteRule => cases hw
  | getDestination shop id =>
    exact perform_reading rfl (congrArg Answer.destination (h.destination? id))
  | getDefault shop =>
    refine perform_reading rfl (congrArg Answer.destination ?_)
    exact congrArg (List.find? (·.isDefault)) h.destinations
  | listDestinations shop =>
    exact perform_reading rfl (congrArg Answer.destinations h.listDestinations)
  | destinationsById shop =>
    exact perform_reading rfl (congrArg Answer.destinations (Table.byId_congr h.destinations))
  | loadDestinations shop =>
    exact perform_reading rfl (congrArg Answer.loadedDestinations h.loadDestinations)
  | getRule shop id => exact perform_reading rfl (congrArg Answer.rule (h.rule? id))
  | listRules shop activeOnly =>
    exact perform_reading rfl (congrArg Answer.rules (h.listRules activeOnly))
  | rulesById shop =>
    exact perform_reading rfl (congrArg Answer.rules (Table.byId_congr h.rules))
  | loadRules shop destinations activeOnly =>
    exact perform_reading rfl (congrArg Answer.loadedRules (h.loadRules destinations activeOnly))
  | route shop context requestId => exact perform_deciding rfl h.route
  | chooseDestination shop context =>
    have hrun : (chooseDestination shop context).run fresh =
        deciding shop context none fun decision => .chosen decision.destination := rfl
    exact perform_deciding hrun h.route
  | validate shop =>
    have hsame : store.validate shop = other.validate shop := h.validate
    rw [perform_validate, perform_validate, checkingReply, checkingReply, hsame]
    exact ⟨rfl, rfl, rfl⟩
  | snapshot shop activeOnly =>
    exact perform_reading rfl (congrArg Answer.snapshot (h.snapshot activeOnly))

end Operation

end Disposition
