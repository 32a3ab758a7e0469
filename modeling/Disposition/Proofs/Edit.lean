import Disposition.Proofs.Routing

/-!
# What edits of a configuration do to decisions

A decision rests on the rule that made it and on the destination that it names, or on the default.
As long as an edit leaves those alone and brings in no rule and no destination, it leaves the
decision: what it takes away was behind the rule that decided, or it could not decide at all.

Results:
* `decided_eq_ok_iff`: a decision in terms of the rows.
* `Decides.narrow`: a store with fewer rules and fewer destinations decides alike if it has those
  that the decision rests on.
* `Decides.relabel`: a store whose destinations differ in all but their names sends a return to the
  destination of the same identifier, if a rule decided.
* `edits_are_local`: deletions, deactivations, and moves of the default.
-/

namespace Disposition

/-- The data of a change takes a rule out of use. -/
def Data.deactivates (data : Data) : Bool :=
  (data.lookup "is_active").bind Cell.flag? = some false

theorem RuleRow.ChangedBy.isActive_of_deactivates {row after : RuleRow} {data : Data}
    (h : row.ChangedBy data after) (hd : data.deactivates = true) : after.isActive = false := by
  obtain ⟨cell, hl, hflag⟩ := Option.bind_eq_some_iff.mp (of_decide_eq_true hd)
  have hactive := Data.flag_of_turns h.isActive
  rw [hl] at hactive
  exact hactive.trans (Cell.isTruthy_of_flag? hflag)

namespace Store

variable {store after : Store} {shop : String} {context : Context} {requestId : Option String}
  {decision : Decision}

/-! ## Decisions -/

/-- The decision on a return of a shop, without the events. -/
def decided (store : Store) (shop : String) (context : Context) (requestId : Option String) :
    Except PriorityFault Decision :=
  (store.route shop context requestId).map Prod.fst

/-- The identifier of the destination that a return of a shop gets. -/
def chosen (store : Store) (shop : String) (context : Context) (requestId : Option String) :
    Except PriorityFault (Option String) :=
  (store.decided shop context requestId).map fun decision => decision.destination.map (·.id)

/-- **The decision in terms of the rows.** -/
theorem decided_eq_ok_iff (hs : store.Sound) (hone : store.OneDefault) :
    store.decided shop context requestId = .ok decision ↔
      store.Comparable shop ∧ store.Decides shop context requestId decision := by
  unfold decided
  constructor
  · intro h
    by_cases hc : store.Comparable shop
    · obtain ⟨made, events, hroute, hdecides⟩ := route_of_comparable hs hone hc context requestId
      rw [hroute] at h
      cases h
      exact ⟨hc, hdecides⟩
    · obtain ⟨row, -, -, -, -, hroute⟩ := route_of_not_comparable hc context requestId
      rw [hroute] at h
      cases h
  · rintro ⟨hc, h⟩
    obtain ⟨made, events, hroute, hdecides⟩ := route_of_comparable hs hone hc context requestId
    rw [hroute, hdecides.unique hs h]
    rfl

/-- Whether there is a decision depends on the rules alone. -/
theorem decided_error_congr (hrules : after.rules = store.rules) {fault : PriorityFault}
    (h : store.decided shop context requestId = .error fault) :
    after.decided shop context requestId = .error fault := by
  have hlist : after.listRules shop true = store.listRules shop true := by
    unfold listRules
    rw [hrules]
  unfold decided at h ⊢
  rw [route_eq] at h ⊢
  rw [hlist]
  cases hcheck : Priority.check ((store.listRules shop true).map (·.priority)) with
  | ok _ =>
    rw [hcheck] at h
    cases h
  | error other =>
    rw [hcheck] at h
    exact h

/-- Rules that can be put in order still can be when some of them are gone. -/
theorem Comparable.narrow (h : store.Comparable shop)
    (hrules : ∀ row ∈ after.rules, row.shop = shop → row.isActive = true → row ∈ store.rules) :
    after.Comparable shop := by
  have hmem : ∀ p ∈ ((Table.ofShop after.rules shop).filter (·.isActive)).map (·.priority),
      p ∈ ((Table.ofShop store.rules shop).filter (·.isActive)).map (·.priority) := by
    intro p hp
    obtain ⟨row, hrow, rfl⟩ := List.mem_map.mp hp
    obtain ⟨hrow, hactive⟩ := List.mem_filter.mp hrow
    obtain ⟨hrow, hshop⟩ := Table.mem_ofShop.mp hrow
    exact List.mem_map_of_mem (List.mem_filter.mpr
      ⟨Table.mem_ofShop.mpr ⟨hrules row hrow hshop hactive, hshop⟩, hactive⟩)
  exact fun p hp q hq => h p (hmem p hp) q (hmem q hq)

/-! ## Fewer rules and destinations -/

/-- **What a decision does not rest on can be taken away.** -/
theorem Decides.narrow (h : store.Decides shop context requestId decision)
    (hrules : ∀ row ∈ after.rules, row.shop = shop → row.isActive = true → row ∈ store.rules)
    (hplaces : ∀ place ∈ after.destinations, place.shop = shop → place ∈ store.destinations)
    (hrule : ∀ row ∈ store.rules, decision.matchedRule.map (·.id) = some row.id →
      row ∈ after.rules)
    (hplace : ∀ place ∈ store.destinations, decision.destination.map (·.id) = some place.id →
      place ∈ after.destinations) :
    after.Decides shop context requestId decision := by
  have hcandidate : ∀ row place, after.Candidate shop context row place →
      store.Candidate shop context row place := fun row place hc =>
    { hc with
      hasRule := hrules row hc.hasRule hc.ruleShop hc.active
      hasPlace := hplaces place hc.hasPlace hc.placeShop }
  have hdefault : ∀ place, after.IsDefault shop place → store.IsDefault shop place :=
    fun place hd => { hd with hasPlace := hplaces place hd.hasPlace hd.placeShop }
  cases h with
  | @byRule row place h hleast =>
    exact .byRule
      { h with hasRule := hrule row h.hasRule rfl, hasPlace := hplace place h.hasPlace rfl }
      fun other otherPlace ho => hleast other otherPlace (hcandidate other otherPlace ho)
  | @byDefault place hnone h honly =>
    exact .byDefault (fun row place hc => hnone row place (hcandidate row place hc))
      { h with hasPlace := hplace place h.hasPlace rfl }
      fun other ho => honly other (hdefault other ho)
  | byNone hnone hno =>
    exact .byNone (fun row place hc => hnone row place (hcandidate row place hc))
      fun place hd => hno place (hdefault place hd)

/-! ## Other destinations of the same names -/

/-- **The destination that a rule chose is chosen again** when the destinations are changed in all
but their names, and those are added that no rule of the shop names. -/
theorem Decides.relabel (h : store.Decides shop context requestId decision)
    (husedDefault : decision.usedDefault = false) (hrouted : decision.isRouted = true)
    {f : DestinationRow → DestinationRow} {added : List DestinationRow}
    (hkeeps : Table.Keeps store.destinations f)
    (hadded : ∀ row ∈ store.rules, row.shop = shop → ∀ place ∈ added, place.id ≠ row.destinationId)
    (hrules : after.rules = store.rules)
    (hplaces : after.destinations = store.destinations.map f ++ added) :
    ∃ later, after.Decides shop context requestId later ∧
      later.destination.map (·.id) = decision.destination.map (·.id) := by
  cases h with
  | @byRule row place h hleast =>
    have hid : (f place).id = place.id := hkeeps.id h.hasPlace
    have hshop : (f place).shop = place.shop := hkeeps.shop h.hasPlace
    have hmem : f place ∈ after.destinations :=
      hplaces ▸ List.mem_append_left _ (List.mem_map_of_mem h.hasPlace)
    have hcandidate : after.Candidate shop context row (f place) :=
      { h with
        hasRule := hrules ▸ h.hasRule
        hasPlace := hmem
        placeShop := hshop.trans h.placeShop
        named := hid.trans h.named }
    refine ⟨_, .byRule hcandidate fun other otherPlace ho => ?_, congrArg some hid⟩
    have hother : other ∈ store.rules := hrules ▸ ho.hasRule
    rcases List.mem_append.mp (hplaces ▸ ho.hasPlace) with hp | hp
    · obtain ⟨old, hold, rfl⟩ := List.mem_map.mp hp
      exact hleast other old
        { ho with
          hasRule := hother
          hasPlace := hold
          placeShop := (hkeeps.shop hold).symm.trans ho.placeShop
          named := (hkeeps.id hold).symm.trans ho.named }
    · exact absurd ho.named (hadded other hother ho.ruleShop otherPlace hp)
  | byDefault => cases husedDefault
  | byNone => cases hrouted

/-! ## Edits -/

section Edits

variable (hr : store.Reachable) (owner id : String) (fresh : Stamp) (data : Data)

include hr

theorem decided_of_narrow (hafter : after.Reachable)
    (h : store.decided shop context requestId = .ok decision)
    (hrules : ∀ row ∈ after.rules, row.shop = shop → row.isActive = true → row ∈ store.rules)
    (hplaces : ∀ place ∈ after.destinations, place.shop = shop → place ∈ store.destinations)
    (hrule : ∀ row ∈ store.rules, decision.matchedRule.map (·.id) = some row.id →
      row ∈ after.rules)
    (hplace : ∀ place ∈ store.destinations, decision.destination.map (·.id) = some place.id →
      place ∈ after.destinations) :
    after.decided shop context requestId = .ok decision := by
  obtain ⟨hc, hdecides⟩ := (decided_eq_ok_iff hr.sound hr.oneDefault).mp h
  exact (decided_eq_ok_iff hafter.sound hafter.oneDefault).mpr
    ⟨hc.narrow hrules, hdecides.narrow hrules hplaces hrule hplace⟩

/-- A deleted destination changes no decision for another one. -/
theorem decided_deleteDestination
    (h : ∀ decision, store.decided shop context requestId = .ok decision →
      decision.destination.map (·.id) ≠ some id) :
    (store.next ⟨fresh, .deleteDestination owner id⟩).decided shop context requestId =
      store.decided shop context requestId := by
  have hafter := hr.step fresh (.deleteDestination owner id)
  have hrules : (store.next ⟨fresh, .deleteDestination owner id⟩).rules = store.rules := by
    rw [next, Operation.perform_deleteDestination]
  cases hbefore : store.decided shop context requestId with
  | error fault => exact decided_error_congr hrules hbefore
  | ok decision =>
    unfold next
    rw [Operation.perform_deleteDestination] at hafter ⊢
    refine decided_of_narrow hr hafter hbefore (fun row hrow _ _ => hrow)
      (fun place hplace _ => (Table.mem_erase.mp hplace).1) (fun row hrow _ => hrow) ?_
    intro place hplace hdestination
    refine Table.mem_erase.mpr ⟨hplace, fun hnamed => h decision hbefore ?_⟩
    exact hdestination.trans (congrArg some hnamed.1)

/-- A deleted rule changes no decision of another one. -/
theorem decided_deleteRule (h : store.decided shop context requestId = .ok decision)
    (hrule : decision.matchedRule.map (·.id) ≠ some id) :
    (store.next ⟨fresh, .deleteRule owner id⟩).decided shop context requestId = .ok decision := by
  have hafter := hr.step fresh (.deleteRule owner id)
  unfold next
  rw [Operation.perform_deleteRule] at hafter ⊢
  refine decided_of_narrow hr hafter h (fun row hrow _ _ => (Table.mem_erase.mp hrow).1)
    (fun place hplace _ => hplace) (fun row hrow hmatched => ?_) (fun place hplace _ => hplace)
  exact Table.mem_erase.mpr ⟨hrow, fun hnamed => hrule (hmatched.trans (congrArg some hnamed.1))⟩

/-- A rule that is taken out of use changes no decision of another one. -/
theorem decided_deactivateRule (h : store.decided shop context requestId = .ok decision)
    (hrule : decision.matchedRule.map (·.id) ≠ some id) (hd : data.deactivates = true) :
    (store.next ⟨fresh, .updateRule owner id data⟩).decided shop context requestId =
      .ok decision := by
  have hafter := hr.step fresh (.updateRule owner id data)
  unfold next
  rw [Operation.perform_updateRule] at hafter ⊢
  cases hold : store.rule? owner id with
  | none => exact h
  | some old =>
    rw [hold] at hafter
    simp only at hafter ⊢
    cases hrow : data.amend (old.patch data) with
    | error fault => exact h
    | ok row =>
      rw [hrow] at hafter
      simp only at hafter ⊢
      obtain ⟨hm, hid, -⟩ := Table.find?_some hold
      have hpatch := Data.amend_ok hrow
      have hsame : row.id = old.id := congrArg Prod.fst (RuleRow.patch_ok hpatch).1
      have hinactive :=
        (RuleRow.patch_ok hpatch).2.2.isActive_of_deactivates hd
      refine decided_of_narrow hr hafter h (fun other ho _ hactive => ?_)
        (fun place hplace _ => hplace) (fun other ho hmatched => ?_) (fun place hplace _ => hplace)
      · rcases (Table.mem_replace hm hsame).mp ho with rfl | ⟨ho, -⟩
        · rw [hinactive] at hactive
          cases hactive
        · exact ho
      · refine (Table.mem_replace hm hsame).mpr (.inr ⟨ho, fun he => hrule ?_⟩)
        exact hmatched.trans (congrArg some (he.trans (hsame.trans hid)))

theorem chosen_of_relabel (hafter : after.Reachable)
    (h : ∀ decision, store.decided shop context requestId = .ok decision →
      decision.usedDefault = false ∧ decision.isRouted = true)
    {f : DestinationRow → DestinationRow} {added : List DestinationRow}
    (hkeeps : Table.Keeps store.destinations f)
    (hadded : ∀ row ∈ store.rules, row.shop = shop → ∀ place ∈ added, place.id ≠ row.destinationId)
    (hrules : after.rules = store.rules)
    (hplaces : after.destinations = store.destinations.map f ++ added) :
    after.chosen shop context requestId = store.chosen shop context requestId := by
  unfold chosen
  cases hbefore : store.decided shop context requestId with
  | error fault => rw [decided_error_congr hrules hbefore]
  | ok decision =>
    obtain ⟨hc, hdecides⟩ := (decided_eq_ok_iff hr.sound hr.oneDefault).mp hbefore
    obtain ⟨husedDefault, hrouted⟩ := h decision hbefore
    obtain ⟨later, hlater, hid⟩ :=
      hdecides.relabel husedDefault hrouted hkeeps hadded hrules hplaces
    have hcomparable : after.Comparable shop :=
      hc.narrow fun row hrow _ _ => hrules ▸ hrow
    rw [(decided_eq_ok_iff hafter.sound hafter.oneDefault).mpr ⟨hcomparable, hlater⟩]
    exact congrArg Except.ok hid

/-- A changed destination changes no choice of a rule. -/
theorem chosen_updateDestination
    (h : ∀ decision, store.decided shop context requestId = .ok decision →
      decision.usedDefault = false ∧ decision.isRouted = true) :
    (store.next ⟨fresh, .updateDestination owner id data⟩).chosen shop context requestId =
      store.chosen shop context requestId := by
  have hafter : (store.next ⟨fresh, .updateDestination owner id data⟩).Reachable := hr.step fresh _
  have hstep := store.next_cases ⟨fresh, .updateDestination owner id data⟩
  generalize (store.answered ⟨fresh, .updateDestination owner id data⟩).reply = reply at hstep
  generalize store.next ⟨fresh, .updateDestination owner id data⟩ = later at *
  rcases hstep with hwrote | ⟨hsame, -⟩
  · cases hwrote with
    | @changedDestination _ _ _ _ row hold hkey hsame hflag =>
      have hkeeps : Table.Keeps store.destinations (DestinationRow.settle data owner id row) :=
        DestinationRow.settle_keeps hr.sound.destinations hold hkey hsame
      have hplaces := DestinationRow.replace_giveWay data owner id row store.destinations
      exact chosen_of_relabel hr hafter h hkeeps
        (fun _ _ _ _ hplace => absurd hplace List.not_mem_nil) rfl
        (hplaces.trans (List.append_nil _).symm)
  · rw [hsame]

/-- A new destination changes no choice of a rule, if no rule of the shop names it. -/
theorem chosen_createDestination
    (h : ∀ decision, store.decided shop context requestId = .ok decision →
      decision.usedDefault = false ∧ decision.isRouted = true)
    (hnew : ∀ row ∈ store.rules, row.shop = shop →
      data.newId .destinations fresh ≠ .ok row.destinationId) :
    (store.next ⟨fresh, .createDestination owner data⟩).chosen shop context requestId =
      store.chosen shop context requestId := by
  have hafter : (store.next ⟨fresh, .createDestination owner data⟩).Reachable := hr.step fresh _
  have hstep := store.next_cases ⟨fresh, .createDestination owner data⟩
  generalize (store.answered ⟨fresh, .createDestination owner data⟩).reply = reply at hstep
  generalize store.next ⟨fresh, .createDestination owner data⟩ = later at *
  rcases hstep with hwrote | ⟨hsame, -⟩
  · cases hwrote with
    | madeDestination hshop hflag hid _ =>
      refine chosen_of_relabel hr hafter h (DestinationRow.giveWay_keeps data owner none _)
        (fun row hrow hs place hplace he => ?_) rfl rfl
      rw [List.mem_singleton.mp hplace] at he
      exact hnew row hrow hs (he ▸ hid)
  · rw [hsame]

end Edits

end Store

open Store

/-- **Edits are local.** In a reachable store the decision on a return stays the same when

* a destination is deleted that is not the one decided for,
* a rule is deleted or taken out of use that did not decide;

and the destination that is chosen stays the same, if a rule decided, whatever is changed of the
destinations, the default among it, and whatever destination is made, unless a rule of the shop
names it already. -/
theorem edits_are_local {store : Store} (hr : store.Reachable) (shop : String) (context : Context)
    (requestId : Option String) :
    (∀ owner id fresh,
        (∀ decision, store.decided shop context requestId = .ok decision →
          decision.destination.map (·.id) ≠ some id) →
        (store.next ⟨fresh, .deleteDestination owner id⟩).decided shop context requestId =
          store.decided shop context requestId) ∧
      (∀ owner id fresh decision, store.decided shop context requestId = .ok decision →
        decision.matchedRule.map (·.id) ≠ some id →
          (store.next ⟨fresh, .deleteRule owner id⟩).decided shop context requestId =
              .ok decision ∧
            ∀ data : Data, data.deactivates = true →
              (store.next ⟨fresh, .updateRule owner id data⟩).decided shop context requestId =
                .ok decision) ∧
      ((∀ decision, store.decided shop context requestId = .ok decision →
          decision.usedDefault = false ∧ decision.isRouted = true) →
        ∀ owner fresh data,
          (∀ id, (store.next ⟨fresh, .updateDestination owner id data⟩).chosen shop context
              requestId = store.chosen shop context requestId) ∧
            ((∀ row ∈ store.rules, row.shop = shop →
                data.newId .destinations fresh ≠ .ok row.destinationId) →
              (store.next ⟨fresh, .createDestination owner data⟩).chosen shop context requestId =
                store.chosen shop context requestId)) :=
  ⟨fun owner id fresh h => decided_deleteDestination hr owner id fresh h,
    fun owner id fresh _ h hrule => ⟨decided_deleteRule hr owner id fresh h hrule,
      fun data hd => decided_deactivateRule hr owner id fresh data h hrule hd⟩,
    fun h owner fresh data => ⟨fun id => chosen_updateDestination hr owner id fresh data h,
      fun hnew => chosen_createDestination hr owner fresh data h hnew⟩⟩

namespace Store

/-- A shop with two destinations, the second of which is the default, and two rules to the first. -/
def twoRules : List Step :=
  [⟨.named "", .createDestination "acme" (.ofPlace "d1" false)⟩,
    ⟨.named "", .createDestination "acme" (.ofPlace "d2" true)⟩,
    ⟨.named "", .createRule "acme" (.ofShoes "r1" (.integer 1) "d1")⟩,
    ⟨.named "", .createRule "acme" (.ofShoes "r2" (.integer 2) "d1")⟩]

/-- The first rule decides. -/
theorem decided_twoRules :
    ∃ decision, (Store.after {} twoRules).decided "acme" ofShoes none = .ok decision ∧
      decision.destination.map (·.id) = some "d1" ∧
      decision.matchedRule.map (·.id) = some "r1" ∧ decision.usedDefault = false := by
  have hreach := Reachable.empty.after twoRules
  have hfirst : ∀ row ∈ (Store.after {} twoRules).rules,
      (Store.after {} twoRules).rules.head!.triedBefore row = true := by decide +kernel
  have hcandidate : (Store.after {} twoRules).Candidate "acme" ofShoes
      (Store.after {} twoRules).rules.head! (Store.after {} twoRules).destinations.head! := by
    constructor <;> decide +kernel
  exact ⟨_, (decided_eq_ok_iff hreach.sound hreach.oneDefault).mpr ⟨by decide +kernel,
    .byRule hcandidate fun row _ h => RuleRow.triedBefore_iff.mp (hfirst row h.hasRule)⟩,
    by decide +kernel, by decide +kernel, rfl⟩

/-- The other destination can be deleted, the other rule can be deleted or taken out of use, and the
default can be moved to the first destination or to a new one. -/
theorem edits_are_local_twoRules :
    ∃ decision, (Store.after {} twoRules).decided "acme" ofShoes none = .ok decision ∧
      ((Store.after {} twoRules).next ⟨.named "", .deleteDestination "acme" "d2"⟩).decided "acme"
          ofShoes none = .ok decision ∧
      ((Store.after {} twoRules).next ⟨.named "", .deleteRule "acme" "r2"⟩).decided "acme" ofShoes
          none = .ok decision ∧
      ((Store.after {} twoRules).next
          ⟨.named "", .updateRule "acme" "r2" [("is_active", .flag false)]⟩).decided "acme" ofShoes
          none = .ok decision ∧
      ((Store.after {} twoRules).next
          ⟨.named "", .updateDestination "acme" "d1" [("is_default", .flag true)]⟩).chosen "acme"
          ofShoes none = .ok (decision.destination.map (·.id)) ∧
      ((Store.after {} twoRules).next
          ⟨.named "", .createDestination "acme" (.ofPlace "d3" true)⟩).chosen "acme" ofShoes none =
        .ok (decision.destination.map (·.id)) := by
  obtain ⟨decision, hok, hplace, hrule, hdefault⟩ := decided_twoRules
  have hreach := Reachable.empty.after twoRules
  have hchosen : (Store.after {} twoRules).chosen "acme" ofShoes none =
      .ok (decision.destination.map (·.id)) := by
    rw [chosen, hok]
    rfl
  have hall : ∀ other, (Store.after {} twoRules).decided "acme" ofShoes none = .ok other →
      other = decision := fun other h => Except.ok.inj (h.symm.trans hok)
  have hplaces := (edits_are_local hreach "acme" ofShoes none).1 "acme" "d2" (.named "")
    fun other h => by
      rw [hall other h, hplace]
      decide
  have hrules := (edits_are_local hreach "acme" ofShoes none).2.1 "acme" "r2" (.named "") decision
    hok (by rw [hrule]; decide)
  have hmoved := (edits_are_local hreach "acme" ofShoes none).2.2 (fun other h => by
    obtain ⟨place, hsome, -⟩ := Option.map_eq_some_iff.mp hplace
    rw [hall other h]
    exact ⟨hdefault, Option.isSome_of_eq_some hsome⟩) "acme" (.named "")
  exact ⟨decision, hok, hplaces.trans hok, hrules.1, hrules.2 _ (by decide +kernel),
    ((hmoved _).1 "d1").trans hchosen, ((hmoved _).2 (by decide +kernel)).trans hchosen⟩

end Store

end Disposition
