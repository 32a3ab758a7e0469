import Disposition.Proofs.Routing

/-!
# One order of rules

The order of rules is there twice. The store lists the rules of a shop by priority, time and
identifier, all of them or the active ones; routing picks the active ones of the rules that it is
given and puts them in order by their priority alone, with ties left as they come. Both come to the
same: no two rules have the same place in the first order, and the second one finds its rules in
order. So it makes no difference to routing whether it is given all rules of a shop or the active
ones.

Priorities of both kinds cannot be compared. That they cannot is found out in the same order, too,
and so it is the same two that cannot.

Results:
* `RuleRow.eq_of_sorted`: rules that differ in their identifiers have one order.
* `Store.filter_listRules`: the active rules of a listing are the listing of the active rules.
* `Store.arranged_loadRules`, `Store.checkPriorities_loadRules`: what routing makes of the
  rules that it is given.
* `Store.activeOnly_sameOrder_sameDecision`: routing gets the same order and the same decisions from
  all rules as from the active ones.
-/

namespace Disposition

/-- **Rules that differ in their identifiers have one order.** -/
theorem RuleRow.eq_of_sorted {rows others : List RuleRow} (hd : Table.Distinct rows)
    (hp : rows.Perm others) (hs : rows.Pairwise Precedes) (ho : others.Pairwise Precedes) :
    rows = others :=
  hd.eq_of_pairwise (fun hle hge => hle.antisymm hge) hp hs ho

/-- A decision depends on the rules for the active ones in order, and on the destinations for the
default. -/
theorem Decision.reached_congr {rules others : List Rule}
    {destinations otherDestinations : List Destination}
    (h : Rule.arranged rules = Rule.arranged others)
    (hd : Destination.default? destinations = Destination.default? otherDestinations)
    (context : Context) (requestId : Option String) :
    reached rules destinations context requestId =
      reached others otherDestinations context requestId := by
  unfold reached ofRule? ofDefault Rule.choice
  rw [h, hd]

/-- The decision on a return by a configuration, with its events. -/
def Snapshot.resolve (snapshot : Snapshot) (context : Context) (requestId : Option String) :
    Except PriorityFault (Decision × List Event) :=
  Decision.resolve snapshot.rules snapshot.destinations context requestId

namespace Store

variable {store : Store}

/-- **The active rules of a listing are the listing of the active rules.** -/
theorem filter_listRules (hs : store.Sound) (shop : String) (activeOnly : Bool) :
    (store.listRules shop activeOnly).filter (·.isActive) = store.listRules shop true := by
  -- both are in order, so it is enough that they hold the same rows
  have hperm : ((store.listRules shop activeOnly).filter (·.isActive)).Perm
      (store.listRules shop true) := by
    refine ((listRules_perm store shop activeOnly).filter _).trans (.trans (.of_eq ?_)
      (listRules_perm store shop true).symm)
    rw [List.filter_filter]
    refine List.filter_congr fun row _ => ?_
    cases row.isActive <;> cases activeOnly <;> rfl
  exact RuleRow.eq_of_sorted ((hs.distinct_listRules shop true).perm hperm) hperm
    ((listRules_sorted activeOnly).filter _) (listRules_sorted true)

section Loaded

variable (hs : store.Sound) (shop : String) (destinations : List Destination) (activeOnly : Bool)

include hs

theorem filter_loadRules :
    (store.loadRules shop destinations activeOnly).filter (·.isActive) =
      store.loadRules shop destinations true := by
  unfold loadRules
  rw [← filter_listRules hs shop activeOnly, List.filter_map]
  rfl

/-- **Routing tries the rules of a shop as they are listed.** -/
theorem arranged_loadRules :
    Rule.arranged (store.loadRules shop destinations activeOnly) =
      store.loadRules shop destinations true := by
  unfold Rule.arranged
  rw [filter_loadRules hs]
  exact List.mergeSort_of_pairwise (List.pairwise_map.mpr ((listRules_sorted true).imp And.left))

/-- **Routing compares the priorities of the active rules** as they are listed. -/
theorem checkPriorities_loadRules :
    Rule.checkPriorities (store.loadRules shop destinations activeOnly) =
      Priority.check ((store.listRules shop true).map (·.priority)) := by
  unfold Rule.checkPriorities
  rw [filter_loadRules hs, loadRules, List.map_map]
  rfl

theorem activeInOrder_loadRules :
    Rule.activeInOrder (store.loadRules shop destinations activeOnly) =
      (Priority.check ((store.listRules shop true).map (·.priority))).map fun _ =>
        store.loadRules shop destinations true := by
  rw [Rule.activeInOrder_eq, checkPriorities_loadRules hs, arranged_loadRules hs]

omit destinations in
theorem resolve_snapshot (context : Context) (requestId : Option String) :
    (store.snapshot shop activeOnly).resolve context requestId =
      (Priority.check ((store.listRules shop true).map (·.priority))).map fun _ =>
        Decision.reached (store.snapshot shop true).rules (store.loadDestinations shop) context
          requestId := by
  have hsame : Rule.arranged (store.snapshot shop activeOnly).rules =
      Rule.arranged (store.snapshot shop true).rules :=
    (arranged_loadRules hs shop _ activeOnly).trans
      (arranged_loadRules hs shop _ true).symm
  have hcheck : Rule.checkPriorities (store.snapshot shop activeOnly).rules =
      Priority.check ((store.listRules shop true).map (·.priority)) :=
    checkPriorities_loadRules hs shop _ activeOnly
  rw [Snapshot.resolve, Decision.resolve_eq, hcheck, Decision.reached_congr hsame rfl]
  rfl

end Loaded

/-- **Routing gets the same from all rules of a shop and from the active ones.** In a reachable
store the active ones of all rules, in the order in which they are tried, are the active rules as
they are listed; those are in order already; and every decision on them and its events are the same.
If the priorities of the active rules are numbers and texts, there is no order and no decision,
whichever are asked for, and the fault is the same. -/
theorem activeOnly_sameOrder_sameDecision (hr : store.Reachable) (shop : String) :
    (store.Comparable shop →
        (∀ destinations activeOnly,
          Rule.activeInOrder (store.loadRules shop destinations activeOnly) =
            .ok (store.loadRules shop destinations true)) ∧
        ∀ context requestId, ∃ decision events, ∀ activeOnly,
          (store.snapshot shop activeOnly).resolve context requestId = .ok (decision, events)) ∧
      (¬store.Comparable shop →
        ∃ row ∈ store.rules, row.shop = shop ∧ row.isActive = true ∧ row.priority.isText = false ∧
          (∀ destinations activeOnly,
            Rule.activeInOrder (store.loadRules shop destinations activeOnly) =
              .error ⟨.text, row.priority.kind⟩) ∧
          ∀ context requestId activeOnly,
            (store.snapshot shop activeOnly).resolve context requestId =
              .error ⟨.text, row.priority.kind⟩) := by
  constructor
  · intro h
    have hcheck := Priority.check_eq_ok_iff.mpr ((uniform_listRules store shop).mpr h)
    refine ⟨fun destinations activeOnly => ?_, fun context requestId => ?_⟩
    · rw [activeInOrder_loadRules hr.sound, hcheck]
      rfl
    · rcases hd : Decision.reached (store.snapshot shop true).rules (store.loadDestinations shop)
        context requestId with ⟨decision, events⟩
      refine ⟨decision, events, fun activeOnly => ?_⟩
      rw [resolve_snapshot hr.sound, hcheck, hd]
      rfl
  · intro h
    obtain ⟨row, hm, hshop, hactive, htext, hcheck⟩ := check_of_not_comparable h
    refine ⟨row, hm, hshop, hactive, htext, fun destinations activeOnly => ?_,
      fun context requestId activeOnly => ?_⟩
    · rw [activeInOrder_loadRules hr.sound, hcheck]
      rfl
    · rw [resolve_snapshot hr.sound, hcheck]
      rfl

/-- Rules of the same priority, an inactive one among them, come to the active ones and to the same
decision; and with a text among the priorities there is no order. -/
theorem activeOnly_sameOrder_sameDecision_mixedPriorities :
    ((∀ destinations activeOnly,
        Rule.activeInOrder
            ((Store.after {} tiedPriorities).loadRules "acme" destinations activeOnly) =
          .ok ((Store.after {} tiedPriorities).loadRules "acme" destinations true)) ∧
      ∃ decision events, decision.matchedRule.map (·.id) = some "r3" ∧
        ∀ activeOnly, ((Store.after {} tiedPriorities).snapshot "acme" activeOnly).resolve ofShoes
          none = .ok (decision, events)) ∧
      ∃ row ∈ (Store.after {} mixedPriorities).rules,
        row.shop = "acme" ∧ row.isActive = true ∧ row.priority.isText = false ∧
          (∀ destinations activeOnly,
            Rule.activeInOrder
                ((Store.after {} mixedPriorities).loadRules "acme" destinations activeOnly) =
              .error ⟨.text, row.priority.kind⟩) ∧
          ∀ context requestId activeOnly,
            ((Store.after {} mixedPriorities).snapshot "acme" activeOnly).resolve context
              requestId = .error ⟨.text, row.priority.kind⟩ := by
  have hr : (Store.after {} tiedPriorities).Reachable := Reachable.empty.after tiedPriorities
  have hcomparable : (Store.after {} tiedPriorities).Comparable "acme" := by decide +kernel
  obtain ⟨hlisted, hresolved⟩ := (activeOnly_sameOrder_sameDecision hr "acme").1 hcomparable
  obtain ⟨decision, events, hboth⟩ := hresolved ofShoes none
  obtain ⟨expected, hexpected, hrule, -⟩ := decides_tiedPriorities
  -- what is resolved is what is reached, and that is what decides
  have hreached := hboth true
  rw [resolve_snapshot hr.sound,
    Priority.check_eq_ok_iff.mpr ((uniform_listRules _ _).mpr hcomparable)] at hreached
  have hdecides : Store.Decides _ "acme" ofShoes none _ :=
    decides_reached hr.sound hr.oneDefault ofShoes none
  have hsame : expected = decision :=
    (hexpected.unique hr.sound hdecides).symm.trans (congrArg Prod.fst (Except.ok.inj hreached))
  rw [hsame] at hrule
  exact ⟨⟨hlisted, decision, events, hrule, hboth⟩,
    (activeOnly_sameOrder_sameDecision (Reachable.empty.after mixedPriorities) "acme").2
      (by decide +kernel)⟩

/-- Not in every reachable store all rules of a shop come to its active ones: there need not be an
order. -/
theorem not_forall_activeOnly_sameOrder :
    ¬∀ store : Store, store.Reachable → ∀ (shop : String) (destinations : List Destination),
      Rule.activeInOrder (store.loadRules shop destinations false) =
        .ok (store.loadRules shop destinations true) := by
  intro h
  have hr : (Store.after {} mixedPriorities).Reachable := Reachable.empty.after mixedPriorities
  have hmixed : ¬(Store.after {} mixedPriorities).Comparable "acme" := by decide +kernel
  obtain ⟨row, -, -, -, -, hcheck⟩ := check_of_not_comparable hmixed
  have hok := h _ hr "acme" []
  rw [activeInOrder_loadRules hr.sound, hcheck] at hok
  cases hok

end Store

end Disposition
