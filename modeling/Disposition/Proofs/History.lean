import Disposition.Proofs.Order
import Mathlib.Data.List.Find

/-!
# Rows, not histories

A store keeps its rows in the order in which they were made, and this order is a piece of its
history. It shows in one place only: destinations of one shop that have the same name are listed in
the order in which they were made. Everything else that is read of a shop is the same in all stores
that hold the same rows of it, however they came to hold them. The rules have one order
(`RuleRow.eq_of_sorted`), identifiers find one row, and the first default of a shop is its only one.

Results:
* `Store.SameRows`: the same rows of a shop, in whatever order.
* `Store.SameRows.listRules`, `Store.SameRows.rules_snapshot`: the rules, and what they are joined
  with.
* `Store.SameRows.route`, `Store.SameRows.validate`: what routing and checking make of them.
* `Store.answers_of_sameRows`: all of it.
-/

namespace Disposition

/-- The operation answers with the destinations of a shop as they are listed. -/
def Operation.listsDestinations : Operation → Bool
  | listDestinations _ | loadDestinations _ | snapshot _ _ => true
  | _ => false

/-- A report depends on the destinations for what they are, and not for their order. -/
theorem Report.check_perm {destinations others : List Destination} (hp : destinations.Perm others)
    (room : Nat) (rules : List Rule) :
    check room rules destinations = check room rules others := by
  have hplaces : Issue.ofDestinations destinations = Issue.ofDestinations others := by
    unfold Issue.ofDestinations
    rw [hp.isEmpty_eq, hp.any_eq]
  have hjoined : Issue.isJoined (destinations.map (·.id)) = Issue.isJoined (others.map (·.id)) := by
    funext rule
    unfold Issue.isJoined
    simp only [(hp.map (·.id)).contains_eq]
  unfold check Issue.list Issue.ofRule
  rw [hplaces, hjoined]

namespace Store

/-- Two stores hold the same rows of a shop, in whatever order. -/
structure SameRows (shop : String) (store other : Store) : Prop where
  /-- Destinations. -/
  destinations : ∀ row,
    row ∈ Table.ofShop store.destinations shop ↔ row ∈ Table.ofShop other.destinations shop
  /-- Rules. -/
  rules : ∀ row, row ∈ Table.ofShop store.rules shop ↔ row ∈ Table.ofShop other.rules shop

instance (shop : String) (store other : Store) : Decidable (store.SameRows shop other) :=
  decidable_of_iff
    ((Table.ofShop store.destinations shop ⊆ Table.ofShop other.destinations shop ∧
        Table.ofShop other.destinations shop ⊆ Table.ofShop store.destinations shop) ∧
      Table.ofShop store.rules shop ⊆ Table.ofShop other.rules shop ∧
        Table.ofShop other.rules shop ⊆ Table.ofShop store.rules shop)
    ⟨fun ⟨⟨hd, hdb⟩, hr, hrb⟩ => ⟨fun _ => ⟨@hd _, @hdb _⟩, fun _ => ⟨@hr _, @hrb _⟩⟩,
      fun h => ⟨⟨fun _ => (h.destinations _).mp, fun _ => (h.destinations _).mpr⟩,
        fun _ => (h.rules _).mp, fun _ => (h.rules _).mpr⟩⟩

/-- A default that is the only one of its shop is found in whatever order the rows stand. -/
theorem OneDefault.find?_isDefault_perm {store : Store} {shop : String} (hone : store.OneDefault)
    (hs : store.Sound) {rows others : List DestinationRow}
    (hrows : ∀ row ∈ rows, row ∈ store.destinations ∧ row.shop = shop) (hp : rows.Perm others) :
    rows.find? (·.isDefault) = others.find? (·.isDefault) := by
  refine List.find?_eq_find?_of_perm hp fun row ⟨hrow, hflag⟩ other ⟨hother, hotherFlag⟩ => ?_
  obtain ⟨hm, hshop⟩ := hrows row hrow
  obtain ⟨hom, hoshop⟩ := hrows other hother
  exact hone.eq hs ⟨hom, hoshop, hotherFlag⟩ ⟨hm, hshop, hflag⟩

namespace SameRows

variable {shop : String} {store other : Store} (hs : store.Sound) (ho : other.Sound)
  (h : store.SameRows shop other)

include hs ho h

theorem perm_destinations :
    (Table.ofShop store.destinations shop).Perm (Table.ofShop other.destinations shop) :=
  (hs.destinations.ofShop shop).perm_of_mem_iff (ho.destinations.ofShop shop) h.destinations

theorem perm_rules : (Table.ofShop store.rules shop).Perm (Table.ofShop other.rules shop) :=
  (hs.rules.ofShop shop).perm_of_mem_iff (ho.rules.ofShop shop) h.rules

/-! ## Rules -/

/-- **The rules are listed alike.** -/
theorem listRules (activeOnly : Bool) :
    store.listRules shop activeOnly = other.listRules shop activeOnly := by
  refine RuleRow.eq_of_sorted (hs.distinct_listRules shop activeOnly) ?_
    (listRules_sorted activeOnly) (listRules_sorted activeOnly)
  exact (listRules_perm store shop activeOnly).trans
    (((perm_rules hs ho h).filter _).trans (listRules_perm other shop activeOnly).symm)

theorem loadRules (destinations : List Destination) (activeOnly : Bool) :
    store.loadRules shop destinations activeOnly =
      other.loadRules shop destinations activeOnly := by
  unfold Store.loadRules
  rw [listRules hs ho h]

theorem rule? (id : String) : store.rule? shop id = other.rule? shop id :=
  Table.find?_eq_of_mem_iff hs.rules ho.rules h.rules id

/-! ## Destinations -/

theorem destination? (id : String) : store.destination? shop id = other.destination? shop id :=
  Table.find?_eq_of_mem_iff hs.destinations ho.destinations h.destinations id

/-- The same destinations are listed, but their order can differ. -/
theorem perm_listDestinations :
    (store.listDestinations shop).Perm (other.listDestinations shop) :=
  (listDestinations_perm store shop).trans
    ((perm_destinations hs ho h).trans (listDestinations_perm other shop).symm)

/-- **Rules are joined alike.** -/
theorem toRule (row : RuleRow) :
    row.toRule (store.loadDestinations shop) = row.toRule (other.loadDestinations shop) := by
  have hjoined : (row.toRule (store.loadDestinations shop)).destination =
      (row.toRule (other.loadDestinations shop)).destination := by
    rw [toRule_destination hs, toRule_destination ho, destination? hs ho h]
  exact congrArg (fun place => { row.toRule [] with destination := place }) hjoined

theorem rules_snapshot (activeOnly : Bool) :
    (store.snapshot shop activeOnly).rules = (other.snapshot shop activeOnly).rules := by
  unfold snapshot Store.loadRules
  rw [listRules hs ho h]
  exact List.map_congr_left fun row _ => toRule hs ho h row

/-! ## Decisions and reports -/

/-- **The default is found alike**, wherever it stands. -/
theorem default?_loadDestinations (hone : store.OneDefault) :
    Destination.default? (store.loadDestinations shop) =
      Destination.default? (other.loadDestinations shop) := by
  rw [Store.default?_loadDestinations, Store.default?_loadDestinations]
  exact congrArg _ (hone.find?_isDefault_perm hs (fun _ => mem_listDestinations.mp)
    (perm_listDestinations hs ho h))

theorem defaultDestination? (hone : store.OneDefault) :
    store.defaultDestination? shop = other.defaultDestination? shop :=
  hone.find?_isDefault_perm hs (fun _ hrow => Table.mem_ofShop.mp hrow)
    (perm_destinations hs ho h)

/-- **Returns are routed alike**, with the same events or the same fault. -/
theorem route (hone : store.OneDefault) (context : Context) (requestId : Option String) :
    store.route shop context requestId = other.route shop context requestId := by
  have hrules := rules_snapshot hs ho h true
  have hdefault : Destination.default? (store.snapshot shop true).destinations =
      Destination.default? (other.snapshot shop true).destinations :=
    default?_loadDestinations hs ho h hone
  have hreached := Decision.reached_congr (congrArg Rule.arranged hrules) hdefault context
    requestId
  rw [hrules] at hreached
  rw [route_eq, route_eq, listRules hs ho h]
  simp only [hrules, hreached]

/-- **Reports are the same**, with their problems in the same order. -/
theorem validate : store.validate shop = other.validate shop := by
  have hperm : (store.snapshot shop false).destinations.Perm
      (other.snapshot shop false).destinations := (perm_listDestinations hs ho h).map _
  unfold Store.validate
  simp only [rules_snapshot hs ho h, Report.check_perm hperm]

end SameRows

/-- **Answers depend on the rows and not on the history.** In reachable stores that hold the same
rows of a shop, everything that is read of the shop is the same, with its events or its fault, but
for the listing of its destinations: its rules and their order, its decisions, its reports and their
problems. What is stored of other shops and how the rows came to be stored have no part in it. -/
theorem answers_of_sameRows {store other : Store} (hr : store.Reachable) (ho : other.Reachable)
    (operation : Operation) (h : store.SameRows operation.shop other)
    (hreads : operation.writes = false) (hlists : operation.listsDestinations = false)
    (fresh : Stamp) :
    (operation.perform fresh store).1 = (operation.perform fresh other).1 := by
  have hs := hr.sound
  have hos := ho.sound
  have hone := hr.oneDefault
  cases operation with
  | createDestination | updateDestination | deleteDestination | createRule | updateRule
  | deleteRule => cases hreads
  | listDestinations | loadDestinations | snapshot => cases hlists
  | getDestination shop id =>
    exact (Operation.perform_reading rfl
      (congrArg Answer.destination (h.destination? hs hos id))).1
  | getDefault shop =>
    exact (Operation.perform_reading rfl
      (congrArg Answer.destination (h.defaultDestination? hs hos hone))).1
  | destinationsById shop =>
    exact (Operation.perform_reading rfl (congrArg Answer.destinations
      (Table.byId_eq_of_perm hs.destinations (h.perm_destinations hs hos)))).1
  | getRule shop id =>
    exact (Operation.perform_reading rfl (congrArg Answer.rule (h.rule? hs hos id))).1
  | listRules shop activeOnly =>
    exact (Operation.perform_reading rfl
      (congrArg Answer.rules (h.listRules hs hos activeOnly))).1
  | rulesById shop =>
    exact (Operation.perform_reading rfl (congrArg Answer.rules
      (Table.byId_eq_of_perm hs.rules (h.perm_rules hs hos)))).1
  | loadRules shop destinations activeOnly =>
    exact (Operation.perform_reading rfl
      (congrArg Answer.loadedRules (h.loadRules hs hos destinations activeOnly))).1
  | route shop context requestId =>
    exact (Operation.perform_deciding rfl (h.route hs hos hone)).1
  | chooseDestination shop context =>
    have hrun : (Operation.chooseDestination shop context).run fresh =
        Operation.deciding shop context none fun decision => .chosen decision.destination := rfl
    exact (Operation.perform_deciding hrun (h.route hs hos hone)).1
  | validate shop =>
    have hsame : store.validate shop = other.validate shop := h.validate hs hos
    rw [Operation.perform_validate, Operation.perform_validate, Operation.checkingReply,
      Operation.checkingReply, hsame]

/-- A shop gets three destinations, the first of them flagged, and two rules. -/
def straightHistory : List Step :=
  [⟨.named "", .createDestination "acme" (.ofPlace "d1" true)⟩,
    ⟨.named "", .createDestination "acme" (.ofPlace "d2" false)⟩,
    ⟨.named "", .createDestination "acme" (.ofPlace "d3" false)⟩,
    ⟨.named "", .createRule "acme" (.ofShoes "r1" (.integer 1) "d1")⟩,
    ⟨.named "", .createRule "acme" (.ofShoes "r2" (.integer 1) "d2")⟩]

/-- The shop comes to the same rows another way: the last of them are made first, the flag is moved,
a priority is changed, a rule is deleted, and another shop has a destination. -/
def windingHistory : List Step :=
  [⟨.named "", .createDestination "acme" (.ofPlace "d3" true)⟩,
    ⟨.named "", .createDestination "globex" (.ofPlace "d4" true)⟩,
    ⟨.named "", .createDestination "acme" (.ofPlace "d2" false)⟩,
    ⟨.named "", .createDestination "acme" (.ofPlace "d1" false)⟩,
    ⟨.named "", .createRule "acme" (.ofShoes "r2" (.integer 7) "d2")⟩,
    ⟨.named "", .createRule "acme" (.ofShoes "r3" (.integer 0) "d3")⟩,
    ⟨.named "", .createRule "acme" (.ofShoes "r1" (.integer 1) "d1")⟩,
    ⟨.named "", .updateDestination "acme" "d1" [("is_default", .flag true)]⟩,
    ⟨.named "", .updateRule "acme" "r2" [("priority", .integer 1)]⟩,
    ⟨.named "", .deleteRule "acme" "r3"⟩]

/-- Both ways lead to the same reports, and to the same decisions. -/
theorem answers_of_sameRows_histories :
    ((Operation.validate "acme").perform (.named "") (Store.after {} straightHistory)).1 =
        ((Operation.validate "acme").perform (.named "") (Store.after {} windingHistory)).1 ∧
      ∀ context requestId,
        ((Operation.route "acme" context requestId).perform (.named "")
            (Store.after {} straightHistory)).1 =
          ((Operation.route "acme" context requestId).perform (.named "")
            (Store.after {} windingHistory)).1 :=
  have hsame : (Store.after {} straightHistory).SameRows "acme" (Store.after {} windingHistory) :=
    by decide +kernel
  ⟨answers_of_sameRows (Reachable.empty.after _) (Reachable.empty.after _) (.validate "acme") hsame
      rfl rfl (.named ""),
    fun context requestId => answers_of_sameRows (Reachable.empty.after _)
      (Reachable.empty.after _) (.route "acme" context requestId) hsame rfl rfl (.named "")⟩

/-- Only the listing of the destinations shows in which order two of the same name were made. -/
example :
    (Store.after {} [straightHistory[1], straightHistory[2]]).listDestinations "acme" ≠
      (Store.after {} [straightHistory[2], straightHistory[1]]).listDestinations "acme" := by
  unfold listDestinations
  rw [List.mergeSort_of_pairwise (by decide +kernel),
    List.mergeSort_of_pairwise (by decide +kernel)]
  decide +kernel

end Store

end Disposition
