import Disposition.Proofs.DefaultDestination
import Disposition.Proofs.Frame
import Disposition.Proofs.Trial

/-!
# Where the returns of a shop go

A return of a shop goes where the first of the shop's rules sends it that is active, whose condition
holds and whose destination the shop has. First is the least by priority, time and identifier. If
there is none, the return goes to the shop's default, and if there is no default either, nowhere.

Rules whose priorities are numbers cannot be put in order with rules whose priorities are texts. A
shop that has active rules of both kinds has no decision.

Results:
* `mem_listRules`, `listRules_sorted`: the rules of a shop in order.
* `toRule_destination`: the destination that a rule is joined with.
* `Decides.unique`: what decides in terms of the rows leaves no choice.
* `decides_reached`: the decision in terms of the rows.
* `route_eq`: the priorities are compared before it is decided.
* `route_decides`: the law.
-/

namespace Disposition

namespace Store

variable {store : Store} {shop : String}

/-! ## What a shop has -/

theorem mem_listRules {activeOnly : Bool} {row : RuleRow} :
    row ∈ store.listRules shop activeOnly ↔
      row ∈ store.rules ∧ row.shop = shop ∧ (activeOnly = true → row.isActive = true) := by
  unfold listRules
  rw [List.mem_mergeSort, List.mem_filter, Table.mem_ofShop, and_assoc]
  cases activeOnly <;> simp [ShopRow.shop]

/-- The rules of a shop, in whatever order. -/
theorem listRules_perm (store : Store) (shop : String) (activeOnly : Bool) :
    (store.listRules shop activeOnly).Perm
      ((Table.ofShop store.rules shop).filter fun row => !activeOnly || row.isActive) :=
  List.mergeSort_perm _ _

theorem Sound.distinct_listRules (hs : store.Sound) (shop : String) (activeOnly : Bool) :
    Table.Distinct (store.listRules shop activeOnly) :=
  ((hs.rules.ofShop shop).filter _).perm (listRules_perm store shop activeOnly)

theorem listRules_sorted (activeOnly : Bool) :
    (store.listRules shop activeOnly).Pairwise RuleRow.Precedes := by
  unfold listRules
  refine pairwise_mergeSort_iff (fun _ _ => ?_) (fun _ _ _ => ?_) RuleRow.Precedes.total _
  · exact RuleRow.triedBefore_iff
  · exact RuleRow.Precedes.trans

theorem listDestinations_perm (store : Store) (shop : String) :
    (store.listDestinations shop).Perm (Table.ofShop store.destinations shop) :=
  List.mergeSort_perm _ _

theorem Sound.distinct_listDestinations (hs : store.Sound) (shop : String) :
    Table.Distinct (store.listDestinations shop) :=
  (hs.destinations.ofShop shop).perm (listDestinations_perm store shop)

theorem mem_listDestinations {row : DestinationRow} :
    row ∈ store.listDestinations shop ↔ row ∈ store.destinations ∧ row.shop = shop :=
  (listDestinations_perm store shop).mem_iff.trans Table.mem_ofShop

/-- The last of the listed destinations with an identifier is the one that a shop has. -/
theorem find?_listDestinations (hs : store.Sound) (shop id : String) :
    (store.listDestinations shop).reverse.find? (fun row => ShopRow.id row = id) =
      store.destination? shop id := by
  have hd : Table.Distinct (store.listDestinations shop).reverse :=
    (hs.distinct_listDestinations shop).perm (List.reverse_perm _)
  refine Option.ext fun found => ?_
  rw [destination?, Table.find?_eq_some_iff hs.destinations, Table.find?_id_eq_some_iff hd,
    List.mem_reverse, mem_listDestinations, and_assoc]
  exact and_congr_right fun _ => and_comm

/-- **The destination that a rule is joined with** is the one of the shop that it names. -/
theorem toRule_destination (hs : store.Sound) (row : RuleRow) :
    (row.toRule (store.loadDestinations shop)).destination =
      (store.destination? shop row.destinationId).map (·.toDestination) := by
  rw [← find?_listDestinations hs]
  unfold RuleRow.toRule loadDestinations
  rw [← List.map_reverse, List.find?_map]
  rfl

/-! ## What decides -/

/-- The active rules of a shop can be put in order. -/
def Comparable (store : Store) (shop : String) : Prop :=
  Priority.Uniform (((Table.ofShop store.rules shop).filter (·.isActive)).map (·.priority))

instance (store : Store) (shop : String) : Decidable (store.Comparable shop) :=
  inferInstanceAs (Decidable (Priority.Uniform _))

/-- An active rule of a shop whose condition holds in a context, and the destination of the shop
that it names. -/
structure Candidate (store : Store) (shop : String) (context : Context) (row : RuleRow)
    (place : DestinationRow) : Prop where
  /-- The rule is stored. -/
  hasRule : row ∈ store.rules
  /-- It belongs to the shop. -/
  ruleShop : row.shop = shop
  /-- It is active. -/
  active : row.isActive = true
  /-- Its condition holds. -/
  holds : (row.toRule []).holds context = true
  /-- The destination is stored. -/
  hasPlace : place ∈ store.destinations
  /-- It belongs to the shop. -/
  placeShop : place.shop = shop
  /-- It is the one that the rule names. -/
  named : place.id = row.destinationId

/-- A destination is the default of a shop. -/
structure IsDefault (store : Store) (shop : String) (place : DestinationRow) : Prop where
  /-- The destination is stored. -/
  hasPlace : place ∈ store.destinations
  /-- It belongs to the shop. -/
  placeShop : place.shop = shop
  /-- It is flagged. -/
  flagged : place.isDefault = true

/-- The decision on a return of a shop, in terms of the rows. -/
inductive Decides (store : Store) (shop : String) (context : Context)
    (requestId : Option String) : Decision → Prop
  /-- The least of the rules that could decide does. -/
  | byRule {row : RuleRow} {place : DestinationRow} (h : store.Candidate shop context row place)
      (hleast : ∀ other otherPlace, store.Candidate shop context other otherPlace →
        row.Precedes other) :
      Decides store shop context requestId
        { destination := some place.toDestination
          matchedRule := some { row.toRule [] with destination := some place.toDestination }
          usedDefault := false
          reason := "Rule '" ++ row.name ++ "' matched"
          requestId }
  /-- If there is none, the default of the shop does. -/
  | byDefault {place : DestinationRow}
      (hnone : ∀ row place, ¬store.Candidate shop context row place)
      (h : store.IsDefault shop place)
      (honly : ∀ other, store.IsDefault shop other → other = place) :
      Decides store shop context requestId
        { destination := some place.toDestination
          matchedRule := none
          usedDefault := true
          reason := "No rule matched; using default destination"
          requestId }
  /-- If there is no default either, the return has no destination. -/
  | byNone (hnone : ∀ row place, ¬store.Candidate shop context row place)
      (hplace : ∀ place, ¬store.IsDefault shop place) :
      Decides store shop context requestId
        { destination := none
          matchedRule := none
          usedDefault := false
          reason := "No rule matched and no default destination is set"
          requestId }

/-- **The rows leave no choice of a decision.** -/
theorem Decides.unique (hs : store.Sound) {context : Context} {requestId : Option String}
    {decision other : Decision} (h : store.Decides shop context requestId decision)
    (ho : store.Decides shop context requestId other) : other = decision := by
  cases h with
  | @byRule row place h hleast =>
    cases ho with
    | @byRule second secondPlace ho hsecond =>
      have hid : second.id = row.id := (hsecond row place h).antisymm (hleast second secondPlace ho)
      have hrow : second = row := hs.rules.eq ho.hasRule h.hasRule hid
      subst hrow
      have hplace : secondPlace = place :=
        hs.destinations.eq ho.hasPlace h.hasPlace (ho.named.trans h.named.symm)
      rw [hplace]
    | byDefault hnone _ _ => exact absurd h (hnone row place)
    | byNone hnone _ => exact absurd h (hnone row place)
  | @byDefault place hnone h honly =>
    cases ho with
    | @byRule second secondPlace ho _ => exact absurd ho (hnone second secondPlace)
    | byDefault _ ho _ => rw [honly _ ho]
    | byNone _ hplace => exact absurd h (hplace place)
  | byNone hnone hplace =>
    cases ho with
    | @byRule second secondPlace ho _ => exact absurd ho (hnone second secondPlace)
    | @byDefault secondPlace _ ho _ => exact absurd ho (hplace secondPlace)
    | byNone _ _ => rfl

/-- A rule decides when it is tried if and only if it is a candidate with a destination. -/
theorem decides_toRule_iff (hs : store.Sound) (context : Context) {row : RuleRow}
    (hrow : row ∈ store.listRules shop true) :
    Rule.decides context (row.toRule (store.loadDestinations shop)) = true ↔
      ∃ place, store.Candidate shop context row place := by
  obtain ⟨hm, hshop, hactive⟩ := mem_listRules.mp hrow
  unfold Rule.decides
  rw [toRule_destination hs, Option.isSome_map, Bool.and_eq_true, Option.isSome_iff_exists]
  constructor
  · rintro ⟨hholds, place, hplace⟩
    obtain ⟨hp, hid, hps⟩ := Table.find?_some hplace
    exact ⟨place, hm, hshop, hactive rfl, hholds, hp, hps, hid⟩
  · rintro ⟨place, h⟩
    exact ⟨h.holds, place,
      (Table.find?_eq_some_iff hs.destinations).mpr ⟨h.hasPlace, h.named, h.placeShop⟩⟩

/-- The rule that the rules of a shop choice. -/
theorem choice_snapshot (context : Context) :
    (Rule.choice (store.snapshot shop true).rules context).1 =
      ((store.listRules shop true).find? fun row =>
        Rule.decides context (row.toRule (store.loadDestinations shop))).map
          (RuleRow.toRule (store.loadDestinations shop)) := by
  unfold snapshot loadRules
  rw [Rule.choice_of_sorted, List.find?_map]
  · rfl
  · intro rule hrule
    obtain ⟨row, hrow, rfl⟩ := List.mem_map.mp hrule
    exact (mem_listRules.mp hrow).2.2 rfl
  · exact List.pairwise_map.mpr ((listRules_sorted true).imp fun h => h.1)

/-- **The default of a shop** is what its destinations have for a default. -/
theorem default?_loadDestinations (store : Store) (shop : String) :
    Destination.default? (store.loadDestinations shop) =
      ((store.listDestinations shop).find? (·.isDefault)).map (·.toDestination) := by
  unfold Destination.default? loadDestinations
  rw [List.find?_map]
  rfl

/-- A shop has at most one default in a store where the flags say so. -/
theorem OneDefault.eq (h : store.OneDefault) (hs : store.Sound) {place other : DestinationRow}
    (hplace : store.IsDefault shop place) (hother : store.IsDefault shop other) :
    other = place :=
  hs.destinations.eq hother.hasPlace hplace.hasPlace
    (h shop _ _ ⟨other, hother.hasPlace, hother.placeShop, rfl, hother.flagged⟩
      ⟨place, hplace.hasPlace, hplace.placeShop, rfl, hplace.flagged⟩)

theorem decides_reached (hs : store.Sound) (hone : store.OneDefault) (context : Context)
    (requestId : Option String) :
    store.Decides shop context requestId
      (Decision.reached (store.snapshot shop true).rules (store.snapshot shop true).destinations
        context requestId).1 := by
  unfold Decision.reached
  simp only [choice_snapshot]
  cases hfind : (store.listRules shop true).find? fun row =>
      Rule.decides context (row.toRule (store.loadDestinations shop)) with
  | some row =>
    have hrow := List.mem_of_find?_eq_some hfind
    have hdecides := List.find?_some hfind
    obtain ⟨place, h⟩ := (decides_toRule_iff hs context hrow).mp hdecides
    have hjoined : (row.toRule (store.loadDestinations shop)).destination =
        some place.toDestination := by
      rw [toRule_destination hs, destination?,
        (Table.find?_eq_some_iff hs.destinations).mpr ⟨h.hasPlace, h.named, h.placeShop⟩]
      rfl
    have hrule : row.toRule (store.loadDestinations shop) =
        { row.toRule [] with destination := some place.toDestination } := by
      rw [← hjoined]
      rfl
    simp only [Option.map_some, Decision.ofRule?, Decision.ofRule, hrule]
    refine .byRule h fun other otherPlace ho => ?_
    have hother : other ∈ store.listRules shop true :=
      mem_listRules.mpr ⟨ho.hasRule, ho.ruleShop, fun _ => ho.active⟩
    exact find?_least RuleRow.Precedes.refl (listRules_sorted true) hfind hother
      ((decides_toRule_iff hs context hother).mpr ⟨otherPlace, ho⟩)
  | none =>
    have hnone : ∀ row place, ¬store.Candidate shop context row place := by
      intro row place h
      have hrow : row ∈ store.listRules shop true :=
        mem_listRules.mpr ⟨h.hasRule, h.ruleShop, fun _ => h.active⟩
      exact List.find?_eq_none.mp hfind row hrow
        ((decides_toRule_iff hs context hrow).mpr ⟨place, h⟩)
    simp only [Option.map_none, Decision.ofRule?, Decision.ofDefault, snapshot,
      default?_loadDestinations]
    cases hdefault : (store.listDestinations shop).find? (·.isDefault) with
    | some place =>
      obtain ⟨hp, hps⟩ := mem_listDestinations.mp (List.mem_of_find?_eq_some hdefault)
      have hflag := List.find?_some hdefault
      have h : store.IsDefault shop place := ⟨hp, hps, hflag⟩
      exact .byDefault hnone h fun other ho => hone.eq hs h ho
    | none =>
      refine .byNone hnone fun place h => ?_
      exact List.find?_eq_none.mp hdefault place
        (mem_listDestinations.mpr ⟨h.hasPlace, h.placeShop⟩) h.flagged

/-! ## Routing -/

theorem uniform_listRules (store : Store) (shop : String) :
    Priority.Uniform ((store.listRules shop true).map (·.priority)) ↔ store.Comparable shop :=
  Priority.Uniform.perm ((listRules_perm store shop true).map _)

/-- The rules that routing reads are all active, and their priorities are those of their rows. -/
theorem checkPriorities_snapshot (store : Store) (shop : String) :
    Rule.checkPriorities (store.snapshot shop true).rules =
      Priority.check ((store.listRules shop true).map (·.priority)) := by
  unfold Rule.checkPriorities snapshot loadRules
  rw [List.filter_eq_self.mpr, List.map_map]
  · rfl
  · intro rule hrule
    obtain ⟨row, hrow, rfl⟩ := List.mem_map.mp hrule
    exact (mem_listRules.mp hrow).2.2 rfl

/-- Routing in two parts: the priorities are compared, and then it is decided. -/
theorem route_eq (store : Store) (shop : String) (context : Context) (requestId : Option String) :
    store.route shop context requestId =
      Priority.check ((store.listRules shop true).map (·.priority)) >>= fun _ =>
        let snapshot := store.snapshot shop true
        let resolved :=
          Decision.reached snapshot.rules snapshot.destinations context requestId
        .ok (resolved.1,
          resolved.2 ++ [routeEvent shop snapshot.rules.length resolved.1]) := by
  rw [← checkPriorities_snapshot, route, Decision.resolve_eq]
  cases Rule.checkPriorities (store.snapshot shop true).rules <;> rfl

theorem route_of_comparable (hs : store.Sound) (hone : store.OneDefault)
    (h : store.Comparable shop) (context : Context) (requestId : Option String) :
    ∃ decision events, store.route shop context requestId = .ok (decision, events) ∧
      store.Decides shop context requestId decision := by
  rw [route_eq, Priority.check_eq_ok_iff.mpr ((uniform_listRules store shop).mpr h)]
  exact ⟨_, _, rfl, decides_reached hs hone context requestId⟩

/-- Priorities of active rules that cannot be put in order: a text comes after a number. -/
theorem check_of_not_comparable (h : ¬store.Comparable shop) :
    ∃ row ∈ store.rules, row.shop = shop ∧ row.isActive = true ∧ row.priority.isText = false ∧
      Priority.check ((store.listRules shop true).map (·.priority)) =
        .error ⟨.text, row.priority.kind⟩ := by
  have hs : ((store.listRules shop true).map (·.priority)).Pairwise
      fun p q => p.le q = true :=
    List.pairwise_map.mpr ((listRules_sorted true).imp fun h => h.1)
  obtain ⟨p, hp, htext, hcheck⟩ :=
    Priority.check_of_sorted hs fun hu => h ((uniform_listRules store shop).mp hu)
  obtain ⟨row, hrow, rfl⟩ := List.mem_map.mp hp
  obtain ⟨hm, hshop, hactive⟩ := mem_listRules.mp hrow
  exact ⟨row, hm, hshop, hactive rfl, htext, hcheck⟩

theorem route_of_not_comparable (h : ¬store.Comparable shop) (context : Context)
    (requestId : Option String) :
    ∃ row ∈ store.rules, row.shop = shop ∧ row.isActive = true ∧ row.priority.isText = false ∧
      store.route shop context requestId = .error ⟨.text, row.priority.kind⟩ := by
  obtain ⟨row, hm, hshop, hactive, htext, hcheck⟩ := check_of_not_comparable h
  refine ⟨row, hm, hshop, hactive, htext, ?_⟩
  rw [route_eq, hcheck]
  rfl

/-- **The law of routing.** In a reachable store a return of a shop goes where the least of the
shop's rules sends it that is active, whose condition holds and whose destination the shop has, else
to the shop's default, else nowhere. If the priorities of the shop's active rules are numbers and
texts, there is no decision: a text cannot be compared with a number. The rows of other shops have
no part in it. -/
theorem route_decides (hr : store.Reachable) (shop : String) (context : Context)
    (requestId : Option String) :
    (store.Comparable shop →
        ∃ decision events, store.route shop context requestId = .ok (decision, events) ∧
          store.Decides shop context requestId decision ∧
            ∀ other, store.Decides shop context requestId other → other = decision) ∧
      (¬store.Comparable shop →
        ∃ row ∈ store.rules, row.shop = shop ∧ row.isActive = true ∧ row.priority.isText = false ∧
          store.route shop context requestId = .error ⟨.text, row.priority.kind⟩) ∧
      ∀ other : Store, other.SameFor shop store →
        other.route shop context requestId = store.route shop context requestId :=
  ⟨fun h =>
      have ⟨decision, events, hok, hdecides⟩ :=
        route_of_comparable hr.sound hr.oneDefault h context requestId
      ⟨decision, events, hok, hdecides, fun _ ho => hdecides.unique hr.sound ho⟩,
    fun h => route_of_not_comparable h context requestId,
    fun _ h => h.route context requestId⟩

/-- A return of shoes. -/
def ofShoes : Context :=
  { items := [{ productType := .text "Shoes" }] }

/-- A shop gets a destination, and rules for shoes of the same priority. Two of them could decide;
of the others one names a destination that the shop does not have, and one is not active. -/
def tiedPriorities : List Step :=
  [⟨.named "", .createDestination "acme" (.ofPlace "d1" false)⟩,
    ⟨.named "", .createRule "acme" (.ofShoes "r4" (.integer 1) "d1")⟩,
    ⟨.named "", .createRule "acme" (.ofShoes "r3" (.integer 1) "d1")⟩,
    ⟨.named "", .createRule "acme" (.ofShoes "r2" (.integer 1) "d9")⟩,
    ⟨.named "", .createRule "acme" (("is_active", .flag false) ::
      Data.ofShoes "r1" (.integer 1) "d1")⟩]

/-- The same shop gets one more rule, whose priority is a text. -/
def mixedPriorities : List Step :=
  tiedPriorities ++ [⟨.named "", .createRule "acme" (.ofShoes "r5" (.text "high") "d1")⟩]

/-- Of the rules that could decide, the one with the lesser identifier does. -/
theorem decides_tiedPriorities :
    ∃ decision, (Store.after {} tiedPriorities).Decides "acme" ofShoes none decision ∧
      decision.matchedRule.map (·.id) = some "r3" ∧
        decision.destination.map (·.id) = some "d1" := by
  obtain ⟨row, hrow, hshop, hactive, hholds, hid, hnamed, hleast⟩ :
      ∃ row ∈ (Store.after {} tiedPriorities).rules, row.shop = "acme" ∧ row.isActive = true ∧
        (row.toRule []).holds ofShoes = true ∧ row.id = "r3" ∧ row.destinationId = "d1" ∧
          ∀ other ∈ (Store.after {} tiedPriorities).rules, other.isActive = true →
            other.destinationId = "d1" → row.triedBefore other = true := by decide +kernel
  obtain ⟨place, hplace, hplaceShop, hplaceId⟩ :
      ∃ place ∈ (Store.after {} tiedPriorities).destinations,
        place.shop = "acme" ∧ place.id = "d1" := by decide +kernel
  have hall : ∀ other ∈ (Store.after {} tiedPriorities).destinations, other.id = "d1" := by
    decide +kernel
  refine ⟨_, .byRule ⟨hrow, hshop, hactive, hholds, hplace, hplaceShop, hplaceId.trans hnamed.symm⟩
    fun other otherPlace ho => ?_, congrArg some hid, congrArg some hplaceId⟩
  exact RuleRow.triedBefore_iff.mp (hleast other ho.hasRule ho.active
    (ho.named.symm.trans (hall otherPlace ho.hasPlace)))

/-- The law for rules of the same priority, and for a text among the priorities. -/
theorem route_decides_mixedPriorities :
    (∃ decision events,
        (Store.after {} tiedPriorities).route "acme" ofShoes none = .ok (decision, events) ∧
          (Store.after {} tiedPriorities).Decides "acme" ofShoes none decision ∧
            (∀ other, (Store.after {} tiedPriorities).Decides "acme" ofShoes none other →
              other = decision) ∧
              decision.matchedRule.map (·.id) = some "r3" ∧
                decision.destination.map (·.id) = some "d1") ∧
      ∃ row ∈ (Store.after {} mixedPriorities).rules,
        row.shop = "acme" ∧ row.isActive = true ∧ row.priority.isText = false ∧
          (Store.after {} mixedPriorities).route "acme" ofShoes none =
            .error ⟨.text, row.priority.kind⟩ := by
  obtain ⟨expected, hexpected, hrule, hplace⟩ := decides_tiedPriorities
  obtain ⟨decision, events, hok, hdecides, honly⟩ :=
    (route_decides (Reachable.empty.after tiedPriorities) "acme" ofShoes none).1
      (by decide +kernel)
  obtain rfl := honly expected hexpected
  exact ⟨⟨expected, events, hok, hdecides, honly, hrule, hplace⟩,
    (route_decides (Reachable.empty.after mixedPriorities) "acme" ofShoes none).2.1
      (by decide +kernel)⟩

/-- Not every return of a shop has a decision: rules can be stored that cannot be put in order. -/
theorem not_forall_route_decides :
    ¬∀ store : Store, store.Reachable → ∀ (shop : String) (context : Context)
      (requestId : Option String), ∃ decision events,
        store.route shop context requestId = .ok (decision, events) ∧
          store.Decides shop context requestId decision := by
  intro h
  obtain ⟨decision, events, hok, -⟩ :=
    h (Store.after {} mixedPriorities) (Reachable.empty.after mixedPriorities) "acme" {} none
  have hmixed : ¬(Store.after {} mixedPriorities).Comparable "acme" := by decide +kernel
  obtain ⟨row, -, -, -, -, herror⟩ := route_of_not_comparable hmixed {} none
  rw [hok] at herror
  cases herror

end Store

end Disposition
