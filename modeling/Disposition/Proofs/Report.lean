import Disposition.Proofs.Routing
import Mathlib.Data.List.Forall2

/-!
# What a report without problems is good for

A configuration is reported to have no problem if one of its destinations is the default, every rule
is joined with a destination, every threshold can be read, and no two active rules have the same
priority. Of these the first two are what routing needs: no rule is passed over then, and what no
rule claims goes to the default.

A report says nothing of priorities of different kinds. A shop with active rules of both kinds may
have a report without problems, and still its returns are not routed.

Results:
* `Issue.list_eq_nil_iff`, `Report.isValid_check_iff`: when there is no problem.
* `Rule.skipped_of_mem_firstRoutable`: the only events on the way to a rule are that rules without
  destinations were passed over.
* `Decision.reached_of_joined`, `Decision.mem_of_reached`: where joined rules lead.
* `Store.route_of_valid`: the returns of a shop whose report has no problem.
* `clean_report_routes`: both.
-/

namespace Disposition

/-! ## Equal priorities -/

namespace Priority

theorem same_refl (p : Priority) : p.same p = true :=
  (same_iff p p).mpr ⟨le_refl p, le_refl p⟩

theorem same_symm {p q : Priority} (h : p.same q = true) : q.same p = true :=
  (same_iff q p).mpr ((same_iff p q).mp h).symm

theorem same_trans {p q r : Priority} (h : p.same q = true) (hn : q.same r = true) :
    p.same r = true := by
  obtain ⟨hpq, hqp⟩ := (same_iff p q).mp h
  obtain ⟨hqr, hrq⟩ := (same_iff q r).mp hn
  exact (same_iff p r).mpr ⟨le_trans p q r hpq hqr, le_trans r q p hrq hqp⟩

end Priority

/-! ## Reports without problems -/

namespace Issue

theorem ofDestinations_eq_nil_iff {destinations : List Destination} :
    ofDestinations destinations = [] ↔ ∃ d ∈ destinations, d.isDefault = true := by
  unfold ofDestinations
  cases destinations with
  | nil => exact iff_of_false (List.cons_ne_nil _ _) (by simp)
  | cons d rest =>
    rw [List.isEmpty_cons, if_neg Bool.false_ne_true, ← List.any_eq_true]
    by_cases h : (d :: rest).any (·.isDefault) = true
    · exact iff_of_true (if_pos h) h
    · exact iff_of_false (by rw [if_neg h]; exact List.cons_ne_nil _ _) h

theorem ofRule_eq_nil_iff {knownIds : List String} {rule : Rule} :
    ofRule knownIds rule = [] ↔ isJoined knownIds rule = true ∧ isUnreadable rule = false := by
  unfold ofRule
  cases isJoined knownIds rule <;> cases isUnreadable rule <;> simp

/-- Of equal elements the first one stays. -/
theorem exists_mem_eraseDupsBy {α : Type} {r : α → α → Bool} (hrefl : ∀ a, r a a = true) {a : α} :
    ∀ {l : List α}, a ∈ l → ∃ b ∈ l.eraseDupsBy r, r a b = true
  | [], h => absurd h List.not_mem_nil
  | b :: l, h => by
    rw [List.eraseDupsBy_cons]
    cases hab : r a b with
    | true => exact ⟨b, List.mem_cons_self, hab⟩
    | false =>
      have hl : a ∈ l := (List.mem_cons.mp h).resolve_left fun he => by
        rw [he, hrefl] at hab
        cases hab
      have hkept : a ∈ l.filter fun c => decide (r c b = false) :=
        List.mem_filter.mpr ⟨hl, decide_eq_true hab⟩
      obtain ⟨c, hc, hac⟩ := exists_mem_eraseDupsBy hrefl hkept
      exact ⟨c, List.mem_cons_of_mem _ hc, hac⟩
termination_by l => l.length
decreasing_by exact Nat.lt_succ_of_le (List.length_filter_le _ _)

/-- **No priority is repeated** if no two of the list are equal. -/
theorem repeated_eq_nil_iff {priorities : List Priority} :
    repeated priorities = [] ↔ priorities.Pairwise fun p q => p.same q = false := by
  unfold repeated
  rw [List.filter_eq_nil_iff]
  constructor
  · intro h
    refine List.pairwise_iff_forall_sublist.mpr fun {p q} hsub => ?_
    obtain ⟨first, hfirst, hp⟩ := exists_mem_eraseDupsBy Priority.same_refl
      (hsub.subset List.mem_cons_self)
    refine Bool.eq_false_iff.mpr fun hpq => h first hfirst ?_
    -- both of them equal the first one of their class
    have hq : first.same q = true := Priority.same_trans (Priority.same_symm hp) hpq
    have htwo : [p, q].countP first.same = 2 := by
      simp only [List.countP_cons, List.countP_nil, Priority.same_symm hp, hq, if_true]
    have hle : [p, q].countP first.same ≤ priorities.countP first.same := hsub.countP_le
    rw [htwo] at hle
    exact decide_eq_true hle
  · intro h p hp hlt
    have hlt := of_decide_eq_true hlt
    rw [List.countP_eq_length_filter] at hlt
    have hpair := h.sublist (List.filter_sublist (p := p.same))
    match hl : priorities.filter p.same with
    | [] => rw [hl] at hlt; exact absurd hlt (Nat.not_lt_zero 1)
    | [_] => rw [hl] at hlt; exact absurd hlt (Nat.lt_irrefl 1)
    | q :: r :: rest =>
      have hmem : ∀ s ∈ q :: r :: rest, p.same s = true := fun s hs =>
        (List.mem_filter.mp (hl ▸ hs)).2
      have hqr := Priority.same_trans (Priority.same_symm (hmem q List.mem_cons_self))
        (hmem r (List.mem_cons_of_mem _ List.mem_cons_self))
      rw [hl] at hpair
      rw [(List.pairwise_cons.mp hpair).1 r List.mem_cons_self] at hqr
      cases hqr

/-- **A configuration without problems**: it has a default, every rule is joined and can be read,
and no priority is shared. -/
theorem list_eq_nil_iff {rules : List Rule} {destinations : List Destination} :
    list rules destinations = [] ↔
      (∃ d ∈ destinations, d.isDefault = true) ∧
        (∀ rule ∈ rules,
          isJoined (destinations.map (·.id)) rule = true ∧ isUnreadable rule = false) ∧
        (rules.filter (·.isActive)).Pairwise fun rule other =>
          rule.priority.same other.priority = false := by
  unfold list ofPriorities
  rw [List.append_eq_nil_iff, List.append_eq_nil_iff, List.flatMap_eq_nil_iff,
    List.map_eq_nil_iff, ofDestinations_eq_nil_iff, repeated_eq_nil_iff, List.pairwise_map,
    and_assoc]
  simp only [ofRule_eq_nil_iff]

theorem isSome_of_isJoined {knownIds : List String} {rule : Rule}
    (h : isJoined knownIds rule = true) : rule.destination.isSome = true :=
  (Bool.and_eq_true _ _ ▸ h).1

end Issue

namespace Report

variable {room : Nat} {rules : List Rule} {destinations : List Destination}

/-- **A report has the wordings of the problems**, one for each. -/
theorem check_eq_ok_iff {report : Report} :
    check room rules destinations = .ok report ↔
      List.Forall₂ (fun issue text => issue.text room = .ok text) (Issue.list rules destinations)
        report.issues := by
  unfold check
  rw [bind_eq_ok_iff, ← mapM_eq_ok_iff]
  constructor
  · rintro ⟨texts, htexts, h⟩
    rw [← pure_eq_ok_iff.mp h]
    exact htexts
  · exact fun h => ⟨report.issues, h, rfl⟩

theorem mem_issues_iff {report : Report} (h : check room rules destinations = .ok report)
    {text : String} :
    text ∈ report.issues ↔
      ∃ issue ∈ Issue.list rules destinations, issue.text room = .ok text :=
  mem_iff_of_mapM (mapM_eq_ok_iff.mpr (check_eq_ok_iff.mp h))

theorem isValid_iff {report : Report} (h : check room rules destinations = .ok report) :
    report.isValid = true ↔ Issue.list rules destinations = [] := by
  have hlength := (check_eq_ok_iff.mp h).length_eq
  rw [isValid, List.isEmpty_iff, ← List.length_eq_zero_iff, ← hlength, List.length_eq_zero_iff]

/-- A configuration without problems has a report, as there is nothing to be written. -/
theorem exists_isValid_iff :
    (∃ report, check room rules destinations = .ok report ∧ report.isValid = true) ↔
      Issue.list rules destinations = [] := by
  constructor
  · rintro ⟨report, h, hvalid⟩
    exact (isValid_iff h).mp hvalid
  · intro hnone
    have h : check room rules destinations = .ok ⟨[]⟩ :=
      check_eq_ok_iff.mpr (hnone ▸ List.Forall₂.nil)
    exact ⟨_, h, rfl⟩

end Report

/-! ## Deciding with joined rules -/

namespace Rule

theorem mem_arranged {rules : List Rule} {rule : Rule} :
    rule ∈ arranged rules ↔ rule ∈ rules ∧ rule.isActive = true := by
  unfold arranged
  rw [List.mem_mergeSort, List.mem_filter]

/-- On the way to a rule only those are reported that have no destination. -/
theorem skipped_of_mem_firstRoutable {context : Context} {rules : List Rule} {event : Event}
    (h : event ∈ (firstRoutable context rules).2) :
    ∃ rule ∈ rules, rule.destination = none ∧ event = rule.skippedEvent := by
  induction rules with
  | nil => exact absurd h List.not_mem_nil
  | cons rule rules ih =>
    have hlater : event ∈ (firstRoutable context rules).2 →
        ∃ r ∈ rule :: rules, r.destination = none ∧ event = r.skippedEvent := fun h =>
      have ⟨r, hr, hnone, he⟩ := ih h
      ⟨r, List.mem_cons_of_mem _ hr, hnone, he⟩
    rw [firstRoutable] at h
    split at h
    · split at h
      · exact absurd h List.not_mem_nil
      · rename_i hnone
        rcases List.mem_cons.mp h with rfl | h
        · exact ⟨rule, List.mem_cons_self, by simpa using hnone, rfl⟩
        · exact hlater h
    · exact hlater h

/-- The rule that is selected is an active one of the rules, and it has a destination. -/
theorem of_choice_eq_some {rules : List Rule} {context : Context} {rule : Rule}
    (h : (choice rules context).1 = some rule) :
    rule ∈ rules ∧ rule.isActive = true ∧ rule.holds context = true ∧
      rule.destination.isSome = true := by
  unfold choice at h
  rw [firstRoutable_fst] at h
  obtain ⟨hmem, hactive⟩ := mem_arranged.mp (List.mem_of_find?_eq_some h)
  obtain ⟨hholds, hsome⟩ := Bool.and_eq_true _ _ ▸ List.find?_some h
  exact ⟨hmem, hactive, hholds, hsome⟩

/-- No rule is passed over if all active ones have destinations. -/
theorem choice_events_of_joined {rules : List Rule}
    (h : ∀ rule ∈ rules, rule.isActive = true → rule.destination.isSome = true)
    (context : Context) : (choice rules context).2 = [] := by
  refine List.eq_nil_iff_forall_not_mem.mpr fun event he => ?_
  obtain ⟨rule, hrule, hnone, -⟩ := skipped_of_mem_firstRoutable he
  obtain ⟨hmem, hactive⟩ := mem_arranged.mp hrule
  have hsome := h rule hmem hactive
  rw [hnone] at hsome
  cases hsome

end Rule

namespace Decision

variable {rules : List Rule} {destinations : List Destination}

/-- **Joined rules and a default route every return**, and the decision is all that is reported. -/
theorem reached_of_joined (hdefault : ∃ d ∈ destinations, d.isDefault = true)
    (hjoined : ∀ rule ∈ rules, rule.isActive = true → rule.destination.isSome = true)
    (context : Context) (requestId : Option String) :
    ∃ decision, reached rules destinations context requestId = (decision, [decision.event]) ∧
      decision.isRouted = true := by
  unfold reached
  simp only [Rule.choice_events_of_joined hjoined, List.nil_append]
  refine ⟨_, rfl, ?_⟩
  unfold ofRule?
  cases hrule : (Rule.choice rules context).1 with
  | some rule => exact (Rule.of_choice_eq_some hrule).2.2.2
  | none =>
    obtain ⟨d, hd, hflag⟩ := hdefault
    have hsome : (Destination.default? destinations).isSome = true :=
      List.find?_isSome.mpr ⟨d, hd, hflag⟩
    obtain ⟨place, hplace⟩ := Option.isSome_iff_exists.mp hsome
    simp only [ofDefault, hplace]
    rfl

/-- A return goes to the destination of an active rule or to one of the destinations. -/
theorem mem_of_reached {context : Context} {requestId : Option String} {place : Destination}
    {decision : Decision} {events : List Event}
    (hresolve : reached rules destinations context requestId = (decision, events))
    (h : decision.destination = some place) :
    (∃ rule ∈ rules, rule.isActive = true ∧ rule.destination = some place) ∨
      place ∈ destinations := by
  obtain rfl := congrArg Prod.fst hresolve
  unfold reached ofRule? at h
  cases hrule : (Rule.choice rules context).1 with
  | some rule =>
    obtain ⟨hmem, hactive, -⟩ := Rule.of_choice_eq_some hrule
    rw [hrule] at h
    exact .inl ⟨rule, hmem, hactive, h⟩
  | none =>
    rw [hrule] at h
    simp only [ofDefault] at h
    cases hdefault : Destination.default? destinations with
    | some found =>
      rw [hdefault] at h
      cases h
      exact .inr (List.mem_of_find?_eq_some hdefault)
    | none =>
      rw [hdefault] at h
      cases h

end Decision

/-! ## Reports and returns of a shop -/

namespace Store

variable {store : Store} {shop : String}

/-- **A rule of a shop is joined** if the shop has the destination that it names. -/
theorem isJoined_toRule_iff (hs : store.Sound) (row : RuleRow) :
    Issue.isJoined ((store.loadDestinations shop).map (·.id))
        (row.toRule (store.loadDestinations shop)) = true ↔
      (store.destination? shop row.destinationId).isSome = true := by
  unfold Issue.isJoined
  rw [toRule_destination hs, Option.isSome_map, Bool.and_eq_true, and_iff_left_iff_imp]
  intro h
  obtain ⟨place, hplace⟩ := Option.isSome_iff_exists.mp h
  obtain ⟨hm, hid, hshop⟩ := Table.find?_some hplace
  have hmem : row.destinationId ∈ (store.loadDestinations shop).map (·.id) :=
    List.mem_map.mpr ⟨place.toDestination,
      List.mem_map_of_mem (mem_listDestinations.mpr ⟨hm, hshop⟩), hid⟩
  exact List.contains_iff_mem.mpr hmem

/-- The problems of the configuration of a shop. -/
def issues (store : Store) (shop : String) : List Issue :=
  Issue.list (store.snapshot shop false).rules (store.snapshot shop false).destinations

/-- The report on the configuration of a shop is that of the check. -/
theorem of_validate_eq_ok {report : Report} {events : List Event}
    (h : store.validate shop = .ok (report, events)) :
    Report.check Value.usualRoom (store.snapshot shop false).rules
        (store.snapshot shop false).destinations = .ok report ∧
      events = if report.isValid then [] else [.issuesFound shop report.issues.length] := by
  obtain ⟨checked, hchecked, h⟩ := bind_eq_ok_iff.mp h
  obtain ⟨rfl, rfl⟩ := Prod.mk.inj (pure_eq_ok_iff.mp h)
  exact ⟨hchecked, rfl⟩

theorem issues_eq_nil {report : Report} {events : List Event}
    (h : store.validate shop = .ok (report, events)) (hvalid : report.isValid = true) :
    store.issues shop = [] :=
  (Report.isValid_iff (of_validate_eq_ok h).1).mp hvalid

/-- A shop without problems has a report that says so. -/
theorem exists_validate (h : store.issues shop = []) :
    ∃ report events, store.validate shop = .ok (report, events) ∧ report.isValid = true := by
  obtain ⟨report, hreport, hvalid⟩ :
      ∃ report, Report.check Value.usualRoom _ _ = .ok report ∧ report.isValid = true :=
    Report.exists_isValid_iff.mpr h
  exact ⟨report, _, by rw [validate, hreport]; rfl, hvalid⟩

/-- **When a shop has no problem**, in terms of its rows. -/
theorem issues_eq_nil_iff (hs : store.Sound) :
    store.issues shop = [] ↔
      (store.defaultDestination? shop).isSome = true ∧
        (∀ row ∈ Table.ofShop store.rules shop,
          (store.destination? shop row.destinationId).isSome = true ∧
            Issue.isUnreadable (row.toRule []) = false) ∧
        ((Table.ofShop store.rules shop).filter (·.isActive)).Pairwise fun row other =>
          row.priority.same other.priority = false := by
  have hdefault : (∃ d ∈ store.loadDestinations shop, d.isDefault = true) ↔
      (store.defaultDestination? shop).isSome = true := by
    unfold loadDestinations defaultDestination?
    simp only [List.mem_map, exists_exists_and_eq_and, List.find?_isSome,
      (listDestinations_perm store shop).mem_iff]
  have hperm : (store.listRules shop false).Perm (Table.ofShop store.rules shop) :=
    (listRules_perm store shop false).trans (.of_eq (List.filter_eq_self.mpr fun _ _ => rfl))
  have hshared : ((store.snapshot shop false).rules.filter (·.isActive)).Pairwise
        (fun rule other => rule.priority.same other.priority = false) ↔
      ((Table.ofShop store.rules shop).filter (·.isActive)).Pairwise fun row other =>
        row.priority.same other.priority = false := by
    unfold snapshot loadRules
    rw [List.filter_map, List.pairwise_map]
    refine List.Perm.pairwise_iff (fun {row other} h => ?_) (hperm.filter _)
    exact Bool.eq_false_iff.mpr fun hs => Bool.eq_false_iff.mp h (Priority.same_symm hs)
  refine Issue.list_eq_nil_iff.trans ?_
  refine and_congr hdefault (and_congr ?_ hshared)
  unfold snapshot loadRules
  rw [List.forall_mem_map]
  simp only [hperm.mem_iff, isJoined_toRule_iff hs]
  rfl

/-- What a rule is joined with is one of the destinations. -/
theorem mem_of_toRule_destination {destinations : List Destination} {row : RuleRow}
    {place : Destination} (h : (row.toRule destinations).destination = some place) :
    place ∈ destinations :=
  List.mem_reverse.mp (List.mem_of_find?_eq_some h)

/-- The active rules of a shop are among its rules, and joined alike. -/
theorem mem_snapshot_of_active {rule : Rule} (h : rule ∈ (store.snapshot shop true).rules) :
    rule ∈ (store.snapshot shop false).rules := by
  obtain ⟨row, hrow, rfl⟩ := List.mem_map.mp h
  obtain ⟨hm, hshop, -⟩ := mem_listRules.mp hrow
  exact List.mem_map_of_mem (mem_listRules.mpr ⟨hm, hshop, fun h => absurd h Bool.false_ne_true⟩)

/-- **The returns of a shop whose report has no problem** go to destinations that it has, and
nothing is warned of. -/
theorem route_of_valid (hnone : store.issues shop = []) (h : store.Comparable shop)
    (context : Context) (requestId : Option String) :
    ∃ decision events place, store.route shop context requestId = .ok (decision, events) ∧
      decision.destination = some place ∧ place ∈ store.loadDestinations shop ∧
        ∀ event ∈ events, event.level ≠ .warning := by
  obtain ⟨hdefault, hrules, -⟩ := Issue.list_eq_nil_iff.mp hnone
  replace hdefault : ∃ d ∈ (store.snapshot shop true).destinations, d.isDefault = true := hdefault
  have hjoined : ∀ rule ∈ (store.snapshot shop true).rules, rule.isActive = true →
      rule.destination.isSome = true := fun rule hrule _ =>
    Issue.isSome_of_isJoined (hrules rule (mem_snapshot_of_active hrule)).1
  obtain ⟨decision, hresolve, hrouted⟩ :=
    Decision.reached_of_joined hdefault hjoined context requestId
  obtain ⟨place, hplace⟩ := Option.isSome_iff_exists.mp hrouted
  rw [route_eq, Priority.check_eq_ok_iff.mpr ((uniform_listRules store shop).mpr h)]
  simp only [ok_bind, hresolve]
  refine ⟨decision, _, place, rfl, hplace, ?_, fun event he => ?_⟩
  · rcases Decision.mem_of_reached hresolve hplace with ⟨rule, hrule, -, hdestination⟩ | hmem
    · obtain ⟨row, -, rfl⟩ := List.mem_map.mp hrule
      exact mem_of_toRule_destination hdestination
    · exact hmem
  · rcases List.mem_append.mp he with he | he
    · rw [List.mem_singleton.mp he]
      exact Level.noConfusion
    · rw [List.mem_singleton.mp he, routeEvent, hplace]
      exact Level.noConfusion

end Store

/-- **A report without problems means that returns are routed.** If the check of rules and
destinations finds no problem, the rules can be put in order, every return gets a destination, and
nothing is warned of; in a reachable store the return of a shop gets one of the destinations that
the shop has at that moment. This is so if the priorities of the active rules are all numbers or all
texts. If they are of both kinds, the rules cannot be put in order, which the report does not
say. -/
theorem clean_report_routes :
    (∀ (room : Nat) (rules : List Rule) (destinations : List Destination) (report : Report),
        Report.check room rules destinations = .ok report → report.isValid = true →
          ∀ (context : Context) (requestId : Option String),
            (Rule.AreComparable rules →
                ∃ decision events,
                  Decision.resolve rules destinations context requestId = .ok (decision, events) ∧
                    decision.isRouted = true ∧ ∀ event ∈ events, event.level ≠ .warning) ∧
              (¬Rule.AreComparable rules →
                ∃ fault, Decision.resolve rules destinations context requestId = .error fault)) ∧
      ∀ store : Store, store.Reachable → ∀ (shop : String) (report : Report) (said : List Event),
        store.validate shop = .ok (report, said) → report.isValid = true →
          ∀ (context : Context) (requestId : Option String),
            (store.Comparable shop →
                ∃ decision events place,
                  store.route shop context requestId = .ok (decision, events) ∧
                    decision.destination = some place ∧ place ∈ store.loadDestinations shop ∧
                      ∀ event ∈ events, event.level ≠ .warning) ∧
              (¬store.Comparable shop →
                ∃ fault, store.route shop context requestId = .error fault) := by
  refine ⟨fun room rules destinations report hreport hvalid context requestId =>
      ⟨fun h => ?_, fun h => ?_⟩,
    fun store _ shop report said hreport hvalid context requestId => ⟨fun h => ?_, fun h => ?_⟩⟩
  · obtain ⟨hdefault, hrules, -⟩ :=
      Issue.list_eq_nil_iff.mp ((Report.isValid_iff hreport).mp hvalid)
    obtain ⟨decision, hreached, hrouted⟩ := Decision.reached_of_joined hdefault
      (fun rule hrule _ => Issue.isSome_of_isJoined (hrules rule hrule).1) context requestId
    refine ⟨decision, [decision.event], ?_, hrouted, fun event he => ?_⟩
    · rw [Decision.resolve_of_areComparable h, hreached]
    · rw [List.mem_singleton.mp he]
      exact Level.noConfusion
  · exact Decision.resolve_of_not_areComparable h destinations context requestId
  · exact Store.route_of_valid (Store.issues_eq_nil hreport hvalid) h context requestId
  · obtain ⟨row, -, -, -, -, hfault⟩ := Store.route_of_not_comparable h context requestId
    exact ⟨_, hfault⟩

namespace Store

/-- A shop gets a default destination and two rules to it. The priority of one is a number, that of
the other a text. -/
def mixedWithDefault : List Step :=
  [⟨.named "", .createDestination "acme" (.ofPlace "d1" true)⟩,
    ⟨.named "", .createRule "acme" (.ofShoes "r1" (.integer 1) "d1")⟩,
    ⟨.named "", .createRule "acme" (.ofShoes "r2" (.text "high") "d1")⟩]

theorem issues_mixedWithDefault : (Store.after {} mixedWithDefault).issues "acme" = [] :=
  (issues_eq_nil_iff (sound_empty.after mixedWithDefault)).mpr (by decide +kernel)

theorem issues_mixedWithDefault_take :
    (Store.after {} (mixedWithDefault.take 2)).issues "acme" = [] :=
  (issues_eq_nil_iff (sound_empty.after (mixedWithDefault.take 2))).mpr (by decide +kernel)

/-- Two active rules to a destination, with these priorities. -/
def pair (first second : Priority) : List Rule :=
  [first, second].map fun priority =>
    { id := "r", name := "r", conditionType := .text "product_type", conditionValue := .text "shoes"
      destinationId := some "d1", priority, destination := some { id := "d1", name := "Main" } }

/-- A default destination. -/
def onePlace : List Destination :=
  [{ id := "d1", name := "Main", isDefault := true }]

/-- Two rules whose priorities are numbers, and two with a number and a text; a shop without the
last rule, and with it. -/
theorem clean_report_routes_mixedWithDefault :
    (∃ decision events,
        Decision.resolve (pair (.integer 1) (.integer 2)) onePlace {} none =
            .ok (decision, events) ∧
          decision.isRouted = true ∧ ∀ event ∈ events, event.level ≠ .warning) ∧
      (∃ fault, Decision.resolve (pair (.integer 1) (.text "high")) onePlace {} none =
        .error fault) ∧
      (∃ decision events place,
        (Store.after {} (mixedWithDefault.take 2)).route "acme" {} none = .ok (decision, events) ∧
          decision.destination = some place ∧
            place ∈ (Store.after {} (mixedWithDefault.take 2)).loadDestinations "acme" ∧
              ∀ event ∈ events, event.level ≠ .warning) ∧
      ∃ fault, (Store.after {} mixedWithDefault).route "acme" {} none = .error fault := by
  obtain ⟨first, saidFirst, hfirst, hvalidFirst⟩ := exists_validate issues_mixedWithDefault_take
  obtain ⟨both, saidBoth, hboth, hvalidBoth⟩ := exists_validate issues_mixedWithDefault
  exact ⟨(clean_report_routes.1 0 (pair (.integer 1) (.integer 2)) onePlace ⟨[]⟩
      (by decide +kernel) rfl {} none).1 (by decide +kernel),
    (clean_report_routes.1 0 (pair (.integer 1) (.text "high")) onePlace ⟨[]⟩
      (by decide +kernel) rfl {} none).2 (by decide +kernel),
    (clean_report_routes.2 _ (Reachable.empty.after (mixedWithDefault.take 2)) "acme" first
      saidFirst hfirst hvalidFirst {} none).1 (by decide +kernel),
    (clean_report_routes.2 _ (Reachable.empty.after mixedWithDefault) "acme" both saidBoth hboth
      hvalidBoth {} none).2 (by decide +kernel)⟩

/-- A report without problems does not mean that returns are routed: it says nothing of priorities
that cannot be compared. -/
theorem not_forall_clean_report_routes :
    ¬∀ store : Store, store.Reachable → ∀ (shop : String) (report : Report) (said : List Event),
      store.validate shop = .ok (report, said) → report.isValid = true →
        ∀ (context : Context) (requestId : Option String), ∃ decision events,
          store.route shop context requestId = .ok (decision, events) ∧
            decision.isRouted = true := by
  intro h
  obtain ⟨report, said, hreport, hvalid⟩ := exists_validate issues_mixedWithDefault
  have hmixed : ¬(Store.after {} mixedWithDefault).Comparable "acme" := by decide +kernel
  obtain ⟨decision, events, hok, -⟩ :=
    h (Store.after {} mixedWithDefault) (Reachable.empty.after mixedWithDefault) "acme" report said
      hreport hvalid {} none
  obtain ⟨row, -, -, -, -, herror⟩ := route_of_not_comparable hmixed {} none
  rw [hok] at herror
  cases herror

end Store

end Disposition
