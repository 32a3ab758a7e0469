import Disposition.Proofs.Choice
import Disposition.Proofs.Report
import Disposition.Proofs.Writing
import Mathlib.Data.List.Forall2
import Mathlib.Data.List.Find

/-!
# What the problems of a configuration say

The report on a configuration has each problem once for each place where it is, in the order of the
configuration, and no other. A priority that active rules share is one problem, and it stands where
the priority is first met. A problem that cannot be written leaves the configuration without a
report.

The last kind of problem is about the order of rules, and so is what its absence promises: if no
priority is shared, the order in which rules and destinations are given makes no difference to any
decision.

Results:
* `Issue.mem_eraseDupsBy_iff`: of a list without repetitions each element is the first of its kind.
* `Issue.repeated_eq`: the shared priorities, by the places where they are first met.
* `Issue.unreadable_mem_list_iff`, `Issue.sharedPriority_mem_list_iff`: two kinds of problems.
* `Issue.areOf_list`: the problems of a configuration, and their order.
* `Report.check_verdict`: when the report is valid, and what it says otherwise, if there is one.
* `Rule.arranged_of_perm`: rules with priorities of their own have one order.
* `Decision.resolve_of_perm`: decisions do not depend on how the configuration is arranged.
-/

namespace Disposition

namespace Issue

/-! ## The first of each kind -/

section EraseDups

variable {α : Type} {r : α → α → Bool}

theorem eraseDupsBy_sublist : ∀ l : List α, (l.eraseDupsBy r).Sublist l
  | [] => List.Sublist.slnil
  | a :: l => by
    rw [List.eraseDupsBy_cons]
    exact ((eraseDupsBy_sublist _).trans List.filter_sublist).cons_cons a
termination_by l => l.length
decreasing_by exact Nat.lt_succ_of_le (List.length_filter_le _ _)

/-- **What is kept is what nothing before it equals.** -/
theorem mem_eraseDupsBy_iff {R : α → α → Prop} (hasymm : ∀ a b, R a b → ¬R b a)
    (htrans : ∀ a b c, r a b = true → r b c = true → r a c = true) {a : α} :
    ∀ {l : List α}, l.Pairwise R →
      (a ∈ l.eraseDupsBy r ↔ a ∈ l ∧ ∀ b ∈ l, R b a → r a b = false)
  | [], _ => by simp
  | b :: l, hs => by
    obtain ⟨hfirst, hs⟩ := List.pairwise_cons.mp hs
    have hkept := hs.filter fun c => decide (r c b = false)
    rw [List.eraseDupsBy_cons, List.mem_cons, mem_eraseDupsBy_iff hasymm htrans hkept]
    simp only [List.mem_filter, decide_eq_true_eq]
    constructor
    · rintro (rfl | ⟨⟨hm, hab⟩, h⟩)
      · refine ⟨List.mem_cons_self, fun c hc hca => ?_⟩
        rcases List.mem_cons.mp hc with rfl | hc
        · exact absurd hca (hasymm c c hca)
        · exact absurd hca (hasymm a c (hfirst c hc))
      · refine ⟨List.mem_cons_of_mem _ hm, fun c hc hca => ?_⟩
        rcases List.mem_cons.mp hc with rfl | hc
        · exact hab
        · -- an element that the first one equals is not kept, and this one equals neither
          by_cases hcb : r c b = false
          · exact h c ⟨hc, hcb⟩ hca
          · refine Bool.eq_false_iff.mpr fun hac => ?_
            have hab' := htrans a c b hac (by simpa using hcb)
            rw [hab] at hab'
            cases hab'
    · rintro ⟨hm, h⟩
      rcases List.mem_cons.mp hm with rfl | hm
      · exact .inl rfl
      · refine .inr ⟨⟨hm, h b List.mem_cons_self (hfirst a hm)⟩, fun c hc hca => ?_⟩
        exact h c (List.mem_cons_of_mem _ hc.1) hca
termination_by l => l.length
decreasing_by exact Nat.lt_succ_of_le (List.length_filter_le _ _)

theorem map_eraseDupsBy {β : Type} {f : β → α} : ∀ l : List β,
    (l.eraseDupsBy fun a b => r (f a) (f b)).map f = (l.map f).eraseDupsBy r
  | [] => rfl
  | a :: l => by
    rw [List.eraseDupsBy_cons, List.map_cons, List.map_cons, List.eraseDupsBy_cons,
      map_eraseDupsBy, List.filter_map]
    rfl
termination_by l => l.length
decreasing_by exact Nat.lt_succ_of_le (List.length_filter_le _ _)

end EraseDups

/-! ## Shared priorities -/

/-- The priority at a place is met there for the first time, and not for the last. -/
def IsRepeated (priorities : List Priority) (i : Nat) : Prop :=
  ∃ p, priorities[i]? = some p ∧
    (∀ j q, j < i → priorities[j]? = some q → p.same q = false) ∧
      ∃ j q, i < j ∧ priorities[j]? = some q ∧ p.same q = true

/-- A priority that is met for the first time is there more than once if it is met again. -/
theorem one_lt_countP_iff {priorities : List Priority} {i : Nat} {p : Priority}
    (hp : priorities[i]? = some p)
    (hfirst : ∀ j q, j < i → priorities[j]? = some q → p.same q = false) :
    1 < priorities.countP p.same ↔
      ∃ j q, i < j ∧ priorities[j]? = some q ∧ p.same q = true := by
  obtain ⟨hi, hget⟩ := List.getElem?_eq_some_iff.mp hp
  have hsplit : priorities.take i ++ p :: priorities.drop (i + 1) = priorities := by
    rw [← hget, ← List.drop_eq_getElem_cons hi, List.take_append_drop]
  have hbefore : (priorities.take i).countP p.same = 0 := by
    refine List.countP_eq_zero.mpr fun q hq => ?_
    obtain ⟨j, hj⟩ := List.mem_iff_getElem?.mp hq
    rw [List.getElem?_take] at hj
    split at hj
    · rename_i hlt
      rw [hfirst j q hlt hj]
      exact Bool.false_ne_true
    · cases hj
  have hcount : priorities.countP p.same = (priorities.drop (i + 1)).countP p.same + 1 := by
    conv_lhs => rw [← hsplit]
    rw [List.countP_append, hbefore, Nat.zero_add,
      List.countP_cons_of_pos (Priority.same_refl p)]
  rw [hcount, Nat.lt_add_left_iff_pos, List.countP_pos_iff]
  constructor
  · rintro ⟨q, hq, hsame⟩
    obtain ⟨k, hk⟩ := List.mem_iff_getElem?.mp hq
    rw [List.getElem?_drop] at hk
    exact ⟨i + 1 + k, q, by omega, hk, hsame⟩
  · rintro ⟨j, q, hlt, hq, hsame⟩
    refine ⟨q, List.mem_iff_getElem?.mpr ⟨j - (i + 1), ?_⟩, hsame⟩
    rw [List.getElem?_drop, Nat.add_sub_cancel' hlt]
    exact hq

/-- **The shared priorities** are those that are met again, in the order in which they are first
met. -/
theorem repeated_eq (priorities : List Priority) :
    ∃ places : List Nat, places.Pairwise (· < ·) ∧
      (∀ i, i ∈ places ↔ IsRepeated priorities i) ∧
        repeated priorities = places.filterMap fun i => priorities[i]? := by
  let kept := priorities.zipIdx.eraseDupsBy fun x y => x.1.same y.1
  let shared := kept.filter fun x => decide (1 < priorities.countP x.1.same)
  have hsub : shared.Sublist priorities.zipIdx :=
    List.filter_sublist.trans (eraseDupsBy_sublist _)
  refine ⟨shared.map Prod.snd, ?_, fun i => ?_, ?_⟩
  · exact List.pairwise_map.mpr ((pairwise_zipIdx priorities).sublist hsub)
  · have hkept : ∀ x, x ∈ kept ↔ x ∈ priorities.zipIdx ∧
        ∀ y ∈ priorities.zipIdx, y.2 < x.2 → x.1.same y.1 = false := fun x =>
      mem_eraseDupsBy_iff (r := fun x y : Priority × Nat => x.1.same y.1)
        (fun _ _ => Nat.lt_asymm) (fun _ _ _ => Priority.same_trans) (pairwise_zipIdx priorities)
    have hfirst : ∀ p : Priority, (∀ y ∈ priorities.zipIdx, y.2 < i → p.same y.1 = false) ↔
        ∀ j q, j < i → priorities[j]? = some q → p.same q = false := fun p =>
      ⟨fun h j q hj hq => h (q, j) (List.mem_zipIdx_iff_getElem?.mpr hq) hj,
        fun h y hy hlt => h y.2 y.1 hlt (List.mem_zipIdx_iff_getElem?.mp hy)⟩
    simp only [shared, List.mem_map, List.mem_filter, hkept, decide_eq_true_eq]
    constructor
    · rintro ⟨⟨p, i⟩, ⟨⟨hmem, hbefore⟩, hcount⟩, rfl⟩
      have hp := List.mem_zipIdx_iff_getElem?.mp hmem
      have hbefore := (hfirst p).mp hbefore
      exact ⟨p, hp, hbefore, (one_lt_countP_iff hp hbefore).mp hcount⟩
    · rintro ⟨p, hp, hbefore, hagain⟩
      exact ⟨(p, i), ⟨⟨List.mem_zipIdx_iff_getElem?.mpr hp, (hfirst p).mpr hbefore⟩,
        (one_lt_countP_iff hp hbefore).mpr hagain⟩, rfl⟩
  · have hrepeated : repeated priorities = shared.map Prod.fst := by
      unfold repeated
      conv_lhs => rw [← List.zipIdx_map_fst 0 priorities, ← map_eraseDupsBy, List.filter_map]
      rw [List.zipIdx_map_fst]
      rfl
    rw [hrepeated, List.filterMap_map, ← List.filterMap_eq_map]
    refine List.filterMap_congr fun x hx => ?_
    exact (List.mem_zipIdx_iff_getElem?.mp (hsub.subset hx)).symm

end Issue

/-! ## Problems of destinations and of rules -/

namespace Rule

/-- The rule has a destination, and the one that it names is among those. -/
def HasPlace (destinations : List Destination) (rule : Rule) : Prop :=
  rule.destination ≠ none ∧ ∃ d ∈ destinations, rule.destinationId = some d.id

/-- The rule compares the value of the order. -/
def IsOnOrderValue (rule : Rule) : Prop :=
  rule.conditionType = .text "order_value_above" ∨ rule.conditionType = .text "order_value_below"

/-- If the rule compares the value of the order, there is a number to compare it with. -/
def IsReadable (rule : Rule) : Prop :=
  rule.IsOnOrderValue → rule.conditionValue.threshold? ≠ none

theorem isJoined_iff {destinations : List Destination} {rule : Rule} :
    Issue.isJoined (destinations.map (·.id)) rule = true ↔ rule.HasPlace destinations := by
  unfold Issue.isJoined HasPlace
  rw [Bool.and_eq_true, Option.isSome_iff_ne_none]
  refine and_congr_right fun _ => ?_
  cases rule.destinationId with
  | none => simp
  | some id => simp [eq_comm]

theorem kind?_isThreshold_iff {rule : Rule} :
    rule.kind?.any (·.isThreshold) = true ↔ rule.IsOnOrderValue := by
  constructor
  · intro h
    obtain ⟨kind, hkind, hthreshold⟩ := (Option.any_eq_true _ _).mp h
    obtain ⟨s, htext, hname⟩ := Option.bind_eq_some_iff.mp hkind
    have htype : rule.conditionType = .text s := by
      cases ht : rule.conditionType <;> rw [ht] at htext <;> cases htext
      rfl
    have hs : kind.name = s := by simpa using List.find?_some hname
    rw [IsOnOrderValue, htype, ← hs]
    cases kind <;> first | exact .inl rfl | exact .inr rfl | cases hthreshold
  · unfold kind?
    rintro (h | h) <;> rw [h] <;> rfl

theorem isUnreadable_iff {rule : Rule} : Issue.isUnreadable rule = true ↔ ¬rule.IsReadable := by
  unfold Issue.isUnreadable IsReadable
  rw [Bool.and_eq_true, kind?_isThreshold_iff, Option.isNone_iff_eq_none]
  simp

end Rule

namespace Issue

/-- The problem of the destinations, if there is one. -/
inductive OfDestinations (destinations : List Destination) : List Issue → Prop
  /-- There are none. -/
  | empty (h : destinations = []) : OfDestinations destinations [noDestinations]
  /-- None of them is the default. -/
  | unflagged (h : destinations ≠ []) (hd : ∀ d ∈ destinations, d.isDefault = false) :
      OfDestinations destinations [noDefault]
  /-- One of them is the default. -/
  | flagged (h : ∃ d ∈ destinations, d.isDefault = true) : OfDestinations destinations []

/-- The problems of a rule: that its destination is missing, then that it cannot be read. -/
inductive OfRule (destinations : List Destination) (rule : Rule) : List Issue → Prop
  /-- It has a destination and can be read. -/
  | sound (h : rule.HasPlace destinations) (hr : rule.IsReadable) : OfRule destinations rule []
  /-- Its destination is missing. -/
  | lost (h : ¬rule.HasPlace destinations) (hr : rule.IsReadable) :
      OfRule destinations rule [dangling rule.name]
  /-- It cannot be read. -/
  | unreadable (h : rule.HasPlace destinations) (hr : ¬rule.IsReadable) :
      OfRule destinations rule [unreadableThreshold rule.name rule.conditionValue]
  /-- Both. -/
  | both (h : ¬rule.HasPlace destinations) (hr : ¬rule.IsReadable) :
      OfRule destinations rule
        [dangling rule.name, unreadableThreshold rule.name rule.conditionValue]

theorem ofDestinations_spec (destinations : List Destination) :
    OfDestinations destinations (ofDestinations destinations) := by
  unfold ofDestinations
  by_cases hempty : destinations = []
  · rw [if_pos (by simpa using hempty)]
    exact .empty hempty
  · rw [if_neg (by simpa using hempty)]
    by_cases hflag : ∃ d ∈ destinations, d.isDefault = true
    · rw [if_pos (List.any_eq_true.mpr hflag)]
      exact .flagged hflag
    · rw [if_neg fun h => hflag (List.any_eq_true.mp h)]
      refine .unflagged hempty fun d hd => Bool.eq_false_iff.mpr fun h => hflag ⟨d, hd, h⟩

theorem ofRule_spec (destinations : List Destination) (rule : Rule) :
    OfRule destinations rule (ofRule (destinations.map (·.id)) rule) := by
  unfold ofRule
  by_cases hplace : rule.HasPlace destinations <;> by_cases hread : rule.IsReadable
  · rw [if_pos (Rule.isJoined_iff.mpr hplace), if_neg fun h => Rule.isUnreadable_iff.mp h hread]
    exact .sound hplace hread
  · rw [if_pos (Rule.isJoined_iff.mpr hplace), if_pos (Rule.isUnreadable_iff.mpr hread)]
    exact .unreadable hplace hread
  · rw [if_neg fun h => hplace (Rule.isJoined_iff.mp h),
      if_neg fun h => Rule.isUnreadable_iff.mp h hread]
    exact .lost hplace hread
  · rw [if_neg fun h => hplace (Rule.isJoined_iff.mp h), if_pos (Rule.isUnreadable_iff.mpr hread)]
    exact .both hplace hread

end Issue

namespace Issue

theorem mem_ofRule_iff {knownIds : List String} {rule : Rule} {issue : Issue} :
    issue ∈ ofRule knownIds rule ↔
      (issue = dangling rule.name ∧ isJoined knownIds rule = false) ∨
        (issue = unreadableThreshold rule.name rule.conditionValue ∧ isUnreadable rule = true) := by
  unfold ofRule
  cases isJoined knownIds rule <;> cases isUnreadable rule <;> simp

/-- The problem is one of a rule. -/
def isOfRule : Issue → Bool
  | dangling _ | unreadableThreshold _ _ => true
  | _ => false

/-- The problems of rules in a report are those of its rules. -/
theorem mem_list_iff {rules : List Rule} {destinations : List Destination} {issue : Issue}
    (h : issue.isOfRule = true) :
    issue ∈ list rules destinations ↔
      ∃ rule ∈ rules, issue ∈ ofRule (destinations.map (·.id)) rule := by
  have hfirst : issue ∉ ofDestinations destinations := by
    unfold ofDestinations
    split_ifs <;> rintro (_ | ⟨_, ⟨⟩⟩) <;> cases h
  have hlast : issue ∉ ofPriorities rules := by
    intro hmem
    obtain ⟨p, -, rfl⟩ := List.mem_map.mp hmem
    cases h
  unfold list
  rw [List.mem_append, List.mem_append, or_iff_left hlast, or_iff_right hfirst, List.mem_flatMap]

/-- **The unreadable thresholds of a report** are those of its rules. -/
theorem unreadable_mem_list_iff {rules : List Rule} {destinations : List Destination}
    {name : String} {operand : Value} :
    unreadableThreshold name operand ∈ list rules destinations ↔
      ∃ rule ∈ rules, isUnreadable rule = true ∧ rule.name = name ∧
        rule.conditionValue = operand := by
  rw [mem_list_iff rfl]
  refine exists_congr fun rule => and_congr_right fun _ => ?_
  rw [mem_ofRule_iff]
  constructor
  · rintro (⟨h, -⟩ | ⟨h, hu⟩)
    · cases h
    · cases h
      exact ⟨hu, rfl, rfl⟩
  · rintro ⟨hu, rfl, rfl⟩
    exact .inr ⟨rfl, hu⟩

/-- The priorities that are reported to be shared are those that active rules share. -/
theorem sharedPriority_mem_list_iff {rules : List Rule} {destinations : List Destination}
    {p : Priority} : sharedPriority p ∈ list rules destinations ↔
      p ∈ repeated ((rules.filter (·.isActive)).map (·.priority)) := by
  have hfirst : sharedPriority p ∉ ofDestinations destinations := by
    unfold ofDestinations
    split_ifs <;> simp
  have hmiddle : sharedPriority p ∉ rules.flatMap (ofRule (destinations.map (·.id))) := by
    rw [List.mem_flatMap]
    rintro ⟨rule, -, hmem⟩
    unfold ofRule at hmem
    split_ifs at hmem <;> simp at hmem
  unfold list ofPriorities
  rw [List.mem_append, List.mem_append, or_iff_right (not_or.mpr ⟨hfirst, hmiddle⟩), List.mem_map]
  simp

/-- Only priorities of active rules are shared. -/
theorem mem_of_mem_repeated {priorities : List Priority} {p : Priority}
    (h : p ∈ repeated priorities) : p ∈ priorities :=
  (eraseDupsBy_sublist priorities).subset (List.mem_of_mem_filter h)

end Issue

/-- What the problems of a configuration are, and in which order: at most one of the destinations;
then those of each rule, in the order of the rules; then the priorities that active rules share,
each once, in the order in which they are first met. -/
def Issue.AreOf (rules : List Rule) (destinations : List Destination) (issues : List Issue) :
    Prop :=
  let priorities := (rules.filter (·.isActive)).map (·.priority)
  ∃ (first : List Issue) (ofRules : List (List Issue)) (places : List Nat),
    OfDestinations destinations first ∧ List.Forall₂ (OfRule destinations) rules ofRules ∧
      places.Pairwise (· < ·) ∧ (∀ i, i ∈ places ↔ IsRepeated priorities i) ∧
        issues = first ++ ofRules.flatten ++
          (places.filterMap fun i => priorities[i]?).map sharedPriority

/-- The problems of a configuration are those that are listed. -/
theorem Issue.areOf_list (rules : List Rule) (destinations : List Destination) :
    AreOf rules destinations (list rules destinations) := by
  obtain ⟨places, hsorted, hmem, hrepeated⟩ :=
    repeated_eq ((rules.filter (·.isActive)).map (·.priority))
  refine ⟨_, rules.map (ofRule (destinations.map (·.id))), places,
    ofDestinations_spec destinations, ?_, hsorted, hmem, ?_⟩
  · refine List.forall₂_map_right_iff.mpr (List.forall₂_same.mpr fun rule _ => ?_)
    exact ofRule_spec destinations rule
  · unfold list ofPriorities
    rw [hrepeated, List.flatMap_def]

/-! ## Problems that can be written -/

/-- The problem can be written, with room for so many values inside an operand. -/
def Issue.IsWritable (room : Nat) : Issue → Prop
  | unreadableThreshold _ operand => operand.IsWritable room
  | sharedPriority priority => priority.IsWritable
  | _ => True

/-- **The problems that have a wording** are those that can be written. -/
theorem Issue.exists_text_iff {room : Nat} {issue : Issue} :
    (∃ text, issue.text room = .ok text) ↔ issue.IsWritable room := by
  cases issue with
  | noDestinations | noDefault | dangling _ => exact iff_of_true ⟨_, rfl⟩ trivial
  | unreadableThreshold name operand =>
    exact exists_bind_pure_iff.trans Value.exists_shown_iff
  | sharedPriority priority => exact exists_bind_pure_iff.trans Priority.exists_shown_iff

namespace Report

variable {room : Nat} {rules : List Rule} {destinations : List Destination}

/-- **There is a report** if every problem can be written. -/
theorem exists_check_iff :
    (∃ report, check room rules destinations = .ok report) ↔
      ∀ issue ∈ Issue.list rules destinations, issue.IsWritable room := by
  unfold check
  rw [exists_bind_pure_iff, exists_mapM_iff]
  simp only [Issue.exists_text_iff]

end Report

/-- A whole number of 5001 digits as a fraction. -/
def Value.oversized : Value :=
  .fraction (tenTo 5000 : Nat)

theorem Value.not_isWritable_oversized (room : Nat) : ¬oversized.IsWritable room := fun h =>
  absurd (h.digits (tenTo 5000 : Nat) List.mem_cons_self) (by decide +kernel)

/-- A rule on the value of the order that compares it with such a number. -/
def Rule.oversized : Rule where
  id := "r1"
  name := "R"
  conditionType := .text "order_value_above"
  conditionValue := .oversized
  destinationId := some "d1"
  destination := some { id := "d1", name := "Main" }

/-- The number is too large to be compared with, and it is too long to be reported. -/
theorem Report.not_exists_check_oversized (room : Nat) :
    ¬∃ report, check room [Rule.oversized] [{ id := "d1", name := "Main", isDefault := true }] =
      .ok report := by
  intro h
  have hunreadable : Issue.isUnreadable Rule.oversized = true := by decide +kernel
  have hproblem :
      Issue.unreadableThreshold "R" .oversized ∈ Issue.ofRule ["d1"] Rule.oversized := by
    rw [Issue.ofRule, if_pos hunreadable]
    exact List.mem_append_right _ List.mem_cons_self
  have hlisted : Issue.unreadableThreshold "R" .oversized ∈
      Issue.list [Rule.oversized] [{ id := "d1", name := "Main", isDefault := true }] :=
    List.mem_append_left _ (List.mem_append_right _
      (List.mem_flatMap.mpr ⟨_, List.mem_cons_self, hproblem⟩))
  exact Value.not_isWritable_oversized room (exists_check_iff.mp h _ hlisted)

/-- A report that no priority is shared says that the active rules have priorities of their own. -/
theorem Issue.pairwise_iff_forall_notMem_list {rules : List Rule}
    {destinations : List Destination} :
    ((rules.filter (·.isActive)).Pairwise fun rule other =>
        rule.priority.same other.priority = false) ↔
      ∀ p, sharedPriority p ∉ list rules destinations := by
  rw [← List.pairwise_map (R := fun p q : Priority => p.same q = false), ← repeated_eq_nil_iff,
    List.eq_nil_iff_forall_not_mem]
  simp only [sharedPriority_mem_list_iff]

/-- **Rules with priorities of their own have one order.** -/
theorem Rule.arranged_of_perm {rules others : List Rule}
    (h : (rules.filter (·.isActive)).Pairwise fun rule other =>
      rule.priority.same other.priority = false)
    (hp : others.Perm rules) : arranged others = arranged rules := by
  have hsorted : ∀ l : List Rule, (arranged l).Pairwise fun rule other =>
      rule.priority.le other.priority = true := by
    intro l
    rw [← map_tried]
    exact List.pairwise_map.mpr ((pairwise_tried l).imp And.left)
  have hperm : (arranged others).Perm (arranged rules) :=
    (List.mergeSort_perm _ _).trans
      ((hp.filter _).trans (List.mergeSort_perm _ _).symm)
  refine List.Perm.eq_of_pairwise (fun rule other hrule hother hle hge => ?_) (hsorted others)
    (hsorted rules) hperm
  -- two rules in the same place have the same priority, so they are one rule
  by_contra hne
  have hsame := (Priority.same_iff _ _).mpr ⟨hle, hge⟩
  have hrule := List.mem_filter.mpr (mem_arranged.mp (hperm.mem_iff.mp hrule))
  have hother := List.mem_filter.mpr (mem_arranged.mp hother)
  have : Std.Symm fun rule other : Rule => rule.priority.same other.priority = false :=
    ⟨fun _ _ hab => Bool.eq_false_iff.mpr fun hba =>
      Bool.eq_false_iff.mp hab (Priority.same_symm hba)⟩
  rw [h.forall hrule hother hne] at hsame
  cases hsame

/-- A default that is the only one is found in whatever order the destinations stand. -/
theorem Destination.default?_of_perm {destinations others : List Destination}
    (hone : (destinations.filter (·.isDefault)).length ≤ 1) (hp : others.Perm destinations) :
    default? others = default? destinations := by
  refine (List.find?_eq_find?_of_perm hp.symm fun d ⟨hd, hflag⟩ e ⟨he, heflag⟩ => ?_).symm
  have hd := List.mem_filter.mpr ⟨hd, hflag⟩
  have he := List.mem_filter.mpr ⟨he, heflag⟩
  match hfilter : destinations.filter (·.isDefault) with
  | [] =>
    rw [hfilter] at hd
    exact absurd hd List.not_mem_nil
  | [only] =>
    rw [hfilter] at hd he
    rw [List.mem_singleton.mp hd, List.mem_singleton.mp he]
  | _ :: _ :: _ =>
    rw [hfilter] at hone
    exact absurd hone (by simp)

/-- **Decisions do not depend on how the configuration is arranged**, if no priority is reported to
be shared and at most one destination is the default. If the priorities of the active rules are all
numbers or all texts, there is one decision with one list of events, in whatever order the rules and
the destinations are given; if they are of both kinds, there is none in any order. -/
theorem Decision.resolve_of_perm {rules : List Rule} {destinations : List Destination}
    (hshared : ∀ p, Issue.sharedPriority p ∉ Issue.list rules destinations)
    (hone : (destinations.filter (·.isDefault)).length ≤ 1) (context : Context)
    (requestId : Option String) :
    (Rule.AreComparable rules →
        ∃ decision events, ∀ others otherDestinations,
          others.Perm rules → otherDestinations.Perm destinations →
            resolve others otherDestinations context requestId =
              .ok (decision, events)) ∧
      (¬Rule.AreComparable rules →
        ∀ others otherDestinations, others.Perm rules → otherDestinations.Perm destinations →
          ∃ fault, resolve others otherDestinations context requestId =
            .error fault) := by
  have hcheck : ∀ others : List Rule, others.Perm rules →
      (Rule.checkPriorities others = .ok () ↔
        Rule.AreComparable rules) := fun others hp =>
    Priority.check_eq_ok_iff.trans (Priority.Uniform.perm ((hp.filter _).map _))
  constructor
  · intro huniform
    refine ⟨(reached rules destinations context requestId).1,
      (reached rules destinations context requestId).2, fun others otherDestinations hp hd => ?_⟩
    have horder := Rule.arranged_of_perm (Issue.pairwise_iff_forall_notMem_list.mpr hshared) hp
    have hdefault := Destination.default?_of_perm hone hd
    rw [resolve_eq, (hcheck others hp).mpr huniform, reached_congr horder hdefault]
    rfl
  · intro hmixed others otherDestinations hp _
    rw [resolve_eq]
    cases hfault : Rule.checkPriorities others with
    | ok _ => exact absurd ((hcheck others hp).mp hfault) hmixed
    | error fault => exact ⟨fault, rfl⟩

/-- Two active rules with priorities of their own, and one that is not active and shares one. -/
def Rule.apart : List Rule :=
  [onShoes "second" (.integer 2) (some { id := "d1", name := "Main" }),
    onShoes "first" (.integer 1) (some { id := "d1", name := "Main" }),
    { onShoes "off" (.integer 1) (some { id := "d1", name := "Main" }) with isActive := false }]

/-- Two active rules with priorities that cannot be compared. -/
def Rule.incomparable : List Rule :=
  [onShoes "first" (.integer 1) (some { id := "d1", name := "Main" }),
    onShoes "second" (.text "high") (some { id := "d1", name := "Main" })]

/-- A shop with two destinations. -/
def Destination.two : List Destination :=
  [{ id := "d1", name := "Main" }, { id := "d2", name := "Rest", isDefault := true }]

/-- Rules with priorities of their own, and rules that cannot be put in order. -/
theorem Decision.resolve_of_perm_apart :
    (∃ decision events, ∀ others otherDestinations,
        others.Perm Rule.apart → otherDestinations.Perm Destination.two →
          resolve others otherDestinations Rule.shoes none =
            .ok (decision, events)) ∧
      ∀ others otherDestinations,
        others.Perm Rule.incomparable → otherDestinations.Perm Destination.two →
          ∃ fault, resolve others otherDestinations Rule.shoes none =
            .error fault := by
  have hapart : Issue.list Rule.apart Destination.two = [] :=
    Issue.list_eq_nil_iff.mpr (by decide +kernel)
  have hincomparable : Issue.list Rule.incomparable Destination.two = [] :=
    Issue.list_eq_nil_iff.mpr (by decide +kernel)
  exact ⟨(resolve_of_perm (fun p hp => by rw [hapart] at hp; cases hp) (by decide) _ _).1
      (by decide +kernel),
    (resolve_of_perm (fun p hp => by rw [hincomparable] at hp; cases hp) (by decide) _ _).2
      (by decide +kernel)⟩

end Disposition
