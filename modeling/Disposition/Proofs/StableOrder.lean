import Disposition.Proofs.Choice

/-!
# The order of the active rules

The active rules are put in order by their priorities, and rules that share a priority stay as they
were given. That says all of the order: there is one list that holds the active rules, as often as
they were given, with priorities that do not descend, and with the rules of each priority in the
order in which they were given. So rules in order stay as they are.

Rules may be given more than once. What stays as it was given is therefore told of the rules of a
priority as a list, and not of two rules at a time: `a, b, b, a` and `b, a, a, b` agree on any two.

If the priorities are numbers and texts, there is no order.

Results:
* `eq_of_filter_ties_eq`: lists in order are told apart by their tied elements.
* `Rule.IsStableOrder`: what the order is, and `Rule.IsStableOrder.unique`: that it is one.
* `Rule.isStableOrder_arranged`: the order in which rules are tried is that one.
* `Rule.activeInOrder_onlyStableOrder`: the active rules are put in their only stable order, or are
  at fault if there is none.
-/

namespace Disposition

/-! ## Lists in order -/

section Lists

variable {α : Type} {le : α → α → Bool}

/-- Each is at most the other. -/
def ties (le : α → α → Bool) (a b : α) : Bool :=
  le a b && le b a

theorem ties_iff {a b : α} : ties le a b = true ↔ le a b = true ∧ le b a = true :=
  Bool.and_eq_true_iff

/-- What is at most itself is found among those that are tied with it. -/
theorem mem_of_filter_ties_eq (hrefl : ∀ a, le a a = true) {l m : List α}
    (h : ∀ a, l.filter (ties le a) = m.filter (ties le a)) {a : α} (ha : a ∈ l) : a ∈ m := by
  have hself : a ∈ l.filter (ties le a) :=
    List.mem_filter.mpr ⟨ha, ties_iff.mpr ⟨hrefl a, hrefl a⟩⟩
  rw [h a] at hself
  exact (List.mem_filter.mp hself).1

theorem head_le (hrefl : ∀ a, le a a = true) {a b : α} {l : List α}
    (hs : (a :: l).Pairwise fun a b => le a b = true) (hb : b ∈ a :: l) : le a b = true := by
  rcases List.mem_cons.mp hb with rfl | hb
  · exact hrefl b
  · exact (List.pairwise_cons.mp hs).1 b hb

/-- **Lists in order are told apart by their tied elements.** -/
theorem eq_of_filter_ties_eq (hrefl : ∀ a, le a a = true) {l m : List α}
    (hl : l.Pairwise fun a b => le a b = true) (hm : m.Pairwise fun a b => le a b = true)
    (h : ∀ a, l.filter (ties le a) = m.filter (ties le a)) : l = m := by
  induction l generalizing m with
  | nil =>
    cases m with
    | nil => rfl
    | cons b m =>
      have hb := mem_of_filter_ties_eq hrefl (fun a => (h a).symm) List.mem_cons_self
      exact absurd hb List.not_mem_nil
  | cons a l ih =>
    cases m with
    | nil => exact absurd (mem_of_filter_ties_eq hrefl h List.mem_cons_self) List.not_mem_nil
    | cons b m =>
      -- each of the first elements is at most the other, so each is the first one that is tied
      have hba : le b a = true :=
        head_le hrefl hm (mem_of_filter_ties_eq hrefl h List.mem_cons_self)
      have hab : le a b = true :=
        head_le hrefl hl (mem_of_filter_ties_eq hrefl (fun a => (h a).symm) List.mem_cons_self)
      have hfirst := h a
      rw [List.filter_cons_of_pos (ties_iff.mpr ⟨hrefl a, hrefl a⟩),
        List.filter_cons_of_pos (ties_iff.mpr ⟨hab, hba⟩)] at hfirst
      obtain ⟨rfl, -⟩ := List.cons.inj hfirst
      refine congrArg (a :: ·) (ih (List.pairwise_cons.mp hl).2 (List.pairwise_cons.mp hm).2 ?_)
      intro c
      have hc := h c
      rw [List.filter_cons, List.filter_cons] at hc
      split at hc
      · exact (List.cons.inj hc).2
      · exact hc

end Lists

/-! ## Priorities that cannot be compared -/

theorem Priority.kind_eq_text_iff {p : Priority} : p.kind = .text ↔ p.isText = true := by
  cases p <;> simp [kind, isText]

/-- A fault is about a number and a text. -/
theorem Priority.kinds_of_check_eq_error {ps : List Priority} {fault : PriorityFault}
    (h : check ps = .error fault) : fault.later = .text ↔ fault.earlier ≠ .text := by
  fun_induction check ps with
  | case1 p q rest _ ih => exact ih h
  | case2 p q rest hne =>
    cases h
    rw [ne_eq, kind_eq_text_iff, kind_eq_text_iff]
    cases hp : p.isText <;> cases hq : q.isText <;> simp_all
  | case3 => cases h

/-! ## Rules -/

namespace Rule

/-- The list is the stable order of the active ones of some rules. -/
structure IsStableOrder (rules sorted : List Rule) : Prop where
  /-- It holds the active rules, as often as they were given. -/
  perm : sorted.Perm (rules.filter (·.isActive))
  /-- The priorities do not descend. -/
  ascending : sorted.Pairwise fun rule other => rule.priority.le other.priority = true
  /-- The rules of each priority stand as they were given. -/
  stable : ∀ p, sorted.filter (·.priority.same p) =
    (rules.filter (·.isActive)).filter (·.priority.same p)

variable {rules sorted others : List Rule}

/-- **There is one stable order.** -/
theorem IsStableOrder.unique (h : IsStableOrder rules sorted) (ho : IsStableOrder rules others) :
    others = sorted := by
  refine eq_of_filter_ties_eq (fun rule => rule.priority.le_refl) ho.ascending h.ascending
    fun rule => ?_
  have htied : ties (fun rule other : Rule => rule.priority.le other.priority) rule =
      fun other => other.priority.same rule.priority := by
    funext other
    rw [Bool.eq_iff_iff, ties_iff, Priority.same_iff, and_comm]
  rw [htied, ho.stable, h.stable]

/-- **Rules are tried in their stable order.** -/
theorem isStableOrder_arranged (rules : List Rule) :
    IsStableOrder rules (arranged rules) where
  perm := List.mergeSort_perm _ _
  ascending := List.pairwise_mergeSort
    (fun r s t : Rule => Priority.le_trans r.priority s.priority t.priority)
    (fun r s : Rule => Priority.le_total r.priority s.priority) _
  stable p := by
    refine filter_mergeSort
      (fun r s t : Rule => Priority.le_trans r.priority s.priority t.priority)
      (fun r s : Rule => Priority.le_total r.priority s.priority) (fun r s hr hs => ?_) _
    have hr := (Priority.same_iff _ _).mp hr
    have hs := (Priority.same_iff _ _).mp hs
    exact Priority.le_trans _ _ _ hr.1 hs.2

/-- What is in its stable order is in it already. -/
theorem IsStableOrder.activeInOrder (h : IsStableOrder rules sorted) (hc : AreComparable rules) :
    activeInOrder sorted = .ok sorted := by
  have hactive : ∀ rule ∈ sorted, rule.isActive = true := fun rule hrule =>
    (List.mem_filter.mp (h.perm.mem_iff.mp hrule)).2
  have hsorted : AreComparable sorted := by
    unfold AreComparable
    rw [List.filter_eq_self.mpr hactive]
    exact (Priority.Uniform.perm (h.perm.map _)).mpr hc
  rw [activeInOrder_of_areComparable hsorted, arranged_of_sorted hactive h.ascending]

/-- **The order of the active rules, exactly.** If their priorities are all numbers or all texts,
the active rules are put in their stable order; there is no other list that is, and putting it in
order again changes nothing. If the priorities are of both kinds, there is no order: a number was to
be compared with a text. -/
theorem activeInOrder_onlyStableOrder (rules : List Rule) :
    (AreComparable rules → ∃ sorted, activeInOrder rules = .ok sorted ∧ IsStableOrder rules sorted ∧
      (∀ other, IsStableOrder rules other → other = sorted) ∧ activeInOrder sorted = .ok sorted) ∧
    (¬AreComparable rules → ∃ fault, activeInOrder rules = .error fault ∧
      (fault.later = .text ↔ fault.earlier ≠ .text)) := by
  constructor
  · intro h
    have horder := isStableOrder_arranged rules
    exact ⟨arranged rules, activeInOrder_of_areComparable h, horder, fun _ => horder.unique,
      horder.activeInOrder h⟩
  · intro h
    obtain ⟨fault, hcheck⟩ := checkPriorities_of_not_areComparable h
    refine ⟨fault, ?_, Priority.kinds_of_check_eq_error hcheck⟩
    rw [activeInOrder_eq, hcheck]
    rfl

/-- Rules of which one is given twice and one is not active. -/
def repeated : List Rule :=
  let first := onShoes "first" (.integer 1) none
  [onShoes "last" (.integer 2) none, first, onShoes "second" (.integer 1) none, first,
    { onShoes "off" (.integer 0) none with isActive := false }]

/-- Rules of one priority, one of them twice, and rules with priorities of both kinds. -/
theorem activeInOrder_onlyStableOrder_repeated :
    (∃ sorted, activeInOrder repeated = .ok sorted ∧ IsStableOrder repeated sorted ∧
      (∀ other, IsStableOrder repeated other → other = sorted) ∧
      activeInOrder sorted = .ok sorted) ∧
    ∃ fault, activeInOrder mixed = .error fault ∧ (fault.later = .text ↔ fault.earlier ≠ .text) :=
  ⟨(activeInOrder_onlyStableOrder repeated).1 (by decide),
    (activeInOrder_onlyStableOrder mixed).2 (by decide)⟩

/-- Not all rules have an order. -/
theorem not_forall_activeInOrder_isStableOrder :
    ¬∀ rules, ∃ sorted, activeInOrder rules = .ok sorted ∧ IsStableOrder rules sorted := by
  intro h
  obtain ⟨sorted, hok, -⟩ := h mixed
  have hfault : checkPriorities mixed = .error ⟨.text, .int⟩ := rfl
  rw [activeInOrder_eq, hfault] at hok
  cases hok

end Rule

end Disposition
