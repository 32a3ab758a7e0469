import Disposition.Decision
import Disposition.Store

/-!
# The order in which rules are tried

The rows of rules are put in order by priority, then by time, then by identifier. Rules that come in
that order are tried as they come, and the first that decides is the least of those that could.

Results:
* `pairwise_mergeSort_iff`: what is sorted by a total order is in that order.
* `Priority.check_eq_ok_iff`, `Priority.check_of_sorted`: which priorities can be compared, and the
  fault if they cannot.
* `RuleRow.triedBefore_iff`, and that the order is total, transitive and reflexive, and puts rows
  with different identifiers in different places.
* `Rule.choice_of_sorted`: the deciding rule among rules in order.
* `find?_least`: in a sorted list what is found first is the least.
-/

namespace Disposition

/-- What is sorted by a total order is in that order. -/
theorem pairwise_mergeSort_iff {α : Type} {le : α → α → Bool} {R : α → α → Prop}
    (hle : ∀ a b, le a b = true ↔ R a b) (htrans : ∀ a b c, R a b → R b c → R a c)
    (htotal : ∀ a b, R a b ∨ R b a) (l : List α) : (l.mergeSort le).Pairwise R := by
  refine (List.pairwise_mergeSort (fun a b c hab hbc => ?_) (fun a b => ?_) l).imp (hle _ _).mp
  · exact (hle a c).mpr (htrans a b c ((hle a b).mp hab) ((hle b c).mp hbc))
  · rw [Bool.or_eq_true, hle, hle]
    exact htotal a b

/-! ## Priorities -/

namespace Priority

theorem le_refl (p : Priority) : p.le p = true := by
  rcases Bool.or_eq_true _ _ ▸ p.le_total p with h | h <;> exact h

theorem rank_le_of_le {p q : Priority} (h : p.le q = true) : p.rank ≤ q.rank := by
  rcases (le_iff p q).mp h with h | ⟨h, -⟩
  · exact Nat.le_of_lt h
  · exact Nat.le_of_eq h

theorem isText_iff {p : Priority} : p.isText = true ↔ 3 ≤ p.rank := by
  cases p with
  | integer n => exact iff_of_false Bool.false_ne_true (by decide : ¬3 ≤ 1)
  | text s => exact iff_of_true rfl (Nat.le_refl 3)
  | real d =>
    refine iff_of_false Bool.false_ne_true ?_
    unfold rank
    split <;> simp_all

/-- Texts come after all numbers. -/
theorem isText_of_le {p q : Priority} (h : p.le q = true) (hp : p.isText = true) :
    q.isText = true :=
  isText_iff.mpr (Nat.le_trans (isText_iff.mp hp) (rank_le_of_le h))

theorem kind_of_isText {p : Priority} (h : p.isText = true) : p.kind = .text := by
  cases p with
  | text s => rfl
  | integer n => cases h
  | real d => cases h

/-- The priorities are all numbers, or they are all texts. -/
def Uniform (ps : List Priority) : Prop :=
  ∀ p ∈ ps, ∀ q ∈ ps, p.isText = q.isText

instance : DecidablePred Uniform := fun ps =>
  inferInstanceAs (Decidable (∀ p ∈ ps, ∀ q ∈ ps, p.isText = q.isText))

theorem Uniform.perm {ps qs : List Priority} (hp : ps.Perm qs) : Uniform ps ↔ Uniform qs :=
  ⟨fun h p hm q hn => h p (hp.mem_iff.mpr hm) q (hp.mem_iff.mpr hn),
    fun h p hm q hn => h p (hp.mem_iff.mp hm) q (hp.mem_iff.mp hn)⟩

theorem uniform_of_short {ps : List Priority} (h : ∀ p q rest, ps ≠ p :: q :: rest) :
    Uniform ps := by
  intro p hp q hq
  match ps with
  | [] => exact absurd hp List.not_mem_nil
  | [r] => rw [List.mem_singleton.mp hp, List.mem_singleton.mp hq]
  | a :: b :: rest => exact absurd rfl (h a b rest)

theorem uniform_cons_cons {p q : Priority} {rest : List Priority} :
    Uniform (p :: q :: rest) ↔ p.isText = q.isText ∧ Uniform (q :: rest) := by
  constructor
  · intro h
    exact ⟨h p List.mem_cons_self q (List.mem_cons_of_mem _ List.mem_cons_self),
      fun a ha b hb => h a (List.mem_cons_of_mem _ ha) b (List.mem_cons_of_mem _ hb)⟩
  · rintro ⟨hpq, h⟩
    have hall : ∀ a ∈ p :: q :: rest, a.isText = q.isText := by
      intro a ha
      rcases List.mem_cons.mp ha with rfl | ha
      · exact hpq
      · exact h a ha q List.mem_cons_self
    exact fun a ha b hb => (hall a ha).trans (hall b hb).symm

/-- **Priorities can be compared** if they are all numbers or all texts. -/
theorem check_eq_ok_iff {ps : List Priority} : check ps = .ok () ↔ Uniform ps := by
  fun_induction check ps with
  | case1 p q rest h ih =>
    rw [ih, uniform_cons_cons]
    exact (and_iff_right h).symm
  | case2 p q rest h =>
    rw [uniform_cons_cons]
    exact iff_of_false (by simp) fun hu => h hu.1
  | case3 ps hshort => exact iff_of_true rfl (uniform_of_short hshort)

/-- Priorities in order that cannot be compared: a text comes after a number. -/
theorem check_of_sorted {ps : List Priority} (hs : ps.Pairwise fun p q => p.le q = true)
    (hn : ¬Uniform ps) : ∃ p ∈ ps, p.isText = false ∧ check ps = .error ⟨.text, p.kind⟩ := by
  fun_induction check ps with
  | case1 p q rest h ih =>
    rw [uniform_cons_cons, and_iff_right h] at hn
    obtain ⟨a, ha, hta, hc⟩ := ih (List.pairwise_cons.mp hs).2 hn
    exact ⟨a, List.mem_cons_of_mem _ ha, hta, hc⟩
  | case2 p q rest h =>
    have hle : p.le q = true := (List.pairwise_cons.mp hs).1 q List.mem_cons_self
    have hp : p.isText = false := Bool.eq_false_iff.mpr fun hp =>
      h (hp.trans (isText_of_le hle hp).symm)
    have hq : q.isText = true := by
      cases hq : q.isText with
      | true => rfl
      | false => exact absurd (hp.trans hq.symm) h
    exact ⟨p, List.mem_cons_self, hp, by rw [kind_of_isText hq]⟩
  | case3 ps hshort => exact absurd (uniform_of_short hshort) hn

end Priority

/-! ## Rows of rules -/

namespace RuleRow

/-- The row stands before the other one, or in the same place: by priority, then by time, then by
identifier. -/
def Precedes (row other : RuleRow) : Prop :=
  row.priority.le other.priority = true ∧
    (row.priority.same other.priority = true →
      row.createdAt ≤ other.createdAt ∧ (row.createdAt = other.createdAt → row.id ≤ other.id))

theorem triedBefore_iff {row other : RuleRow} :
    row.triedBefore other = true ↔ row.Precedes other := by
  unfold triedBefore Precedes
  by_cases hp : row.priority.same other.priority = true
  · have hle := ((Priority.same_iff _ _).mp hp).1
    rw [if_pos hp]
    simp only [hp, hle, true_and, forall_const]
    by_cases ht : row.createdAt = other.createdAt
    · simp only [ht, if_true, decide_eq_true_eq, Nat.le_refl, true_and, forall_const]
    · simp only [ht, if_false, decide_eq_true_eq, false_implies, and_true]
  · rw [if_neg hp]
    exact (and_iff_left fun hs => absurd hs hp).symm

theorem Precedes.trans {first second third : RuleRow} (h : first.Precedes second)
    (hn : second.Precedes third) : first.Precedes third := by
  refine ⟨Priority.le_trans _ _ _ h.1 hn.1, fun hs => ?_⟩
  -- a tie of the ends is a tie of all three
  obtain ⟨-, hback⟩ := (Priority.same_iff _ _).mp hs
  have hfirst := h.2 ((Priority.same_iff _ _).mpr ⟨h.1, Priority.le_trans _ _ _ hn.1 hback⟩)
  have hsecond := hn.2 ((Priority.same_iff _ _).mpr ⟨hn.1, Priority.le_trans _ _ _ hback h.1⟩)
  refine ⟨Nat.le_trans hfirst.1 hsecond.1, fun ht => ?_⟩
  have hmiddle : first.createdAt = second.createdAt :=
    Nat.le_antisymm hfirst.1 (ht ▸ hsecond.1)
  exact String.le_trans (hfirst.2 hmiddle) (hsecond.2 (hmiddle.symm.trans ht))

theorem Precedes.total (row other : RuleRow) : row.Precedes other ∨ other.Precedes row := by
  have hsymm : other.priority.same row.priority = true →
      row.priority.same other.priority = true := fun h =>
    (Priority.same_iff _ _).mpr ((Priority.same_iff _ _).mp h).symm
  by_cases hp : row.priority.same other.priority = true
  · obtain ⟨hle, hge⟩ := (Priority.same_iff _ _).mp hp
    rcases Nat.lt_trichotomy row.createdAt other.createdAt with ht | ht | ht
    · exact .inl ⟨hle, fun _ => ⟨Nat.le_of_lt ht, fun he => absurd he (Nat.ne_of_lt ht)⟩⟩
    · rcases String.le_total row.id other.id with hi | hi
      · exact .inl ⟨hle, fun _ => ⟨Nat.le_of_eq ht, fun _ => hi⟩⟩
      · exact .inr ⟨hge, fun _ => ⟨Nat.le_of_eq ht.symm, fun _ => hi⟩⟩
    · exact .inr ⟨hge, fun _ => ⟨Nat.le_of_lt ht, fun he => absurd he (Nat.ne_of_lt ht)⟩⟩
  · rcases Bool.or_eq_true _ _ ▸ Priority.le_total row.priority other.priority with h | h
    · exact .inl ⟨h, fun hs => absurd hs hp⟩
    · exact .inr ⟨h, fun hs => absurd (hsymm hs) hp⟩

theorem Precedes.refl (row : RuleRow) : row.Precedes row :=
  or_self_iff.mp (total row row)

/-- Rows in the same place have the same identifier. -/
theorem Precedes.antisymm {row other : RuleRow} (h : row.Precedes other)
    (ho : other.Precedes row) : row.id = other.id := by
  have hlater := h.2 ((Priority.same_iff _ _).mpr ⟨h.1, ho.1⟩)
  have hearlier := ho.2 ((Priority.same_iff _ _).mpr ⟨ho.1, h.1⟩)
  have ht : row.createdAt = other.createdAt := Nat.le_antisymm hlater.1 hearlier.1
  exact String.le_antisymm (hlater.2 ht) (hearlier.2 ht.symm)

end RuleRow

/-! ## The first that decides -/

/-- **In a sorted list what is found first is the least** of what could be found. -/
theorem find?_least {α : Type} {R : α → α → Prop} (hrefl : ∀ a, R a a) {l : List α}
    (hs : l.Pairwise R) {p : α → Bool} {a : α} (h : l.find? p = some a) {b : α} (hb : b ∈ l)
    (hp : p b = true) : R a b := by
  obtain ⟨-, before, after, rfl, hbefore⟩ := List.find?_eq_some_iff_append.mp h
  obtain ⟨-, hs, -⟩ := List.pairwise_append.mp hs
  rcases List.mem_append.mp hb with hb | hb
  · exact absurd hp (by simpa using hbefore b hb)
  · rcases List.mem_cons.mp hb with rfl | hb
    · exact hrefl b
    · exact (List.pairwise_cons.mp hs).1 b hb

namespace Rule

/-- The rule decides if it is tried. -/
def decides (context : Context) (rule : Rule) : Bool :=
  rule.holds context && rule.destination.isSome

theorem firstRoutable_fst (context : Context) (rules : List Rule) :
    (firstRoutable context rules).1 = rules.find? (decides context) := by
  induction rules with
  | nil => rfl
  | cons rule rules ih =>
    rw [firstRoutable, List.find?_cons, ← ih]
    cases hd : decides context rule with
    | true =>
      obtain ⟨hholds, hsome⟩ := Bool.and_eq_true _ _ ▸ hd
      rw [if_pos hholds, if_pos hsome]
    | false =>
      by_cases hholds : rule.holds context = true
      · have hnone : ¬rule.destination.isSome = true := fun hsome =>
          absurd hd (by rw [decides, hholds, hsome]; decide)
        rw [if_pos hholds, if_neg hnone]
      · rw [if_neg hholds]

/-- The priorities of the active rules are all numbers or all texts. -/
def AreComparable (rules : List Rule) : Prop :=
  Priority.Uniform ((rules.filter (·.isActive)).map (·.priority))

instance : DecidablePred AreComparable := fun _ =>
  inferInstanceAs (Decidable (Priority.Uniform _))

theorem checkPriorities_eq_ok_iff {rules : List Rule} :
    checkPriorities rules = .ok () ↔ AreComparable rules :=
  Priority.check_eq_ok_iff

/-- What the rules choose, once they can be put in order. -/
def choice (rules : List Rule) (context : Context) : Option Rule × List Event :=
  firstRoutable context (arranged rules)

theorem activeInOrder_eq (rules : List Rule) :
    activeInOrder rules = (checkPriorities rules).map fun _ => arranged rules := by
  unfold activeInOrder
  cases checkPriorities rules <;> rfl

/-- Selecting a rule in two parts: the priorities are compared, and then it is chosen. -/
theorem select_eq (rules : List Rule) (context : Context) :
    select rules context = (checkPriorities rules).map fun _ => choice rules context := by
  unfold select activeInOrder
  cases checkPriorities rules <;> rfl

section Comparable

variable {rules : List Rule} (h : AreComparable rules)

include h

theorem activeInOrder_of_areComparable : activeInOrder rules = .ok (arranged rules) := by
  rw [activeInOrder_eq, checkPriorities_eq_ok_iff.mpr h]
  rfl

theorem select_of_areComparable (context : Context) :
    select rules context = .ok (choice rules context) := by
  rw [select_eq, checkPriorities_eq_ok_iff.mpr h]
  rfl

end Comparable

section Incomparable

variable {rules : List Rule} (h : ¬AreComparable rules)

include h

theorem checkPriorities_of_not_areComparable : ∃ fault, checkPriorities rules = .error fault := by
  cases hcheck : checkPriorities rules with
  | ok _ => exact absurd (checkPriorities_eq_ok_iff.mp hcheck) h
  | error fault => exact ⟨fault, rfl⟩

theorem select_of_not_areComparable (context : Context) :
    ∃ fault, select rules context = .error fault := by
  obtain ⟨fault, hcheck⟩ := checkPriorities_of_not_areComparable h
  exact ⟨fault, by rw [select_eq, hcheck]; rfl⟩

end Incomparable

/-- Active rules in order are tried as they come. -/
theorem arranged_of_sorted {rules : List Rule} (hactive : ∀ rule ∈ rules, rule.isActive = true)
    (hs : rules.Pairwise fun rule other => rule.priority.le other.priority = true) :
    arranged rules = rules := by
  unfold arranged
  rw [List.filter_eq_self.mpr hactive]
  exact List.mergeSort_of_pairwise hs

/-- Among active rules in order the first that decides is selected. -/
theorem choice_of_sorted {rules : List Rule} (hactive : ∀ rule ∈ rules, rule.isActive = true)
    (hs : rules.Pairwise fun rule other => rule.priority.le other.priority = true)
    (context : Context) : (choice rules context).1 = rules.find? (decides context) := by
  unfold choice
  rw [arranged_of_sorted hactive hs, firstRoutable_fst]

end Rule

namespace Decision

/-- What is decided, once the rules can be put in order. -/
def reached (rules : List Rule) (destinations : List Destination) (context : Context)
    (requestId : Option String) : Decision × List Event :=
  let decision := ofRule? destinations requestId (Rule.choice rules context).1
  (decision, (Rule.choice rules context).2 ++ [decision.event])

/-- Deciding in two parts: the priorities are compared, and then it is decided. -/
theorem resolve_eq (rules : List Rule) (destinations : List Destination) (context : Context)
    (requestId : Option String) :
    resolve rules destinations context requestId =
      (Rule.checkPriorities rules).map fun _ =>
        reached rules destinations context requestId := by
  unfold resolve
  rw [Rule.select_eq]
  cases Rule.checkPriorities rules <;> rfl

theorem resolve_of_areComparable {rules : List Rule} (h : Rule.AreComparable rules)
    (destinations : List Destination) (context : Context) (requestId : Option String) :
    resolve rules destinations context requestId =
      .ok (reached rules destinations context requestId) := by
  rw [resolve_eq, Rule.checkPriorities_eq_ok_iff.mpr h]
  rfl

theorem resolve_of_not_areComparable {rules : List Rule} (h : ¬Rule.AreComparable rules)
    (destinations : List Destination) (context : Context) (requestId : Option String) :
    ∃ fault, resolve rules destinations context requestId = .error fault := by
  obtain ⟨fault, hcheck⟩ := Rule.checkPriorities_of_not_areComparable h
  exact ⟨fault, by rw [resolve_eq, hcheck]; rfl⟩

end Decision

end Disposition
