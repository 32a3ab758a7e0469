import Disposition.Proofs.Order
import Mathlib.Data.List.Pairwise
import Mathlib.Data.List.TakeWhile

/-!
# The choice among the rules, without sorting

Routing puts the active rules in order and goes through them. What comes out can be said of the
rules as they are given, by their places: of the active rules that match and have a destination, the
one is chosen that is ahead of all others, by its priority or, among equal priorities, by its place.
Active rules that match without a destination are reported as far as they are ahead of it.

The order in which the rules are tried is worked out on rules that carry their places
(`Rule.tried`): the sort is stable, so equal priorities leave the places ascending.

Results:
* `filter_mergeSort`, `pairwise_mergeSort_of_pairwise`: a stable sort, for any list and any relation
  that it is in.
* `mem_takeWhile_iff`: what stands before the first that is found.
* `Rule.firstRoutable_snd`: what is reported while rules are tried.
* `Rule.isChoice_iff`: the choice is what is found first.
* `Rule.select_first`: the chosen rule, and all that is reported.
-/

namespace Disposition

/-! ## Lists in order -/

/-- **A stable sort** leaves elements as they stood that are at most each other. -/
theorem filter_mergeSort {α : Type} {le : α → α → Bool}
    (htrans : ∀ a b c, le a b = true → le b c = true → le a c = true)
    (htotal : ∀ a b, (le a b || le b a) = true) {p : α → Bool}
    (hp : ∀ a b, p a = true → p b = true → le a b = true) (l : List α) :
    (l.mergeSort le).filter p = l.filter p := by
  have hordered : (l.filter p).Pairwise fun a b => le a b = true :=
    List.pairwise_of_forall_mem_list fun a ha b hb =>
      hp a b (List.mem_filter.mp ha).2 (List.mem_filter.mp hb).2
  have hsub := (List.sublist_mergeSort htrans htotal hordered List.filter_sublist).filter p
  rw [List.filter_filter] at hsub
  simp only [Bool.and_self] at hsub
  exact (hsub.eq_of_length ((List.mergeSort_perm l le).filter p).length_eq.symm).symm

/-- What a stable sort puts later is not less, and what is tied with it stood later. -/
theorem pairwise_mergeSort_of_pairwise {α : Type} {le : α → α → Bool}
    (htrans : ∀ a b c, le a b = true → le b c = true → le a c = true)
    (htotal : ∀ a b, (le a b || le b a) = true) {R : α → α → Prop} {l : List α}
    (h : l.Pairwise R) :
    (l.mergeSort le).Pairwise fun a b => le a b = true ∧ (le b a = true → R a b) := by
  have hsorted := List.pairwise_mergeSort htrans htotal l
  refine List.pairwise_iff_forall_sublist.mpr fun {a b} hsub => ?_
  have hab : le a b = true := List.pairwise_iff_forall_sublist.mp hsorted hsub
  refine ⟨hab, fun hba => ?_⟩
  have haa : le a a = true := htrans a b a hab hba
  -- the elements that are tied with the first one stand as they stood
  let tied : α → Bool := fun c => le a c && le c a
  have hsame : (l.mergeSort le).filter tied = l.filter tied :=
    filter_mergeSort htrans htotal (fun c d hc hd =>
      htrans c a d ((Bool.and_eq_true _ _).mp hc).2 ((Bool.and_eq_true _ _).mp hd).1) l
  have hpair : [a, b].Sublist (l.filter tied) := by
    have hsub := hsub.filter tied
    have hall : [a, b].filter tied = [a, b] := by simp [tied, haa, hab, hba]
    rwa [hall, hsame] at hsub
  exact List.pairwise_iff_forall_sublist.mp h (hpair.trans List.filter_sublist)

/-- **What stands before the first that is found** is what is ahead of it. -/
theorem mem_takeWhile_iff {α : Type} {R : α → α → Prop} (hasymm : ∀ a b, R a b → ¬R b a)
    {l : List α} (hs : l.Pairwise R) (p : α → Bool) {a : α} :
    a ∈ l.takeWhile (fun b => !p b) ↔ a ∈ l ∧ ∀ b, l.find? p = some b → R a b := by
  cases hfind : l.find? p with
  | none =>
    have hall : ∀ b ∈ l, (!p b) = true := by simpa using hfind
    have htake : l.takeWhile (fun b => !p b) = l := List.takeWhile_eq_self_iff.mpr hall
    rw [htake]
    exact ⟨fun h => ⟨h, fun b hb => nomatch hb⟩, And.left⟩
  | some found =>
    obtain ⟨hp, before, after, rfl, hbefore⟩ := List.find?_eq_some_iff_append.mp hfind
    have htake : (before ++ found :: after).takeWhile (fun b => !p b) = before := by
      rw [List.takeWhile_append_of_pos hbefore, List.takeWhile_cons, hp]
      simp
    obtain ⟨-, hlater, hahead⟩ := List.pairwise_append.mp hs
    rw [htake]
    constructor
    · intro h
      refine ⟨List.mem_append_left _ h, fun b hb => ?_⟩
      obtain rfl := Option.some.inj hb
      exact hahead a h found List.mem_cons_self
    · rintro ⟨hmem, h⟩
      have hfound : R a found := h found rfl
      rcases List.mem_append.mp hmem with hm | hm
      · exact hm
      · rcases List.mem_cons.mp hm with rfl | hm
        · exact absurd hfound (hasymm a a hfound)
        · exact absurd hfound (hasymm found a ((List.pairwise_cons.mp hlater).1 a hm))

/-- The places of a list ascend. -/
theorem pairwise_zipIdx {α : Type} (l : List α) :
    l.zipIdx.Pairwise fun x y => x.2 < y.2 := by
  have h : (l.zipIdx.map Prod.snd).Pairwise (· < ·) := by
    rw [List.zipIdx_map_snd]
    exact List.pairwise_lt_range' 1
  exact List.pairwise_map.mp h

namespace Rule

/-! ## What is reported on the way -/

/-- The rule is passed over if it is tried: it matches, and it has no destination. -/
def isPassedOver (context : Context) (rule : Rule) : Bool :=
  rule.holds context && rule.destination.isNone

/-- **What is reported while rules are tried**: those that are passed over before one decides. -/
theorem firstRoutable_snd (context : Context) (rules : List Rule) :
    (firstRoutable context rules).2 =
      ((rules.takeWhile fun rule => !decides context rule).filter (isPassedOver context)).map
        skippedEvent := by
  induction rules with
  | nil => rfl
  | cons rule rules ih =>
    rw [firstRoutable, List.takeWhile_cons]
    by_cases hholds : rule.holds context = true
    · cases hdestination : rule.destination with
      | some place => simp [hholds, hdestination, decides]
      | none => simp [hholds, hdestination, decides, isPassedOver, ih]
    · simp [hholds, decides, isPassedOver, ih]

/-! ## Rules and their places -/

/-- One rule at its place is ahead of another at its own: its priority is less, or it is the same
and the place comes first. -/
def Before (x y : Rule × Nat) : Prop :=
  x.1.priority.le y.1.priority = true ∧ (x.1.priority.same y.1.priority = true → x.2 < y.2)

theorem Before.asymm {x y : Rule × Nat} (h : Before x y) : ¬Before y x := by
  intro hback
  have hsame := (Priority.same_iff _ _).mpr ⟨h.1, hback.1⟩
  have hsame' := (Priority.same_iff _ _).mpr ⟨hback.1, h.1⟩
  have hlt := h.2 hsame
  have hgt := hback.2 hsame'
  omega

/-- The active rules with their places, in the order in which they are tried. -/
def tried (rules : List Rule) : List (Rule × Nat) :=
  (rules.zipIdx.filter (·.1.isActive)).mergeSort fun x y => x.1.priority.le y.1.priority

theorem map_tried (rules : List Rule) : (tried rules).map Prod.fst = arranged rules := by
  unfold tried arranged
  rw [List.map_mergeSort (s := fun r s : Rule => r.priority.le s.priority) fun _ _ _ _ => rfl]
  congr 1
  have hfilter := List.filter_map (f := Prod.fst) (p := Rule.isActive) (l := rules.zipIdx)
  rw [List.zipIdx_map_fst] at hfilter
  exact hfilter.symm

theorem mem_tried {rules : List Rule} {rule : Rule} {i : Nat} :
    (rule, i) ∈ tried rules ↔ rules[i]? = some rule ∧ rule.isActive = true := by
  unfold tried
  rw [List.mem_mergeSort, List.mem_filter, List.mem_zipIdx_iff_getElem?]

/-- **Rules are tried by priority, and by place among equal priorities.** -/
theorem pairwise_tried (rules : List Rule) : (tried rules).Pairwise Before := by
  have hplaces := (pairwise_zipIdx rules).filter (·.1.isActive)
  have hsorted : (tried rules).Pairwise fun x y =>
      x.1.priority.le y.1.priority = true ∧
        (y.1.priority.le x.1.priority = true → x.2 < y.2) :=
    pairwise_mergeSort_of_pairwise
      (fun x y z : Rule × Nat => Priority.le_trans x.1.priority y.1.priority z.1.priority)
      (fun x y : Rule × Nat => Priority.le_total x.1.priority y.1.priority) hplaces
  refine hsorted.imp fun {x y} h => ⟨h.1, fun hsame => ?_⟩
  exact h.2 ((Priority.same_iff _ _).mp hsame).2

section Places

variable (context : Context) (rules : List Rule)

/-- The rule at a place can be chosen: it is active, it matches, and it has a destination. -/
def Routes (i : Nat) : Prop :=
  ∃ rule, rules[i]? = some rule ∧ rule.isActive = true ∧ rule.holds context = true ∧
    rule.destination ≠ none

/-- The rule at a place is active and matches, and its destination is missing. -/
def Dangles (i : Nat) : Prop :=
  ∃ rule, rules[i]? = some rule ∧ rule.isActive = true ∧ rule.holds context = true ∧
    rule.destination = none

/-- The rule at a place is ahead of the one at another: its priority is less, or it is the same and
the place comes first. -/
def Ahead (i j : Nat) : Prop :=
  ∃ rule other, rules[i]? = some rule ∧ rules[j]? = some other ∧
    rule.priority.le other.priority = true ∧
      (rule.priority.same other.priority = true → i < j)

/-- The rule at a place can be chosen and is ahead of all others that can. -/
def IsChoice (i : Nat) : Prop :=
  Routes context rules i ∧ ∀ j, Routes context rules j → j ≠ i → Ahead rules i j

variable {context rules}

theorem ahead_iff {i j : Nat} {rule other : Rule} (hi : rules[i]? = some rule)
    (hj : rules[j]? = some other) : Ahead rules i j ↔ Before (rule, i) (other, j) := by
  constructor
  · rintro ⟨r, o, hr, ho, h⟩
    obtain rfl := Option.some.inj (hi.symm.trans hr)
    obtain rfl := Option.some.inj (hj.symm.trans ho)
    exact h
  · intro h
    exact ⟨rule, other, hi, hj, h⟩

theorem routes_iff {i : Nat} :
    Routes context rules i ↔ ∃ rule, (rule, i) ∈ tried rules ∧ decides context rule = true := by
  unfold Routes decides
  simp only [mem_tried, Bool.and_eq_true, Option.isSome_iff_ne_none, and_assoc]

theorem dangles_iff {i : Nat} :
    Dangles context rules i ↔
      ∃ rule, (rule, i) ∈ tried rules ∧ isPassedOver context rule = true := by
  unfold Dangles isPassedOver
  simp only [mem_tried, Bool.and_eq_true, Option.isNone_iff_eq_none, and_assoc]

/-- What is found first decides, and it is ahead of all others that do. -/
theorem of_find?_tried {rule : Rule} {i : Nat}
    (h : (tried rules).find? (decides context ·.1) = some (rule, i)) :
    (rule, i) ∈ tried rules ∧ decides context rule = true ∧
      ∀ x ∈ tried rules, decides context x.1 = true → (rule, i) = x ∨ Before (rule, i) x := by
  refine ⟨List.mem_of_find?_eq_some h, by simpa using List.find?_some h, fun x hx hdecides => ?_⟩
  exact find?_least (R := fun x y => x = y ∨ Before x y) (fun _ => .inl rfl)
    ((pairwise_tried rules).imp .inr) h hx hdecides

/-- **The choice is what is found first** among the rules that are tried. -/
theorem isChoice_iff {i : Nat} :
    IsChoice context rules i ↔
      ∃ rule, (tried rules).find? (decides context ·.1) = some (rule, i) := by
  constructor
  · rintro ⟨hroutes, hahead⟩
    obtain ⟨rule, hmem, hdecides⟩ := routes_iff.mp hroutes
    have hsome : ((tried rules).find? (decides context ·.1)).isSome = true :=
      List.find?_isSome.mpr ⟨(rule, i), hmem, hdecides⟩
    obtain ⟨⟨found, j⟩, hfind⟩ := Option.isSome_iff_exists.mp hsome
    obtain ⟨hfound, hfoundDecides, hleast⟩ := of_find?_tried hfind
    rcases hleast _ hmem hdecides with heq | hbefore
    · exact ⟨rule, by rw [hfind, heq]⟩
    · by_cases hij : j = i
      · exact ⟨found, by rw [hfind, hij]⟩
      · have hj : Routes context rules j := routes_iff.mpr ⟨found, hfound, hfoundDecides⟩
        have h := (ahead_iff (mem_tried.mp hmem).1 (mem_tried.mp hfound).1).mp (hahead j hj hij)
        exact absurd hbefore h.asymm
  · rintro ⟨rule, hfind⟩
    obtain ⟨hmem, hdecides, hleast⟩ := of_find?_tried hfind
    refine ⟨routes_iff.mpr ⟨rule, hmem, hdecides⟩, fun j hj hne => ?_⟩
    obtain ⟨other, hother, hotherDecides⟩ := routes_iff.mp hj
    rcases hleast _ hother hotherDecides with heq | hbefore
    · exact absurd (congrArg Prod.snd heq).symm hne
    · exact (ahead_iff (mem_tried.mp hmem).1 (mem_tried.mp hother).1).mpr hbefore

/-- What is chosen in a context, and what is reported, told by the places of the rules. -/
structure Chooses (context : Context) (rules : List Rule) (found : Option Rule)
    (events : List Event) : Prop where
  /-- What is found is the rule at the place of the choice. -/
  chosen : ∀ rule, found = some rule ↔ ∃ i, IsChoice context rules i ∧ rules[i]? = some rule
  /-- Nothing is found if no rule can be chosen. -/
  nothing : found = none ↔ ∀ i, ¬Routes context rules i
  /-- One report for each rule without a destination that is ahead of the choice, in that order. -/
  reported : ∃ places : List Nat, places.Pairwise (Ahead rules) ∧
    (∀ k, k ∈ places ↔
      Dangles context rules k ∧ ∀ i, IsChoice context rules i → Ahead rules k i) ∧
    events = places.filterMap fun k => (rules[k]?).map skippedEvent

/-- **What is found**, by its place. -/
theorem choice_fst_eq_some_iff {rule : Rule} :
    (choice rules context).1 = some rule ↔
      ∃ i, IsChoice context rules i ∧ rules[i]? = some rule := by
  have hselect : (choice rules context).1 =
      ((tried rules).find? (decides context ·.1)).map Prod.fst := by
    unfold choice
    rw [firstRoutable_fst, ← map_tried, List.find?_map]
    rfl
  rw [hselect, Option.map_eq_some_iff]
  constructor
  · rintro ⟨⟨found, i⟩, hfind, rfl⟩
    exact ⟨i, isChoice_iff.mpr ⟨found, hfind⟩, (mem_tried.mp (of_find?_tried hfind).1).1⟩
  · rintro ⟨i, hchoice, hrule⟩
    obtain ⟨found, hfind⟩ := isChoice_iff.mp hchoice
    have hfound := (mem_tried.mp (of_find?_tried hfind).1).1
    obtain rfl := Option.some.inj (hfound.symm.trans hrule)
    exact ⟨(found, i), hfind, rfl⟩

/-- **Nothing is found** if no rule can be chosen. -/
theorem choice_fst_eq_none_iff :
    (choice rules context).1 = none ↔ ∀ i, ¬Routes context rules i := by
  unfold choice
  rw [firstRoutable_fst, ← map_tried, List.find?_eq_none]
  constructor
  · intro h i hroutes
    obtain ⟨rule, hmem, hdecides⟩ := routes_iff.mp hroutes
    exact h rule (List.mem_map.mpr ⟨(rule, i), hmem, rfl⟩) hdecides
  · intro h rule hmem hdecides
    obtain ⟨⟨found, i⟩, hfound, rfl⟩ := List.mem_map.mp hmem
    exact h i (routes_iff.mpr ⟨found, hfound, hdecides⟩)

/-- **What is reported**, by places: the rules that are passed over, as far as they are ahead of the
choice. -/
theorem choice_snd : ∃ places : List Nat, places.Pairwise (Ahead rules) ∧
    (∀ k, k ∈ places ↔
      Dangles context rules k ∧ ∀ i, IsChoice context rules i → Ahead rules k i) ∧
    (choice rules context).2 = places.filterMap fun k => (rules[k]?).map skippedEvent := by
  let passed := ((tried rules).takeWhile fun x => !decides context x.1).filter
    fun x => isPassedOver context x.1
  have hsub : passed.Sublist (tried rules) :=
    List.filter_sublist.trans (List.takeWhile_sublist _)
  have hplace : ∀ x ∈ passed, rules[x.2]? = some x.1 := fun x hx =>
    (mem_tried.mp (hsub.subset hx)).1
  refine ⟨passed.map Prod.snd, ?_, fun k => ?_, ?_⟩
  · refine List.pairwise_map.mpr ?_
    refine ((pairwise_tried rules).sublist hsub).imp_of_mem fun {x y} hx hy h => ?_
    exact (ahead_iff (hplace x hx) (hplace y hy)).mpr h
  · simp only [passed, List.mem_map, List.mem_filter,
      mem_takeWhile_iff (fun _ _ => Before.asymm) (pairwise_tried rules), dangles_iff, isChoice_iff]
    constructor
    · rintro ⟨⟨rule, k⟩, ⟨⟨hmem, hahead⟩, hpassed⟩, rfl⟩
      refine ⟨⟨rule, hmem, hpassed⟩, fun i ⟨chosen, hfind⟩ => ?_⟩
      have hchosen := List.mem_of_find?_eq_some hfind
      exact (ahead_iff (mem_tried.mp hmem).1 (mem_tried.mp hchosen).1).mpr (hahead _ hfind)
    · rintro ⟨⟨rule, hmem, hpassed⟩, hahead⟩
      refine ⟨(rule, k), ⟨⟨hmem, fun ⟨chosen, i⟩ hfind => ?_⟩, hpassed⟩, rfl⟩
      have hchosen := List.mem_of_find?_eq_some hfind
      exact (ahead_iff (mem_tried.mp hmem).1 (mem_tried.mp hchosen).1).mp
        (hahead i ⟨chosen, hfind⟩)
  · have hevents : (choice rules context).2 = passed.map fun x => x.1.skippedEvent := by
      unfold choice
      rw [firstRoutable_snd, ← map_tried, List.takeWhile_map, List.filter_map, List.map_map]
      rfl
    rw [hevents, List.filterMap_map, ← List.filterMap_eq_map]
    refine List.filterMap_congr fun x hx => ?_
    simp [hplace x hx]

end Places

/-- **The choice among the rules is told by their priorities and places.** If the priorities of the
active rules are all numbers or all texts, that rule is found which is active, matches and has a
destination, and is ahead of all others of the kind; nothing is found if there is none; and the
active rules that match without a destination are reported as far as they are ahead of it. If the
priorities are of both kinds, the rules cannot be put in order. -/
theorem select_first (rules : List Rule) (context : Context) :
    (AreComparable rules →
        ∃ found events, select rules context = .ok (found, events) ∧
          Chooses context rules found events) ∧
      (¬AreComparable rules →
        ∃ fault, select rules context = .error fault) := by
  constructor
  · intro h
    exact ⟨(choice rules context).1, (choice rules context).2, select_of_areComparable h context,
      fun _ => choice_fst_eq_some_iff, choice_fst_eq_none_iff, choice_snd⟩
  · exact fun h => select_of_not_areComparable h context

/-- A rule on shoes. -/
def onShoes (id : String) (priority : Priority) (destination : Option Destination) : Rule where
  id := id
  name := id
  conditionType := .text "product_type"
  conditionValue := .text "shoes"
  destinationId := some "d1"
  priority := priority
  destination := destination

/-- The return of a pair of shoes. -/
def shoes : Context where
  items := [{ productType := .text "Shoes" }]

/-- Four rules, two of them with one priority and one without its destination. -/
def tied : List Rule :=
  [onShoes "last" (.integer 2) (some { id := "d1", name := "Main" }),
    onShoes "lost" (.integer 1) none,
    onShoes "first" (.integer 1) (some { id := "d1", name := "Main" }),
    onShoes "second" (.integer 1) (some { id := "d1", name := "Main" })]

/-- Two rules, one with a number and one with a text for its priority. -/
def mixed : List Rule :=
  [onShoes "first" (.integer 1) (some { id := "d1", name := "Main" }),
    { onShoes "boots" (.text "high") none with conditionValue := .text "boots" }]

/-- Rules with the same priority, and rules with priorities of both kinds. -/
theorem select_first_tied :
    (∃ found events, select tied shoes = .ok (found, events) ∧
        Chooses shoes tied found events) ∧
      ∃ fault, select mixed shoes = .error fault :=
  ⟨(select_first tied shoes).1 (by decide +kernel),
    (select_first mixed shoes).2 (by decide +kernel)⟩

/-- Not in every list the choice is found: the rules need not have an order, even if the choice is
the only rule that matches. -/
theorem not_forall_select_first :
    ¬∀ (rules : List Rule) (context : Context) (rule : Rule),
      (∃ i, IsChoice context rules i ∧ rules[i]? = some rule) →
        ∃ events, select rules context = .ok (some rule, events) := by
  intro h
  have hroutes : Routes shoes mixed 0 :=
    ⟨onShoes "first" (.integer 1) (some { id := "d1", name := "Main" }), rfl, rfl,
      by decide +kernel, by decide⟩
  -- the other rule does not match
  have honly : ∀ j, Routes shoes mixed j → j = 0 := by
    rintro (_ | _ | j) ⟨rule, hrule, -, hholds, -⟩
    · rfl
    · obtain rfl := Option.some.inj hrule
      exact absurd hholds (by decide +kernel)
    · cases hrule
  have hchoice : IsChoice shoes mixed 0 := ⟨hroutes, fun j hj hne => absurd (honly j hj) hne⟩
  obtain ⟨events, hok⟩ := h mixed shoes _ ⟨0, hchoice, rfl⟩
  have hfault : checkPriorities mixed = .error ⟨.text, .int⟩ := rfl
  rw [select_eq, hfault] at hok
  cases hok

end Rule

end Disposition
