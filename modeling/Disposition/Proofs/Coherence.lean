import Disposition.Proofs.Verdict

/-!
# What a decision tells

A decision says where a return goes, which rule decided and whether the default was used, and the
last event says so again. All of it fits together: what is said of the rule is true of one of the
rules that were given, the default is used only if there is no such rule, and the destination comes
from one of the two or is missing.

Results:
* `Rule.choice_fst_eq_none_iff_forall`: no rule decides if none that matches has a destination.
* `Decision.IsCoherent`: what a decision and its events should tell.
* `resolve_coherent`: every decision does.
-/

namespace Disposition

namespace Rule

/-- The rule can decide in a context: it is active, it matches, and it has a destination. -/
def CanDecide (context : Context) (rule : Rule) : Prop :=
  rule.isActive = true ∧ rule.holds context = true ∧ rule.destination ≠ none

theorem choice_fst_eq_none_iff_forall {rules : List Rule} {context : Context} :
    (choice rules context).1 = none ↔ ∀ rule ∈ rules, ¬rule.CanDecide context := by
  rw [choice_fst_eq_none_iff]
  constructor
  · intro h rule hrule hdecides
    obtain ⟨i, hi⟩ := List.mem_iff_getElem?.mp hrule
    exact h i ⟨rule, hi, hdecides⟩
  · rintro h i ⟨rule, hi, hdecides⟩
    exact h rule (List.mem_of_getElem? hi) hdecides

end Rule

namespace Decision

/-- What a decision and its events tell fits together, and it fits what was decided on. -/
structure IsCoherent (rules : List Rule) (destinations : List Destination) (context : Context)
    (requestId : Option String) (decision : Decision) (events : List Event) : Prop where
  /-- The destination is that of a rule that can decide, or it is flagged as the default. -/
  provenance : ∀ place, decision.destination = some place →
    (∃ rule ∈ rules, rule.CanDecide context ∧ rule.destination = some place) ∨
      place ∈ destinations ∧ place.isDefault = true
  /-- The rule that decided can do so, and the destination is its own. -/
  matched : ∀ rule, decision.matchedRule = some rule →
    rule ∈ rules ∧ rule.CanDecide context ∧ decision.destination = rule.destination
  /-- No rule decided if and only if none can. -/
  unmatched : decision.matchedRule = none ↔ ∀ rule ∈ rules, ¬rule.CanDecide context
  /-- The default was used if and only if there is a destination and no rule decided. -/
  usedDefault : decision.usedDefault = true ↔
    decision.matchedRule = none ∧ decision.destination ≠ none
  /-- The default that was used is flagged. -/
  flagged : decision.usedDefault = true →
    ∃ place ∈ destinations, place.isDefault = true ∧ decision.destination = some place
  /-- There is no destination if and only if no rule can decide and no destination is flagged. -/
  unrouted : decision.destination = none ↔
    (∀ rule ∈ rules, ¬rule.CanDecide context) ∧ ∀ place ∈ destinations, place.isDefault = false
  /-- The decision is on the return that was asked for. -/
  request : decision.requestId = requestId
  /-- The last event, one for debugging, tells what the decision tells; the others are warnings. -/
  logged : ∃ earlier last, events = earlier ++ [last] ∧ last.level = .debug ∧
    last = .decided requestId (decision.destination.map (·.id)) (decision.matchedRule.map (·.id))
      decision.usedDefault ∧
    ∀ event ∈ earlier, event.level = .warning

variable {rules : List Rule} {context : Context}

/-- What is reported before a decision are warnings of rules that were passed over. -/
theorem level_of_mem_choice {event : Event} (h : event ∈ (Rule.choice rules context).2) :
    event.level = .warning := by
  obtain ⟨rule, -, -, rfl⟩ := Rule.skipped_of_mem_firstRoutable h
  rfl

/-- **The decision of a rule is coherent.** -/
theorem isCoherent_ofRule (destinations : List Destination) (requestId : Option String)
    {rule : Rule} (h : (Rule.choice rules context).1 = some rule) :
    IsCoherent rules destinations context requestId (ofRule rule requestId)
      ((Rule.choice rules context).2 ++ [(ofRule rule requestId).event]) := by
  obtain ⟨hmem, hactive, hholds, hsome⟩ := Rule.of_choice_eq_some h
  have hne : rule.destination ≠ none := Option.isSome_iff_ne_none.mp hsome
  have hcan : rule.CanDecide context := ⟨hactive, hholds, hne⟩
  have hsomeone : ¬∀ rule ∈ rules, ¬rule.CanDecide context := fun hnone => hnone rule hmem hcan
  exact {
    provenance := fun place hplace => .inl ⟨rule, hmem, hcan, hplace⟩
    matched := by
      rintro _ ⟨⟩
      exact ⟨hmem, hcan, rfl⟩
    unmatched := iff_of_false (Option.some_ne_none rule) hsomeone
    usedDefault := iff_of_false Bool.false_ne_true fun hd => Option.some_ne_none rule hd.1
    flagged := fun hd => absurd hd Bool.false_ne_true
    unrouted := iff_of_false hne fun hnone => hsomeone hnone.1
    request := rfl
    logged := ⟨_, _, rfl, rfl, rfl, fun _ => level_of_mem_choice⟩ }

/-- **The decision that no rule made is coherent**, with a default and without one. -/
theorem isCoherent_ofDefault (destinations : List Destination) (requestId : Option String)
    (h : (Rule.choice rules context).1 = none) :
    IsCoherent rules destinations context requestId (ofDefault destinations requestId)
      ((Rule.choice rules context).2 ++ [(ofDefault destinations requestId).event]) := by
  have hnone := Rule.choice_fst_eq_none_iff_forall.mp h
  unfold ofDefault
  cases hdefault : Destination.default? destinations with
  | some place =>
    have hmem : place ∈ destinations := List.mem_of_find?_eq_some hdefault
    have hflag : place.isDefault = true := List.find?_some hdefault
    have hsomeone : ¬∀ place ∈ destinations, place.isDefault = false := fun hall => by
      rw [hall place hmem] at hflag
      cases hflag
    exact {
      provenance := by
        rintro _ ⟨⟩
        exact .inr ⟨hmem, hflag⟩
      matched := fun rule hmatched => nomatch hmatched
      unmatched := iff_of_true rfl hnone
      usedDefault := iff_of_true rfl ⟨rfl, Option.some_ne_none place⟩
      flagged := fun _ => ⟨place, hmem, hflag, rfl⟩
      unrouted := iff_of_false (Option.some_ne_none place) fun hd => hsomeone hd.2
      request := rfl
      logged := ⟨_, _, rfl, rfl, rfl, fun _ => level_of_mem_choice⟩ }
  | none =>
    have hunflagged : ∀ place ∈ destinations, place.isDefault = false := fun place hmem =>
      Bool.eq_false_iff.mpr (List.find?_eq_none.mp hdefault place hmem)
    exact {
      provenance := fun place hplace => nomatch hplace
      matched := fun rule hmatched => nomatch hmatched
      unmatched := iff_of_true rfl hnone
      usedDefault := iff_of_false Bool.false_ne_true fun hd => hd.2 rfl
      flagged := fun hd => absurd hd Bool.false_ne_true
      unrouted := iff_of_true rfl ⟨hnone, hunflagged⟩
      request := rfl
      logged := ⟨_, _, rfl, rfl, rfl, fun _ => level_of_mem_choice⟩ }

/-- What is decided is coherent, whichever way it is decided. -/
theorem isCoherent_reached (rules : List Rule) (destinations : List Destination)
    (context : Context) (requestId : Option String) :
    IsCoherent rules destinations context requestId
      (reached rules destinations context requestId).1
      (reached rules destinations context requestId).2 := by
  unfold reached
  cases h : (Rule.choice rules context).1 with
  | some rule => exact isCoherent_ofRule destinations requestId h
  | none => exact isCoherent_ofDefault destinations requestId h

/-- **A decision is coherent**, and never invented. If the priorities of the active rules are all
numbers or all texts, there is one, and all that it tells fits together and fits the configuration;
if they are of both kinds, the rules cannot be put in order and there is none. -/
theorem resolve_coherent (rules : List Rule) (destinations : List Destination) (context : Context)
    (requestId : Option String) :
    (Rule.AreComparable rules →
        ∃ decision events,
          resolve rules destinations context requestId = .ok (decision, events) ∧
            IsCoherent rules destinations context requestId decision events) ∧
      (¬Rule.AreComparable rules →
        ∃ fault, resolve rules destinations context requestId = .error fault) := by
  constructor
  · exact fun h => ⟨_, _, resolve_of_areComparable h destinations context requestId,
      isCoherent_reached rules destinations context requestId⟩
  · exact fun h => resolve_of_not_areComparable h destinations context requestId

/-- Rules of which one matches without a destination, and rules that cannot be put in order. -/
theorem resolve_coherent_tied :
    (∃ decision events,
        resolve Rule.tied Destination.two Rule.shoes (some "R1") =
            .ok (decision, events) ∧
          IsCoherent Rule.tied Destination.two Rule.shoes (some "R1") decision events) ∧
      ∃ fault, resolve Rule.mixed Destination.two Rule.shoes none = .error fault :=
  ⟨(resolve_coherent Rule.tied Destination.two Rule.shoes (some "R1")).1 (by decide +kernel),
    (resolve_coherent Rule.mixed Destination.two Rule.shoes none).2 (by decide +kernel)⟩

/-- Not on every configuration there is a decision: the rules need not have an order. -/
theorem not_forall_resolve_coherent :
    ¬∀ (rules : List Rule) (destinations : List Destination) (context : Context)
        (requestId : Option String), ∃ decision events,
      resolve rules destinations context requestId = .ok (decision, events) ∧
        IsCoherent rules destinations context requestId decision events := by
  intro h
  obtain ⟨decision, events, hok, -⟩ := h Rule.mixed Destination.two Rule.shoes none
  have hfault : Rule.checkPriorities Rule.mixed = .error ⟨.text, .int⟩ := rfl
  rw [resolve_eq, hfault] at hok
  cases hok

end Decision

end Disposition
