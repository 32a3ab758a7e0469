import Disposition.Rule.Condition
import Mathlib.Data.List.Infix

/-!
# Lower case and parts of texts

The lower case of a character does not depend on where it stands, with one exception: a capital
sigma becomes the final sigma at the end of a word, that is after a cased character and not before
one, case-ignorable characters aside. So the lower case of a part of a text is that part of the
lower case of the text, except for a capital sigma that ends a word in the one and not in the other.

A rule on stock keeping units looks for the lower case of its operand in the lower case of the unit.
If the operand stands in the unit character by character, the rule holds, unless the operand was cut
out of the middle of a word at such a sigma: `Σ` stands in `ΑΣ`, but `σ` does not stand in `ας`.

Results:
* `Text.lower_eq_append`: the lower case of a text, part by part.
* `Text.lowerWithin_congr_iff`: when two places give one lower case.
* `Rule.skuContains_of_verbatim`: operands that stand in a unit character by character.
-/

namespace Disposition

namespace Text

/-! ## The ends of words -/

/-- A cased character goes before, possibly with case-ignorable ones in between. -/
def casedPrecedes (cs : List Char) : Bool :=
  (cs.reverse.dropWhile isCaseIgnorable).head?.any isCased

/-- A capital sigma between these texts ends a word. -/
def endsWord (before after : List Char) : Bool :=
  casedPrecedes before && !casedFollows after

theorem casedPrecedes_concat (cs : List Char) (c : Char) :
    casedPrecedes (cs ++ [c]) = if isCaseIgnorable c then casedPrecedes cs else isCased c := by
  unfold casedPrecedes
  rw [List.reverse_append, List.reverse_singleton, List.singleton_append]
  by_cases h : isCaseIgnorable c = true <;> simp [h]

/-- What follows a text is asked for only if all of the text is case-ignorable. -/
theorem casedFollows_append (cs after : List Char) :
    casedFollows (cs ++ after) =
      if cs.all isCaseIgnorable then casedFollows after else casedFollows cs := by
  unfold casedFollows
  induction cs with
  | nil => simp
  | cons c cs ih => by_cases h : isCaseIgnorable c = true <;> simp [h, ih]

/-- What goes before a text is asked for only if all of the text is case-ignorable. -/
theorem casedPrecedes_append (before cs : List Char) :
    casedPrecedes (before ++ cs) =
      if cs.all isCaseIgnorable then casedPrecedes before else casedPrecedes cs := by
  have h := casedFollows_append cs.reverse before.reverse
  rw [← List.reverse_append, List.all_reverse] at h
  exact h

/-! ## The lower case of a part -/

/-- The lower case of a character between two texts. -/
def lowerAt (before after : List Char) (c : Char) : List Char :=
  if c = capitalSigma then [if endsWord before after then finalSigma else smallSigma]
  else lowerChar c

/-- The lower case of a text that stands between two others. -/
def lowerWithin (before after : List Char) : List Char → List Char
  | [] => []
  | c :: cs => lowerAt before (cs ++ after) c ++ lowerWithin (before ++ [c]) after cs

theorem lowerFrom_eq (before cs : List Char) :
    lowerFrom (casedPrecedes before) cs = lowerWithin before [] cs := by
  induction cs generalizing before with
  | nil => rfl
  | cons c cs ih =>
    rw [lowerFrom, lowerWithin, lowerAt, ← casedPrecedes_concat, ih, List.append_nil]
    rfl

/-- The lower case of a text is that of the text with nothing around it. -/
theorem lower_eq (cs : List Char) : lower cs = lowerWithin [] [] cs :=
  lowerFrom_eq [] cs

theorem lowerWithin_append (before after xs ys : List Char) :
    lowerWithin before after (xs ++ ys) =
      lowerWithin before (ys ++ after) xs ++ lowerWithin (before ++ xs) after ys := by
  induction xs generalizing before with
  | nil => simp [lowerWithin]
  | cons x xs ih =>
    rw [List.cons_append, lowerWithin, ih, lowerWithin, List.append_assoc, List.append_assoc,
      List.append_assoc, List.singleton_append]

/-- **The lower case of a text**, part by part: that of a word in it depends on what stands around
the word. -/
theorem lower_eq_append (before word after : List Char) :
    lower (before ++ word ++ after) =
      lowerWithin [] (word ++ after) before ++ lowerWithin before after word ++
        lowerWithin (before ++ word) [] after := by
  rw [lower_eq, lowerWithin_append, lowerWithin_append, List.append_nil, List.nil_append,
    List.nil_append]

theorem length_lowerAt (before after before' after' : List Char) (c : Char) :
    (lowerAt before after c).length = (lowerAt before' after' c).length := by
  unfold lowerAt
  split_ifs <;> rfl

/-- What stands around a text makes no difference to the length of its lower case. -/
theorem length_lowerWithin (before after before' after' cs : List Char) :
    (lowerWithin before after cs).length = (lowerWithin before' after' cs).length := by
  induction cs generalizing before before' with
  | nil => rfl
  | cons c cs ih =>
    rw [lowerWithin, lowerWithin, List.length_append, List.length_append,
      length_lowerAt before _ before' (cs ++ after'), ih]

theorem lowerAt_eq_iff {before after before' after' : List Char} {c : Char} :
    lowerAt before after c = lowerAt before' after' c ↔
      (c = capitalSigma → endsWord before after = endsWord before' after') := by
  have hne : finalSigma ≠ smallSigma := by decide
  unfold lowerAt
  by_cases hc : c = capitalSigma
  · cases endsWord before after <;> cases endsWord before' after' <;> simp [hc, hne, hne.symm]
  · simp [hc]

/-- **Two places give one lower case** if and only if each capital sigma ends a word at both or at
none. -/
theorem lowerWithin_congr_iff {before after before' after' cs : List Char} :
    lowerWithin before after cs = lowerWithin before' after' cs ↔
      ∀ head tail, cs = head ++ capitalSigma :: tail →
        endsWord (before ++ head) (tail ++ after) =
          endsWord (before' ++ head) (tail ++ after') := by
  induction cs generalizing before before' with
  | nil => exact iff_of_true rfl fun head tail h => by simp at h
  | cons c cs ih =>
    have hsplit : lowerWithin before after (c :: cs) = lowerWithin before' after' (c :: cs) ↔
        lowerAt before (cs ++ after) c = lowerAt before' (cs ++ after') c ∧
          lowerWithin (before ++ [c]) after cs = lowerWithin (before' ++ [c]) after' cs := by
      rw [lowerWithin, lowerWithin]
      constructor
      · exact fun h => List.append_inj h (length_lowerAt _ _ _ _ c)
      · rintro ⟨hc, hcs⟩
        rw [hc, hcs]
    rw [hsplit, lowerAt_eq_iff, ih]
    constructor
    · rintro ⟨hc, hcs⟩ head tail heq
      cases head with
      | nil =>
        obtain ⟨rfl, rfl⟩ := List.cons.inj heq
        simpa using hc rfl
      | cons first head =>
        obtain ⟨rfl, rfl⟩ := List.cons.inj heq
        simpa using hcs head tail rfl
    · intro h
      refine ⟨fun hc => ?_, fun head tail heq => ?_⟩
      · simpa using h [] cs (by rw [hc, List.nil_append])
      · simpa using h (c :: head) tail (by rw [heq, List.cons_append])

/-! ## Words that stand in a text as they stand alone -/

/-- The word has the same ends of words in it between these texts as alone. -/
def StandsAlike (before word after : List Char) : Prop :=
  ∀ head tail, word = head ++ capitalSigma :: tail →
    endsWord (before ++ head) (tail ++ after) = endsWord head tail

theorem standsAlike_iff {before word after : List Char} :
    StandsAlike before word after ↔ lowerWithin before after word = lower word := by
  rw [lower_eq, lowerWithin_congr_iff]
  simp only [List.nil_append, List.append_nil]
  rfl

/-- Without a capital sigma a word stands anywhere as it stands alone. -/
theorem standsAlike_of_not_mem {word : List Char} (h : capitalSigma ∉ word)
    (before after : List Char) : StandsAlike before word after := by
  rintro head tail rfl
  exact absurd (List.mem_append_right head List.mem_cons_self) h

theorem casedFollows_of_all {cs : List Char} (h : cs.all isCaseIgnorable = true) :
    casedFollows cs = false := by
  rw [← List.append_nil cs, casedFollows_append, if_pos h]
  rfl

theorem casedPrecedes_of_all {cs : List Char} (h : cs.all isCaseIgnorable = true) :
    casedPrecedes cs = false :=
  casedFollows_of_all (List.all_reverse.trans h)

/-- A word that is not cut out of the middle of a longer one stands there as it stands alone. -/
theorem standsAlike_of_not_cased {before after : List Char} (hb : casedPrecedes before = false)
    (ha : casedFollows after = false) (word : List Char) : StandsAlike before word after := by
  rintro head tail -
  have hhead : casedPrecedes (before ++ head) = casedPrecedes head := by
    rw [casedPrecedes_append, hb]
    split
    · rename_i hall
      exact (casedPrecedes_of_all hall).symm
    · rfl
  have htail : casedFollows (tail ++ after) = casedFollows tail := by
    rw [casedFollows_append, ha]
    split
    · rename_i hall
      exact (casedFollows_of_all hall).symm
    · rfl
  rw [endsWord, endsWord, hhead, htail]

end Text

namespace ConditionKind

open Text

/-- Where a condition on stock keeping units holds. -/
theorem skuContains_holds_iff {v : String} {context : Context} :
    skuContains.holds (.text v) context = true ↔
      ∃ item ∈ context.items, ∃ s, item.sku = .text s ∧
        lower (trim v.toList) <:+: lower s.toList := by
  unfold holds
  rw [List.any_eq_true]
  refine exists_congr fun item => and_congr_right fun _ => ?_
  cases item.sku <;>
    simp [Value.lowerContains, Value.lowered?, Value.text?, Value.operand, contains,
      Text.normalize, lowerString, occursIn_iff]

end ConditionKind

/-- A return of one item with that unit. -/
def Context.ofSku (s : String) : Context where
  items := [{ sku := .text s }]

namespace Rule

open Text

/-- **An operand that stands in a unit character by character** stands at that place in lower case
if and only if each capital sigma of it ends a word in the unit where it ends one in the operand;
then the rule holds. This is so if the operand has no capital sigma, and if it is not cut out of
the middle of a word. -/
theorem skuContains_of_verbatim {rule : Rule} {v s : String} {context : Context} {item : Item}
    {before after : List Char} (hrule : rule.HasCondition .skuContains (.text v))
    (hitem : item ∈ context.items) (hsku : item.sku = .text s)
    (hsplit : s.toList = before ++ trim v.toList ++ after) :
    (StandsAlike before (trim v.toList) after → rule.holds context = true) ∧
      (∃ first found last, lower s.toList = first ++ found ++ last ∧
        first.length = (lower before).length ∧ found.length = (lower (trim v.toList)).length ∧
          (found = lower (trim v.toList) ↔ StandsAlike before (trim v.toList) after)) ∧
      (capitalSigma ∉ trim v.toList ∨ casedPrecedes before = false ∧ casedFollows after = false →
        StandsAlike before (trim v.toList) after) := by
  have hlower := lower_eq_append before (trim v.toList) after
  rw [← hsplit] at hlower
  refine ⟨fun halike => ?_, ⟨_, _, _, hlower, ?_, ?_, standsAlike_iff.symm⟩, ?_⟩
  · rw [standsAlike_iff.mp halike] at hlower
    rw [hrule.holds_eq]
    exact ConditionKind.skuContains_holds_iff.mpr ⟨item, hitem, s, hsku, _, _, hlower.symm⟩
  · rw [lower_eq]
    exact length_lowerWithin _ _ _ _ _
  · rw [lower_eq]
    exact length_lowerWithin _ _ _ _ _
  · rintro (hsigma | ⟨hb, ha⟩)
    · exact standsAlike_of_not_mem hsigma before after
    · exact standsAlike_of_not_cased hb ha _

/-- A rule on stock keeping units. -/
def onSku (v : String) : Rule where
  id := "r"
  name := "Units"
  conditionType := .text "sku_contains"
  conditionValue := .text v
  destinationId := none

/-- The operand is a word that ends in a capital sigma, in the unit as well. -/
theorem skuContains_of_verbatim_hyphens : (onSku " ΟΣ ").holds (.ofSku "ΚΩΔ-ΟΣ-12") = true :=
  have hrule : (onSku " ΟΣ ").HasCondition .skuContains (.text " ΟΣ ") := ⟨rfl, rfl⟩
  have hitem : { sku := .text "ΚΩΔ-ΟΣ-12" } ∈ (Context.ofSku "ΚΩΔ-ΟΣ-12").items :=
    List.mem_cons_self
  have hsplit : "ΚΩΔ-ΟΣ-12".toList =
      "ΚΩΔ-".toList ++ trim " ΟΣ ".toList ++ "-12".toList := by decide +kernel
  have hlaw := skuContains_of_verbatim hrule hitem rfl hsplit
  hlaw.1 (hlaw.2.2 (.inr (by decide +kernel)))

/-- Not every operand that stands in a unit is found there. -/
theorem not_forall_skuContains_of_verbatim :
    ¬∀ (rule : Rule) (v s : String) (context : Context) (item : Item),
      rule.HasCondition .skuContains (.text v) → item ∈ context.items → item.sku = .text s →
        trim v.toList <:+: s.toList → rule.holds context = true := by
  intro h
  have hholds := h (onSku "Σ") "Σ" "ΑΣ" (.ofSku "ΑΣ") _ ⟨rfl, rfl⟩ List.mem_cons_self rfl
    (by decide +kernel)
  exact absurd hholds (by decide +kernel)

end Rule

end Disposition
