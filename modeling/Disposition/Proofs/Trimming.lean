import Disposition.Text.Blank
import Mathlib.Data.List.TakeWhile

/-!
# Trimming

Trimming takes the blanks from both ends of a text and leaves what stands between them. A text is
trimmed if it neither begins nor ends with a blank; of the parts of a text with blanks alone before
and behind them, there is one that is trimmed, and that is what trimming leaves.

Results:
* `Text.trim_append`: a trimmed text is found between blanks.
* `Text.isTrimmed_trim`, `Text.exists_trim_eq`: trimming leaves a trimmed text, and takes blanks
  only.
* `Text.trim_eq_self_iff`: it leaves trimmed texts as they are, and no others.
-/

namespace Disposition.Text

/-- There is nothing but blanks. -/
def IsBlanks (cs : List Char) : Prop :=
  ∀ c ∈ cs, isBlank c = true

/-- The text neither begins nor ends with a blank. -/
structure IsTrimmed (cs : List Char) : Prop where
  /-- It does not begin with one. -/
  first : ∀ c, cs.head? = some c → isBlank c = false
  /-- It does not end with one. -/
  last : ∀ c, cs.getLast? = some c → isBlank c = false

theorem isTrimmed_iff {cs : List Char} :
    IsTrimmed cs ↔ cs.head?.map isBlank ≠ some true ∧ cs.getLast?.map isBlank ≠ some true := by
  have hend : ∀ c? : Option Char,
      c?.map isBlank ≠ some true ↔ ∀ c, c? = some c → isBlank c = false := fun c? => by
    cases c? <;> simp
  rw [hend, hend]
  exact ⟨fun h => ⟨h.first, h.last⟩, fun h => ⟨h.1, h.2⟩⟩

theorem isBlanks_nil : IsBlanks [] :=
  nofun

theorem isTrimmed_nil : IsTrimmed [] :=
  ⟨nofun, nofun⟩

theorem IsBlanks.reverse {cs : List Char} (h : IsBlanks cs) : IsBlanks cs.reverse :=
  fun c hc => h c (List.mem_reverse.mp hc)

theorem IsTrimmed.reverse {cs : List Char} (h : IsTrimmed cs) : IsTrimmed cs.reverse where
  first c hc := h.last c (List.head?_reverse ▸ hc)
  last c hc := h.first c (List.getLast?_reverse ▸ hc)

/-- What stands first behind a row of blanks is where dropping them ends. -/
theorem IsBlanks.dropWhile_append {blanks rest : List Char} (h : IsBlanks blanks)
    (hrest : ∀ c, rest.head? = some c → isBlank c = false) :
    (blanks ++ rest).dropWhile isBlank = rest := by
  rw [List.dropWhile_append_of_pos h]
  cases rest with
  | nil => rfl
  | cons c rest => exact List.dropWhile_cons_of_neg (by simp [hrest c rfl])

theorem IsTrimmed.head?_append {cs : List Char} (h : IsTrimmed cs) (hne : cs ≠ [])
    (rest : List Char) : ∀ c, (cs ++ rest).head? = some c → isBlank c = false := by
  intro c hc
  obtain ⟨d, cs, rfl⟩ := List.exists_cons_of_ne_nil hne
  exact h.first c hc

/-- **A trimmed text is found between blanks.** -/
theorem trim_append {before cs after : List Char} (hbefore : IsBlanks before) (h : IsTrimmed cs)
    (hafter : IsBlanks after) : trim (before ++ (cs ++ after)) = cs := by
  unfold trim trimBy trimEndBy
  by_cases hne : cs = []
  · subst hne
    have hall : ∀ c ∈ before ++ ([] ++ after), isBlank c = true := fun c hc =>
      (List.mem_append.mp hc).elim (hbefore c) (hafter c)
    rw [List.dropWhile_eq_nil_iff.mpr hall]
    rfl
  · have hback : (after.reverse ++ cs.reverse).dropWhile isBlank = cs.reverse :=
      hafter.reverse.dropWhile_append h.reverse.first
    rw [hbefore.dropWhile_append (h.head?_append hne after), List.reverse_append, hback,
      List.reverse_reverse]

theorem IsTrimmed.trim_eq {cs : List Char} (h : IsTrimmed cs) : trim cs = cs := by
  have htrim := trim_append isBlanks_nil h isBlanks_nil
  rwa [List.append_nil, List.nil_append] at htrim

theorem IsBlanks.trim_eq {cs : List Char} (h : IsBlanks cs) : trim cs = [] := by
  have htrim := trim_append h isTrimmed_nil isBlanks_nil
  rwa [List.append_nil, List.append_nil] at htrim

theorem isBlanks_takeWhile (cs : List Char) : IsBlanks (cs.takeWhile isBlank) :=
  fun _ hc => List.mem_takeWhile_imp hc

/-- The text is what trimming leaves, with blanks around it. -/
theorem exists_trim_eq (cs : List Char) : ∃ before after, IsBlanks before ∧ IsBlanks after ∧
    cs.dropWhile isBlank = trim cs ++ after ∧ cs = before ++ (trim cs ++ after) := by
  have hend : cs.dropWhile isBlank =
      trim cs ++ ((cs.dropWhile isBlank).reverse.takeWhile isBlank).reverse := by
    unfold trim trimBy trimEndBy
    rw [← List.reverse_append, List.takeWhile_append_dropWhile, List.reverse_reverse]
  refine ⟨cs.takeWhile isBlank, _, isBlanks_takeWhile cs, (isBlanks_takeWhile _).reverse, hend, ?_⟩
  rw [← hend, List.takeWhile_append_dropWhile]

/-- **What trimming leaves is trimmed.** -/
theorem isTrimmed_trim (cs : List Char) : IsTrimmed (trim cs) := by
  have hdrop : ∀ (ds : List Char) (c : Char), (ds.dropWhile isBlank).head? = some c →
      isBlank c = false := fun ds c hc => by
    have hhead := List.head?_dropWhile_not isBlank ds
    rw [hc] at hhead
    exact hhead
  obtain ⟨-, after, -, -, hend, -⟩ := exists_trim_eq cs
  refine ⟨fun c hc => hdrop cs c ?_, fun c hc => ?_⟩
  · rw [hend, List.head?_append, hc]
    rfl
  · unfold trim trimBy trimEndBy at hc
    rw [List.getLast?_reverse] at hc
    exact hdrop _ c hc

theorem trim_eq_self_iff {cs : List Char} : trim cs = cs ↔ IsTrimmed cs :=
  ⟨fun h => h ▸ isTrimmed_trim cs, IsTrimmed.trim_eq⟩

instance : DecidablePred IsTrimmed := fun cs =>
  decidable_of_iff (trim cs = cs) trim_eq_self_iff

instance : DecidablePred IsBlanks := fun cs =>
  decidable_of_iff (cs.all isBlank = true) List.all_eq_true

end Disposition.Text
