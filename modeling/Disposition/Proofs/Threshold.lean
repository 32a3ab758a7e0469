import Disposition.Proofs.Numeral
import Disposition.Proofs.Rounding
import Disposition.Rule.Threshold

/-!
# Thresholds in texts

The threshold that a text stands for is the double of the longest numeral at its start, blanks
aside: of `" 7e USD"` it is seven. Only that numeral counts, whatever follows it.

Results:
* `Numeral.roundsTo_iff`: the double of a numeral is the correctly rounded one.
* `Value.threshold?_text`: the threshold of a text, in terms of the longest numeral.
-/

namespace Disposition

namespace Numeral

open Text

/-! ## The double of a numeral -/

/-- The double is what the numeral is rounded to. -/
inductive RoundsTo : Numeral → Double → Prop
  /-- The word is an infinity. -/
  | infinity (negative : Bool) : RoundsTo ⟨negative, .infinity⟩ (.infinite negative)
  /-- Digits are rounded to the nearest double. -/
  | decimal {negative : Bool} {digits : Nat} {exponent : Int} {d : Double}
      (h : Double.Rounds negative (digits * 10 ^ exponent) d) :
      RoundsTo ⟨negative, .decimal digits exponent⟩ d

/-- **The double of a numeral is correctly rounded**, and no other one is. -/
theorem roundsTo_iff {n : Numeral} {d : Double} : n.RoundsTo d ↔ n.toDouble = d := by
  constructor
  · rintro (_ | ⟨h⟩)
    · rfl
    · exact (Double.rounds_ofDecimal _ _ _).unique h
  · rintro rfl
    obtain ⟨negative, infinity | ⟨digits, exponent⟩⟩ := n
    · exact .infinity negative
    · exact .decimal (Double.rounds_ofDecimal negative digits exponent)

theorem RoundsTo.ne_nan {n : Numeral} {d : Double} (h : n.RoundsTo d) : d ≠ .nan := by
  rintro rfl
  obtain _ | ⟨⟨⟩⟩ := h

/-! ## Blanks before a numeral -/

theorem not_isBlank_of_isDigit {c : Char} (h : isDigit c = true) : isBlank c = false := by
  have h : 48 ≤ c.toNat ∧ c.toNat ≤ 57 := by
    simpa [isDigit, Char.le_def, UInt32.le_iff_toNat_le] using h
  simp only [isBlank, isSpace, Bool.or_eq_false_iff, Bool.and_eq_false_iff, decide_eq_false_iff_not,
    beq_eq_false_iff_ne]
  omega

/-- No numeral starts with a blank. -/
theorem Writes.exists_cons {n : Numeral} {text : List Char} (h : Writes n text) :
    ∃ c rest, text = c :: rest ∧ isBlank c = false := by
  obtain ⟨hs, hm⟩ := h
  cases hs with
  | plus => exact ⟨_, _, rfl, by decide⟩
  | minus => exact ⟨_, _, rfl, by decide⟩
  | none =>
    cases hm with
    | infinity => exact ⟨'I', "nfinity".toList, rfl, by decide⟩
    | decimal hs _ =>
      obtain ⟨c, rest, rfl, hc⟩ := hs.exists_cons
      refine ⟨c, _, List.cons_append, ?_⟩
      rcases hc with hc | rfl
      · exact not_isBlank_of_isDigit hc
      · decide

/-- Blanks before a numeral are skipped, and nothing else. -/
theorem IsNumeral.trimStart_append {text blanks : List Char} (h : IsNumeral text)
    (hblanks : ∀ c ∈ blanks, isBlank c = true) (rest : List Char) :
    trimStart (blanks ++ text ++ rest) = text ++ rest := by
  obtain ⟨n, hw⟩ := h
  obtain ⟨c, tail, rfl, hc⟩ := hw.exists_cons
  unfold trimStart
  rw [List.append_assoc, List.dropWhile_append_of_pos hblanks, List.cons_append,
    List.dropWhile_cons_of_neg (by simp [hc])]

end Numeral

/-! ## The threshold of a text -/

namespace Value

open Text Numeral

theorem textThreshold?_eq_some_iff {s : String} {d : Double} :
    textThreshold? s = some d ↔
      ∃ text n, IsLongest text (trimStart s.toList) ∧ Writes n text ∧ n.RoundsTo d := by
  simp only [textThreshold?, Option.map_eq_some_iff, Prod.exists, read?_eq_some_iff, roundsTo_iff]
  constructor
  · rintro ⟨n, rest, ⟨text, hl, hw, -⟩, hd⟩
    exact ⟨text, n, hl, hw, hd⟩
  · rintro ⟨text, n, hl, hw, hd⟩
    obtain ⟨rest, hrest⟩ := hl.starts
    exact ⟨n, rest, ⟨text, hl, hw, hrest.symm⟩, hd⟩

theorem textThreshold?_eq_none_iff {s : String} :
    textThreshold? s = none ↔ ∀ text, text <+: trimStart s.toList → ¬IsNumeral text := by
  rw [textThreshold?, Option.map_eq_none_iff, read?_eq_none_iff]

/-- Two texts with the same longest numeral at their starts have the same threshold. -/
theorem textThreshold?_congr {s t : String} {text : List Char}
    (hs : IsLongest text (trimStart s.toList)) (ht : IsLongest text (trimStart t.toList)) :
    textThreshold? s = textThreshold? t := by
  obtain ⟨n, hw⟩ := hs.isNumeral
  have hs := textThreshold?_eq_some_iff.mpr ⟨text, n, hs, hw, roundsTo_iff.mpr rfl⟩
  have ht := textThreshold?_eq_some_iff.mpr ⟨text, n, ht, hw, roundsTo_iff.mpr rfl⟩
  rw [hs, ht]

/-- **The threshold of a text** is the correctly rounded double of the longest numeral behind the
blanks at its start, and there is none only if there is no numeral. It is a number, and what
follows the numeral may be replaced by anything that does not make the numeral longer. -/
theorem threshold?_text (s : String) :
    (threshold? (text s) = none ↔
      ∀ numeral, numeral ≠ [] → numeral <+: trimStart s.toList → ¬IsNumeral numeral) ∧
    (∀ d, threshold? (text s) = some d ↔
      ∃ numeral n, IsLongest numeral (trimStart s.toList) ∧ Writes n numeral ∧ n.RoundsTo d) ∧
    threshold? (text s) ≠ some .nan ∧
    ∀ blanks numeral rest other, s.toList = blanks ++ numeral ++ rest →
      (∀ c ∈ blanks, isBlank c = true) → IsLongest numeral (numeral ++ rest) →
      IsLongest numeral (numeral ++ other) →
      threshold? (text (String.ofList (blanks ++ numeral ++ other))) = threshold? (text s) := by
  refine ⟨?_, fun d => textThreshold?_eq_some_iff, fun h => ?_, ?_⟩
  · rw [threshold?, textThreshold?_eq_none_iff]
    constructor
    · intro h numeral _ hstarts
      exact h numeral hstarts
    · intro h numeral hstarts hnumeral
      obtain ⟨n, hw⟩ := hnumeral
      exact h numeral hw.ne_nil hstarts ⟨n, hw⟩
  · obtain ⟨_, n, _, _, hd⟩ := textThreshold?_eq_some_iff.mp h
    exact hd.ne_nan rfl
  · intro blanks numeral rest other hs hblanks hl ho
    have hrest := hl.isNumeral.trimStart_append hblanks rest
    have hother := hl.isNumeral.trimStart_append hblanks other
    rw [← String.toList_ofList (l := blanks ++ numeral ++ other)] at hother
    rw [← hs] at hrest
    exact textThreshold?_congr (hother ▸ ho) (hrest ▸ hl)

/-- An exponent without digits does not count, nor does a currency. -/
theorem threshold?_text_cut :
    threshold? (text " 7 EUR") = threshold? (text " 7e USD") := by
  have hrow : IsRow ['7'] := List.forall_mem_singleton.mpr rfl
  have hseven : Writes ⟨false, .decimal 7 0⟩ ['7'] :=
    .intro .none (.decimal (.whole hrow (List.cons_ne_nil _ _)) .none)
  have hl : ∀ rest, read? ('7' :: rest) = some (⟨false, .decimal 7 0⟩, rest) →
      IsLongest ['7'] (['7'] ++ rest) := by
    intro rest hread
    exact isLongest_of_read hread hseven rfl
  exact (threshold?_text " 7e USD").2.2.2 [' '] ['7'] "e USD".toList " EUR".toList (by decide)
    (List.forall_mem_singleton.mpr rfl) (hl _ (by decide)) (hl _ (by decide))

end Value

end Disposition
