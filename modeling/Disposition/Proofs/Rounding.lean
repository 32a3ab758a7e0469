import Disposition.Number.Double
import Mathlib.Algebra.Order.Field.Power
import Mathlib.Algebra.Order.Field.Rat
import Mathlib.Data.Rat.Cast.Order
import Mathlib.Tactic.FieldSimp
import Mathlib.Tactic.Linarith
import Mathlib.Tactic.Positivity
import Mathlib.Tactic.Ring

/-!
# Correct rounding

The double of a number is the one next to it: of all numbers with 53 binary digits, however large,
the nearest one is taken, of two that are equally near the one whose last digit is zero, and it is
infinite if what is taken is 2¹⁰²⁴ or more. `Double.Rounds` says so without an algorithm. The
numbers are counted in units of 2⁻¹⁰⁷⁴, so none of them has digits behind the unit.

`Double.ofRatio` rounds on the grid of the digits that the quotient needs, and `Double.ofDecimal`
does so unless the exponent alone tells the result. Both are correct.

Results:
* `Double.divideToEven_near`: rounding to whole numbers.
* `Double.isNearest_divideToEven`: on the right grid that is rounding to 53 digits.
* `Double.IsNearest.unique`, `Double.Rounds.unique`: there is one result.
* `Double.rounds_ofRatio`, `Double.rounds_ofDecimal`: it is the one that is computed.
-/

namespace Disposition

/-! ## Powers -/

/-- Eight is below ten, so three binary digits are below one decimal digit. -/
theorem twoTo_le_tenTo {m n : Nat} (h : m ≤ 3 * n) : twoTo m ≤ tenTo n :=
  calc 2 ^ m ≤ 2 ^ (3 * n) := Nat.pow_le_pow_right two_pos h
    _ = 8 ^ n := Nat.pow_mul 2 3 n
    _ ≤ 10 ^ n := Nat.pow_le_pow_left (by norm_num) n

theorem twoTo_add (m n : Nat) : twoTo (m + n) = twoTo m * twoTo n :=
  Nat.pow_add 2 m n

theorem twoTo_one : twoTo 1 = 2 :=
  rfl

theorem cast_tenTo (n : Nat) : ((tenTo n : Nat) : ℚ) = 10 ^ n := by
  unfold tenTo
  exact_mod_cast Nat.cast_pow 10 n

namespace Double

/-! ## What correct rounding is -/

/-- The number is written with 53 binary digits, and zeros after them. -/
def IsPrecise (units : Nat) : Prop :=
  ∃ digits zeros, digits < 2 ^ 53 ∧ units = digits * 2 ^ zeros

/-- The last of its 53 digits is zero, too. -/
def IsEven (units : Nat) : Prop :=
  ∃ digits zeros, digits < 2 ^ 52 ∧ units = digits * 2 ^ (zeros + 1)

/-- The nearest number with 53 digits; of two equally near ones, the even one. -/
structure IsNearest (place : ℚ) (units : Nat) : Prop where
  /-- It has 53 digits. -/
  precise : IsPrecise units
  /-- None is nearer. -/
  nearest : ∀ other, IsPrecise other → |place - units| ≤ |place - other|
  /-- If another one is as near, it is even. -/
  even : ∀ other, IsPrecise other → other ≠ units → |place - units| = |place - other| →
    IsEven units

/-- The double is what a number of that sign and size is rounded to. -/
inductive Rounds (negative : Bool) (size : ℚ) : Double → Prop
  /-- The nearest number is in the range of the format. -/
  | finite {units : Nat} (h : IsNearest (size * one) units) (hb : units < bound) :
      Rounds negative size (.finite negative units)
  /-- It is beyond. -/
  | infinite {units : Nat} (h : IsNearest (size * one) units) (hb : bound ≤ units) :
      Rounds negative size (.infinite negative)

theorem one_pos : (0 : ℚ) < one := by
  exact_mod_cast twoTo_pos 1074

/-! ## There is one result -/

/-- Between two even numbers there is another one. -/
theorem IsEven.exists_between {low high : Nat} (hl : IsEven low) (hh : IsEven high)
    (h : low < high) : ∃ middle, IsPrecise middle ∧ low < middle ∧ middle < high := by
  obtain ⟨a, i, ha, rfl⟩ := hl
  obtain ⟨b, j, hb, rfl⟩ := hh
  rcases Nat.le_total i j with hij | hji
  · -- the next one after the lower number
    obtain ⟨k, rfl⟩ := Nat.exists_eq_add_of_le hij
    have hpos : 0 < 2 ^ i := Nat.two_pow_pos i
    have hlow : a * 2 ^ (i + 1) = 2 * a * 2 ^ i := by ring
    have hhigh : b * 2 ^ (i + k + 1) = 2 * (b * 2 ^ k) * 2 ^ i := by ring
    rw [hlow, hhigh] at h ⊢
    have hlt : 2 * a < 2 * (b * 2 ^ k) := Nat.lt_of_mul_lt_mul_right h
    refine ⟨(2 * a + 1) * 2 ^ i, ⟨2 * a + 1, i, by omega, rfl⟩, ?_, ?_⟩
    · exact Nat.mul_lt_mul_of_pos_right (by omega) hpos
    · exact Nat.mul_lt_mul_of_pos_right (by omega) hpos
  · -- the last one before the higher number
    obtain ⟨k, rfl⟩ := Nat.exists_eq_add_of_le hji
    have hpos : 0 < 2 ^ j := Nat.two_pow_pos j
    have hlow : a * 2 ^ (j + k + 1) = 2 * (a * 2 ^ k) * 2 ^ j := by ring
    have hhigh : b * 2 ^ (j + 1) = 2 * b * 2 ^ j := by ring
    rw [hlow, hhigh] at h ⊢
    have hlt : 2 * (a * 2 ^ k) < 2 * b := Nat.lt_of_mul_lt_mul_right h
    refine ⟨(2 * b - 1) * 2 ^ j, ⟨2 * b - 1, j, by omega, rfl⟩, ?_, ?_⟩
    · exact Nat.mul_lt_mul_of_pos_right (by omega) hpos
    · exact Nat.mul_lt_mul_of_pos_right (by omega) hpos

theorem IsNearest.not_lt {place : ℚ} {low high : Nat} (hl : IsNearest place low)
    (hh : IsNearest place high) : ¬low < high := by
  intro h
  have htie : |place - low| = |place - high| :=
    le_antisymm (hl.nearest high hh.precise) (hh.nearest low hl.precise)
  have hlow := hl.even high hh.precise (Nat.ne_of_gt h) htie
  have hhigh := hh.even low hl.precise (Nat.ne_of_lt h) htie.symm
  obtain ⟨middle, hm, hlm, hmh⟩ := hlow.exists_between hhigh h
  have hlm : (low : ℚ) < middle := by exact_mod_cast hlm
  have hmh : (middle : ℚ) < high := by exact_mod_cast hmh
  -- what lies between them is nearer than both
  have hnear : |place - middle| < |place - low| := by
    rcases abs_eq_abs.mp htie with heq | heq
    · linarith
    · rw [abs_lt]
      have hle := le_abs_self (place - low)
      constructor <;> linarith
  exact absurd (hl.nearest middle hm) (not_le.mpr hnear)

/-- **There is one nearest number.** -/
theorem IsNearest.unique {place : ℚ} {units other : Nat} (h : IsNearest place units)
    (ho : IsNearest place other) : units = other :=
  Nat.le_antisymm (Nat.le_of_not_lt (ho.not_lt h)) (Nat.le_of_not_lt (h.not_lt ho))

/-- **A number is rounded to one double.** -/
theorem Rounds.unique {negative : Bool} {size : ℚ} {d e : Double} (hd : Rounds negative size d)
    (he : Rounds negative size e) : d = e := by
  cases hd with
  | finite hd hdb =>
    cases he with
    | finite he _ => rw [hd.unique he]
    | infinite he heb => exact absurd (hd.unique he ▸ heb) (Nat.not_le_of_lt hdb)
  | infinite hd hdb =>
    cases he with
    | finite he heb => exact absurd (hd.unique he ▸ hdb) (Nat.not_le_of_lt heb)
    | infinite _ _ => rfl

/-! ## Rounding to whole numbers -/

/-- **Rounding to whole numbers**: the result is at most a half away, and even if it is a half. -/
theorem divideToEven_near (num : Nat) {den : Nat} (hden : 0 < den) :
    |(num : ℚ) / den - divideToEven num den| ≤ 1 / 2 ∧
      (|(num : ℚ) / den - divideToEven num den| = 1 / 2 → divideToEven num den % 2 = 0) := by
  have hd : (0 : ℚ) < den := by exact_mod_cast hden
  have hlt : num % den < den := Nat.mod_lt num hden
  have hnum : (num : ℚ) = den * (num / den : Nat) + (num % den : Nat) := by
    exact_mod_cast (Nat.div_add_mod num den).symm
  have hquotient : (num : ℚ) / den = (num / den : Nat) + (num % den : Nat) / den := by
    rw [hnum]
    field_simp
  have hrest : (0 : ℚ) ≤ (num % den : Nat) / (den : ℚ) := by positivity
  unfold divideToEven
  simp only
  split_ifs with hlow hhigh
  · -- less than a half is left
    have h : ((num % den : Nat) : ℚ) / den < 1 / 2 := by
      rw [div_lt_div_iff₀ hd two_pos]
      exact_mod_cast (by omega : num % den * 2 < 1 * den)
    rw [hquotient, add_sub_cancel_left, abs_of_nonneg hrest]
    exact ⟨h.le, fun heq => absurd heq h.ne⟩
  · -- more than a half is left
    have h : 1 / 2 < ((num % den : Nat) : ℚ) / den := by
      rw [div_lt_div_iff₀ two_pos hd]
      exact_mod_cast (by omega : 1 * den < num % den * 2)
    have hone : ((num % den : Nat) : ℚ) / den ≤ 1 := by
      rw [div_le_one₀ hd]
      exact_mod_cast hlt.le
    have hsub : (num : ℚ) / den - (num / den + 1 : Nat) = (num % den : Nat) / den - 1 := by
      rw [hquotient]
      push_cast
      ring
    rw [hsub, abs_of_nonpos (by linarith)]
    exact ⟨by linarith, fun heq => by linarith⟩
  · -- a half is left
    have h : ((num % den : Nat) : ℚ) / den = 1 / 2 := by
      rw [div_eq_div_iff hd.ne' two_ne_zero]
      exact_mod_cast (by omega : num % den * 2 = 1 * den)
    rcases Nat.mod_two_eq_zero_or_one (num / den) with heven | hodd
    · rw [heven, hquotient, h]
      refine ⟨?_, fun _ => heven⟩
      norm_num
    · rw [hodd, hquotient, h]
      refine ⟨?_, fun _ => by omega⟩
      push_cast
      have hsub : ((num / den : Nat) : ℚ) + 1 / 2 - ((num / den : Nat) + 1) = -(1 / 2) := by ring
      rw [hsub, abs_neg]
      norm_num

/-- What is at most a half away is nearest, and alone so if it is nearer than a half. -/
theorem near_of_half {place : ℚ} {whole : Nat} (h : |place - whole| ≤ 1 / 2) (other : Nat) :
    |place - whole| ≤ |place - other| ∧
      (other ≠ whole → |place - whole| = |place - other| → |place - whole| = 1 / 2) := by
  by_cases heq : other = whole
  · exact ⟨by rw [heq], fun hne => absurd heq hne⟩
  · have hfar : 1 / 2 ≤ |place - other| := by
      obtain ⟨hlow, hhigh⟩ := abs_le.mp h
      rcases Nat.lt_or_gt_of_ne heq with hlt | hlt
      · have hlt : (other : ℚ) + 1 ≤ whole := by exact_mod_cast hlt
        exact le_trans (by linarith) (le_abs_self (place - other))
      · have hlt : (whole : ℚ) + 1 ≤ other := by exact_mod_cast hlt
        exact le_trans (by linarith) (neg_le_abs (place - other))
    exact ⟨h.trans hfar, fun _ htie => le_antisymm h (htie ▸ hfar)⟩

/-! ## Rounding to 53 digits -/

theorem spacing_eq (units : Nat) : spacing units = 2 ^ (units.log2 - 52) := rfl

/-- A number with 53 digits is on a grid, or below the numbers that fill its digits. -/
theorem IsPrecise.on_grid {units : Nat} (h : IsPrecise units) (zeros : Nat) :
    (∃ whole, units = whole * 2 ^ zeros) ∨ 0 < zeros ∧ units < 2 ^ 52 * 2 ^ zeros := by
  obtain ⟨digits, k, hdigits, rfl⟩ := h
  rcases Nat.lt_or_ge k zeros with hlt | hge
  · refine .inr ⟨by omega, ?_⟩
    calc digits * 2 ^ k < 2 ^ 53 * 2 ^ k := Nat.mul_lt_mul_of_pos_right hdigits (Nat.two_pow_pos k)
      _ = 2 ^ 52 * 2 ^ (k + 1) := by ring
      _ ≤ 2 ^ 52 * 2 ^ zeros := Nat.mul_le_mul_left _ (Nat.pow_le_pow_right two_pos hlt)
  · obtain ⟨j, rfl⟩ := Nat.exists_eq_add_of_le hge
    exact .inl ⟨digits * 2 ^ j, by ring⟩

section Grid

variable {place : ℚ} {zeros whole : Nat} (hnear : |place / 2 ^ zeros - whole| ≤ 1 / 2)

include hnear

/-- On a grid, rounding to whole numbers is nearest. -/
theorem near_on_grid (other : Nat) :
    |place - (whole * 2 ^ zeros : Nat)| ≤ |place - (other * 2 ^ zeros : Nat)| ∧
      (other ≠ whole →
        |place - (whole * 2 ^ zeros : Nat)| = |place - (other * 2 ^ zeros : Nat)| →
          |place / 2 ^ zeros - whole| = 1 / 2) := by
  have hpos : (0 : ℚ) < 2 ^ zeros := by positivity
  have hscaled : ∀ n : Nat,
      |place - (n * 2 ^ zeros : Nat)| = 2 ^ zeros * |place / 2 ^ zeros - n| := by
    intro n
    rw [← abs_of_pos hpos, ← abs_mul, abs_of_pos hpos, mul_sub, mul_div_cancel₀ _ hpos.ne']
    push_cast
    rw [mul_comm]
  obtain ⟨hle, htie⟩ := near_of_half hnear other
  rw [hscaled, hscaled]
  exact ⟨mul_le_mul_of_nonneg_left hle hpos.le,
    fun hne h => htie hne (mul_left_cancel₀ hpos.ne' h)⟩

variable (heven : |place / 2 ^ zeros - whole| = 1 / 2 → whole % 2 = 0)
  (hlow : 0 < zeros → 2 ^ 52 * 2 ^ zeros ≤ place) (hhigh : place < 2 ^ 53 * 2 ^ zeros)

include hhigh in
theorem le_of_near : whole ≤ 2 ^ 53 := by
  have hlt : place / 2 ^ zeros < 2 ^ 53 := by
    rw [div_lt_iff₀ (by positivity)]
    exact hhigh
  have hle := (abs_le.mp hnear).1
  have h : (whole : ℚ) < (2 ^ 53 + 1 : Nat) := by
    push_cast
    linarith
  have h : whole < 2 ^ 53 + 1 := by exact_mod_cast h
  exact Nat.le_of_lt_succ h

include heven hlow hhigh

/-- **On the grid of its 53 digits** a number is rounded as to whole numbers. -/
theorem isNearest_on_grid : IsNearest place (whole * 2 ^ zeros) := by
  have hle := le_of_near hnear hhigh
  -- a number off the grid is farther than the least one that fills the digits
  have hfar : ∀ other : Nat, 0 < zeros → other < 2 ^ 52 * 2 ^ zeros →
      |place - (whole * 2 ^ zeros : Nat)| < |place - other| := by
    intro other hzeros hother
    have hother : (other : ℚ) < (2 ^ 52 * 2 ^ zeros : Nat) := by exact_mod_cast hother
    have hleast : ((2 ^ 52 * 2 ^ zeros : Nat) : ℚ) ≤ place := by
      push_cast
      exact hlow hzeros
    calc |place - (whole * 2 ^ zeros : Nat)| ≤ |place - (2 ^ 52 * 2 ^ zeros : Nat)| :=
          (near_on_grid hnear _).1
      _ = place - (2 ^ 52 * 2 ^ zeros : Nat) := abs_of_nonneg (by linarith)
      _ < place - other := by linarith
      _ ≤ |place - other| := le_abs_self _
  refine ⟨?_, fun other ho => ?_, fun other ho hne htie => ?_⟩
  · rcases Nat.lt_or_eq_of_le hle with hlt | heq
    · exact ⟨whole, zeros, hlt, rfl⟩
    · exact ⟨2 ^ 52, zeros + 1, by norm_num, by rw [heq]; ring⟩
  · rcases ho.on_grid zeros with ⟨n, rfl⟩ | ⟨hzeros, hother⟩
    · exact (near_on_grid hnear n).1
    · exact (hfar other hzeros hother).le
  · rcases ho.on_grid zeros with ⟨n, rfl⟩ | ⟨hzeros, hother⟩
    · have hhalf := (near_on_grid hnear n).2 (fun h => hne (h ▸ rfl)) htie
      obtain ⟨half, hw⟩ := Nat.dvd_of_mod_eq_zero (heven hhalf)
      rcases Nat.lt_or_eq_of_le hle with hlt | heq
      · exact ⟨half, zeros, by omega, by rw [hw]; ring⟩
      · exact ⟨1, zeros + 52, by norm_num, by rw [heq]; ring⟩
    · exact absurd htie (hfar other hzeros hother).ne

end Grid

/-- **Rounding on the spacing of the doubles** is rounding to 53 digits. -/
theorem isNearest_divideToEven (num : Nat) {den : Nat} (hden : 0 < den) :
    IsNearest ((num : ℚ) / den)
      (divideToEven num (den * spacing (num / den)) * spacing (num / den)) := by
  have hd : (0 : ℚ) < den := by exact_mod_cast hden
  rw [spacing_eq]
  generalize hzeros : (num / den).log2 - 52 = zeros
  have hscale : (num : ℚ) / den / 2 ^ zeros = (num : ℚ) / (den * 2 ^ zeros : Nat) := by
    push_cast
    rw [div_div]
  obtain ⟨hnear, heven⟩ := divideToEven_near num (Nat.mul_pos hden (Nat.two_pow_pos zeros))
  rw [← hscale] at hnear heven
  refine isNearest_on_grid hnear heven (fun hpos => ?_) ?_
  · -- the whole part has more than 53 digits
    have hne : num / den ≠ 0 := by
      intro h
      rw [h, Nat.log2_zero] at hzeros
      omega
    have hlog : (num / den).log2 = 52 + zeros := by omega
    have hle := Nat.log2_self_le hne
    rw [hlog, Nat.pow_add, Nat.le_div_iff_mul_le hden] at hle
    rw [le_div_iff₀ hd]
    exact_mod_cast hle
  · have hlt : num / den < 2 ^ (53 + zeros) :=
      Nat.lt_of_lt_of_le Nat.lt_log2_self (Nat.pow_le_pow_right two_pos (by omega))
    rw [Nat.div_lt_iff_lt_mul hden, Nat.pow_add] at hlt
    rw [div_lt_iff₀ hd]
    exact_mod_cast hlt

/-! ## Quotients and decimal numerals -/

/-- **The double of a quotient is correctly rounded.** -/
theorem rounds_ofRatio (negative : Bool) (num : Nat) {den : Nat} (hden : 0 < den) :
    Rounds negative ((num : ℚ) / den) (ofRatio negative num den) := by
  have hplace : (num : ℚ) / den * one = (num * one : Nat) / den := by
    push_cast
    ring
  have h := isNearest_divideToEven (num * one) hden
  rw [← hplace] at h
  unfold ofRatio
  simp only
  split_ifs with hb
  · exact .infinite h hb
  · exact .finite h (Nat.lt_of_not_le hb)

/-- What is at most a number with 53 digits is at most what is rounded up from there. -/
theorem IsNearest.le_of_le {place : ℚ} {units least : Nat} (h : IsNearest place units)
    (hl : IsPrecise least) (hle : (least : ℚ) ≤ place) : least ≤ units := by
  by_contra hlt
  have hlt : (units : ℚ) < least := by exact_mod_cast Nat.lt_of_not_le hlt
  have hnear := h.nearest least hl
  rw [abs_of_nonneg (by linarith), abs_of_nonneg (by linarith)] at hnear
  linarith

/-- Up to half of a unit the nearest number is zero. -/
theorem isNearest_zero {place : ℚ} (hpos : 0 ≤ place) (hle : place ≤ 1 / 2) :
    IsNearest place 0 := by
  have hhalf : |place - (0 : Nat)| ≤ 1 / 2 := by
    rw [Nat.cast_zero, sub_zero, abs_of_nonneg hpos]
    exact hle
  exact ⟨⟨0, 0, by norm_num, rfl⟩, fun other _ => (near_of_half hhalf other).1,
    fun _ _ _ _ => ⟨0, 0, by norm_num, rfl⟩⟩

theorem bound_pos : 0 < bound :=
  twoTo_pos 2098

theorem isPrecise_twoTo (exponent : Nat) : IsPrecise (twoTo exponent) :=
  ⟨1, exponent, by norm_num, (Nat.one_mul _).symm⟩

/-- A number of some size is rounded to infinity if it is at least the bound of the format. -/
theorem rounds_infinite (negative : Bool) {num : Nat} (h : bound ≤ num * one) :
    Rounds negative num (infinite negative) := by
  have hrounds := rounds_ofRatio negative num Nat.one_pos
  rw [Nat.cast_one, div_one] at hrounds
  generalize ofRatio negative num 1 = d at hrounds
  cases hrounds with
  | infinite hn hb => exact .infinite hn hb
  | finite hn hb =>
    have hle := hn.le_of_le (isPrecise_twoTo 2098) (by exact_mod_cast h)
    exact absurd hle (Nat.not_le_of_lt hb)

/-- A number of some size is rounded to zero if it is at most half of a unit. -/
theorem rounds_zero (negative : Bool) {size : ℚ} (hpos : 0 ≤ size) (hle : size * one ≤ 1 / 2) :
    Rounds negative size (finite negative 0) :=
  .finite (isNearest_zero (mul_nonneg hpos one_pos.le) hle) bound_pos

theorem bound_eq : bound = twoTo 1024 * one := by
  rw [bound, one, ← twoTo_add]

/-- A number with far more decimal digits than the bound of the format. -/
theorem bound_le_of_large {digits n : Nat} (hpos : digits ≠ 0) (hn : 400 ≤ n) :
    bound ≤ digits * tenTo n * one := by
  have htwo : twoTo 1024 ≤ tenTo n := twoTo_le_tenTo (by omega)
  have hten : tenTo n ≤ digits * tenTo n := Nat.le_mul_of_pos_left _ (Nat.pos_of_ne_zero hpos)
  rw [bound_eq]
  exact Nat.mul_le_mul_right one (htwo.trans hten)

/-- A number with far more zeros behind the point than a unit. -/
theorem le_tenTo_of_small {digits n : Nat} (hn : 400 + digits.log2 ≤ n) :
    digits * (2 * one) ≤ tenTo n := by
  have hdigits : digits ≤ twoTo (digits.log2 + 1) := Nat.lt_log2_self.le
  have hone : 2 * one = twoTo (1 + 1074) := by rw [twoTo_add 1, twoTo_one, one]
  calc digits * (2 * one) ≤ twoTo (digits.log2 + 1) * (2 * one) := Nat.mul_le_mul_right _ hdigits
    _ = twoTo (digits.log2 + 1 + (1 + 1074)) := by rw [hone, twoTo_add (digits.log2 + 1)]
    _ ≤ tenTo n := twoTo_le_tenTo (by omega)

/-- **The double of a decimal numeral is correctly rounded**, however long it is and whatever its
exponent. -/
theorem rounds_ofDecimal (negative : Bool) (digits : Nat) (exponent : Int) :
    Rounds negative (digits * 10 ^ exponent) (ofDecimal negative digits exponent) := by
  unfold ofDecimal
  split_ifs with hzero hlarge hsmall hwhole
  · rw [hzero, Nat.cast_zero, zero_mul]
    exact rounds_zero negative le_rfl (by rw [zero_mul]; norm_num)
  · obtain ⟨n, rfl⟩ := Int.eq_ofNat_of_zero_le (show 0 ≤ exponent by omega)
    have hsize : (digits : ℚ) * 10 ^ (n : ℤ) = (digits * tenTo n : Nat) := by
      rw [zpow_natCast, Nat.cast_mul, cast_tenTo]
    rw [hsize]
    exact rounds_infinite negative (bound_le_of_large hzero (by omega))
  · obtain ⟨n, hn⟩ := Int.eq_ofNat_of_zero_le (show 0 ≤ -exponent by omega)
    obtain rfl : exponent = -(n : ℤ) := by omega
    have hten : (0 : ℚ) < 10 ^ n := by positivity
    have hle : (digits : ℚ) * (2 * one) ≤ 10 ^ n := by
      rw [← cast_tenTo]
      exact_mod_cast le_tenTo_of_small (by omega)
    have hsize : (digits : ℚ) * 10 ^ (-(n : ℤ)) = digits / 10 ^ n := by
      rw [zpow_neg, zpow_natCast, div_eq_mul_inv]
    rw [hsize]
    refine rounds_zero negative (by positivity) ?_
    generalize (one : ℚ) = unit at hle ⊢
    rw [div_mul_eq_mul_div, div_le_div_iff₀ hten two_pos]
    linarith
  · obtain ⟨n, rfl⟩ := Int.eq_ofNat_of_zero_le hwhole
    have h := rounds_ofRatio negative (digits * tenTo n) Nat.one_pos
    rw [Nat.cast_one, div_one, Nat.cast_mul, cast_tenTo, ← zpow_natCast] at h
    exact h
  · obtain ⟨n, hn⟩ := Int.eq_ofNat_of_zero_le (show 0 ≤ -exponent by omega)
    obtain rfl : exponent = -(n : ℤ) := by omega
    have h := rounds_ofRatio negative digits (tenTo_pos n)
    rw [cast_tenTo, div_eq_mul_inv, ← zpow_natCast, ← zpow_neg] at h
    rw [neg_neg, Int.toNat_natCast]
    exact h

end Double

end Disposition
