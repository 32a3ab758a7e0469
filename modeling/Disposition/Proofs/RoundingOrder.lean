import Disposition.Number.Exact
import Disposition.Proofs.Rounding

/-!
# Rounding and the order

Rounding never turns an order around: of two exact values the greater one is not rounded to the
lesser double, whichever way each of them came to be rounded. So what is less after rounding was
less before it. The converse fails where two values fall on one double; it holds of values that are
doubles themselves, because those are not changed.

To have one comparison for all doubles, each one gets a place among the integers (`Double.place`):
its units with their sign, and the bound of the format for an infinity.

Results:
* `Double.IsNearest.mono`: the nearest numbers are ordered as what they are nearest to.
* `Double.lt_iff_place`: the order of the format is that of the places.
* `Exact.RoundsTo.place_le`: rounding is monotone, infinities and signs included.
* `Exact.RoundsTo.lt_of_lt`: what is less after rounding was less before.
* `Exact.RoundsTo.lt_iff`: of doubles the order is the same before and after.
-/

namespace Disposition

namespace Double

/-! ## Nearest numbers -/

/-- What is at least as near to the higher of two numbers is not in the lower half between them. -/
theorem add_le_of_near_high {x low high : ℚ} (hlt : low < high) (h : |x - high| ≤ |x - low|) :
    low + high ≤ 2 * x := by
  by_contra hx
  have hx : 2 * x < low + high := not_le.mp hx
  have hnear : |x - low| < high - x := by
    rw [abs_lt]
    constructor <;> linarith
  have hfar : high - x ≤ |x - high| := by
    rw [abs_sub_comm]
    exact le_abs_self _
  linarith

/-- What is at least as near to the lower of two numbers is not in the upper half between them. -/
theorem le_add_of_near_low {x low high : ℚ} (hlt : low < high) (h : |x - low| ≤ |x - high|) :
    2 * x ≤ low + high := by
  have hneg : -high + -low ≤ 2 * -x := by
    refine add_le_of_near_high (neg_lt_neg hlt) ?_
    rw [neg_sub_neg, neg_sub_neg, abs_sub_comm, abs_sub_comm high]
    exact h
  linarith

/-- **The nearest numbers are ordered** as what they are nearest to. -/
theorem IsNearest.mono {place place' : ℚ} {units units' : Nat} (h : IsNearest place units)
    (h' : IsNearest place' units') (hle : place ≤ place') : units ≤ units' := by
  by_contra hlt
  have hlt : units' < units := Nat.lt_of_not_le hlt
  have hcast : (units' : ℚ) < units := by exact_mod_cast hlt
  have hlow := add_le_of_near_high hcast (h.nearest units' h'.precise)
  have hhigh := le_add_of_near_low hcast (h'.nearest units h.precise)
  -- both are the middle, and there is one nearest number
  obtain rfl : place = place' := by linarith
  exact absurd (h.unique h') (Nat.ne_of_gt hlt)

/-- A number with 53 digits is the nearest to itself. -/
theorem isNearest_self {units : Nat} (h : IsPrecise units) : IsNearest units units := by
  refine ⟨h, fun other _ => ?_, fun other _ hne htie => ?_⟩
  · rw [sub_self, abs_zero]
    exact abs_nonneg _
  · rw [sub_self, abs_zero] at htie
    have heq : (units : ℚ) = other := sub_eq_zero.mp (abs_eq_zero.mp htie.symm)
    exact absurd (by exact_mod_cast heq.symm) hne

/-! ## Places -/

/-- The double is one of the format: its units have 53 digits and are below the bound. -/
def InFormat : Double → Prop
  | finite _ units => IsPrecise units ∧ units < bound
  | _ => True

theorem twoTo_mono {m n : Nat} (h : m ≤ n) : twoTo m ≤ twoTo n :=
  Nat.pow_le_pow_right two_pos h

theorem isPrecise_mul_twoTo {digits : Nat} (h : digits < 2 ^ 53) (zeros : Nat) :
    IsPrecise (digits * twoTo zeros) :=
  ⟨digits, zeros, h, rfl⟩

/-- Whole numbers of at most 53 digits are doubles of the format. -/
theorem inFormat_whole (negative : Bool) {n : Nat} (h : n < 2 ^ 53) :
    (finite negative (n * one)).InFormat := by
  refine ⟨isPrecise_mul_twoTo h 1074, ?_⟩
  calc n * one < twoTo 53 * one := Nat.mul_lt_mul_of_pos_right h (twoTo_pos 1074)
    _ ≤ bound := by
      rw [bound_eq]
      exact Nat.mul_le_mul_right one (twoTo_mono (by decide))

/-- The place of a double among the integers. The infinities are at the bound of the format. -/
def place : Double → Int
  | nan => 0
  | infinite negative => signedUnits negative bound
  | finite negative units => signedUnits negative units

theorem InFormat.place_le_bound {d : Double} (h : d.InFormat) : d.place ≤ bound := by
  cases d with
  | nan => exact Int.natCast_nonneg bound
  | infinite negative => simp only [place, signedUnits]; split <;> omega
  | finite negative units =>
    have hlt : units < bound := h.2
    simp only [place, signedUnits]
    split <;> omega

theorem InFormat.neg_bound_le_place {d : Double} (h : d.InFormat) : -(bound : Int) ≤ d.place := by
  cases d with
  | nan => exact Int.neg_nonpos_of_nonneg (Int.natCast_nonneg bound)
  | infinite negative => simp only [place, signedUnits]; split <;> omega
  | finite negative units =>
    have hlt : units < bound := h.2
    simp only [place, signedUnits]
    split <;> omega

/-- Above what is below a bound there is only the bound itself, not its negative. -/
theorem lt_signedUnits_iff {units most : Nat} (h : units < most) (negative negative' : Bool) :
    signedUnits negative units < signedUnits negative' most ↔ negative' = false := by
  cases negative <;> cases negative' <;> simp [signedUnits] <;> omega

/-- Below what is below a bound there is only the negative of the bound. -/
theorem signedUnits_lt_iff {units most : Nat} (h : units < most) (negative negative' : Bool) :
    signedUnits negative most < signedUnits negative' units ↔ negative = true := by
  cases negative <;> cases negative' <;> simp [signedUnits] <;> omega

theorem signedUnits_lt_signedUnits_iff {units : Nat} (h : 0 < units) (negative negative' : Bool) :
    signedUnits negative units < signedUnits negative' units ↔
      negative = true ∧ negative' = false := by
  cases negative <;> cases negative' <;> simp [signedUnits]
  omega

/-- **The order of the format** is that of the places. -/
theorem lt_iff_place {d e : Double} (hd : d.InFormat) (he : e.InFormat) (hdn : d ≠ nan)
    (hen : e ≠ nan) : d.lt e = true ↔ d.place < e.place := by
  cases d with
  | nan => exact absurd rfl hdn
  | infinite negative =>
    cases e with
    | nan => exact absurd rfl hen
    | infinite negative' =>
      rw [lt, place, place, signedUnits_lt_signedUnits_iff bound_pos, Bool.and_eq_true,
        Bool.not_eq_true']
    | finite negative' units' => rw [lt, place, place, signedUnits_lt_iff he.2]
  | finite negative units =>
    cases e with
    | nan => exact absurd rfl hen
    | infinite negative' => rw [lt, place, place, lt_signedUnits_iff hd.2, Bool.not_eq_true']
    | finite negative' units' => rw [lt, place, place, decide_eq_true_eq]

/-! ## Sizes with signs -/

/-- A number from its sign and its size. -/
def signedSize (negative : Bool) (size : ℚ) : ℚ :=
  if negative then -size else size

namespace Rounds

variable {negative negative' : Bool} {size size' : ℚ} {d d' : Double}

theorem ne_nan (h : Rounds negative size d) : d ≠ nan := by
  rintro rfl
  cases h

/-- What comes out of rounding is a double of the format. -/
theorem inFormat (h : Rounds negative size d) : d.InFormat := by
  cases h with
  | finite h hb => exact ⟨h.precise, hb⟩
  | infinite h hb => trivial

/-- The place of what a number is rounded to: the nearest units, but not beyond the bound. -/
theorem exists_place (h : Rounds negative size d) :
    ∃ units, IsNearest (size * one) units ∧ d.place = signedUnits negative (min units bound) := by
  cases h with
  | @finite units h hb => exact ⟨units, h, by rw [Nat.min_eq_left hb.le, place]⟩
  | @infinite units h hb => exact ⟨units, h, by rw [Nat.min_eq_right hb, place]⟩

/-- **Rounding is monotone** on numbers of both signs. -/
theorem place_le (h : Rounds negative size d) (h' : Rounds negative' size' d') (hsize : 0 ≤ size)
    (hsize' : 0 ≤ size') (hle : signedSize negative size ≤ signedSize negative' size') :
    d.place ≤ d'.place := by
  obtain ⟨units, hn, hplace⟩ := h.exists_place
  obtain ⟨units', hn', hplace'⟩ := h'.exists_place
  rw [hplace, hplace']
  cases negative <;> cases negative' <;>
    simp only [signedSize, signedUnits, Bool.false_eq_true, if_true, if_false] at hle ⊢
  · have hunits := hn.mono hn' (mul_le_mul_of_nonneg_right hle one_pos.le)
    omega
  · -- neither is below zero, so both are zero
    obtain rfl : size = 0 := by linarith
    obtain rfl : size' = 0 := by linarith
    have hzero : IsNearest (0 * one) 0 := by
      rw [zero_mul]
      exact isNearest_zero (le_refl 0) (by norm_num)
    rw [hn.unique hzero, hn'.unique hzero, Nat.zero_min]
    exact le_refl 0
  · omega
  · have hunits := hn'.mono hn (mul_le_mul_of_nonneg_right (neg_le_neg_iff.mp hle) one_pos.le)
    omega

end Rounds

end Double

/-! ## Exact values -/

namespace Exact

open Double

/-- The double is what an exact value is rounded to. -/
inductive RoundsTo : Exact → Double → Prop
  /-- An infinity is one. -/
  | infinity (negative : Bool) : RoundsTo (infinity negative) (.infinite negative)
  /-- A rational is rounded by its size. -/
  | rational {negative : Bool} {size : ℚ} {d : Double} (hsize : 0 ≤ size)
      (h : Rounds negative size d) : RoundsTo (rational (signedSize negative size)) d

/-- The exact value is that of a double of the format. -/
def IsDouble (p : Exact) : Prop :=
  ∃ d : Double, d.InFormat ∧ d.exactValue? = some p

namespace RoundsTo

variable {p q : Exact} {d e : Double}

theorem ne_nan (h : p.RoundsTo d) : d ≠ .nan := by
  cases h with
  | infinity negative => exact Double.noConfusion
  | rational _ h => exact h.ne_nan

theorem inFormat (h : p.RoundsTo d) : d.InFormat := by
  cases h with
  | infinity negative => trivial
  | rational _ h => exact h.inFormat

/-- **Rounding is monotone**: what is not above is not rounded to something above. -/
theorem place_le (hp : p.RoundsTo d) (hq : q.RoundsTo e) (h : q.lt p = false) :
    d.place ≤ e.place := by
  cases hp with
  | infinity negative =>
    cases negative with
    | true => exact hq.inFormat.neg_bound_le_place
    | false =>
      cases hq with
      | infinity negative' =>
        cases negative' with
        | true => cases h
        | false => exact le_refl _
      | rational => cases h
  | @rational negative size _ hsize hd =>
    cases hq with
    | infinity negative' =>
      cases negative' with
      | true => cases h
      | false => exact hd.inFormat.place_le_bound
    | @rational negative' size' _ hsize' he =>
      refine hd.place_le he hsize hsize' ?_
      simpa [lt] using h

/-- **What is less after rounding was less before.** -/
theorem lt_of_lt (hp : p.RoundsTo d) (hq : q.RoundsTo e) (h : d.lt e = true) : p.lt q = true := by
  by_contra hlt
  have hle := hq.place_le hp (Bool.eq_false_iff.mpr hlt)
  exact absurd ((lt_iff_place hp.inFormat hq.inFormat hp.ne_nan hq.ne_nan).mp h) (not_lt.mpr hle)

end RoundsTo

/-- No exact value is below itself. -/
theorem lt_irrefl (p : Exact) : p.lt p = false := by
  cases p <;> simp [lt]

end Exact

namespace Double

open Exact

/-- A finite value from its units. -/
theorem mkRat_signedUnits (negative : Bool) (units : Nat) :
    mkRat (signedUnits negative units) one = signedSize negative (units / one) := by
  rw [Rat.mkRat_eq_div]
  cases negative with
  | true =>
    have hsigned : signedUnits true units = -(units : ℤ) := rfl
    rw [hsigned, Int.cast_neg, Int.cast_natCast, neg_div]
    rfl
  | false => rfl

/-- **A double of the format is rounded to itself.** -/
theorem InFormat.roundsTo {d : Double} {p : Exact} (h : d.InFormat) (hp : d.exactValue? = some p) :
    p.RoundsTo d := by
  cases d with
  | nan => cases hp
  | infinite negative =>
    obtain rfl := Option.some.inj hp
    exact .infinity negative
  | finite negative units =>
    obtain rfl := Option.some.inj hp
    rw [mkRat_signedUnits]
    refine .rational (by positivity) (.finite ?_ h.2)
    rw [div_mul_cancel₀ _ one_pos.ne']
    exact isNearest_self h.1

/-- The order of doubles is that of their exact values. -/
theorem exact_lt_iff {d e : Double} {p q : Exact} (hp : d.exactValue? = some p)
    (hq : e.exactValue? = some q) : p.lt q = d.lt e := by
  cases d with
  | nan => cases hp
  | infinite negative =>
    obtain rfl := Option.some.inj hp
    cases e with
    | nan => cases hq
    | infinite negative' =>
      obtain rfl := Option.some.inj hq
      cases negative <;> cases negative' <;> rfl
    | finite negative' units' =>
      obtain rfl := Option.some.inj hq
      cases negative <;> rfl
  | finite negative units =>
    obtain rfl := Option.some.inj hp
    cases e with
    | nan => cases hq
    | infinite negative' =>
      obtain rfl := Option.some.inj hq
      cases negative' <;> rfl
    | finite negative' units' =>
      obtain rfl := Option.some.inj hq
      simp only [Exact.lt, lt, Rat.mkRat_eq_div, div_lt_div_iff_of_pos_right one_pos,
        Int.cast_lt]

end Double

namespace Exact.RoundsTo

open Double

variable {p q : Exact} {d e : Double}

/-- What a double is rounded to is at its own place. -/
theorem place_eq (hp : p.RoundsTo d) {d' : Double} (hd : d'.InFormat)
    (hvalue : d'.exactValue? = some p) : d.place = d'.place := by
  have h := hd.roundsTo hvalue
  exact Int.le_antisymm (hp.place_le h (Exact.lt_irrefl p)) (h.place_le hp (Exact.lt_irrefl p))

/-- **Of doubles the order is the same before rounding and after.** -/
theorem lt_iff (hp : p.RoundsTo d) (hq : q.RoundsTo e) (hpd : p.IsDouble) (hqd : q.IsDouble) :
    d.lt e = true ↔ p.lt q = true := by
  refine ⟨hp.lt_of_lt hq, fun h => ?_⟩
  obtain ⟨d', hd, hvalue⟩ := hpd
  obtain ⟨e', he, hvalue'⟩ := hqd
  rw [exact_lt_iff hvalue hvalue', lt_iff_place hd he (hd.roundsTo hvalue).ne_nan
    (he.roundsTo hvalue').ne_nan] at h
  rw [lt_iff_place hp.inFormat hq.inFormat hp.ne_nan hq.ne_nan, hp.place_eq hd hvalue,
    hq.place_eq he hvalue']
  exact h

end Exact.RoundsTo

end Disposition
