import Disposition.Number.Decimal

/-!
# Exact values

The value of a number before any rounding: a rational, or an infinity of either sign. Doubles,
decimals, fractions and integers have one; a NaN has none.
-/

namespace Disposition

/-- A rational or an infinity. -/
inductive Exact
  /-- Below all rationals. -/
  | negativeInfinity
  /-- A rational. -/
  | rational (q : Rat)
  /-- Above all rationals. -/
  | positiveInfinity
  deriving DecidableEq, Repr

namespace Exact

/-- The infinity of a sign. -/
def infinity (negative : Bool) : Exact :=
  if negative then negativeInfinity else positiveInfinity

/-- The strict order. -/
def lt : Exact → Exact → Bool
  | negativeInfinity, negativeInfinity => false
  | negativeInfinity, _ => true
  | rational p, rational q => decide (p < q)
  | rational _, positiveInfinity => true
  | _, _ => false

end Exact

/-- The exact value of a double. -/
def Double.exactValue? : Double → Option Exact
  | .nan => none
  | .infinite negative => some (.infinity negative)
  | .finite negative units =>
    some (.rational (mkRat (Double.signedUnits negative units) Double.one))

/-- The exact value of `±digits · 10 ^ exponent`. -/
def Exact.ofDecimal (negative : Bool) (digits : Nat) (exponent : Int) : Exact :=
  let size := Text.signed negative digits
  if 0 ≤ exponent then .rational (mkRat (size * tenTo exponent.toNat) 1)
  else .rational (mkRat size (tenTo (-exponent).toNat))

/-- The exact value of a decimal number. -/
def Decimal.exactValue? : Decimal → Option Exact
  | .finite negative digits exponent => some (.ofDecimal negative digits exponent)
  | .infinite negative => some (.infinity negative)
  | .nan _ _ _ => none

/-- The exact value of a numeral. -/
def Numeral.exact : Numeral → Exact
  | ⟨negative, .infinity⟩ => .infinity negative
  | ⟨negative, .decimal digits exponent⟩ => .ofDecimal negative digits exponent

end Disposition
