import Disposition.Number.Power

/-!
# Double-precision numbers

The numbers of the binary64 format, held by their values: a finite one is a whole number of
units of 2⁻¹⁰⁷⁴, the distance of the two smallest. Signed zeros are kept apart.

* `Double.ofRatio`: the double nearest to a quotient, ties to the even neighbour. Every number
  enters through it, so there is one rounding.
* `Double.ofDecimal`: the same for a decimal numeral of any size.
* `Double.lt`: the order of the format, in which a NaN is comparable to nothing.
* `Double.bits`: the encoding in 64 bits.
-/

namespace Disposition

/-- A number of the binary64 format. -/
inductive Double
  /-- Not a number. -/
  | nan
  /-- An infinity. -/
  | infinite (negative : Bool)
  /-- A finite number of that many units of 2⁻¹⁰⁷⁴. -/
  | finite (negative : Bool) (units : Nat)
  deriving DecidableEq, Repr, Inhabited

namespace Double

/-- The number one in units. -/
def one : Nat := twoTo 1074

/-- The finite doubles stay below this many units, the value 2¹⁰²⁴. -/
def bound : Nat := twoTo 2098

/-- The whole number nearest to a quotient, a tie going to the even one. -/
def divideToEven (num den : Nat) : Nat :=
  let quotient := num / den
  let rest := num % den
  if 2 * rest < den then quotient
  else if den < 2 * rest then quotient + 1
  else quotient + quotient % 2

/-- The units between neighbouring doubles of about that many units, a power of two: doubles
have 53 binary digits, as far as the unit allows. -/
def spacing (units : Nat) : Nat :=
  twoTo (units.log2 - 52)

/-- The double nearest to a quotient of that sign. A value that rounds to 2¹⁰²⁴ or above is
infinite. -/
def ofRatio (negative : Bool) (num den : Nat) : Double :=
  let scaled := num * one
  let step := spacing (scaled / den)
  let units := divideToEven scaled (den * step) * step
  if bound ≤ units then infinite negative else finite negative units

/-- The double nearest to `digits · 10 ^ exponent`, with that sign. Numerals that are far above
or below all doubles are told by their exponent, so that no power of ten gets out of hand. -/
def ofDecimal (negative : Bool) (digits : Nat) (exponent : Int) : Double :=
  if digits = 0 then finite negative 0
  else if 400 < exponent then infinite negative
  else if exponent < -(400 + (digits.log2 : Int)) then finite negative 0
  else if 0 ≤ exponent then ofRatio negative (digits * tenTo exponent.toNat) 1
  else ofRatio negative digits (tenTo (-exponent).toNat)

/-- The double, unless it is infinite. -/
def ranged? : Double → Option Double
  | infinite _ => none
  | d => some d

/-- The double nearest to a whole number, unless that is too large for a finite one. -/
def ofInt? (n : Int) : Option Double :=
  ranged? (ofRatio (n < 0) n.natAbs 1)

/-- The double nearest to a fraction, unless that is too large for a finite one. -/
def ofRat? (q : Rat) : Option Double :=
  ranged? (ofRatio (q.num < 0) q.num.natAbs q.den)

/-- The units of a finite double with their sign. -/
def signedUnits (negative : Bool) (units : Nat) : Int :=
  if negative then -(units : Int) else units

/-- The strict order. The two zeros are equal, and a NaN is on neither side of anything. -/
def lt : Double → Double → Bool
  | nan, _ | _, nan => false
  | infinite negative, infinite negative' => negative && !negative'
  | infinite negative, finite _ _ => negative
  | finite _ _, infinite negative => !negative
  | finite negative units, finite negative' units' =>
    decide (signedUnits negative units < signedUnits negative' units')

/-- Two doubles are not below each other. -/
theorem lt_asymm {d e : Double} (h : d.lt e = true) : e.lt d = false := by
  cases d <;> cases e <;> simp_all [lt]
  omega

/-- The number is neither an infinity nor a NaN. -/
def isFinite : Double → Bool
  | finite _ _ => true
  | _ => false

/-- The bits of the fraction and the exponent of a finite double. -/
def magnitudeBits (units : Nat) : Nat :=
  if units < twoTo 52 then units
  else (units.log2 - 51) * twoTo 52 + (units / spacing units - twoTo 52)

/-- The encoding in 64 bits, as a number. -/
def bits : Double → Nat
  | nan => 0x7FF8000000000000
  | infinite negative => (if negative then twoTo 63 else 0) + 0x7FF0000000000000
  | finite negative units => (if negative then twoTo 63 else 0) + magnitudeBits units

/-- The number is whole: it has no fraction. Neither an infinity nor a NaN is. -/
def whole? : Double → Option Int
  | finite negative units =>
    if units % one = 0 then some (signedUnits negative (units / one)) else none
  | _ => none

end Double

end Disposition
