import Disposition.Number.Double

/-!
# The shortest decimal text of a double

A double is written with the fewest digits that read back as it; of several such digit rows the
one nearest to its value is taken.

* `Double.shortest`: the digits and the place of the point.
* `Double.Layout`: the choices of a notation, and `Double.text`, which writes a double by them.
* `Double.plainText`: the notation of messages and of the exchanged data.
-/

namespace Disposition.Double

/-- A decimal value `digits · 10 ^ exponent`. -/
structure Scientific where
  /-- The digits as a number. -/
  digits : Nat
  /-- The power of ten of the last digit. -/
  exponent : Int
  deriving Repr, DecidableEq

/-- A power of ten with any exponent, as a quotient. -/
def powerOfTen (exponent : Int) : Nat × Nat :=
  if 0 ≤ exponent then (tenTo exponent.toNat, 1) else (1, tenTo (-exponent).toNat)

/-- The power of ten is at most the value of that many units. -/
def powerOfTenLe (exponent : Int) (units : Nat) : Bool :=
  let (num, den) := powerOfTen exponent
  num * one ≤ units * den

/-- The exponent of the first decimal digit of that many units. The binary logarithm gives it up
to one place; a comparison of powers decides. -/
def leadingExponent (units : Nat) : Int :=
  let guess := ((units.log2 : Int) - 1074) * 30103 / 100000
  if powerOfTenLe (guess + 1) units then guess + 1
  else if powerOfTenLe guess units then guess
  else guess - 1

/-- The reals that round to a double, in quarters of units: the distances from its value to the
two ends. Below a power of two the doubles lie twice as dense. -/
def roundingInterval (units : Nat) : Nat × Nat :=
  let step := spacing units
  if 1 < step && units = twoTo units.log2 then (step, 2 * step) else (2 * step, 2 * step)

/-- The ends of the interval round to the double as well: its last binary digit is even. -/
def closedInterval (units : Nat) : Bool :=
  (units / spacing units) % 2 = 0

/-- The decimal value rounds to that many units. -/
def roundsTo (value : Scientific) (units : Nat) : Bool :=
  let (num, den) := powerOfTen value.exponent
  let (below, above) := roundingInterval units
  let scaled := 4 * one * value.digits * num
  let low := (4 * units - below) * den
  let high := (4 * units + above) * den
  if closedInterval units then low ≤ scaled && scaled ≤ high else low < scaled && scaled < high

/-- Of the two neighbours of the value with that many digits, the one that reads back, the nearer
one if both do. -/
def neighbour? (units digitCount : Nat) : Option Scientific :=
  let exponent := leadingExponent units - (digitCount - 1 : Nat)
  let (num, den) := powerOfTen exponent
  let floor := units * den / (one * num)
  let twiceRest := 2 * (units * den - floor * one * num)
  let low : Scientific := ⟨floor, exponent⟩
  let high : Scientific := ⟨floor + 1, exponent⟩
  match roundsTo low units, roundsTo high units with
  | true, true =>
    if twiceRest < one * num || (twiceRest = one * num && floor % 2 = 0) then some low
    else some high
  | true, false => some low
  | false, true => some high
  | false, false => none

/-- The digits without the zeros at their end. -/
def stripZeros : (fuel : Nat) → Scientific → Scientific
  | 0, value => value
  | fuel + 1, value =>
    if value.digits ≠ 0 && value.digits % 10 = 0 then
      stripZeros fuel ⟨value.digits / 10, value.exponent + 1⟩
    else value

/-- The shortest decimal value that reads back as that many units; seventeen digits always do. -/
def shortest (units : Nat) : Scientific :=
  let found := (List.range 17).findSome? fun n => neighbour? units (n + 1)
  stripZeros 20 (found.getD ⟨units, 0⟩)

/-- How a double is laid out. -/
structure Layout where
  /-- The least exponent of the first digit that is written with a plain point. -/
  leastPlain : Int
  /-- The greatest exponent of the first digit that is written with a plain point. -/
  greatestPlain : Int
  /-- What follows the digits of a whole number in plain notation. -/
  wholeMark : String
  /-- The least number of digits of an exponent. -/
  exponentWidth : Nat
  /-- The text of the positive infinity. -/
  infinity : String
  /-- The text of a NaN. -/
  nan : String
  deriving Repr

/-- Zeros. -/
def zeros (count : Nat) : String :=
  String.ofList (List.replicate count '0')

/-- The text of an exponent, with its sign. -/
def exponentText (layout : Layout) (exponent : Int) : String :=
  let digits := toString exponent.natAbs
  (if exponent < 0 then "e-" else "e+") ++ zeros (layout.exponentWidth - digits.length) ++ digits

/-- Digits with a point after the first `whole` of them; zeros fill up what is missing. -/
def pointText (layout : Layout) (digits : String) (whole : Int) : String :=
  if whole ≤ 0 then "0." ++ zeros (-whole).toNat ++ digits
  else if digits.length ≤ whole.toNat then
    digits ++ zeros (whole.toNat - digits.length) ++ layout.wholeMark
  else
    String.ofList (digits.toList.take whole.toNat) ++ "." ++
      String.ofList (digits.toList.drop whole.toNat)

/-- The text of a finite size. -/
def sizeText (layout : Layout) (units : Nat) : String :=
  if units = 0 then "0" ++ layout.wholeMark
  else
    let value := shortest units
    let digits := toString value.digits
    let leading := value.exponent + digits.length - 1
    if layout.leastPlain ≤ leading && leading ≤ layout.greatestPlain then
      pointText layout digits (leading + 1)
    else
      String.ofList (digits.toList.take 1) ++
        (if digits.length = 1 then "" else "." ++ String.ofList (digits.toList.drop 1)) ++
        exponentText layout leading

/-- The text of a double in a layout. -/
def textIn (layout : Layout) : Double → String
  | nan => layout.nan
  | infinite negative => (if negative then "-" else "") ++ layout.infinity
  | finite negative units => (if negative then "-" else "") ++ sizeText layout units

/-- Messages write plain numbers from a ten thousandth to below 10¹⁶, whole ones with `.0`, and
exponents with at least two digits. -/
def messageLayout : Layout where
  leastPlain := -4
  greatestPlain := 15
  wholeMark := ".0"
  exponentWidth := 2
  infinity := "inf"
  nan := "nan"

/-- The text of a double in a message. -/
def text (d : Double) : String :=
  d.textIn messageLayout

/-- Exchanged data spells the infinities and NaN out, and is else written as messages are. -/
def dataLayout : Layout :=
  { messageLayout with infinity := "Infinity", nan := "NaN" }

end Disposition.Double
