import Disposition.Number.Shortest

/-!
# Doubles in columns of texts

A column of texts keeps a double with fifteen significant digits, a half rounded away from zero.
There is always a digit behind the point, and zeros at the end are left out.

* `Double.columnText?`: the text; a NaN has none.
-/

namespace Disposition.Double

/-- The number of digits that a column keeps. -/
def columnDigits : Nat := 15

/-- The whole number nearest to a quotient, a half going up. -/
def divideHalfUp (num den : Nat) : Nat :=
  (2 * num + den) / (2 * den)

/-- The digits of a size that a column keeps, without zeros at their end. -/
def columnRounded (units : Nat) : Scientific :=
  let exponent := leadingExponent units - (columnDigits - 1 : Nat)
  let (num, den) := powerOfTen exponent
  stripZeros 20 ⟨divideHalfUp (units * den) (one * num), exponent⟩

/-- Columns write plain numbers from a ten thousandth to below 10¹⁵, whole ones with `.0`, and
exponents with at least two digits. -/
def columnLayout : Layout :=
  { messageLayout with greatestPlain := 14, infinity := "Inf" }

/-- The text of a finite size. -/
def columnSizeText (units : Nat) : String :=
  let value := columnRounded units
  let digits := toString value.digits
  let leading := value.exponent + digits.length - 1
  if columnLayout.leastPlain ≤ leading && leading ≤ columnLayout.greatestPlain then
    pointText columnLayout digits (leading + 1)
  else pointText columnLayout digits 1 ++ exponentText columnLayout leading

/-- The text that a column keeps of a double. Zeros have no sign there. -/
def columnText? : Double → Option String
  | nan => none
  | finite _ 0 => some ("0" ++ columnLayout.wholeMark)
  | infinite negative => some ((if negative then "-" else "") ++ columnLayout.infinity)
  | finite negative units => some ((if negative then "-" else "") ++ columnSizeText units)

end Disposition.Double
