import Disposition.Number.Shortest

/-!
# Doubles with a given number of digits

* `Double.fixedText`: a size with so many places behind the point.
* `Double.scientificText`: one digit, so many places, and an exponent.
* `Double.generalText`: so many digits, with an exponent only where a plain point would need more
  zeros than digits or more than four in front.

All three round to the nearest, a tie going to the even digit.
-/

namespace Disposition.Double

/-- A row of digits with a point before its last `places` ones. The point is left out where
nothing stands behind it, unless it is asked for. -/
def withPoint (places : Nat) (always : Bool) (row : List Char) : String :=
  let whole := row.length - places
  String.ofList (row.take whole) ++
    (if places = 0 && !always then "" else "." ++ String.ofList (row.drop whole))

/-- A number in at least that many digits. -/
def paddedDigits (width n : Nat) : List Char :=
  let row := (toString n).toList
  List.replicate (width - row.length) '0' ++ row

/-- A size with so many places behind the point. -/
def fixedText (places : Nat) (always : Bool) (units : Nat) : String :=
  withPoint places always (paddedDigits (places + 1) (divideToEven (units * tenTo places) one))

/-- The digits of a size rounded to so many of them, and the exponent of the first one. -/
def roundedDigits (count units : Nat) : Nat × Int :=
  if units = 0 then (0, 0)
  else
    let leading := leadingExponent units
    let (num, den) := powerOfTen (leading - (count - 1 : Nat))
    let digits := divideToEven (units * den) (one * num)
    if tenTo count ≤ digits then (digits / 10, leading + 1) else (digits, leading)

/-- The exponents have at least two digits. -/
def exponentPart (exponent : Int) : String :=
  exponentText messageLayout exponent

/-- One digit, so many places behind the point, and an exponent. -/
def scientificText (places : Nat) (always : Bool) (units : Nat) : String :=
  let (digits, leading) := roundedDigits (places + 1) units
  withPoint places always (paddedDigits (places + 1) digits) ++ exponentPart leading

/-- A row of digits without the zeros at its end. -/
def withoutZeros (row : List Char) : List Char :=
  (row.reverse.dropWhile (· = '0')).reverse

/-- So many digits. The zeros at the end of a fraction are left out, unless the point is asked
for. -/
def generalText (count : Nat) (always : Bool) (units : Nat) : String :=
  let count := max 1 count
  let (digits, leading) := roundedDigits count units
  let row := paddedDigits count digits
  let fractionOf := fun (cs : List Char) => if always then cs else withoutZeros cs
  if -4 ≤ leading && leading < count then
    if leading < 0 then
      let fraction := fractionOf row
      withPoint (fraction.length + (-leading - 1).toNat) always
        ('0' :: (List.replicate (-leading - 1).toNat '0' ++ fraction))
    else
      let fraction := fractionOf (row.drop (leading + 1).toNat)
      withPoint fraction.length always (row.take (leading + 1).toNat ++ fraction)
  else
    let fraction := fractionOf (row.drop 1)
    withPoint fraction.length always (row.take 1 ++ fraction) ++ exponentPart leading

end Disposition.Double
