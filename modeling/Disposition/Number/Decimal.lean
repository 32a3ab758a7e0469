import Disposition.Number.Numeral

/-!
# Decimal numbers

A decimal number keeps the digits and the exponent it was written with, so `1.50` and `1.5` are
told apart by their text though not by their value.

* `Decimal.ofText?`: reads a decimal number.
* `Decimal.text`: writes it, plainly while its exponent is not above zero and it has at most six
  zeros in front, and else with an exponent.
* `Decimal.toDouble?`: the nearest double, infinite beyond all finite ones; a signaling NaN has
  none.
-/

namespace Disposition

/-- A decimal number. -/
inductive Decimal
  /-- The value `digits · 10 ^ exponent`. -/
  | finite (negative : Bool) (digits : Nat) (exponent : Int)
  /-- An infinity. -/
  | infinite (negative : Bool)
  /-- Not a number; the digits behind the word are its payload. -/
  | nan (negative signaling : Bool) (payload : Nat)
  deriving DecidableEq, Repr

namespace Decimal

open Text

/-- The sign in front of a text. -/
def signText (negative : Bool) : String :=
  if negative then "-" else ""

/-- The value with its exponent written out. -/
def finiteText (digits : Nat) (exponent : Int) : String :=
  let row := (toString digits).toList
  let whole := exponent + row.length
  let plain := exponent ≤ 0 && -6 < whole
  let place := if plain then whole else 1
  let body :=
    if place ≤ 0 then "0." ++ String.ofList (List.replicate (-place).toNat '0' ++ row)
    else if row.length ≤ place.toNat then
      String.ofList (row ++ List.replicate (place.toNat - row.length) '0')
    else String.ofList (row.take place.toNat) ++ "." ++ String.ofList (row.drop place.toNat)
  let power := whole - place
  if power = 0 then body
  else body ++ (if power < 0 then "E-" else "E+") ++ toString power.natAbs

/-- The text of a decimal number. -/
def text : Decimal → String
  | finite negative digits exponent => signText negative ++ finiteText digits exponent
  | infinite negative => signText negative ++ "Infinity"
  | nan negative signaling payload =>
    signText negative ++ (if signaling then "sNaN" else "NaN") ++
      (if payload = 0 then "" else toString payload)

/-- The payload behind the word for a NaN. -/
def readPayload? (word cs : List Char) : Option Nat :=
  match Numeral.dropWord? word cs with
  | some rest => if rest.all isDigit then some (digitsValue rest) else none
  | none => none

/-- The character with a digit of any script replaced by the ASCII one. -/
def asciiDigit (c : Char) : Char :=
  match decimalDigit? c with
  | some n => Char.ofNat (48 + n)
  | none => c

/-- The text without spaces around it and underscores in it, in lower case and ASCII digits. -/
def plainText (s : String) : List Char :=
  ((trim s.toList).filter (· ≠ '_')).map fun c => (asciiDigit c).toLower

/-- A decimal number from its text, in any case and with the digits of any script. -/
def ofText? (s : String) : Option Decimal :=
  let (negative, cs) := splitSign (plainText s)
  if cs = "inf".toList || cs = "infinity".toList then some (infinite negative)
  else
    match readPayload? "nan".toList cs, readPayload? "snan".toList cs with
    | some payload, _ => some (nan negative false payload)
    | none, some payload => some (nan negative true payload)
    | none, none =>
      match Numeral.readDecimal? cs with
      | some (.decimal digits exponent, []) => some (finite negative digits exponent)
      | _ => none

/-- The double nearest to a decimal number. A signaling NaN cannot be converted. -/
def toDouble? : Decimal → Option Double
  | finite negative digits exponent => some (.ofDecimal negative digits exponent)
  | infinite negative => some (.infinite negative)
  | nan _ signaling _ => if signaling then none else some .nan

end Decimal

end Disposition
