import Disposition.Number.Double
import Disposition.Text.Ascii
import Disposition.Text.Digit

/-!
# Decimal numerals

A numeral is a sign, then `Infinity` or ASCII digits with a point anywhere among or around them,
then maybe an exponent. `1.`, `.5` and `5.e3` are numerals; `.` is none.

* `Numeral.read?`: the longest numeral at the start of a text, and what follows it.
* `Numeral.toDouble`: the double nearest to it.
* `Double.ofText?`: a text that is a number as a whole, spaces around it aside; here the words
  for infinity and NaN may be written in any case.
-/

namespace Disposition

/-- A numeral without its sign. -/
inductive Magnitude
  /-- The word `Infinity`. -/
  | infinity
  /-- The value `digits · 10 ^ exponent`. -/
  | decimal (digits : Nat) (exponent : Int)
  deriving DecidableEq, Repr

/-- A numeral: its sign and its size. -/
structure Numeral where
  /-- The sign is a minus. -/
  negative : Bool
  /-- The size. -/
  magnitude : Magnitude
  deriving DecidableEq, Repr

namespace Numeral

open Text

/-- What follows a word at the start of a text. -/
def dropWord? : (word cs : List Char) → Option (List Char)
  | [], cs => some cs
  | _ :: _, [] => none
  | w :: word, c :: cs => if w = c then dropWord? word cs else none

/-- The digits at the start of a text, and what follows them. -/
def splitDigits (cs : List Char) : List Char × List Char :=
  (cs.takeWhile isDigit, cs.dropWhile isDigit)

/-- The exponent at the start of a text, and what follows it. A letter without digits behind it is
no exponent. -/
def splitExponent? : List Char → Option (Int × List Char)
  | [] => none
  | c :: cs =>
    if c = 'e' || c = 'E' then
      let (negative, digits) := splitSign cs
      match splitDigits digits with
      | ([], _) => none
      | (digits, rest) => some (signed negative (digitsValue digits), rest)
    else none

/-- The exponent at the start of a text, zero if there is none, and what follows it. -/
def splitExponent (cs : List Char) : Int × List Char :=
  (splitExponent? cs).getD (0, cs)

/-- The fraction at the start of a text, a point with digits behind it or none, and what
follows. -/
def splitFraction : List Char → List Char × List Char
  | '.' :: cs => splitDigits cs
  | cs => ([], cs)

/-- A decimal numeral without its sign at the start of a text, and what follows it. -/
def readDecimal? (cs : List Char) : Option (Magnitude × List Char) :=
  let (whole, afterWhole) := splitDigits cs
  let (fraction, afterFraction) := splitFraction afterWhole
  if whole.isEmpty && fraction.isEmpty then none
  else
    let (exponent, rest) := splitExponent afterFraction
    some (.decimal (digitsValue (whole ++ fraction)) (exponent - fraction.length), rest)

/-- The longest numeral at the start of a text, and what follows it. -/
def read? (cs : List Char) : Option (Numeral × List Char) :=
  let (negative, cs) := splitSign cs
  match dropWord? "Infinity".toList cs with
  | some rest => some (⟨negative, .infinity⟩, rest)
  | none => (readDecimal? cs).map fun (magnitude, rest) => (⟨negative, magnitude⟩, rest)

/-- The double nearest to a numeral. -/
def toDouble : Numeral → Double
  | ⟨negative, .infinity⟩ => .infinite negative
  | ⟨negative, .decimal digits exponent⟩ => .ofDecimal negative digits exponent

end Numeral

open Text in
/-- The double that a text writes as a whole. -/
def Double.ofBareText? (cs : List Char) : Option Double :=
  let (negative, size) := splitSign cs
  let word := asciiLower (String.ofList size)
  if word = "inf" || word = "infinity" then some (.infinite negative)
  else if word = "nan" then some .nan
  else
    match Numeral.readDecimal? size with
    | some (magnitude, []) => some (Numeral.toDouble ⟨negative, magnitude⟩)
    | _ => none

open Text in
/-- The double that a text writes as a whole, spaces around it aside. -/
def Double.ofText? (cs : List Char) : Option Double :=
  ofBareText? (trimBy isSpace cs)

end Disposition
