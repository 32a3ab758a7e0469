import Disposition.Text.Digit
import Disposition.Text.Occurrence
import Disposition.Text.Quoted

/-!
# Integers in text

An integer is written with decimal digits of any script, with a sign before them, single
underscores between them, and spaces around it.

* `readInteger`: the integer that a text writes, or why it writes none.
* `IntegerFault.message`: the wording of the fault. A long text is cut off in it.
-/

namespace Disposition.Text

/-- The text without its underscores, if they stand alone and not at an end. -/
def withoutUnderscores? (cs : List Char) : Option (List Char) :=
  if cs.head? = some '_' || cs.getLast? = some '_' || occursIn ['_', '_'] cs then none
  else some (cs.filter (· ≠ '_'))

/-- The character may stand in the row of digits of an integer. -/
def isInDigitRow (c : Char) : Bool :=
  c = '_' || (decimalDigit? c).isSome

/-- The number that a row of digits of any script writes. -/
def scriptDigitsValue (cs : List Char) : Nat :=
  cs.foldl (fun value c => 10 * value + (decimalDigit? c).getD 0) 0

/-- Why a text writes no integer. -/
inductive IntegerFault
  /-- It is no integer. -/
  | malformed (text : String)
  /-- It has more digits than are read. -/
  | tooLong (digits : Nat)
  deriving DecidableEq, Repr

/-- The longest part of a text that a message shows. -/
def shownLimit : Nat := 200

/-- The wording of a fault. -/
def IntegerFault.message : IntegerFault → String
  | malformed text =>
    "invalid literal for int() with base 10: " ++
      String.ofList ((quote text).toList.take shownLimit)
  | tooLong digits =>
    "Exceeds the limit (" ++ toString digitLimit ++
      " digits) for integer string conversion: value has " ++ toString digits ++
      " digits; use sys.set_int_max_str_digits() to increase the limit"

/-- The integer that a text writes. The number of digits counts before what follows them. -/
def readInteger (s : String) : Except IntegerFault Int :=
  let (negative, cs) := splitSign (trimBy isSpace s.toList)
  match withoutUnderscores? (cs.takeWhile isInDigitRow) with
  | none => .error (.malformed s)
  | some digits =>
    if digitLimit < digits.length then .error (.tooLong digits.length)
    else if digits.isEmpty || !(cs.dropWhile isInDigitRow).isEmpty then .error (.malformed s)
    else .ok (signed negative (scriptDigitsValue digits))

/-- The integer that a text writes, if it writes one. -/
def readInteger? (s : String) : Option Int :=
  (readInteger s).toOption

end Disposition.Text
