import Disposition.Text.Utf8

/-!
# Pairs of halves

A character beyond the first 65536 ones is written as a pair of codes, a high half and a low half.
A half that stands alone is no character.

* `joinHalves`: the characters of some codes, with replacements for halves that stand alone.
* `hasLoneHalf`: a half stands alone.
-/

namespace Disposition.Text

/-- The code is the first half of a pair. -/
def isHighHalf (code : Nat) : Bool :=
  0xD800 ≤ code && code < 0xDC00

/-- The code is the second half of a pair. -/
def isLowHalf (code : Nat) : Bool :=
  0xDC00 ≤ code && code < 0xE000

/-- The code of a pair of halves. -/
def pairCode (high low : Nat) : Nat :=
  0x10000 + (high - 0xD800) * 0x400 + (low - 0xDC00)

/-- The code is a half. -/
def isHalf (code : Nat) : Bool :=
  isHighHalf code || isLowHalf code

/-- The character of a code that is no part of a pair. -/
def singleChar (code : Nat) : Char :=
  if isHalf code then replacement else Char.ofNat code

/-- The characters of some codes. -/
def joinHalves : List Nat → List Char
  | [] => []
  | high :: low :: codes =>
    if isHighHalf high && isLowHalf low then Char.ofNat (pairCode high low) :: joinHalves codes
    else singleChar high :: joinHalves (low :: codes)
  | [code] => [singleChar code]

/-- A half stands alone. -/
def hasLoneHalf : List Nat → Bool
  | [] => false
  | high :: low :: codes =>
    if isHighHalf high && isLowHalf low then hasLoneHalf codes
    else isHalf high || hasLoneHalf (low :: codes)
  | [code] => isHalf code

end Disposition.Text
