/-!
# Sets of code points as ranges

A character class of the standard is written as its ranges, in order and with both ends in them.
-/

namespace Disposition.Text

/-- Membership in a set given by its ranges. The ranges are in order, so the search stops at the
first one that starts behind the code point. -/
def inRanges : List (Nat × Nat) → Nat → Bool
  | [], _ => false
  | (first, last) :: ranges, code =>
    if code < first then false else code ≤ last || inRanges ranges code

end Disposition.Text
