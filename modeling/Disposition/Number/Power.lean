/-!
# Powers of two and ten

The two bases that the number formats are built on, and the integers of 64 bits.
-/

namespace Disposition

/-- A power of two. -/
def twoTo (exponent : Nat) : Nat :=
  Nat.pow 2 exponent

/-- A power of ten. -/
def tenTo (exponent : Nat) : Nat :=
  Nat.pow 10 exponent

/-- Powers of two are positive. -/
theorem twoTo_pos (exponent : Nat) : 0 < twoTo exponent :=
  Nat.pow_pos (by decide)

/-- Powers of ten are positive. -/
theorem tenTo_pos (exponent : Nat) : 0 < tenTo exponent :=
  Nat.pow_pos (by decide)

/-- The integer takes at most 64 bits. -/
def isWord (n : Int) : Bool :=
  -(twoTo 63 : Int) ≤ n && n < twoTo 63

end Disposition
