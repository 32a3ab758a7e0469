import Disposition.Value.Text

/-!
# Priorities

A priority is a number or a text; a NaN is none. Numbers are ordered by their values, whichever way
they are held, and before all texts; texts are ordered by their characters. The routing engine
declares priorities as integers, but a table keeps what else it is given.

* `Priority.le`: the order, which is total; `Priority.same` holds of its ties.
* `Priority.check`: rules are only routed by if their priorities are all numbers or all texts.
-/

namespace Disposition

/-- The place of a rule among others. -/
inductive Priority
  /-- A whole number. -/
  | integer (n : Int)
  /-- A number that is not whole, or too large to be held as a whole one. -/
  | real (d : Double) (isNumber : d ≠ .nan)
  /-- A text that is no number. -/
  | text (s : String)
  deriving DecidableEq, Repr

instance : Inhabited Priority := ⟨.integer 0⟩

namespace Priority

/-- The finite numbers stand between the infinities, and the texts behind them all. -/
def rank : Priority → Nat
  | real (.infinite true) _ => 0
  | integer _ | real (.finite _ _) _ => 1
  | real (.infinite false) _ => 2
  | text _ => 3

/-- The value of a finite number, in the units of a double. -/
def units : Priority → Int
  | integer n => n * Double.one
  | real (.finite negative units) _ => Double.signedUnits negative units
  | _ => 0

/-- The characters of a text. -/
def wording : Priority → String
  | text s => s
  | _ => ""

/-- The order of priorities. -/
def le (p q : Priority) : Bool :=
  p.rank < q.rank ||
    (p.rank = q.rank && (p.units < q.units || (p.units = q.units && p.wording ≤ q.wording)))

/-- The priorities are equal: neither is before the other. -/
def same (p q : Priority) : Bool :=
  p.rank = q.rank && p.units = q.units && p.wording = q.wording

/-- What the order says, as a proposition. -/
theorem le_iff (p q : Priority) : p.le q = true ↔
    p.rank < q.rank ∨
      p.rank = q.rank ∧ (p.units < q.units ∨ p.units = q.units ∧ p.wording ≤ q.wording) := by
  simp only [le, Bool.or_eq_true, Bool.and_eq_true, decide_eq_true_eq]

/-- Of two priorities one is at most the other. -/
theorem le_total (p q : Priority) : (p.le q || q.le p) = true := by
  rw [Bool.or_eq_true, le_iff, le_iff]
  rcases String.le_total p.wording q.wording with h | h <;> simp only [h, and_true] <;> omega

/-- The order is transitive. -/
theorem le_trans (p q r : Priority) (hpq : p.le q = true) (hqr : q.le r = true) :
    p.le r = true := by
  rw [le_iff] at *
  rcases hpq with h | ⟨h, h | ⟨h', hw⟩⟩ <;> rcases hqr with k | ⟨k, k | ⟨k', kw⟩⟩ <;>
    first | omega | exact .inr ⟨by omega, .inr ⟨by omega, String.le_trans hw kw⟩⟩

/-- Equal priorities are those that are at most each other. -/
theorem same_iff (p q : Priority) : p.same q = true ↔ p.le q = true ∧ q.le p = true := by
  rw [le_iff, le_iff]
  simp only [same, Bool.and_eq_true, decide_eq_true_eq]
  constructor
  · rintro ⟨⟨hr, hu⟩, hw⟩
    exact ⟨.inr ⟨hr, .inr ⟨hu, hw ▸ String.le_refl _⟩⟩,
      .inr ⟨hr.symm, .inr ⟨hu.symm, hw ▸ String.le_refl _⟩⟩⟩
  · rintro ⟨h | ⟨h, h | ⟨h', hw⟩⟩, k | ⟨k, k | ⟨k', kw⟩⟩⟩ <;>
      first | omega | exact ⟨⟨h, h'⟩, String.le_antisymm hw kw⟩

/-- The priority is a text. -/
def isText : Priority → Bool
  | text _ => true
  | _ => false

/-- The kind of value that a priority is held as. -/
def kind : Priority → Kind
  | integer _ => .int
  | real _ _ => .double
  | text _ => .text

/-- A priority as data. -/
def toValue : Priority → Value
  | integer n => .int n
  | real d _ => .double d
  | text s => .text s

/-- The wording of a priority in a message, or why it has none. -/
def shown : Priority → Except TextFault String
  | integer n => Value.integerText n
  | real d _ => .ok d.text
  | text s => .ok s

end Priority

/-- Why rules cannot be put in order: a number was to be compared with a text. -/
structure PriorityFault where
  /-- The kind of the priority that came later. -/
  later : Kind
  /-- The kind of the one before it. -/
  earlier : Kind
  deriving DecidableEq, Repr

/-- The wording of a fault. -/
def PriorityFault.message (fault : PriorityFault) : String :=
  "'<' not supported between instances of '" ++ fault.later.name ++ "' and '" ++
    fault.earlier.name ++ "'"

/-- The priorities are all numbers or all texts; the first that differs from the one before it is
the fault. -/
def Priority.check : List Priority → Except PriorityFault Unit
  | p :: q :: rest =>
    if p.isText = q.isText then check (q :: rest) else .error ⟨q.kind, p.kind⟩
  | _ => .ok ()

end Disposition
