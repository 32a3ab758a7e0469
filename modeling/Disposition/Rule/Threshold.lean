import Disposition.Value

/-!
# Quantities and thresholds

* `Value.quantity?`: the double that a number stands for (`_as_number`). Truth values, texts and
  collections are no quantities, and neither are a NaN or a number too large for a double.
* `Value.threshold?`: the threshold of a condition (`parse_threshold`). A text is read leniently:
  blanks at its start are skipped, and the longest numeral after them counts.
-/

namespace Disposition.Value

/-- A double that is a number. -/
def numeric? : Double → Option Double
  | .nan => none
  | d => some d

/-- The double that a number stands for. -/
def quantity? : Value → Option Double
  | int n => Double.ofInt? n
  | double d => numeric? d
  | decimal d => d.toDouble?.bind numeric?
  | fraction q => Double.ofRat? q
  | _ => none

/-- The threshold that a text starts with. -/
def textThreshold? (s : String) : Option Double :=
  (Numeral.read? (Text.trimStart s.toList)).map fun (numeral, _) => numeral.toDouble

/-- The threshold that the operand of a condition stands for. -/
def threshold? : Value → Option Double
  | text s => textThreshold? s
  | v => v.quantity?

end Disposition.Value
