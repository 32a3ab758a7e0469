import Disposition.Number.Numeral
import Disposition.Number.Significant
import Disposition.Priority

/-!
# Cells

A cell is what data gives for one column. Each column has a kind, and keeps of a cell what its kind
can hold: a column of texts keeps numbers as texts, a column of priorities keeps a text as the
number that it writes, if it writes one.

* `Cell.text?`, `Cell.flag?`, `Cell.priority?`: what a column keeps, nothing of an empty cell.
* `Cell.equal`: a column does not change if it is given what it holds.
-/

namespace Disposition

/-- The content of one column. -/
inductive Cell
  /-- Nothing. -/
  | null
  /-- A flag. -/
  | flag (b : Bool)
  /-- An integer of any size. -/
  | integer (n : Int)
  /-- A double. -/
  | real (d : Double)
  /-- A text. -/
  | text (s : String)
  /-- Something that no column keeps, and whether it counts as present. -/
  | compound (kind : Kind) (present : Bool)
  deriving DecidableEq, Repr, Inhabited

namespace Cell

/-- The cell of a value. -/
def ofValue : Value → Cell
  | .null => null
  | .bool b => flag b
  | .int n => integer n
  | .double d => real d
  | .text s => text s
  | v => compound v.kind v.isTruthy

/-- The kind of value that a cell is given as. -/
def kind : Cell → Kind
  | null => .null
  | flag _ => .bool
  | integer _ => .int
  | real _ => .double
  | text _ => .text
  | compound kind _ => kind

/-- The cell counts as present. -/
def isTruthy : Cell → Bool
  | null => false
  | flag b => b
  | integer n => n ≠ 0
  | real d => (Value.double d).isTruthy
  | text s => s ≠ ""
  | compound _ present => present

/-! ## Texts -/

/-- The text that a column of texts keeps. -/
def text? : Cell → Option String
  | null => none
  | flag b => some (if b then "1" else "0")
  | integer n => some (toString n)
  | real d => d.columnText?
  | text s => some s
  | compound _ _ => none

/-! ## Flags -/

/-- The flag that a column of flags keeps. -/
def flag? : Cell → Option Bool
  | flag b => some b
  | integer n => some (n ≠ 0)
  | real d => some (Value.double d).isTruthy
  | _ => none

/-- The cell can fill a column of flags: one and zero stand for the flags. -/
def isFlag : Cell → Bool
  | null | flag _ => true
  | integer n => n = 0 || n = 1
  | real d => d.whole? = some 0 || d.whole? = some 1
  | text _ | compound _ _ => false

/-! ## Priorities -/

/-- The priority of a double: the whole number that it is, if that is strictly between the ends of
64 bits. -/
def priorityOfDouble? (d : Double) : Option Priority :=
  if h : d = .nan then none
  else
    match d.whole? with
    | some n => some (if n.natAbs < twoTo 63 then .integer n else .real d h)
    | none => some (.real d h)

/-- The spaces around a number in a text. -/
def isNumberSpace (c : Char) : Bool :=
  c = ' ' || ('\t' ≤ c && c ≤ '\r')

/-- The double that a text writes in digits, with a point and an exponent or without. -/
def doubleOfText? (cs : List Char) : Option Double :=
  let (negative, size) := Text.splitSign cs
  match Numeral.readDecimal? size with
  | some (magnitude, []) => some (Numeral.toDouble ⟨negative, magnitude⟩)
  | _ => none

/-- The integer that a text writes in digits alone, if it takes at most 64 bits. -/
def wordOfText? (cs : List Char) : Option Int :=
  let (negative, digits) := Text.splitSign cs
  let n := Text.signed negative (Text.digitsValue digits)
  if !digits.isEmpty && digits.all Text.isDigit && isWord n then some n else none

/-- The priority of a text: the number that it writes, or the text itself. -/
def priorityOfText (s : String) : Priority :=
  let cs := Text.trimBy isNumberSpace s.toList
  match wordOfText? cs with
  | some n => .integer n
  | none => ((doubleOfText? cs).bind priorityOfDouble?).getD (.text s)

/-- The priority that a column of priorities keeps. -/
def priority? : Cell → Option Priority
  | null => none
  | flag b => some (.integer (if b then 1 else 0))
  | integer n => some (.integer n)
  | real d => priorityOfDouble? d
  | text s => some (priorityOfText s)
  | compound _ _ => none

/-- The cell of a priority. -/
def ofPriority : Priority → Cell
  | .integer n => integer n
  | .real d _ => real d
  | .text s => text s

/-- The cell of a text that may be missing. -/
def ofText? : Option String → Cell
  | some s => text s
  | none => null

/-! ## Comparison -/

/-- The exact value of a number. Flags count as one and zero. -/
def exactValue? : Cell → Option Exact
  | flag b => some (.rational (if b then 1 else 0))
  | integer n => some (.rational n)
  | real d => d.exactValue?
  | _ => none

/-- The cells are equal. Numbers go by their values, and what no column keeps is equal to
nothing. -/
def equal : Cell → Cell → Bool
  | null, null => true
  | text s, text t => s = t
  | c, d =>
    match c.exactValue?, d.exactValue? with
    | some p, some q => p = q
    | _, _ => false

end Cell

end Disposition
