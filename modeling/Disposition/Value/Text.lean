import Disposition.Value
import Disposition.Number.Shortest
import Disposition.Text.Quoted

/-!
# The text of a value in a message

Issues and log lines show values. A text is shown as it is when it stands alone, and in quotes
inside a list or an object; a decimal and a fraction inside a collection are shown with the name
of their kind.

Not every value has a text: an integer may have more digits than are written, and a collection may
be nested deeper than the caller leaves room for.

* `Value.shown`, `Value.quoted`: the text of a value, or why it has none.
* `TextFault.message`: the wording of the fault.
-/

namespace Disposition

/-- Why a value has no text. -/
inductive TextFault
  /-- An integer has more digits than are written. -/
  | tooManyDigits
  /-- Values are nested too deeply. -/
  | tooDeep
  deriving DecidableEq, Repr

/-- The wording of a fault. -/
def TextFault.message : TextFault → String
  | tooManyDigits =>
    "Exceeds the limit (" ++ toString Text.digitLimit ++
      " digits) for integer string conversion; use sys.set_int_max_str_digits() to increase the " ++
      "limit"
  | tooDeep => "maximum recursion depth exceeded while getting the repr of an object"

/-- The name of a kind in a message. -/
def Kind.name : Kind → String
  | .null => "NoneType"
  | .bool => "bool"
  | .int => "int"
  | .double => "float"
  | .decimal => "decimal.Decimal"
  | .fraction => "Fraction"
  | .text => "str"
  | .list => "list"
  | .object => "dict"
  | .item => "ItemFacet"

namespace Value

/-- Parts of a collection with commas between them. -/
def commaJoined (parts : List String) : String :=
  String.intercalate ", " parts

/-- The least size of an integer that has too many digits to be written. -/
def sizeLimit : Nat :=
  tenTo Text.digitLimit

/-- The text of an integer. -/
def integerText (n : Int) : Except TextFault String :=
  if n.natAbs < sizeLimit then .ok (toString n) else .error .tooManyDigits

/-- The text of a fraction that stands alone; a whole one has no denominator. -/
def fractionText (q : Rat) : Except TextFault String :=
  if q.den = 1 then integerText q.num
  else return (← integerText q.num) ++ "/" ++ (← integerText q.den)

mutual

/-- The text of a value inside a collection, with room for so many values inside each other. -/
def quoted : (room : Nat) → Value → Except TextFault String
  | 0, _ => .error .tooDeep
  | _ + 1, null => .ok "None"
  | _ + 1, bool b => .ok (if b then "True" else "False")
  | _ + 1, int n => integerText n
  | _ + 1, double d => .ok d.text
  | _ + 1, decimal d => .ok ("Decimal('" ++ d.text ++ "')")
  | _ + 1, fraction q =>
    return "Fraction(" ++ (← integerText q.num) ++ ", " ++ (← integerText q.den) ++ ")"
  | _ + 1, text s => .ok (Text.quote s)
  | room + 1, list items => return "[" ++ commaJoined (← quotedItems room items) ++ "]"
  | room + 1, object members =>
    return "\x7b" ++ commaJoined (← quotedMembers room members) ++ "\x7d"
  | _ + 1, item _ _ _ _ => .ok "ItemFacet"

/-- The texts of the elements of a list. -/
def quotedItems (room : Nat) : List Value → Except TextFault (List String)
  | [] => .ok []
  | v :: rest => return (← quoted room v) :: (← quotedItems room rest)

/-- The texts of the members of an object. -/
def quotedMembers (room : Nat) : List (String × Value) → Except TextFault (List String)
  | [] => .ok []
  | (name, v) :: rest =>
    return (Text.quote name ++ ": " ++ (← quoted room v)) :: (← quotedMembers room rest)

end

/-- The text of a value that stands alone, with room for so many values inside it. -/
def shown (room : Nat) : Value → Except TextFault String
  | text s => .ok s
  | int n => integerText n
  | double d => .ok d.text
  | decimal d => .ok d.text
  | fraction q => fractionText q
  | v => v.quoted (room + 1)

/-- The room that the service itself leaves. -/
def usualRoom : Nat := 960

end Value

end Disposition
