import Disposition.Number.Double

/-!
# Exchanged data

What a JSON text says. Numbers without fraction and exponent are integers of any size, all others
doubles. A text may hold half of a pair of codes that stands alone: that is no character, so such a
text is none of the texts that the service keeps.

* `Json.isPrintable`: a strict reader of the format takes what is written for the data: it has no
  NaN, no infinity and no half of a pair of codes.
-/

namespace Disposition

/-- Data as it is exchanged. -/
inductive Json
  /-- Nothing. -/
  | null
  /-- A truth value. -/
  | bool (b : Bool)
  /-- A whole number of any size. -/
  | int (n : Int)
  /-- A double. -/
  | double (d : Double)
  /-- A text. -/
  | text (s : String)
  /-- A text in which half of a pair of codes stands alone, with a replacement character there. -/
  | broken (s : String)
  /-- A list. -/
  | list (items : List Json)
  /-- An object: named members, each name once. -/
  | object (members : List (String × Json))
  deriving Repr, Inhabited

namespace Json

mutual

/-- A strict reader takes the text of the data. -/
def isPrintable : Json → Bool
  | .double d => d.isFinite
  | .broken _ => false
  | .list items => areItemsPrintable items
  | .object members => areMembersPrintable members
  | _ => true

/-- A strict reader takes the texts of the elements. -/
def areItemsPrintable : List Json → Bool
  | [] => true
  | v :: rest => isPrintable v && areItemsPrintable rest

/-- A strict reader takes the texts of the members. -/
def areMembersPrintable : List (String × Json) → Bool
  | [] => true
  | (_, v) :: rest => isPrintable v && areMembersPrintable rest

end

end Json

end Disposition
