import Disposition.Number.Exact

/-!
# Values of unknown shape

Order, return and customer data come as they were exchanged, and so do the operands of rules: any
of them may hold a value of any kind. `Value` is such a value. Its texts are rows of characters: a
text that is none can stand in the body of a request (`Json.broken`), where no field takes it.

* `Value.isTruthy`: the value counts as present; absent are null, false, zeros and what is empty.
* `Value.elements?`: what a collection holds. A text holds its characters, an object its names.
* `Value.equal`: equality of tags, which goes by value for numbers of all kinds.
* `Value.distinct`: the set of some values, each class by its first member.
-/

namespace Disposition

/-- A value of unknown shape. -/
inductive Value
  /-- Nothing. -/
  | null
  /-- A truth value. -/
  | bool (b : Bool)
  /-- A whole number of any size. -/
  | int (n : Int)
  /-- A double. -/
  | double (d : Double)
  /-- A decimal number. -/
  | decimal (d : Decimal)
  /-- A fraction. -/
  | fraction (q : Rat)
  /-- A text. -/
  | text (s : String)
  /-- A list. -/
  | list (items : List Value)
  /-- An object: named members, each name once. -/
  | object (members : List (String × Value))
  /-- An item whose facts were read before; without tags its tags are null. -/
  | item (productType : Value) (productTags : Option (List Value)) (productVendor sku : Value)
  deriving Repr, Inhabited

/-- The kind of a value. -/
inductive Kind
  | null | bool | int | double | decimal | fraction | text | list | object | item
  deriving DecidableEq, Repr

namespace Value

/-- The kind of a value. -/
def kind : Value → Kind
  | null => .null
  | bool _ => .bool
  | int _ => .int
  | double _ => .double
  | decimal _ => .decimal
  | fraction _ => .fraction
  | text _ => .text
  | list _ => .list
  | object _ => .object
  | item _ _ _ _ => .item

/-- The value counts as present. -/
def isTruthy : Value → Bool
  | null => false
  | bool b => b
  | int n => n ≠ 0
  | double (.finite _ units) => units ≠ 0
  | double _ => true
  | decimal (.finite _ digits _) => digits ≠ 0
  | decimal _ => true
  | fraction q => q ≠ 0
  | text s => s ≠ ""
  | list items => !items.isEmpty
  | object members => !members.isEmpty
  | item _ _ _ _ => true

/-- The elements of a collection, none for a value that is no collection. -/
def elements? : Value → Option (List Value)
  | text s => some (s.toList.map fun c => text (String.singleton c))
  | list items => some items
  | object members => some (members.map fun (name, _) => text name)
  | _ => none

/-- The member of an object with that name, null if there is none. -/
def member (members : List (String × Value)) (name : String) : Value :=
  (members.lookup name).getD null

/-- The members with one set; a member of the same name is replaced where it stands. -/
def setMember {α : Type} (name : String) (v : α) : List (String × α) → List (String × α)
  | [] => [(name, v)]
  | (other, w) :: members =>
    if other = name then (name, v) :: members else (other, w) :: setMember name v members

section SetMember

variable {α : Type}

/-- The member that was set has the value it was set to. -/
theorem lookup_setMember_self (name : String) (v : α) (members : List (String × α)) :
    (setMember name v members).lookup name = some v := by
  induction members with
  | nil => simp [setMember]
  | cons member members ih =>
    obtain ⟨other, w⟩ := member
    by_cases h : other = name
    · simp [setMember, h]
    · have h' : (name == other) = false := by simp [Ne.symm h]
      simp [setMember, h, List.lookup_cons, h', ih]

/-- The other members are as they were. -/
theorem lookup_setMember_of_ne {name other : String} (h : other ≠ name) (v : α)
    (members : List (String × α)) :
    (setMember name v members).lookup other = members.lookup other := by
  have hn : (other == name) = false := by simp [h]
  induction members with
  | nil => simp [setMember, List.lookup_cons, hn]
  | cons member members ih =>
    obtain ⟨third, w⟩ := member
    by_cases ht : third = name
    · subst ht
      simp [setMember, List.lookup_cons, hn]
    · rw [setMember, if_neg ht, List.lookup_cons, List.lookup_cons, ih]

end SetMember

/-- A text, or null. -/
def ofOption : Option String → Value
  | some s => text s
  | none => null

/-- The text that a value is. -/
def text? : Value → Option String
  | text s => some s
  | _ => none

/-- The exact value of a number. Truth values count as one and zero here. -/
def exactValue? : Value → Option Exact
  | bool b => some (.rational (if b then 1 else 0))
  | int n => some (.rational n)
  | double d => d.exactValue?
  | decimal d => d.exactValue?
  | fraction q => some (.rational q)
  | _ => none

mutual

/-- Equality of tags. Numbers are equal if their exact values are; a NaN is equal to nothing. Items
are equal if their facts are. -/
def equal : Value → Value → Bool
  | null, null => true
  | text s, text t => s = t
  | item productType productTags productVendor sku,
      item otherType otherTags otherVendor otherSku =>
    equal productType otherType && equalSets productTags otherTags &&
      equal productVendor otherVendor && equal sku otherSku
  | v, w =>
    match v.exactValue?, w.exactValue? with
    | some p, some q => p = q
    | _, _ => false

/-- Equality of sets of tags, which may be missing. -/
def equalSets : Option (List Value) → Option (List Value) → Bool
  | none, none => true
  | some tags, some others => tags.length = others.length && areAmong others tags
  | _, _ => false

/-- Every one of the values equals one of the others. -/
def areAmong (others : List Value) : List Value → Bool
  | [] => true
  | v :: tags => others.any (fun w => equal v w) && areAmong others tags

end

/-- The set of some values: of equal ones only the first is kept. -/
def distinct (values : List Value) : List Value :=
  values.foldl (fun kept v => if kept.any (equal v) then kept else kept ++ [v]) []

/-- Why a value cannot be a member of a set of tags. -/
inductive TagFault
  /-- Lists and objects cannot. -/
  | compound (kind : Kind)
  /-- A NaN that signals cannot. -/
  | signalingNan
  deriving DecidableEq, Repr

/-- What keeps a value from being a tag, if anything. An item is kept from it by its first fact that
is. -/
def tagFault? : Value → Option TagFault
  | list _ => some (.compound .list)
  | object _ => some (.compound .object)
  | decimal (.nan _ true _) => some .signalingNan
  | item productType _ productVendor sku =>
    (tagFault? productType).or ((tagFault? productVendor).or (tagFault? sku))
  | _ => none

end Value

end Disposition
