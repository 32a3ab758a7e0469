import Disposition.Priority
import Disposition.Proofs.Work

/-!
# Which values have a text

An integer has a text if it has no more digits than are written, and a collection has one if each
value in it has one and there is room for all that stand inside each other. Nothing else keeps a
value from being written.

Results:
* `Value.exists_shown_iff`: the values that have a text when they stand alone.
* `Priority.exists_shown_iff`: the priorities that have one.
-/

namespace Disposition

section Results

variable {ε α β γ : Type}

/-- What is made of a result is there if the result is. -/
theorem exists_bind_pure_iff {x : Except ε α} {f : α → β} :
    (∃ b, (x >>= fun a => pure (f a)) = .ok b) ↔ ∃ a, x = .ok a := by
  cases x <;> simp [bind, Except.bind, pure, Except.pure]

/-- What is made of two results is there if both are. -/
theorem exists_bind_bind_pure_iff {x : Except ε α} {y : Except ε β} {f : α → β → γ} :
    (∃ c, (x >>= fun a => y >>= fun b => pure (f a b)) = .ok c) ↔
      (∃ a, x = .ok a) ∧ ∃ b, y = .ok b := by
  cases x <;> cases y <;> simp [bind, Except.bind, pure, Except.pure]

end Results

namespace Value

mutual

/-- The integers that are written in the text of a value. -/
def integers : Value → List Int
  | int n => [n]
  | fraction q => [q.num, q.den]
  | list items => integersOfItems items
  | object members => integersOfMembers members
  | _ => []

/-- Those in the texts of the elements of a list. -/
def integersOfItems : List Value → List Int
  | [] => []
  | v :: rest => integers v ++ integersOfItems rest

/-- Those in the texts of the members of an object. -/
def integersOfMembers : List (String × Value) → List Int
  | [] => []
  | (_, v) :: rest => integers v ++ integersOfMembers rest

end

mutual

/-- How many values stand inside each other within a value. -/
def depth : Value → Nat
  | list items => depthOfItems items
  | object members => depthOfMembers members
  | _ => 0

/-- How many do within a list, the element included. -/
def depthOfItems : List Value → Nat
  | [] => 0
  | v :: rest => max (depth v + 1) (depthOfItems rest)

/-- How many do within an object, the member included. -/
def depthOfMembers : List (String × Value) → Nat
  | [] => 0
  | (_, v) :: rest => max (depth v + 1) (depthOfMembers rest)

end

/-- All of some integers can be written. -/
def AreShort (ns : List Int) : Prop :=
  ∀ n ∈ ns, n.natAbs < sizeLimit

/-- The value can be written, with room for so many values inside it. -/
structure IsWritable (room : Nat) (v : Value) : Prop where
  /-- Its integers have few enough digits. -/
  digits : AreShort v.integers
  /-- It is not nested too deeply. -/
  nested : v.depth ≤ room

theorem areShort_append {ns ms : List Int} : AreShort (ns ++ ms) ↔ AreShort ns ∧ AreShort ms :=
  List.forall_mem_append

theorem areShort_nil : AreShort [] :=
  fun _ h => absurd h List.not_mem_nil

theorem exists_integerText_iff {n : Int} : (∃ s, integerText n = .ok s) ↔ n.natAbs < sizeLimit := by
  unfold integerText
  split <;> simp [*]

theorem lt_sizeLimit_of_isWord {n : Int} (h : isWord n = true) : n.natAbs < sizeLimit := by
  have hlimit : twoTo 63 < sizeLimit := by decide +kernel
  simp only [isWord, Bool.and_eq_true, decide_eq_true_eq] at h
  omega

/-- A fraction is written with both of its integers, or with the only one that it has. -/
theorem exists_fractionText_iff {q : Rat} :
    (∃ s, fractionText q = .ok s) ↔ AreShort [q.num, q.den] := by
  have hone : 1 < sizeLimit := by decide +kernel
  unfold fractionText AreShort
  split
  · rename_i hden
    simp [exists_integerText_iff, hden, hone]
  · rw [exists_bind_bind_pure_iff]
    simp [exists_integerText_iff]

mutual

theorem exists_quoted_iff (room : Nat) : ∀ v : Value,
    (∃ s, quoted (room + 1) v = .ok s) ↔ AreShort v.integers ∧ v.depth ≤ room
  | null | bool _ | double _ | decimal _ | text _ | item _ _ _ _ => by
    simp [quoted, integers, depth, areShort_nil]
  | int n => by simp [quoted, integers, depth, exists_integerText_iff, AreShort]
  | fraction q => by
    rw [quoted, exists_bind_bind_pure_iff]
    simp [integers, depth, exists_integerText_iff, AreShort]
  | list items => by
    rw [quoted, exists_bind_pure_iff, exists_quotedItems_iff room items, integers, depth]
  | object members => by
    rw [quoted, exists_bind_pure_iff, exists_quotedMembers_iff room members, integers, depth]

theorem exists_quotedItems_iff (room : Nat) : ∀ items : List Value,
    (∃ texts, quotedItems room items = .ok texts) ↔
      AreShort (integersOfItems items) ∧ depthOfItems items ≤ room
  | [] => by simp [quotedItems, integersOfItems, depthOfItems, areShort_nil]
  | v :: rest => by
    rw [quotedItems, exists_bind_bind_pure_iff, exists_quotedItems_iff room rest, integersOfItems,
      depthOfItems, areShort_append, Nat.max_le]
    cases room with
    | zero => simp [quoted]
    | succ room =>
      rw [exists_quoted_iff room v, Nat.succ_le_succ_iff, and_and_and_comm]

theorem exists_quotedMembers_iff (room : Nat) : ∀ members : List (String × Value),
    (∃ texts, quotedMembers room members = .ok texts) ↔
      AreShort (integersOfMembers members) ∧ depthOfMembers members ≤ room
  | [] => by simp [quotedMembers, integersOfMembers, depthOfMembers, areShort_nil]
  | (name, v) :: rest => by
    rw [quotedMembers, exists_bind_bind_pure_iff, exists_quotedMembers_iff room rest,
      integersOfMembers, depthOfMembers, areShort_append, Nat.max_le]
    cases room with
    | zero => simp [quoted]
    | succ room =>
      rw [exists_quoted_iff room v, Nat.succ_le_succ_iff, and_and_and_comm]

end

/-- **The values that have a text** are those that can be written. -/
theorem exists_shown_iff {room : Nat} {v : Value} :
    (∃ s, v.shown room = .ok s) ↔ v.IsWritable room := by
  have hall : v.IsWritable room ↔ AreShort v.integers ∧ v.depth ≤ room :=
    ⟨fun h => ⟨h.digits, h.nested⟩, fun h => ⟨h.1, h.2⟩⟩
  rw [hall]
  cases v with
  | int n => simp [shown, integers, depth, exists_integerText_iff, AreShort]
  | fraction q => simp [shown, integers, depth, exists_fractionText_iff]
  | double _ | decimal _ | text _ => simp [shown, integers, depth, areShort_nil]
  | null | bool _ | list _ | object _ | item _ _ _ _ => exact exists_quoted_iff room _

end Value

namespace Priority

/-- The priority can be written. -/
def IsWritable (p : Priority) : Prop :=
  ∀ n, p = integer n → n.natAbs < Value.sizeLimit

/-- **The priorities that have a text** are those that can be written. -/
theorem exists_shown_iff {p : Priority} : (∃ s, p.shown = .ok s) ↔ p.IsWritable := by
  cases p <;> simp [shown, IsWritable, Value.exists_integerText_iff]

end Priority

end Disposition
