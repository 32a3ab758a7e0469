import Disposition.Json.Dump
import Disposition.Proofs.Writing
import Disposition.Text.Lines

/-!
# A line of data

The text of a value as data has only characters of ASCII that can be seen, blanks included, whatever
the texts in the value are made of. So it has no line break.

There is a text unless an integer in the value has too many digits, or collections are nested more
deeply than there is room for. If an object has none, it is because of one of its members.

Results:
* `Json.areVisible_dump`: what the text is made of.
* `Json.lineCount_dump`: it is one line.
* `Json.exists_dump_iff`: the values that have a text.
* `Json.dump_object_eq_error`: an object without one has a member without one.
-/

namespace Disposition

/-! ## Characters that can be seen -/

namespace Text

/-- The character is in ASCII and can be seen, or it is a blank. -/
def isVisible (c : Char) : Bool :=
  32 ≤ c.toNat && c.toNat < 127

/-- All characters of a text can be seen. -/
def AreVisible (s : String) : Prop :=
  s.toList.all isVisible = true

instance (s : String) : Decidable (AreVisible s) :=
  inferInstanceAs (Decidable (s.toList.all isVisible = true))

theorem areVisible_append {s t : String} : AreVisible (s ++ t) ↔ AreVisible s ∧ AreVisible t := by
  simp [AreVisible]

theorem areVisible_ofList {cs : List Char} :
    AreVisible (String.ofList cs) ↔ ∀ c ∈ cs, isVisible c = true := by
  simp [AreVisible]

theorem areVisible_intercalate {separator : String} (hs : AreVisible separator) :
    ∀ {parts : List String}, (∀ s ∈ parts, AreVisible s) →
      AreVisible (separator.intercalate parts)
  | [], _ => by rw [String.intercalate_nil]; decide
  | [s], h => by
    rw [String.intercalate_singleton]
    exact h s List.mem_cons_self
  | s :: t :: parts, h => by
    rw [String.intercalate_cons_cons, areVisible_append, areVisible_append]
    exact ⟨⟨h s List.mem_cons_self, hs⟩,
      areVisible_intercalate hs fun u hu => h u (List.mem_cons_of_mem s hu)⟩

theorem isVisible_of_isDigit {c : Char} (h : c.isDigit = true) : isVisible c = true := by
  simp only [Char.isDigit, Bool.and_eq_true, decide_eq_true_eq, isVisible] at *
  have hlow : 48 ≤ c.toNat := h.1
  have hhigh : c.toNat ≤ 57 := h.2
  omega

theorem areVisible_toString (n : Nat) : AreVisible (toString n) := by
  rw [AreVisible, Nat.toString_eq_repr, Nat.toList_repr, List.all_eq_true]
  exact fun c hc => isVisible_of_isDigit (Nat.isDigit_of_mem_toDigits (by decide) (by decide) hc)

theorem areVisible_toString_int : ∀ n : Int, AreVisible (toString n)
  | .ofNat n => areVisible_toString n
  | .negSucc n => areVisible_append.mpr ⟨by decide, areVisible_toString (n + 1)⟩

/-- What can be seen does not end a line. -/
theorem isLineBreak_of_isVisible {c : Char} (h : isVisible c = true) : isLineBreak c = false := by
  simp only [isVisible, isLineBreak, Bool.and_eq_true, decide_eq_true_eq, Bool.or_eq_false_iff,
    Bool.and_eq_false_iff, decide_eq_false_iff_not, beq_eq_false_iff_ne] at *
  omega

theorem lineCountFrom_of_forall {cs : List Char} (h : ∀ c ∈ cs, isVisible c = true)
    (begun : Bool) : lineCountFrom begun (cs ++ ['\n']) = 1 := by
  induction cs generalizing begun with
  | nil => rfl
  | cons c cs ih =>
    obtain ⟨hc, hcs⟩ := List.forall_mem_cons.mp h
    have hreturn : c ≠ '\r' := fun heq => absurd (heq ▸ hc) (by decide)
    rw [List.cons_append, lineCountFrom.eq_3 _ _ _ (fun _ heq _ => absurd heq hreturn),
      isLineBreak_of_isVisible hc]
    exact ih hcs true

/-- A text that can be seen is one line with the break behind it. -/
theorem lineCount_of_areVisible {s : String} (h : AreVisible s) : lineCount (s ++ "\n") = 1 := by
  rw [lineCount, String.toList_append]
  exact lineCountFrom_of_forall (List.all_eq_true.mp h) false

end Text

open Text

/-! ## Doubles -/

namespace Double

theorem areVisible_zeros (count : Nat) : AreVisible (zeros count) := by
  rw [zeros, areVisible_ofList]
  intro c hc
  rw [List.eq_of_mem_replicate hc]
  decide

/-- The words of a layout can be seen. -/
structure Layout.IsVisible (layout : Layout) : Prop where
  /-- What follows a whole number. -/
  wholeMark : AreVisible layout.wholeMark
  /-- The positive infinity. -/
  infinity : AreVisible layout.infinity
  /-- A NaN. -/
  nan : AreVisible layout.nan

variable {layout : Layout}

theorem areVisible_exponentText (exponent : Int) : AreVisible (exponentText layout exponent) := by
  simp only [exponentText, areVisible_append, areVisible_zeros, areVisible_toString, and_true]
  split <;> decide

theorem areVisible_pointText (h : layout.IsVisible) {digits : String} (hd : AreVisible digits)
    (whole : Int) : AreVisible (pointText layout digits whole) := by
  have hpart : ∀ part : List Char, part ⊆ digits.toList → AreVisible (String.ofList part) :=
    fun part hsub => areVisible_ofList.mpr fun c hc => List.all_eq_true.mp hd c (hsub hc)
  unfold pointText
  split_ifs
  · simp only [areVisible_append, areVisible_zeros, hd, and_true]
    decide
  · simp only [areVisible_append, areVisible_zeros, hd, h.wholeMark, and_true]
  · simp only [areVisible_append]
    exact ⟨⟨hpart _ (List.take_subset _ _), by decide⟩, hpart _ (List.drop_subset _ _)⟩

theorem areVisible_sizeText (h : layout.IsVisible) (units : Nat) :
    AreVisible (sizeText layout units) := by
  unfold sizeText
  split
  · exact areVisible_append.mpr ⟨by decide, h.wholeMark⟩
  · have hd := areVisible_toString (shortest units).digits
    have hpart : ∀ part : List Char, part ⊆ (toString (shortest units).digits).toList →
        AreVisible (String.ofList part) :=
      fun part hsub => areVisible_ofList.mpr fun c hc => List.all_eq_true.mp hd c (hsub hc)
    dsimp only
    split
    · exact areVisible_pointText h hd _
    · simp only [areVisible_append, areVisible_exponentText, and_true]
      refine ⟨hpart _ (List.take_subset _ _), ?_⟩
      split
      · decide
      · exact areVisible_append.mpr ⟨by decide, hpart _ (List.drop_subset _ _)⟩

theorem areVisible_textIn (h : layout.IsVisible) : ∀ d : Double, AreVisible (d.textIn layout)
  | nan => h.nan
  | infinite negative => by
    rw [textIn, areVisible_append]
    exact ⟨by cases negative <;> decide, h.infinity⟩
  | finite negative units => by
    rw [textIn, areVisible_append]
    exact ⟨by cases negative <;> decide, areVisible_sizeText h units⟩

theorem isVisible_dataLayout : dataLayout.IsVisible :=
  ⟨by decide, by decide, by decide⟩

end Double

/-! ## Values -/

namespace Json

theorem isVisible_hexDigit (n : Nat) : isVisible (hexDigit (n % 16)) = true := by
  have h : ∀ d < 16, isVisible (hexDigit d) = true := by decide
  exact h _ (Nat.mod_lt n (by decide))

theorem isVisible_of_mem_hexDigits {width n : Nat} {c : Char} (hc : c ∈ hexDigits width n) :
    isVisible c = true := by
  induction width generalizing n with
  | zero => exact absurd hc List.not_mem_nil
  | succ width ih =>
    rcases List.mem_append.mp hc with hc | hc
    · exact ih hc
    · rw [List.mem_singleton.mp hc]
      exact isVisible_hexDigit n

theorem isVisible_of_mem_codeEscape {code : Nat} {c : Char} (hc : c ∈ codeEscape code) :
    isVisible c = true := by
  rcases List.mem_cons.mp hc with rfl | hc
  · decide
  · rcases List.mem_cons.mp hc with rfl | hc
    · decide
    · exact isVisible_of_mem_hexDigits hc

/-- What a character of the first 127 is written as can be seen. -/
theorem isVisible_of_mem_escapeChar {c d : Char} (hc : c.toNat < 127) (hd : d ∈ escapeChar c) :
    isVisible d = true := by
  have hslash : ∀ other, isVisible other = true → d ∈ [backslash, other] → isVisible d = true := by
    intro other hother hmem
    rcases List.mem_cons.mp hmem with rfl | hmem
    · decide
    · rwa [List.mem_singleton.mp hmem]
  unfold escapeChar at hd
  split_ifs at hd with hmark hbreak hreturn htab hback hfeed hcontrol
  · refine hslash c ?_ hd
    rw [Bool.or_eq_true, decide_eq_true_eq, decide_eq_true_eq] at hmark
    rcases hmark with rfl | rfl <;> decide
  · exact hslash 'n' (by decide) hd
  · exact hslash 'r' (by decide) hd
  · exact hslash 't' (by decide) hd
  · exact hslash 'b' (by decide) hd
  · exact hslash 'f' (by decide) hd
  · exact isVisible_of_mem_codeEscape hd
  · rw [List.mem_singleton.mp hd, isVisible, Bool.and_eq_true, decide_eq_true_eq,
      decide_eq_true_eq]
    exact ⟨Nat.le_of_not_lt hcontrol, hc⟩

/-- Whatever a character is written as can be seen. -/
theorem isVisible_of_mem_escapeAscii {c d : Char} (hd : d ∈ escapeAscii c) :
    isVisible d = true := by
  unfold escapeAscii at hd
  dsimp only at hd
  split at hd
  · rename_i hlow
    exact isVisible_of_mem_escapeChar hlow hd
  · split at hd
    · exact isVisible_of_mem_codeEscape hd
    · rcases List.mem_append.mp hd with hd | hd <;> exact isVisible_of_mem_codeEscape hd

theorem areVisible_asciiLiteral (s : String) : AreVisible (asciiLiteral s) := by
  have hquote : isVisible doubleQuote = true := by decide
  rw [asciiLiteral, areVisible_ofList, List.forall_mem_cons, List.forall_mem_append]
  refine ⟨hquote, fun c hc => ?_, fun c hc => List.mem_singleton.mp hc ▸ hquote⟩
  obtain ⟨d, -, hd⟩ := List.mem_flatMap.mp hc
  exact isVisible_of_mem_escapeAscii hd

theorem areVisible_integerText {n : Int} {s : String} (h : Value.integerText n = .ok s) :
    AreVisible s := by
  unfold Value.integerText at h
  split at h
  · cases h
    exact areVisible_toString_int n
  · cases h

theorem areVisible_shownLiteral {room : Nat} {v : Value} {s : String}
    (h : shownLiteral room v = .ok s) : AreVisible s := by
  obtain ⟨shown, -, rfl⟩ := map_eq_ok_iff.mp h
  exact areVisible_asciiLiteral shown

theorem areVisible_brackets {opening closing : String} {parts : List String}
    (ho : AreVisible opening) (hc : AreVisible closing) (h : ∀ s ∈ parts, AreVisible s) :
    AreVisible (opening ++ String.intercalate ", " parts ++ closing) :=
  areVisible_append.mpr
    ⟨areVisible_append.mpr ⟨ho, areVisible_intercalate (by decide) h⟩, hc⟩

mutual

/-- **The text of a value can be seen.** -/
theorem areVisible_dump (room : Nat) : ∀ v : Value, ∀ s, dump room v = .ok s → AreVisible s
  | .null => fun s h => by
    rw [dump] at h
    cases h
    decide
  | .bool b => fun s h => by
    rw [dump] at h
    cases h
    cases b <;> decide
  | .int n => fun s h => by
    rw [dump, mapError_eq_ok_iff] at h
    exact areVisible_integerText h
  | .double d => fun s h => by
    rw [dump] at h
    cases h
    exact Double.areVisible_textIn Double.isVisible_dataLayout d
  | .text t => fun s h => by
    rw [dump] at h
    cases h
    exact areVisible_asciiLiteral t
  | .list items => fun s h => by
    cases room with
    | zero => rw [dump] at h <;> cases h
    | succ room =>
      rw [dump, bind_eq_ok_iff] at h
      obtain ⟨parts, hparts, h⟩ := h
      cases pure_eq_ok_iff.mp h
      exact areVisible_brackets (by decide) (by decide)
        (areVisible_dumpItems room items parts hparts)
  | .object members => fun s h => by
    cases room with
    | zero => rw [dump] at h <;> cases h
    | succ room =>
      rw [dump, bind_eq_ok_iff] at h
      obtain ⟨parts, hparts, h⟩ := h
      cases pure_eq_ok_iff.mp h
      exact areVisible_brackets (by decide) (by decide)
        (areVisible_dumpMembers room members parts hparts)
  | .decimal _ | .fraction _ | .item _ _ _ _ => fun s h => by
    cases room with
    | zero => simp [dump] at h
    | succ room =>
      rw [dump] at h
      exact areVisible_shownLiteral h

theorem areVisible_dumpItems (room : Nat) : ∀ items : List Value, ∀ parts,
    dumpItems room items = .ok parts → ∀ s ∈ parts, AreVisible s
  | [] => fun parts h => by
    rw [dumpItems] at h
    cases h
    exact fun _ hs => absurd hs List.not_mem_nil
  | v :: rest => fun parts h => by
    simp only [dumpItems, bind_eq_ok_iff, pure_eq_ok_iff] at h
    obtain ⟨s, hs, others, hothers, rfl⟩ := h
    exact List.forall_mem_cons.mpr
      ⟨areVisible_dump room v s hs, areVisible_dumpItems room rest others hothers⟩

theorem areVisible_dumpMembers (room : Nat) : ∀ members : List (String × Value), ∀ parts,
    dumpMembers room members = .ok parts → ∀ s ∈ parts, AreVisible s
  | [] => fun parts h => by
    rw [dumpMembers] at h
    cases h
    exact fun _ hs => absurd hs List.not_mem_nil
  | (name, v) :: rest => fun parts h => by
    simp only [dumpMembers, bind_eq_ok_iff, pure_eq_ok_iff] at h
    obtain ⟨s, hs, others, hothers, rfl⟩ := h
    have hname : AreVisible (asciiLiteral name ++ ": ") :=
      areVisible_append.mpr ⟨areVisible_asciiLiteral name, by decide⟩
    exact List.forall_mem_cons.mpr
      ⟨areVisible_append.mpr ⟨hname, areVisible_dump room v s hs⟩,
        areVisible_dumpMembers room rest others hothers⟩

end

/-- **The text of a value is one line.** -/
theorem lineCount_dump {room : Nat} {v : Value} {s : String} (h : dump room v = .ok s) :
    lineCount (s ++ "\n") = 1 :=
  lineCount_of_areVisible (areVisible_dump room v s h)

/-! ## Values without a text -/

mutual

/-- How many collections stand inside each other in a value, with what is no data of the format
counted as one. -/
def nesting : Value → Nat
  | .list items => nestingOfItems items + 1
  | .object members => nestingOfMembers members + 1
  | .decimal _ | .fraction _ | .item _ _ _ _ => 1
  | _ => 0

/-- How many do within the elements of a list. -/
def nestingOfItems : List Value → Nat
  | [] => 0
  | v :: rest => max (nesting v) (nestingOfItems rest)

/-- How many do within the members of an object. -/
def nestingOfMembers : List (String × Value) → Nat
  | [] => 0
  | (_, v) :: rest => max (nesting v) (nestingOfMembers rest)

end

/-- The value can be written as data, with room for so many collections inside each other. -/
structure IsDumpable (room : Nat) (v : Value) : Prop where
  /-- Its integers have few enough digits. -/
  digits : Value.AreShort v.integers
  /-- It is not nested too deeply. -/
  nested : nesting v ≤ room

theorem exists_map_iff {ε α β : Type} {x : Except ε α} {f : α → β} :
    (∃ b, x.map f = .ok b) ↔ ∃ a, x = .ok a := by
  cases x <;> simp [Except.map]

theorem exists_mapError_iff {ε ε' α : Type} {x : Except ε α} {f : ε → ε'} :
    (∃ a, x.mapError f = .ok a) ↔ ∃ a, x = .ok a := by
  simp only [mapError_eq_ok_iff]

theorem exists_shownLiteral_iff {room : Nat} {v : Value} :
    (∃ s, shownLiteral room v = .ok s) ↔ Value.AreShort v.integers ∧ v.depth ≤ room := by
  rw [shownLiteral, exists_map_iff, exists_mapError_iff, Value.exists_quoted_iff]

mutual

theorem exists_dump_iff_and (room : Nat) : ∀ v : Value,
    (∃ s, dump room v = .ok s) ↔ Value.AreShort v.integers ∧ nesting v ≤ room
  | .null | .bool _ | .double _ | .text _ => by
    simp [dump, Value.integers, nesting, Value.areShort_nil]
  | .int n => by
    rw [dump, exists_mapError_iff, Value.exists_integerText_iff]
    simp [Value.integers, nesting, Value.AreShort]
  | .list items => by
    rw [nesting, Value.integers]
    cases room with
    | zero => simp [dump]
    | succ room =>
      rw [dump, exists_bind_pure_iff, exists_dumpItems_iff room items, Nat.succ_le_succ_iff]
  | .object members => by
    rw [nesting, Value.integers]
    cases room with
    | zero => simp [dump]
    | succ room =>
      rw [dump, exists_bind_pure_iff, exists_dumpMembers_iff room members, Nat.succ_le_succ_iff]
  | .decimal _ | .fraction _ | .item _ _ _ _ => by
    rw [nesting]
    cases room with
    | zero => simp [dump]
    | succ room =>
      simp [dump, exists_shownLiteral_iff, Value.depth]

theorem exists_dumpItems_iff (room : Nat) : ∀ items : List Value,
    (∃ parts, dumpItems room items = .ok parts) ↔
      Value.AreShort (Value.integersOfItems items) ∧ nestingOfItems items ≤ room
  | [] => by simp [dumpItems, Value.integersOfItems, nestingOfItems, Value.areShort_nil]
  | v :: rest => by
    rw [dumpItems, exists_bind_bind_pure_iff, exists_dump_iff_and room v,
      exists_dumpItems_iff room rest, Value.integersOfItems, nestingOfItems,
      Value.areShort_append, Nat.max_le, and_and_and_comm]

theorem exists_dumpMembers_iff (room : Nat) : ∀ members : List (String × Value),
    (∃ parts, dumpMembers room members = .ok parts) ↔
      Value.AreShort (Value.integersOfMembers members) ∧ nestingOfMembers members ≤ room
  | [] => by simp [dumpMembers, Value.integersOfMembers, nestingOfMembers, Value.areShort_nil]
  | (name, v) :: rest => by
    rw [dumpMembers, exists_bind_bind_pure_iff, exists_dump_iff_and room v,
      exists_dumpMembers_iff room rest, Value.integersOfMembers, nestingOfMembers,
      Value.areShort_append, Nat.max_le, and_and_and_comm]

end

/-- **The values that have a text as data.** -/
theorem exists_dump_iff {room : Nat} {v : Value} :
    (∃ s, dump room v = .ok s) ↔ IsDumpable room v :=
  (exists_dump_iff_and room v).trans ⟨fun h => ⟨h.1, h.2⟩, fun h => ⟨h.digits, h.nested⟩⟩

theorem not_isDumpable_of_eq_error {room : Nat} {v : Value} {fault : DumpFault}
    (h : dump room v = .error fault) : ¬IsDumpable room v := by
  rw [← exists_dump_iff]
  rintro ⟨s, hs⟩
  cases hs.symm.trans h

/-- A row of members has no text because one of them has none. -/
theorem dumpMembers_eq_error {room : Nat} {members : List (String × Value)} {fault : DumpFault}
    (h : dumpMembers room members = .error fault) :
    ∃ member ∈ members, dump room member.2 = .error fault := by
  induction members with
  | nil => rw [dumpMembers] at h; cases h
  | cons member members ih =>
    obtain ⟨name, v⟩ := member
    rw [dumpMembers, bind_eq_error_iff] at h
    rcases h with h | ⟨s, -, h⟩
    · exact ⟨(name, v), List.mem_cons_self, h⟩
    · obtain ⟨member, hmem, hfault⟩ := ih (bind_pure_eq_error_iff.mp h)
      exact ⟨member, List.mem_cons_of_mem _ hmem, hfault⟩

/-- **An object has no text** because one of its members has none, if there is room for it. -/
theorem dump_object_eq_error {room : Nat} {members : List (String × Value)} {fault : DumpFault}
    (h : dump (room + 1) (.object members) = .error fault) :
    ∃ member ∈ members, dump room member.2 = .error fault := by
  rw [dump] at h
  exact dumpMembers_eq_error (bind_pure_eq_error_iff.mp h)

end Json

end Disposition
