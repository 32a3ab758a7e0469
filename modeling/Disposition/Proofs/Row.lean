import Disposition.Proofs.Table
import Disposition.Proofs.Work
import Mathlib.Data.List.Lemmas
import Mathlib.Data.Rat.Defs

/-!
# What data makes of rows

A new row belongs to the shop that it was made for and has the identifier of its data, or the fresh
one. A changed row keeps its identifier, its shop and its time. The flag of the default is what the
data says of it; data that says nothing leaves the flag of a new row off and that of a changed row
as it was.

Results:
* `lookup_changes`: what is changed of a row is what the data says otherwise than the row.
* `filled_eq_ok_iff`, `turns_of_changedRequired`: what a column of a new row is filled with, and
  what a column holds after a change.
* `DestinationRow.ofData_ok`, `RuleRow.ofData_ok`: what new rows are named by, and what their
  columns hold.
* `Data.patched_eq_ok_iff`: the steps of a change.
* `DestinationRow.patch_ok`, `RuleRow.patch_ok`: the same of changed rows.
* `DestinationRow.patch_of_changes_eq_nil`, `RuleRow.patch_of_changes_eq_nil`: a change that is made
  again.
-/

namespace Disposition

/-! ## Cells of flags -/

namespace Cell

/-- A column of flags holds whether its cell counts as present. -/
theorem isTruthy_of_flag? {cell : Cell} {b : Bool} (h : cell.flag? = some b) :
    cell.isTruthy = b := by
  cases cell with
  | null | text _ | compound _ _ => exact absurd h (by simp [flag?])
  | flag _ | integer _ | real _ => exact Option.some.inj h

/-- A cell that equals a flag counts as present if the flag is set. -/
theorem isTruthy_of_equal_flag {cell : Cell} {b : Bool} (h : cell.equal (.flag b) = true) :
    cell.isTruthy = b := by
  cases cell with
  | null | text _ | compound _ _ => exact absurd h (by simp [equal, exactValue?])
  | flag c => cases b <;> cases c <;> simp_all [equal, exactValue?, isTruthy]
  | integer n =>
    simp only [equal, exactValue?, decide_eq_true_eq, Exact.rational.injEq] at h
    cases b <;> simp_all [isTruthy]
  | real d =>
    cases d with
    | nan => exact absurd h (by simp [equal, exactValue?, Double.exactValue?])
    | infinite negative =>
      cases b <;> cases negative <;>
        simp [equal, exactValue?, Double.exactValue?, Exact.infinity] at h
    | finite negative units =>
      simp only [equal, exactValue?, Double.exactValue?, decide_eq_true_eq,
        Exact.rational.injEq] at h
      have hzero : mkRat (Double.signedUnits negative units) Double.one = 0 ↔ units = 0 := by
        have hone : Double.one ≠ 0 := Nat.ne_of_gt (twoTo_pos 1074)
        rw [Rat.mkRat_eq_zero hone]
        cases negative <;> simp [Double.signedUnits]
      simp only [isTruthy, Value.isTruthy]
      cases b with
      | false => simp [hzero.mp h]
      | true =>
        have hne : units ≠ 0 := fun he => by
          rw [hzero.mpr he] at h
          exact absurd h (by decide)
        simp [hne]

end Cell

/-! ## Changes -/

namespace Data

theorem changes_cons (data held : Data) (name : String) (current : Cell) :
    data.changes ((name, current) :: held) =
      (((data.lookup name).bind fun cell =>
        if cell.equal current then none else some cell).map (name, ·)).toList ++
        data.changes held := by
  simp only [changes, List.filterMap_cons]
  cases data.lookup name with
  | none => rfl
  | some cell => by_cases h : cell.equal current = true <;> simp [h]

theorem lookup_change_of_ne {column name : String} (h : column ≠ name) (change : Option Cell) :
    (change.map (name, ·)).toList.lookup column = none := by
  cases change with
  | none => rfl
  | some cell => rw [Option.map_some, Option.toList_some, List.lookup_cons, beq_false_of_ne h]; rfl

theorem lookup_changes_of_not_mem {held : Data} (data : Data) {column : String}
    (h : column ∉ held.map Prod.fst) : (data.changes held).lookup column = none := by
  induction held with
  | nil => rfl
  | cons entry held ih =>
    obtain ⟨name, current⟩ := entry
    simp only [List.map_cons, List.mem_cons, not_or] at h
    rw [changes_cons, List.lookup_append, lookup_change_of_ne h.1, ih h.2]
    rfl

/-- **What is changed of a column**: what the data says of it, unless the row says the same. -/
theorem lookup_changes {held : Data} (hn : (held.map Prod.fst).Nodup) (data : Data)
    (column : String) :
    (data.changes held).lookup column =
      (held.lookup column).bind fun current =>
        (data.lookup column).bind fun cell => if cell.equal current then none else some cell := by
  induction held with
  | nil => rfl
  | cons entry held ih =>
    obtain ⟨name, current⟩ := entry
    rw [List.map_cons, List.nodup_cons] at hn
    rw [changes_cons, List.lookup_append]
    by_cases h : column = name
    · subst h
      rw [lookup_changes_of_not_mem data hn.1, List.lookup_cons_self, Option.or_none,
        Option.bind_some]
      cases (data.lookup column).bind fun cell =>
          if cell.equal current then none else some cell with
      | none => rfl
      | some cell => exact List.lookup_cons_self
    · rw [lookup_change_of_ne h, Option.none_or, ih hn.2, List.lookup_cons, beq_false_of_ne h]

/-- What a column holds after a change: what it held if the data says nothing or the same of it,
else what the data says. -/
def Turns {α : Type} (data : Data) (column : String) (held : Cell) (read : Cell → Option α)
    (current after : α) : Prop :=
  match data.lookup column with
  | none => after = current
  | some cell => if cell.equal held = true then after = current else read cell = some after

theorem turns_of_changedRequired {α : Type} {table : TableName} {data held : Data}
    (hn : (held.map Prod.fst).Nodup) {column : String} {cell : Cell}
    (hcell : held.lookup column = some cell) {read : Cell → Option α} {current after : α}
    (h : (data.changes held).changedRequired table column current read = .ok after) :
    data.Turns column cell read current after := by
  unfold changedRequired at h
  rw [lookup_changes hn, hcell, Option.bind_some] at h
  unfold Turns
  cases hl : data.lookup column with
  | none =>
    rw [hl] at h
    exact (Except.ok.inj h).symm
  | some given =>
    rw [hl, Option.bind_some] at h
    by_cases he : given.equal cell = true
    · rw [if_pos he] at h
      simp only [if_pos he]
      exact (Except.ok.inj h).symm
    · rw [if_neg he] at h
      simp only [if_neg he]
      cases hread : read given with
      | none =>
        simp only [hread] at h
        cases h
      | some a =>
        simp only [hread] at h
        exact congrArg some (Except.ok.inj h)

theorem turns_of_changed {α : Type} {data held : Data} (hn : (held.map Prod.fst).Nodup)
    {column : String} {cell : Cell} (hcell : held.lookup column = some cell) (read : Cell → α)
    (current : α) :
    data.Turns column cell (fun given => some (read given)) current
      ((data.changes held).changed column current read) := by
  unfold changed Turns
  rw [lookup_changes hn, hcell, Option.bind_some]
  cases data.lookup column with
  | none => rfl
  | some given =>
    simp only [Option.bind_some]
    by_cases he : given.equal cell = true
    · simp only [if_pos he]
    · simp only [if_neg he]

/-- A flag after a change is what the data says of it, else what it was. -/
theorem flag_of_turns {data : Data} {column : String} {current after : Bool}
    (h : data.Turns column (.flag current) Cell.flag? current after) :
    after = match data.lookup column with
      | some cell => cell.isTruthy
      | none => current := by
  unfold Turns at h
  cases hl : data.lookup column with
  | none =>
    rw [hl] at h
    exact h
  | some cell =>
    simp only [hl] at h ⊢
    split at h
    · rename_i he
      exact h.trans (Cell.isTruthy_of_equal_flag he).symm
    · exact (Cell.isTruthy_of_flag? h).symm

/-- A text after a change is what the data says of it, else what it was. -/
theorem text_of_turns {data : Data} {column current after : String}
    (h : data.Turns column (.text current) Cell.text? current after) :
    match data.lookup column with
    | some cell => cell.text? = some after
    | none => after = current := by
  unfold Turns at h
  cases hl : data.lookup column with
  | none =>
    rw [hl] at h
    exact h
  | some cell =>
    simp only [hl] at h ⊢
    split at h
    · rename_i he
      rw [h]
      cases cell with
      | text s => exact congrArg some (of_decide_eq_true he)
      | null | flag _ | integer _ | real _ | compound _ _ =>
        exact absurd he (by simp [Cell.equal, Cell.exactValue?])
    · exact h

/-- What a column of a new row holds: what the data says, or the fallback if it says nothing. -/
def Fills {α : Type} (data : Data) (column : String) (fallback : Cell) (read : Cell → Option α)
    (a : α) : Prop :=
  read (if data.cell column = .null then fallback else data.cell column) = some a

theorem filled_eq_ok_iff {α : Type} {table : TableName} {data : Data} {column : String}
    {fallback : Cell} {read : Cell → Option α} {a : α} :
    data.filled table column fallback read = .ok a ↔ data.Fills column fallback read a := by
  unfold filled Fills
  simp only
  cases read (if data.cell column = .null then fallback else data.cell column) with
  | none => simp only [reduceCtorEq]
  | some b => simp only [Except.ok.injEq, Option.some.injEq]

/-- A new row is flagged if the data says so. -/
theorem flagsDefault_of_fills {data : Data} {b : Bool}
    (h : data.Fills "is_default" (.flag false) Cell.flag? b) : data.flagsDefault = b := by
  unfold Fills at h
  unfold flagsDefault
  split at h
  · rename_i hnull
    rw [hnull, ← Option.some.inj h]
    rfl
  · exact Cell.isTruthy_of_flag? h

/-- The flag of a row after a change: what the data says of it, else what it was. -/
def flagAfter (data : Data) (current : Bool) : Bool :=
  match data.lookup "is_default" with
  | some cell => cell.isTruthy
  | none => current

/-- What the data changes, if the database takes it. -/
theorem takenChanges_ok {table : TableName} {data held changes : Data}
    (h : data.takenChanges table held = .ok changes) : changes = data.changes held := by
  unfold takenChanges at h
  obtain ⟨-, -, h⟩ := bind_eq_ok_iff.mp h
  obtain ⟨-, -, h⟩ := bind_eq_ok_iff.mp h
  obtain ⟨-, -, h⟩ := bind_eq_ok_iff.mp h
  obtain ⟨-, -, h⟩ := bind_eq_ok_iff.mp h
  exact (pure_eq_ok_iff.mp h).symm

/-- Data that was taken is taken again by a row of which there is nothing left to change. -/
theorem takenChanges_again {table : TableName} {data held after changes : Data}
    (h : data.takenChanges table held = .ok changes) (hnone : data.changes after = []) :
    data.takenChanges table after = .ok [] := by
  unfold takenChanges at h ⊢
  obtain ⟨_, hnames, h⟩ := bind_eq_ok_iff.mp h
  obtain ⟨-, -, h⟩ := bind_eq_ok_iff.mp h
  obtain ⟨_, htime, -⟩ := bind_eq_ok_iff.mp h
  simp only [hnone, hnames, htime, ok_bind]
  rfl

/-- The change of a row, from what it holds and what makes a row of its changed columns. -/
def patched {ρ : Type} (table : TableName) (data held : Data)
    (change : Data → Except StoreFault ρ) : Except StoreFault ρ := do
  let changes ← data.takenChanges table held
  let after ← change changes
  data.checkKept table
  return after

section Patched

variable {ρ : Type} {table : TableName} {data held : Data} {change : Data → Except StoreFault ρ}
  {after : ρ}

/-- **A row is changed if each step of its change is made.** -/
theorem patched_eq_ok_iff :
    data.patched table held change = .ok after ↔
      data.takenChanges table held = .ok (data.changes held) ∧
        change (data.changes held) = .ok after ∧ data.checkKept table = .ok () := by
  unfold patched
  constructor
  · intro h
    obtain ⟨changes, htaken, h⟩ := bind_eq_ok_iff.mp h
    obtain ⟨changed, hchange, h⟩ := bind_eq_ok_iff.mp h
    obtain ⟨_, hkept, h⟩ := bind_eq_ok_iff.mp h
    obtain rfl := pure_eq_ok_iff.mp h
    obtain rfl := takenChanges_ok htaken
    exact ⟨htaken, hchange, hkept⟩
  · rintro ⟨htaken, hchange, hkept⟩
    rw [htaken, ok_bind, hchange, ok_bind, hkept, ok_bind]
    rfl

/-- A change that leaves nothing to change can be made again, and the row stays. -/
theorem patched_again (h : data.patched table held change = .ok after) {now : Data}
    (hnone : data.changes now = []) {again : Data → Except StoreFault ρ}
    (hstays : again [] = .ok after) : data.patched table now again = .ok after := by
  obtain ⟨htaken, -, hkept⟩ := patched_eq_ok_iff.mp h
  rw [patched_eq_ok_iff, hnone]
  exact ⟨takenChanges_again htaken hnone, hstays, hkept⟩

end Patched

end Data

/-! ## Destinations -/

namespace DestinationRow

/-- The columns of a new row that may not be empty are filled by the data. -/
structure FilledBy (row : DestinationRow) (data : Data) : Prop where
  /-- The name. -/
  name : data.Fills "name" .null Cell.text? row.name
  /-- The street. -/
  addressLine1 : data.Fills "address_line1" .null Cell.text? row.addressLine1
  /-- The city. -/
  city : data.Fills "city" .null Cell.text? row.city
  /-- The state. -/
  state : data.Fills "state" .null Cell.text? row.state
  /-- The postal code. -/
  postalCode : data.Fills "postal_code" .null Cell.text? row.postalCode
  /-- The country. -/
  country : data.Fills "country" (.text "US") Cell.text? row.country
  /-- The flag of the default. -/
  isDefault : data.Fills "is_default" (.flag false) Cell.flag? row.isDefault

/-- **What a new destination is.** -/
theorem ofData_ok {shop : String} {fresh : Stamp} {data : Data} {row : DestinationRow}
    (h : ofData shop fresh data = .ok row) :
    row.shop = shop ∧ row.createdAt = fresh.time ∧
      data.newId .destinations fresh = .ok row.id ∧ row.FilledBy data := by
  unfold ofData at h
  simp only [bind_eq_ok_iff, pure_eq_ok_iff, Data.required, Data.filled_eq_ok_iff] at h
  obtain ⟨-, -, -, -, name, hname, line, hline, city, hcity, state, hstate, code, hcode, country,
    hcountry, flag, hflag, id, hid, rfl⟩ := h
  exact ⟨rfl, rfl, hid, hname, hline, hcity, hstate, hcode, hcountry, hflag⟩

theorem cells_nodup (row : DestinationRow) : (row.cells.map Prod.fst).Nodup :=
  (by decide : TableName.destinations.columns.Nodup)

/-- The columns of a row are changed by the data. -/
structure ChangedBy (row : DestinationRow) (data : Data) (after : DestinationRow) : Prop where
  /-- The name. -/
  name : data.Turns "name" (.text row.name) Cell.text? row.name after.name
  /-- The street. -/
  addressLine1 : data.Turns "address_line1" (.text row.addressLine1) Cell.text? row.addressLine1
    after.addressLine1
  /-- What else there is of the street. -/
  addressLine2 : data.Turns "address_line2" (.ofText? row.addressLine2)
    (fun cell => some cell.text?) row.addressLine2 after.addressLine2
  /-- The city. -/
  city : data.Turns "city" (.text row.city) Cell.text? row.city after.city
  /-- The state. -/
  state : data.Turns "state" (.text row.state) Cell.text? row.state after.state
  /-- The postal code. -/
  postalCode : data.Turns "postal_code" (.text row.postalCode) Cell.text? row.postalCode
    after.postalCode
  /-- The country. -/
  country : data.Turns "country" (.text row.country) Cell.text? row.country after.country
  /-- The telephone number. -/
  phone : data.Turns "phone" (.ofText? row.phone) (fun cell => some cell.text?) row.phone
    after.phone
  /-- The flag of the default. -/
  isDefault : data.Turns "is_default" (.flag row.isDefault) Cell.flag? row.isDefault
    after.isDefault

/-- **What a destination with changed columns is.** -/
theorem changeColumns_ok {row after : DestinationRow} {data : Data}
    (h : row.changeColumns (data.changes row.cells) = .ok after) :
    Table.key after = Table.key row ∧ after.createdAt = row.createdAt ∧
      row.ChangedBy data after := by
  have hn := cells_nodup row
  unfold changeColumns at h
  simp only [bind_eq_ok_iff, pure_eq_ok_iff] at h
  obtain ⟨name, hname, line, hline, city, hcity, state, hstate, code, hcode, country, hcountry,
    flag, hflag, rfl⟩ := h
  refine ⟨rfl, rfl, ?_⟩
  constructor
  case addressLine2 | phone => exact Data.turns_of_changed hn rfl _ _
  case name => exact Data.turns_of_changedRequired hn rfl hname
  case addressLine1 => exact Data.turns_of_changedRequired hn rfl hline
  case city => exact Data.turns_of_changedRequired hn rfl hcity
  case state => exact Data.turns_of_changedRequired hn rfl hstate
  case postalCode => exact Data.turns_of_changedRequired hn rfl hcode
  case country => exact Data.turns_of_changedRequired hn rfl hcountry
  case isDefault => exact Data.turns_of_changedRequired hn rfl hflag

theorem patch_eq (row : DestinationRow) (data : Data) :
    row.patch data = data.patched .destinations row.cells row.changeColumns :=
  rfl

/-- **What a changed destination is.** -/
theorem patch_ok {row after : DestinationRow} {data : Data} (h : row.patch data = .ok after) :
    Table.key after = Table.key row ∧ after.createdAt = row.createdAt ∧
      row.ChangedBy data after := by
  rw [patch_eq, Data.patched_eq_ok_iff] at h
  exact changeColumns_ok h.2.1

/-- A change that leaves nothing to change can be made again, and the row stays. -/
theorem patch_of_changes_eq_nil {row after : DestinationRow} {data : Data}
    (h : row.patch data = .ok after) (hnone : data.changes after.cells = []) :
    after.patch data = .ok after := by
  rw [patch_eq] at h ⊢
  exact Data.patched_again h hnone rfl

end DestinationRow

/-! ## Rules -/

namespace RuleRow

/-- The columns of a new row are filled by the data. -/
structure FilledBy (row : RuleRow) (data : Data) : Prop where
  /-- The name. -/
  name : data.Fills "name" .null Cell.text? row.name
  /-- The priority. -/
  priority : data.Fills "priority" (.integer 0) Cell.priority? row.priority
  /-- Whether the rule is active. -/
  isActive : data.Fills "is_active" (.flag true) Cell.flag? row.isActive
  /-- What the condition inspects. -/
  conditionType : data.Fills "condition_type" .null Cell.text? row.conditionType
  /-- What the condition compares with. -/
  conditionValue : data.Fills "condition_value" .null Cell.text? row.conditionValue
  /-- The destination. -/
  destinationId : data.Fills "destination_id" .null Cell.text? row.destinationId

/-- **What a new rule is.** -/
theorem ofData_ok {shop : String} {fresh : Stamp} {data : Data} {row : RuleRow}
    (h : ofData shop fresh data = .ok row) :
    row.shop = shop ∧ row.createdAt = fresh.time ∧ data.newId .rules fresh = .ok row.id ∧
      row.FilledBy data := by
  unfold ofData at h
  simp only [bind_eq_ok_iff, pure_eq_ok_iff, Data.required, Data.filled_eq_ok_iff] at h
  obtain ⟨-, -, -, -, name, hname, priority, hpriority, active, hactive, kind, hkind, operand,
    hoperand, destination, hdestination, id, hid, rfl⟩ := h
  exact ⟨rfl, rfl, hid, hname, hpriority, hactive, hkind, hoperand, hdestination⟩

/-- The columns of a row are changed by the data. -/
structure ChangedBy (row : RuleRow) (data : Data) (after : RuleRow) : Prop where
  /-- The name. -/
  name : data.Turns "name" (.text row.name) Cell.text? row.name after.name
  /-- The priority. -/
  priority : data.Turns "priority" (.ofPriority row.priority) Cell.priority? row.priority
    after.priority
  /-- Whether the rule is active. -/
  isActive : data.Turns "is_active" (.flag row.isActive) Cell.flag? row.isActive after.isActive
  /-- What the condition inspects. -/
  conditionType : data.Turns "condition_type" (.text row.conditionType) Cell.text?
    row.conditionType after.conditionType
  /-- What the condition compares with. -/
  conditionValue : data.Turns "condition_value" (.text row.conditionValue) Cell.text?
    row.conditionValue after.conditionValue
  /-- The destination. -/
  destinationId : data.Turns "destination_id" (.text row.destinationId) Cell.text?
    row.destinationId after.destinationId

theorem cells_nodup (row : RuleRow) : (row.cells.map Prod.fst).Nodup :=
  (by decide : TableName.rules.columns.Nodup)

/-- **What a rule with changed columns is.** -/
theorem changeColumns_ok {row after : RuleRow} {data : Data}
    (h : row.changeColumns (data.changes row.cells) = .ok after) :
    Table.key after = Table.key row ∧ after.createdAt = row.createdAt ∧
      row.ChangedBy data after := by
  have hn := cells_nodup row
  unfold changeColumns at h
  simp only [bind_eq_ok_iff, pure_eq_ok_iff] at h
  obtain ⟨name, hname, priority, hpriority, active, hactive, kind, hkind, operand, hoperand,
    destination, hdestination, rfl⟩ := h
  refine ⟨rfl, rfl, ?_⟩
  constructor
  case name => exact Data.turns_of_changedRequired hn rfl hname
  case priority => exact Data.turns_of_changedRequired hn rfl hpriority
  case isActive => exact Data.turns_of_changedRequired hn rfl hactive
  case conditionType => exact Data.turns_of_changedRequired hn rfl hkind
  case conditionValue => exact Data.turns_of_changedRequired hn rfl hoperand
  case destinationId => exact Data.turns_of_changedRequired hn rfl hdestination

theorem patch_eq (row : RuleRow) (data : Data) :
    row.patch data = data.patched .rules row.cells row.changeColumns :=
  rfl

/-- **What a changed rule is.** -/
theorem patch_ok {row after : RuleRow} {data : Data} (h : row.patch data = .ok after) :
    Table.key after = Table.key row ∧ after.createdAt = row.createdAt ∧
      row.ChangedBy data after := by
  rw [patch_eq, Data.patched_eq_ok_iff] at h
  exact changeColumns_ok h.2.1

/-- A change that leaves nothing to change can be made again, and the row stays. -/
theorem patch_of_changes_eq_nil {row after : RuleRow} {data : Data}
    (h : row.patch data = .ok after) (hnone : data.changes after.cells = []) :
    after.patch data = .ok after := by
  rw [patch_eq] at h ⊢
  exact Data.patched_again h hnone rfl

end RuleRow

/-! ## Sample data -/

namespace Data

/-- Data for a destination, which is flagged or not. -/
def ofPlace (id : String) (flag : Bool) : Data :=
  [("id", .text id), ("name", .text "Main"), ("address_line1", .text "1 Dock Rd"),
    ("city", .text "Reno"), ("state", .text "NV"), ("postal_code", .text "89501"),
    ("is_default", .flag flag)]

/-- Data for a rule that sends shoes to a destination. -/
def ofShoes (id : String) (priority : Cell) (destinationId : String) : Data :=
  [("id", .text id), ("name", .text id), ("priority", priority),
    ("condition_type", .text "product_type"), ("condition_value", .text "shoes"),
    ("destination_id", .text destinationId)]

end Data

end Disposition
