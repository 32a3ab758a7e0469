import Disposition.Proofs.Store

/-!
# Data that passes the checks

A row is changed in three steps: what the data changes is worked out and checked, then the columns
are changed, and then it is checked that the data leaves the row what the service needs of it. Data
is harmless if its names are, and suits a table if its cells can be kept in the columns. Such data
changes every row, unless an integer of it takes more than 64 bits.

Results:
* `Data.checkValues_eq`: what the database takes.
* `Data.IsHarmless.checkAssigned` and so on: the checks that harmless data passes.
* `Data.takenChanges_eq`: what harmless data that suits a table changes.
* `DestinationRow.patch_of_suits`, `RuleRow.patch_of_suits`: it changes every row.
-/

namespace Disposition

/-! ## Cells -/

/-- The database takes the cell. -/
def Cell.isStorable : Cell → Bool
  | integer n => isWord n
  | compound _ _ => false
  | _ => true

/-- The cell is an integer of more than 64 bits. -/
def Cell.isOversized : Cell → Bool
  | integer n => !isWord n
  | _ => false

/-! ## Columns -/

/-- What kind of cells a column is for. -/
inductive ColumnType
  /-- Texts. -/
  | text
  /-- Texts that may be missing. -/
  | optionalText
  /-- Integers. -/
  | integer
  /-- Flags. -/
  | flag
  deriving DecidableEq, Repr

namespace TableName

theorem member_of_mem_columns {table : TableName} {column : String} (h : column ∈ table.columns) :
    table.member column = .column := by
  have hc : (table.columns.contains column || decide (column = "updated_at")) = true := by
    rw [List.contains_iff_mem.mpr h, Bool.true_or]
  exact if_pos hc

/-- The columns of a table with their types. -/
def types : TableName → List (String × ColumnType)
  | .destinations =>
    [("name", .text), ("address_line1", .text), ("address_line2", .optionalText), ("city", .text),
      ("state", .text), ("postal_code", .text), ("country", .text), ("phone", .optionalText),
      ("is_default", .flag)]
  | .rules =>
    [("name", .text), ("priority", .integer), ("is_active", .flag), ("condition_type", .text),
      ("condition_value", .text), ("destination_id", .text)]

/-- The type of a column. -/
def type? (table : TableName) (column : String) : Option ColumnType :=
  table.types.lookup column

theorem nodup_types (table : TableName) : (table.types.map Prod.fst).Nodup := by
  cases table <;> decide

theorem type?_isSome {table : TableName} {column : String} (h : column ∈ table.columns) :
    (table.type? column).isSome = true := by
  have hall : ∀ column ∈ table.columns, (table.type? column).isSome = true := by
    cases table <;> decide
  exact hall column h

theorem type?_of_mem_flags {table : TableName} {column : String} (h : column ∈ table.flags) :
    table.type? column = some .flag := by
  cases table <;> obtain rfl := List.mem_singleton.mp h <;> rfl

end TableName

/-- Something can be read of the cell for a column of that type. -/
def ColumnType.canRead : ColumnType → Cell → Bool
  | text, cell => cell.text?.isSome
  | optionalText, _ => true
  | integer, cell => cell.priority?.isSome
  | flag, cell => cell.flag?.isSome

/-! ## Data -/

namespace Data

/-- An integer of the data takes more than 64 bits. -/
def isOversized (data : Data) : Bool :=
  data.any fun (_, cell) => cell.isOversized

theorem isOversized_iff {data : Data} :
    data.isOversized = true ↔ ∃ column cell, (column, cell) ∈ data ∧ cell.isOversized = true := by
  unfold isOversized
  rw [List.any_eq_true]
  exact ⟨fun ⟨entry, hm, h⟩ => ⟨entry.1, entry.2, hm, h⟩,
    fun ⟨column, cell, hm, h⟩ => ⟨(column, cell), hm, h⟩⟩

theorem mem_of_mem_changes {data held : Data} {column : String} {cell : Cell}
    (h : (column, cell) ∈ data.changes held) : (column, cell) ∈ data := by
  obtain ⟨⟨name, current⟩, -, hentry⟩ := List.mem_filterMap.mp h
  simp only at hentry
  split at hentry
  · rename_i given hl
    split at hentry
    · cases hentry
    · cases hentry
      exact mem_of_lookup hl
  · cases hentry

/-- A change does not make data too large. -/
theorem isOversized_changes {data held : Data} (h : data.isOversized = false) :
    (data.changes held).isOversized = false := by
  rw [Bool.eq_false_iff] at h ⊢
  intro hlarge
  obtain ⟨column, cell, hm, hcell⟩ := isOversized_iff.mp hlarge
  exact h (isOversized_iff.mpr ⟨column, cell, mem_of_mem_changes hm, hcell⟩)

theorem changes_names (data held : Data) :
    ((data.changes held).map Prod.fst).Sublist (held.map Prod.fst) := by
  induction held with
  | nil => exact .slnil
  | cons entry held ih =>
    rw [changes_cons, List.map_append, List.map_cons]
    cases (data.lookup entry.1).bind fun cell => if cell.equal entry.2 then none else some cell with
    | none => exact .cons _ ih
    | some cell => exact .cons_cons _ ih

theorem checkNames_of_columns {table : TableName} {data : Data}
    (h : ∀ entry ∈ data, table.member entry.1 = .column) : data.checkNames table = .ok () := by
  induction data with
  | nil => rfl
  | cons entry data ih =>
    rw [checkNames, h entry List.mem_cons_self]
    exact ih fun other ho => h other (List.mem_cons_of_mem _ ho)

/-- The names of a change are all taken if no row refuses them and none is that of the state. -/
theorem checkAssigned_of_free {table : TableName} {data : Data}
    (h : ∀ entry ∈ data, table.member entry.1 ≠ .fixed ∧ table.member entry.1 ≠ .state) :
    data.checkAssigned table none = .ok () := by
  induction data with
  | nil => rfl
  | cons entry data ih =>
    have hrest := ih fun other ho => h other (List.mem_cons_of_mem _ ho)
    obtain ⟨hfixed, hstate⟩ := h entry List.mem_cons_self
    cases hmember : table.member entry.1 with
    | fixed => exact absurd hmember hfixed
    | state => exact absurd hmember hstate
    | column | identity | idle | content | unknown =>
      simpa only [checkAssigned, hmember] using hrest

/-- The flags are filled with flags. -/
theorem checkFlags_of_isFlag {table : TableName} {data : Data}
    (h : ∀ entry ∈ data, entry.1 ∈ table.flags → entry.2.isFlag = true) :
    data.checkFlags table = .ok () := by
  unfold checkFlags
  rw [List.find?_eq_none.mpr]
  rintro ⟨column, cell⟩ hm
  rw [Bool.and_eq_true, List.contains_iff_mem]
  rintro ⟨hflag, hcell⟩
  rw [h _ hm hflag] at hcell
  cases hcell

/-- **What the database takes.** Without compounds all that it refuses is an integer that is too
large. -/
theorem checkValues_eq {cells : List Cell} (h : ∀ cell ∈ cells, cell.isStorable = !cell.isOversized)
    (place : Nat) :
    checkValues place cells =
      if cells.any (·.isOversized) then .error .integerTooLarge else .ok () := by
  induction cells generalizing place with
  | nil => rfl
  | cons cell cells ih =>
    have hrest := ih (fun other ho => h other (List.mem_cons_of_mem _ ho)) (place + 1)
    cases cell with
    | integer n =>
      have hn : (Cell.integer n).isOversized = !isWord n := rfl
      rw [checkValues, List.any_cons, hn]
      cases isWord n with
      | true => exact hrest
      | false => rfl
    | compound kind present => exact absurd (h _ List.mem_cons_self) Bool.false_ne_true
    | null | flag _ | real _ | text _ => exact hrest

/-! ## Names -/

/-- The names of the data do no harm: none is refused by a row, and none is that of something that
the service needs of a row afterwards. -/
structure IsHarmless (table : TableName) (data : Data) : Prop where
  /-- The time of a change is not named. -/
  time : ∀ entry ∈ data, entry.1 ≠ "updated_at"
  /-- Nothing is named that cannot be given, or that the service needs of a row. -/
  names : ∀ entry ∈ data, table.member entry.1 ≠ .fixed ∧ table.member entry.1 ≠ .state ∧
    table.member entry.1 ≠ .content

theorem lookup_eq_none_of_ne {data : Data} {name : String} (h : ∀ entry ∈ data, entry.1 ≠ name) :
    data.lookup name = none :=
  List.lookup_eq_none_iff.mpr fun entry he => by simpa using (h entry he).symm

namespace IsHarmless

variable {table : TableName} {data : Data} (h : data.IsHarmless table)

include h

theorem checkAssigned : data.checkAssigned table none = .ok () :=
  checkAssigned_of_free fun entry he => ⟨(h.names entry he).1, (h.names entry he).2.1⟩

theorem checkTime : data.checkTime = .ok () := by
  rw [Data.checkTime, cell, lookup_eq_none_of_ne h.time]
  rfl

theorem checkState : data.checkState = .ok () := by
  rw [Data.checkState, lookup_eq_none_of_ne]
  rintro ⟨_, cell⟩ he rfl
  have hstate : table.member "_sa_instance_state" = .state := by cases table <;> decide
  exact (h.names _ he).2.1 hstate

theorem checkKept : data.checkKept table = .ok () := by
  rw [Data.checkKept, Data.changedRequired, lookup_eq_none_of_ne h.time, ok_bind, h.checkState]

theorem checkContent : data.checkContent = .ok () := by
  rw [Data.checkContent, lookup_eq_none_of_ne]
  rintro ⟨_, cell⟩ he rfl
  have hcontent : table.member "to_dict" = .content := by cases table <;> decide
  exact (h.names _ he).2.2 hcontent

theorem amend {ρ : Type} (patched : Except StoreFault ρ) : data.amend patched = patched := by
  rw [Data.amend, h.checkContent]
  cases patched <;> rfl

end IsHarmless

/-! ## Cells in columns -/

/-- The cells of the data suit the columns that they are for. -/
structure Suits (table : TableName) (data : Data) : Prop where
  /-- A flag is a flag. -/
  flags : ∀ entry ∈ data, entry.1 ∈ table.flags → entry.2.isFlag = true
  /-- Something can be read of what is for a column. -/
  readable : ∀ entry ∈ data, ∀ type, table.type? entry.1 = some type →
    type.canRead entry.2 = true
  /-- The database refuses nothing that is for a column, but for integers that are too large. -/
  storable : ∀ entry ∈ data, entry.1 ∈ table.columns →
    entry.2.isStorable = !entry.2.isOversized

namespace Suits

variable {table : TableName} {data : Data} (h : data.Suits table)

include h

/-- So do the cells of a change. -/
theorem changes (held : Data) : (data.changes held).Suits table where
  flags entry he := h.flags entry (mem_of_mem_changes he)
  readable entry he := h.readable entry (mem_of_mem_changes he)
  storable entry he := h.storable entry (mem_of_mem_changes he)

theorem checkFlags : data.checkFlags table = .ok () :=
  checkFlags_of_isFlag h.flags

theorem checkValues (hcolumns : (data.map Prod.fst).Sublist table.columns) :
    Data.checkValues 1 (data.map (·.2)) =
      if data.isOversized then .error .integerTooLarge else .ok () := by
  rw [checkValues_eq, List.any_map]
  · rfl
  · intro cell hcell
    obtain ⟨entry, he, rfl⟩ := List.mem_map.mp hcell
    exact h.storable entry he (hcolumns.subset (List.mem_map_of_mem he))

/-- A column that must be filled can be changed. -/
theorem changedRequired {α : Type} {column : String} {type : ColumnType}
    (htype : table.type? column = some type) {read : Cell → Option α}
    (hread : ∀ cell, type.canRead cell = true → (read cell).isSome = true) (current : α) :
    ∃ a, data.changedRequired table column current read = .ok a := by
  unfold Data.changedRequired
  cases hgiven : data.lookup column with
  | none => exact ⟨current, rfl⟩
  | some given =>
    obtain ⟨a, ha⟩ := Option.isSome_iff_exists.mp
      (hread given (h.readable _ (mem_of_lookup hgiven) type htype))
    simp only [ha]
    exact ⟨a, rfl⟩

/-- A column that is filled by the data of a new row can be read. -/
theorem filled {α : Type} {column : String} {type : ColumnType}
    (htype : table.type? column = some type) {read : Cell → Option α}
    (hread : ∀ cell, type.canRead cell = true → (read cell).isSome = true)
    (hnull : read .null = none) (hgiven : (data.lookup column).isSome = true) (fallback : Cell) :
    ∃ a, data.filled table column fallback read = .ok a := by
  obtain ⟨given, hgiven⟩ := Option.isSome_iff_exists.mp hgiven
  obtain ⟨a, ha⟩ := Option.isSome_iff_exists.mp
    (hread given (h.readable _ (mem_of_lookup hgiven) type htype))
  have hcell : data.cell column = given := by
    rw [Data.cell, hgiven, Option.getD_some]
  have hne : given ≠ .null := by
    rintro rfl
    cases ha.symm.trans hnull
  refine ⟨a, filled_eq_ok_iff.mpr ?_⟩
  rwa [Fills, hcell, if_neg hne]

end Suits

/-- **What is changed by harmless data that suits a table.** -/
theorem takenChanges_eq {table : TableName} {data : Data} (h : data.IsHarmless table)
    (hs : data.Suits table) {held : Data} (hheld : held.map Prod.fst = table.columns) :
    data.takenChanges table held =
      if (data.changes held).isOversized then .error .integerTooLarge
      else .ok (data.changes held) := by
  have hchanges := hs.changes held
  have hvalues := hchanges.checkValues (hheld ▸ changes_names data held)
  unfold takenChanges
  simp only [h.checkAssigned, hchanges.checkFlags, h.checkTime, hvalues, ok_bind]
  cases (data.changes held).isOversized <;> rfl

/-- A row is changed by harmless data that suits its table, if its columns can be. -/
theorem patched_of_suits {table : TableName} {data : Data} (h : data.IsHarmless table)
    (hs : data.Suits table) {held : Data} (hheld : held.map Prod.fst = table.columns)
    (hsmall : (data.changes held).isOversized = false) {ρ : Type}
    {change : Data → Except StoreFault ρ} {after : ρ}
    (hchange : change (data.changes held) = .ok after) :
    data.patched table held change = .ok after := by
  rw [patched_eq_ok_iff, takenChanges_eq h hs hheld, hsmall]
  exact ⟨rfl, hchange, h.checkKept⟩

end Data

/-! ## Destinations -/

namespace DestinationRow

theorem changeColumns_of_suits {changes : Data} (h : changes.Suits .destinations)
    (row : DestinationRow) : ∃ after, row.changeColumns changes = .ok after := by
  have hrequired : ∀ column (current : String),
      TableName.destinations.type? column = some .text →
        ∃ a, changes.changedRequired .destinations column current Cell.text? = .ok a :=
    fun _ current htype => h.changedRequired htype (fun _ hcell => hcell) current
  obtain ⟨name, hname⟩ := hrequired "name" row.name rfl
  obtain ⟨line, hline⟩ := hrequired "address_line1" row.addressLine1 rfl
  obtain ⟨city, hcity⟩ := hrequired "city" row.city rfl
  obtain ⟨state, hstate⟩ := hrequired "state" row.state rfl
  obtain ⟨code, hcode⟩ := hrequired "postal_code" row.postalCode rfl
  obtain ⟨country, hcountry⟩ := hrequired "country" row.country rfl
  obtain ⟨flag, hflag⟩ := h.changedRequired
    (rfl : TableName.destinations.type? "is_default" = some .flag) (fun _ hcell => hcell)
    row.isDefault
  unfold changeColumns
  simp only [hname, hline, hcity, hstate, hcode, hcountry, hflag, ok_bind]
  exact ⟨_, rfl⟩

section Patch

variable {data : Data} (h : data.IsHarmless .destinations) (hs : data.Suits .destinations)
  (row : DestinationRow)

include h hs

/-- **A destination is changed by harmless data that suits it**, if it is not too large. -/
theorem patch_of_suits (hsmall : (data.changes row.cells).isOversized = false) :
    ∃ after, row.patch data = .ok after := by
  obtain ⟨after, hafter⟩ := changeColumns_of_suits (hs.changes row.cells) row
  exact ⟨after, Data.patched_of_suits h hs rfl hsmall hafter⟩

end Patch

end DestinationRow

/-! ## Rules -/

namespace RuleRow

theorem changeColumns_of_suits {changes : Data} (h : changes.Suits .rules) (row : RuleRow) :
    ∃ after, row.changeColumns changes = .ok after := by
  have hrequired : ∀ column (current : String), TableName.rules.type? column = some .text →
      ∃ a, changes.changedRequired .rules column current Cell.text? = .ok a :=
    fun _ current htype => h.changedRequired htype (fun _ hcell => hcell) current
  obtain ⟨name, hname⟩ := hrequired "name" row.name rfl
  obtain ⟨priority, hpriority⟩ := h.changedRequired
    (rfl : TableName.rules.type? "priority" = some .integer) (fun _ hcell => hcell) row.priority
  obtain ⟨active, hactive⟩ := h.changedRequired
    (rfl : TableName.rules.type? "is_active" = some .flag) (fun _ hcell => hcell) row.isActive
  obtain ⟨kind, hkind⟩ := hrequired "condition_type" row.conditionType rfl
  obtain ⟨operand, hoperand⟩ := hrequired "condition_value" row.conditionValue rfl
  obtain ⟨destination, hdestination⟩ := hrequired "destination_id" row.destinationId rfl
  unfold changeColumns
  simp only [hname, hpriority, hactive, hkind, hoperand, hdestination, ok_bind]
  exact ⟨_, rfl⟩

section Patch

variable {data : Data} (h : data.IsHarmless .rules) (hs : data.Suits .rules) (row : RuleRow)

include h hs

/-- **A rule is changed by harmless data that suits it**, if it is not too large. -/
theorem patch_of_suits (hsmall : (data.changes row.cells).isOversized = false) :
    ∃ after, row.patch data = .ok after := by
  obtain ⟨after, hafter⟩ := changeColumns_of_suits (hs.changes row.cells) row
  exact ⟨after, Data.patched_of_suits h hs rfl hsmall hafter⟩

/-- A rule is not changed if an integer of the change is too large. -/
theorem patch_of_isOversized_changes (hlarge : (data.changes row.cells).isOversized = true) :
    row.patch data = .error .integerTooLarge := by
  rw [patch, Data.takenChanges_eq h hs rfl, hlarge]
  rfl

end Patch

end RuleRow

end Disposition
