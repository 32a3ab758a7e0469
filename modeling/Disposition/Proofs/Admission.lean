import Disposition.Proofs.Checks
import Disposition.Proofs.Form

/-!
# Rows from data within bounds

Data within the bounds of a table passes all checks of the store but one: the database takes
integers of 64 bits, and the bound of a priority does not say so. Such data makes a row if it fills
what has to be filled, and changes any row.

Results:
* `Data.Fits.isHarmless`, `Data.Fits.suits`: its names do no harm, and its cells suit the columns.
* `Data.Fits.checkGiven`, `Data.Fits.checkFilled`: the checks of a new row.
* `DestinationRow.ofData_of_fits`, `DestinationRow.patch_of_fits`: destinations.
* `RuleRow.ofData_of_fits`, `RuleRow.patch_of_fits`: rules, if the priority can be stored.
* `RuleRow.ofData_of_isOversized`, `RuleRow.patch_of_isOversized`: rules, if it cannot.
-/

namespace Disposition

/-! ## Cells -/

namespace Bound

variable {bound : Bound} {cell : Cell}

/-- A cell within a bound can be stored, unless it is too large. -/
theorem Holds.isStorable (h : bound.Holds cell) : cell.isStorable = !cell.isOversized := by
  cases h with
  | natural => exact (Bool.not_not _).symm
  | text | absent | present | flag | condition => rfl

theorem Holds.isOversized (h : bound.Holds cell) (hb : bound ≠ .natural) :
    cell.isOversized = false := by
  cases h with
  | natural => exact absurd rfl hb
  | text | absent | present | flag | condition => rfl

/-- The type of a column with a bound. -/
def columnType : Bound → ColumnType
  | text _ _ | condition => .text
  | optional => .optionalText
  | flag => .flag
  | natural => .integer

/-- Something can be read of a cell within a bound. -/
theorem Holds.canRead (h : bound.Holds cell) : bound.columnType.canRead cell = true := by
  cases h <;> rfl

end Bound

/-- A cell that is too large is no integer that can be stored. -/
theorem Cell.equal_of_isOversized {cell : Cell} {n : Int} (hcell : cell.isOversized = true)
    (hn : isWord n = true) : cell.equal (.integer n) = false := by
  cases cell with
  | integer m =>
    refine Bool.eq_false_iff.mpr fun he => ?_
    simp only [equal, exactValue?, decide_eq_true_eq, Exact.rational.injEq, Rat.intCast_inj] at he
    simp only [isOversized, he, hn] at hcell
    cases hcell
  | null | flag _ | real _ | text _ | compound _ _ => cases hcell

/-! ## Data -/

namespace TableName

theorem flag_bound {table : TableName} {column : String} (h : column ∈ table.flags) :
    table.bound? column = some .flag := by
  cases table <;> obtain rfl := List.mem_singleton.mp h <;> rfl

theorem natural_bound {table : TableName} {column : String}
    (h : table.bound? column = some .natural) : column = "priority" := by
  have hm := mem_of_lookup h
  cases table <;> simp_all [bounds]

theorem type?_of_bound? {table : TableName} {column : String} {bound : Bound}
    (h : table.bound? column = some bound) : table.type? column = some bound.columnType := by
  have htypes : table.types = table.bounds.map fun entry => (entry.1, entry.2.columnType) := by
    cases table <;> rfl
  refine lookup_of_mem table.nodup_types ?_
  rw [htypes]
  exact List.mem_map.mpr ⟨_, mem_of_lookup h, rfl⟩

end TableName

namespace Data

namespace Fits

variable {table : TableName} {data : Data} (h : data.Fits table) {column : String}
  {bound : Bound} {cell : Cell}

include h

theorem nodup : (data.map Prod.fst).Nodup :=
  h.names.nodup (TableName.nodup_columns table)

/-- What the data says of a column is within the bound of the column. -/
theorem holds (hb : table.bound? column = some bound) (hl : data.lookup column = some cell) :
    bound.Holds cell := by
  obtain ⟨other, ho, hholds⟩ := h.cells (mem_of_lookup hl)
  obtain rfl := Option.some.inj (hb.symm.trans ho)
  exact hholds

/-- The data says nothing of what is no column. -/
theorem lookup_eq_none (hc : column ∉ table.columns) : data.lookup column = none := by
  cases hl : data.lookup column with
  | none => rfl
  | some cell => exact absurd (h.names.subset (List.mem_map_of_mem (mem_of_lookup hl))) hc

theorem cell_eq_null (hc : column ∉ table.columns) : data.cell column = .null := by
  rw [cell, h.lookup_eq_none hc]
  rfl

theorem givenTime : data.givenTime = .ok none := by
  rw [Data.givenTime, h.cell_eq_null (by cases table <;> decide)]

theorem newId (fresh : Stamp) : data.newId table fresh = .ok fresh.id := by
  refine filled_eq_ok_iff.mpr ?_
  rw [Fills, if_pos (h.cell_eq_null (by cases table <;> decide))]
  rfl

/-- Nothing but columns is named. -/
theorem member {entry : String × Cell} (he : entry ∈ data) : table.member entry.1 = .column :=
  TableName.member_of_mem_columns (h.names.subset (List.mem_map_of_mem he))

/-- The names of the data do no harm. -/
theorem isHarmless : data.IsHarmless table where
  time entry he heq := by
    have hcolumn := h.names.subset (List.mem_map_of_mem he)
    rw [heq] at hcolumn
    exact absurd hcolumn (by cases table <;> decide)
  names entry he := by
    rw [h.member he]
    decide

theorem checkNew : data.checkNew table = .ok () := by
  rw [Data.checkNew, h.lookup_eq_none (by cases table <;> decide),
    h.lookup_eq_none (by cases table <;> decide), h.cell_eq_null (by cases table <;> decide),
    checkNames_of_columns fun _ => h.member]
  rfl

/-- A cell of the data can be stored, unless it is too large. -/
theorem isStorable (hm : (column, cell) ∈ data) : cell.isStorable = !cell.isOversized := by
  obtain ⟨bound, -, hholds⟩ := h.cells hm
  exact hholds.isStorable

/-- The cells of the data suit its columns. -/
theorem suits : data.Suits table where
  flags := fun ⟨column, cell⟩ he hflag => by
    have hholds := h.holds (TableName.flag_bound hflag) (lookup_of_mem h.nodup he)
    cases hholds
    rfl
  readable := fun ⟨column, cell⟩ he type htype => by
    obtain ⟨bound, hb, hholds⟩ := h.cells he
    obtain rfl := Option.some.inj ((TableName.type?_of_bound? hb).symm.trans htype)
    exact hholds.canRead
  storable := fun _ he _ => h.isStorable he

theorem checkGiven : data.checkGiven table = .ok () := by
  rw [Data.checkGiven, h.checkNew, ok_bind, h.suits.checkFlags, ok_bind, h.isHarmless.checkTime]

/-- Only the priority can be too large. -/
theorem eq_priority (hm : (column, cell) ∈ data) (hc : cell.isOversized = true) :
    column = "priority" := by
  obtain ⟨bound, hb, hholds⟩ := h.cells hm
  by_cases he : bound = .natural
  · exact TableName.natural_bound (he ▸ hb)
  · rw [hholds.isOversized he] at hc
    cases hc

/-- What is too large in the data is too large in a column. -/
theorem any_isOversized :
    ((table.columns ++ ["id"]).map data.cell).any (·.isOversized) = data.isOversized := by
  rw [Bool.eq_iff_iff, List.any_eq_true, isOversized_iff]
  constructor
  · rintro ⟨cell, hcell, hlarge⟩
    obtain ⟨column, -, rfl⟩ := List.mem_map.mp hcell
    rw [Data.cell] at hlarge
    cases hl : data.lookup column with
    | none =>
      rw [hl] at hlarge
      cases hlarge
    | some cell =>
      rw [hl] at hlarge
      exact ⟨column, cell, mem_of_lookup hl, hlarge⟩
  · rintro ⟨column, cell, hm, hlarge⟩
    refine ⟨cell, List.mem_map.mpr ⟨column, List.mem_append_left _ ?_, ?_⟩, hlarge⟩
    · exact h.names.subset (List.mem_map_of_mem hm)
    · rw [Data.cell, lookup_of_mem h.nodup hm]
      rfl

/-- The database takes the data of a new row, unless it is too large. -/
theorem checkFilled :
    data.checkFilled table = if data.isOversized then .error .integerTooLarge else .ok () := by
  have hstorable : ∀ cell ∈ (table.columns ++ ["id"]).map data.cell,
      cell.isStorable = !cell.isOversized := by
    intro cell hcell
    obtain ⟨column, -, rfl⟩ := List.mem_map.mp hcell
    rw [Data.cell]
    cases hl : data.lookup column with
    | none => rfl
    | some cell => exact h.isStorable (mem_of_lookup hl)
  rw [Data.checkFilled, checkValues_eq hstorable, h.any_isOversized]

/-- A row of such data is made at the time that is issued. -/
theorem made {ρ : Type} (fresh : Stamp) (make : Stamp → Except StoreFault ρ) :
    data.made fresh make = make fresh := by
  rw [Data.made, h.givenTime, ok_bind, h.isHarmless.amend]
  rfl

end Fits

end Data

/-! ## Destinations -/

namespace DestinationRow

variable {data : Data} (h : data.Fits .destinations)

include h

theorem not_isOversized : data.isOversized = false := by
  rw [Bool.eq_false_iff]
  intro hlarge
  obtain ⟨column, cell, hm, hcell⟩ := Data.isOversized_iff.mp hlarge
  obtain rfl := h.eq_priority hm hcell
  have hcolumn : "priority" ∈ TableName.destinations.columns :=
    h.names.subset (List.mem_map_of_mem hm)
  exact absurd hcolumn (by decide)

/-- A new destination from such data has the fresh identifier. -/
theorem key_of_fits {shop : String} {fresh : Stamp} {row : DestinationRow}
    (hrow : ofData shop fresh data = .ok row) : Table.key row = (fresh.id, shop) := by
  obtain ⟨hshop, -, hid, -⟩ := ofData_ok hrow
  rw [h.newId, Except.ok.injEq] at hid
  exact (congrArg₂ Prod.mk hid hshop.symm).symm

/-- **A new destination from data within bounds.** -/
theorem ofData_of_fits (hall : data.IsComplete .destinations) (shop : String) (fresh : Stamp) :
    ∃ row, ofData shop fresh data = .ok row ∧ row.id = fresh.id := by
  have hfilled := h.checkFilled
  rw [not_isOversized h] at hfilled
  have hrequired : ∀ column, column ∈ TableName.destinations.columns →
      TableName.destinations.type? column = some .text →
        ∃ a, data.required .destinations column = .ok a := fun column hc htype =>
    h.suits.filled htype (fun _ hcell => hcell) rfl (hall column hc) .null
  obtain ⟨name, hname⟩ := hrequired "name" (by decide) rfl
  obtain ⟨line, hline⟩ := hrequired "address_line1" (by decide) rfl
  obtain ⟨city, hcity⟩ := hrequired "city" (by decide) rfl
  obtain ⟨state, hstate⟩ := hrequired "state" (by decide) rfl
  obtain ⟨code, hcode⟩ := hrequired "postal_code" (by decide) rfl
  obtain ⟨country, hcountry⟩ := h.suits.filled
    (rfl : TableName.destinations.type? "country" = some .text) (fun _ hcell => hcell) rfl
    (hall "country" (by decide)) (.text "US")
  obtain ⟨flag, hflag⟩ := h.suits.filled
    (rfl : TableName.destinations.type? "is_default" = some .flag) (fun _ hcell => hcell) rfl
    (hall "is_default" (by decide)) (.flag false)
  unfold ofData
  simp only [h.checkGiven, hfilled, hname, hline, hcity, hstate, hcode,
    hcountry, hflag, h.newId fresh, ok_bind, Bool.false_eq_true, if_false]
  exact ⟨_, rfl, rfl⟩

/-- **A destination changed by data within bounds.** -/
theorem patch_of_fits (row : DestinationRow) : ∃ after, row.patch data = .ok after :=
  patch_of_suits h.isHarmless h.suits row (Data.isOversized_changes (not_isOversized h))

end DestinationRow

/-! ## Rules -/

namespace RuleRow

variable {data : Data} (h : data.Fits .rules)

include h

section New

variable (shop : String) (fresh : Stamp)

/-- **A new rule from data within bounds**, if the priority can be stored. -/
theorem ofData_of_fits (hall : data.IsComplete .rules) (hsmall : data.isOversized = false) :
    ∃ row, ofData shop fresh data = .ok row ∧ row.id = fresh.id := by
  have hfilled := h.checkFilled
  rw [hsmall] at hfilled
  have hrequired : ∀ column, column ∈ TableName.rules.columns →
      TableName.rules.type? column = some .text → ∃ a, data.required .rules column = .ok a :=
    fun column hc htype => h.suits.filled htype (fun _ hcell => hcell) rfl (hall column hc) .null
  obtain ⟨name, hname⟩ := hrequired "name" (by decide) rfl
  obtain ⟨priority, hpriority⟩ := h.suits.filled
    (rfl : TableName.rules.type? "priority" = some .integer) (fun _ hcell => hcell) rfl
    (hall "priority" (by decide)) (.integer 0)
  obtain ⟨active, hactive⟩ := h.suits.filled
    (rfl : TableName.rules.type? "is_active" = some .flag) (fun _ hcell => hcell) rfl
    (hall "is_active" (by decide)) (.flag true)
  obtain ⟨kind, hkind⟩ := hrequired "condition_type" (by decide) rfl
  obtain ⟨operand, hoperand⟩ := hrequired "condition_value" (by decide) rfl
  obtain ⟨destination, hdestination⟩ := hrequired "destination_id" (by decide) rfl
  unfold ofData
  simp only [h.checkGiven, hfilled, hname, hpriority, hactive, hkind, hoperand, hdestination,
    h.newId fresh, ok_bind, Bool.false_eq_true, if_false]
  exact ⟨_, rfl, rfl⟩

/-- A new rule whose priority is too large. -/
theorem ofData_of_isOversized (hlarge : data.isOversized = true) :
    ofData shop fresh data = .error .integerTooLarge := by
  have hfilled := h.checkFilled
  rw [hlarge] at hfilled
  unfold ofData
  simp only [h.checkGiven, hfilled, ok_bind, if_true]
  rfl

end New

/-- A new rule from such data has the fresh identifier. -/
theorem key_of_fits {shop : String} {fresh : Stamp} {row : RuleRow}
    (hrow : ofData shop fresh data = .ok row) : Table.key row = (fresh.id, shop) := by
  obtain ⟨hshop, -, hid, -⟩ := ofData_ok hrow
  rw [h.newId, Except.ok.injEq] at hid
  exact (congrArg₂ Prod.mk hid hshop.symm).symm

/-- **A rule changed by data within bounds**, if the priority can be stored. -/
theorem patch_of_fits (hsmall : data.isOversized = false) (row : RuleRow) :
    ∃ after, row.patch data = .ok after :=
  patch_of_suits h.isHarmless h.suits row (Data.isOversized_changes hsmall)

section TooLarge

variable (hlarge : data.isOversized = true) {row : RuleRow} {n : Int}
  (hn : row.priority = .integer n) (hword : isWord n = true)

include hlarge hn hword

/-- A priority that is too large changes one that can be stored. -/
theorem isOversized_changes_cells : (data.changes row.cells).isOversized = true := by
  obtain ⟨column, cell, hm, hcell⟩ := Data.isOversized_iff.mp hlarge
  obtain rfl := h.eq_priority hm hcell
  have hl : row.cells.lookup "priority" = some (.integer n) :=
    congrArg (fun p => some (Cell.ofPriority p)) hn
  have hlookup := Data.lookup_changes (cells_nodup row) data "priority"
  rw [hl, lookup_of_mem h.nodup hm, Option.bind_some, Option.bind_some,
    Cell.equal_of_isOversized hcell hword] at hlookup
  exact Data.isOversized_iff.mpr ⟨"priority", cell, mem_of_lookup hlookup, hcell⟩

/-- A rule whose priority is to become too large, if it is an integer that can be stored. -/
theorem patch_of_isOversized : row.patch data = .error .integerTooLarge :=
  patch_of_isOversized_changes h.isHarmless h.suits row
    (isOversized_changes_cells h hlarge hn hword)

end TooLarge

end RuleRow

end Disposition
