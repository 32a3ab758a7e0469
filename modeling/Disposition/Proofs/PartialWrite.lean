import Disposition.Proofs.Checks
import Disposition.Proofs.Run

/-!
# Partial writes

An update writes the columns that its data names, in one row, and nothing else: what else the row
holds stays, and so do its identifier, its shop and its time, whatever the data says of them. The
other rows of both tables stay too, with one exception: if the data flags a destination as the
default, the others of the shop lose the flag. Once more the same update changes nothing.

This is so if the cells have the types of the columns that they are for. A column of texts keeps a
number as its text, which is not the cell that was given. One difference is left: a priority may be
held as a double, which came from data of another type, and if the integer that is given has the
same value, the double stays.

Results:
* `ColumnType.Keeps`: what a column of some type keeps of a cell of that type.
* `Data.Overwrites`: the cells of a row after a partial write.
* `DestinationRow.overwrites_of_patch`, `RuleRow.overwrites_of_patch`: a change is a partial write.
* `Data.changes_eq_nil_of_overwrites`: after a partial write there is nothing left to change.
* `DestinationRow.patch_of_isStorable`, `RuleRow.patch_of_isStorable`: which data is taken.
* `Store.update_isPartialWrite`: what an update does, for both tables.
-/

namespace Disposition

/-! ## Types of columns -/

/-- The cell is of that type. -/
def ColumnType.admits : ColumnType → Cell → Bool
  | text, .text _ | optionalText, .text _ | optionalText, .null | integer, .integer _
  | flag, .flag _ => true
  | _, _ => false

/-- The cells of the data have the types of the columns that they are for. Other names may have any
cells. -/
def Data.HasTypes (table : TableName) (data : Data) : Prop :=
  ∀ entry ∈ data, (table.type? entry.1).all (·.admits entry.2) = true

instance (table : TableName) : DecidablePred (Data.HasTypes table) := fun data =>
  inferInstanceAs (Decidable (∀ entry ∈ data, _))

section HasTypes

variable {table : TableName} {data : Data} (h : data.HasTypes table) {column : String}
  {type : ColumnType} (htype : table.type? column = some type) {cell : Cell}

include h htype

theorem Data.HasTypes.admits_of_mem (hcell : (column, cell) ∈ data) : type.admits cell = true := by
  have hall := h _ hcell
  rwa [htype, Option.all_some] at hall

theorem Data.HasTypes.admits (hcell : data.lookup column = some cell) :
    type.admits cell = true :=
  h.admits_of_mem htype (mem_of_lookup hcell)

end HasTypes

/-! ## What columns keep -/

/-- The cell is held as it is, or as a double that is equal to it. -/
def Cell.IsHeldAs (given stored : Cell) : Prop :=
  given.equal stored = true ∧ (stored = given ∨ ∃ d, stored = .real d)

namespace ColumnType

variable {type : ColumnType} {given : Cell}

theorem equal_self (h : type.admits given = true) : given.equal given = true := by
  cases given with
  | null => rfl
  | text s => exact decide_eq_true rfl
  | integer n => exact decide_eq_true rfl
  | flag b => exact decide_eq_true rfl
  | real d => cases type <;> cases h
  | compound kind present => cases type <;> cases h

theorem isHeldAs_self (h : type.admits given = true) : given.IsHeldAs given :=
  ⟨equal_self h, .inl rfl⟩

theorem isFlag (h : ColumnType.flag.admits given = true) : given.isFlag = true := by
  cases given with
  | flag b => rfl
  | null | integer _ | text _ | real _ | compound _ _ => cases h

/-- Something can be read of a cell of a type. -/
theorem canRead_of_admits (h : type.admits given = true) : type.canRead given = true := by
  cases type <;> cases given <;> first | rfl | cases h

/-- Of cells with types the database refuses integers that are too large. -/
theorem isStorable (h : type.admits given = true) : given.isStorable = !given.isOversized := by
  cases given with
  | null | text _ | flag _ | real _ => rfl
  | integer n => exact (Bool.not_not _).symm
  | compound kind present => cases type <;> cases h

/-- A column of a type keeps the cells of the type: what it reads of one, it holds as the cell, and
what it holds already it holds as the cell, too, if it is equal to it. -/
structure Keeps {α : Type} (type : ColumnType) (read : Cell → Option α) (toCell : α → Cell) :
    Prop where
  /-- What is read of a cell is held as the cell. -/
  read : ∀ {given a}, type.admits given = true → read given = some a → toCell a = given
  /-- What is equal to a cell is held as the cell. -/
  equal : ∀ {given a}, type.admits given = true → given.equal (toCell a) = true →
    toCell a = given ∨ ∃ d, toCell a = .real d

theorem Keeps.text : ColumnType.text.Keeps Cell.text? Cell.text where
  read {given a} h hread := by
    cases given with
    | text s => exact congrArg Cell.text (Option.some.inj hread).symm
    | null | flag _ | integer _ | real _ | compound _ _ => cases h
  equal {given a} h heq := by
    cases given with
    | text s => exact .inl (congrArg Cell.text (of_decide_eq_true heq).symm)
    | null | flag _ | integer _ | real _ | compound _ _ => cases h

theorem Keeps.optionalText :
    ColumnType.optionalText.Keeps (fun cell => some cell.text?) Cell.ofText? where
  read {given a} h hread := by
    cases given with
    | null | text _ =>
      obtain rfl := Option.some.inj hread
      rfl
    | flag _ | integer _ | real _ | compound _ _ => cases h
  equal {given a} h heq := by
    cases given with
    | null =>
      cases a with
      | none => exact .inl rfl
      | some s => cases heq
    | text s =>
      cases a with
      | none => cases heq
      | some t => exact .inl (congrArg Cell.text (of_decide_eq_true heq).symm)
    | flag _ | integer _ | real _ | compound _ _ => cases h

theorem Keeps.integer : ColumnType.integer.Keeps Cell.priority? Cell.ofPriority where
  read {given a} h hread := by
    cases given with
    | integer n =>
      obtain rfl := Option.some.inj hread
      rfl
    | null | flag _ | text _ | real _ | compound _ _ => cases h
  equal {given a} h heq := by
    cases given with
    | integer n =>
      cases a with
      | integer m =>
        have hvalue : (Exact.rational n) = .rational m := of_decide_eq_true heq
        rw [Exact.rational.injEq, Rat.intCast_inj] at hvalue
        exact .inl (congrArg Cell.integer hvalue.symm)
      | real d => exact .inr ⟨d, rfl⟩
      | text s => cases heq
    | null | flag _ | text _ | real _ | compound _ _ => cases h

theorem Keeps.flag : ColumnType.flag.Keeps Cell.flag? Cell.flag where
  read {given a} h hread := by
    cases given with
    | flag b => exact congrArg Cell.flag (Option.some.inj hread).symm
    | null | integer _ | text _ | real _ | compound _ _ => cases h
  equal {given a} h heq := by
    cases given with
    | flag b =>
      refine .inl (congrArg Cell.flag ?_)
      cases a <;> cases b <;> first | rfl | cases heq
    | null | integer _ | text _ | real _ | compound _ _ => cases h

end ColumnType

/-! ## Partial writes of cells -/

namespace Data

/-- What a column holds after a partial write: the cell that the data gives, or what it held if the
data does not name it. -/
def OverwritesCell (data : Data) (column : String) (held stored : Cell) : Prop :=
  match data.lookup column with
  | some given => given.IsHeldAs stored
  | none => stored = held

/-- The cells of a row after a partial write, column by column. -/
def Overwrites (data held after : Data) : Prop :=
  held.Forall₂ (fun entry stored => stored.1 = entry.1 ∧
    data.OverwritesCell entry.1 entry.2 stored.2) after

/-- **A column takes the cell that it is given**, if the cell has the type of the column. -/
theorem overwritesCell_of_turns {α : Type} {table : TableName} {data : Data}
    (ht : data.HasTypes table) {column : String} {type : ColumnType}
    (htype : table.type? column = some type)
    {read : Cell → Option α} {toCell : α → Cell} (hkeeps : type.Keeps read toCell)
    {current after : α} (h : data.Turns column (toCell current) read current after) :
    data.OverwritesCell column (toCell current) (toCell after) := by
  unfold Turns at h
  unfold OverwritesCell
  cases hgiven : data.lookup column with
  | none =>
    rw [hgiven] at h
    exact congrArg toCell h
  | some given =>
    have hadmits := ht.admits htype hgiven
    simp only [hgiven] at h ⊢
    split at h
    · rename_i hequal
      rw [h]
      exact ⟨hequal, hkeeps.equal hadmits hequal⟩
    · rw [hkeeps.read hadmits h]
      exact ColumnType.isHeldAs_self hadmits

/-- **After a partial write there is nothing left to change.** -/
theorem changes_eq_nil_of_overwrites {data held after : Data} (h : data.Overwrites held after) :
    data.changes after = [] := by
  induction h with
  | nil => rfl
  | @cons entry stored held after hentry _ ih =>
    obtain ⟨column, cell⟩ := stored
    obtain ⟨rfl, hwrites⟩ := hentry
    unfold OverwritesCell at hwrites
    rw [changes_cons, ih]
    cases hgiven : data.lookup entry.1 with
    | none => rfl
    | some given =>
      rw [hgiven] at hwrites
      simp only [Option.bind_some, if_pos hwrites.1]
      rfl

end Data

/-! ## Changed rows -/

namespace DestinationRow

/-- **A change of a destination is a partial write.** -/
theorem overwrites_of_patch {row after : DestinationRow} {data : Data}
    (ht : data.HasTypes .destinations) (h : row.patch data = .ok after) :
    data.Overwrites row.cells after.cells := by
  obtain ⟨-, -, hchanged⟩ := patch_ok h
  exact .cons ⟨rfl, Data.overwritesCell_of_turns ht rfl .text hchanged.name⟩ <|
    .cons ⟨rfl, Data.overwritesCell_of_turns ht rfl .text hchanged.addressLine1⟩ <|
    .cons ⟨rfl, Data.overwritesCell_of_turns ht rfl .optionalText hchanged.addressLine2⟩ <|
    .cons ⟨rfl, Data.overwritesCell_of_turns ht rfl .text hchanged.city⟩ <|
    .cons ⟨rfl, Data.overwritesCell_of_turns ht rfl .text hchanged.state⟩ <|
    .cons ⟨rfl, Data.overwritesCell_of_turns ht rfl .text hchanged.postalCode⟩ <|
    .cons ⟨rfl, Data.overwritesCell_of_turns ht rfl .text hchanged.country⟩ <|
    .cons ⟨rfl, Data.overwritesCell_of_turns ht rfl .optionalText hchanged.phone⟩ <|
    .cons ⟨rfl, Data.overwritesCell_of_turns ht rfl .flag hchanged.isDefault⟩ .nil

end DestinationRow

namespace RuleRow

/-- **A change of a rule is a partial write.** -/
theorem overwrites_of_patch {row after : RuleRow} {data : Data} (ht : data.HasTypes .rules)
    (h : row.patch data = .ok after) : data.Overwrites row.cells after.cells := by
  obtain ⟨-, -, hchanged⟩ := patch_ok h
  exact .cons ⟨rfl, Data.overwritesCell_of_turns ht rfl .text hchanged.name⟩ <|
    .cons ⟨rfl, Data.overwritesCell_of_turns ht rfl .integer hchanged.priority⟩ <|
    .cons ⟨rfl, Data.overwritesCell_of_turns ht rfl .flag hchanged.isActive⟩ <|
    .cons ⟨rfl, Data.overwritesCell_of_turns ht rfl .text hchanged.conditionType⟩ <|
    .cons ⟨rfl, Data.overwritesCell_of_turns ht rfl .text hchanged.conditionValue⟩ <|
    .cons ⟨rfl, Data.overwritesCell_of_turns ht rfl .text hchanged.destinationId⟩ .nil

end RuleRow

/-! ## Data that is taken -/

/-- Types aside, nothing is wrong with the data: it names nothing that a row refuses or that the
service misses afterwards, and its integers take at most 64 bits. -/
structure Data.IsStorable (table : TableName) (data : Data) : Prop extends
    data.IsHarmless table where
  /-- The integers take at most 64 bits. -/
  words : data.isOversized = false

/-- Cells of the right types suit the columns. -/
theorem Data.HasTypes.suits {table : TableName} {data : Data} (ht : data.HasTypes table) :
    data.Suits table where
  flags := fun _ he hflag =>
    ColumnType.isFlag (ht.admits_of_mem (TableName.type?_of_mem_flags hflag) he)
  readable := fun _ he _ htype => ColumnType.canRead_of_admits (ht.admits_of_mem htype he)
  storable := fun _ he hcolumn => by
    obtain ⟨type, htype⟩ := Option.isSome_iff_exists.mp (TableName.type?_isSome hcolumn)
    exact ColumnType.isStorable (ht.admits_of_mem htype he)

section Storable

variable {data : Data}

/-- **A destination is changed by data that can be stored**, with cells of the right types. -/
theorem DestinationRow.patch_of_isStorable (hp : data.IsStorable .destinations)
    (ht : data.HasTypes .destinations) (row : DestinationRow) :
    ∃ after, row.patch data = .ok after :=
  patch_of_suits hp.toIsHarmless ht.suits row (Data.isOversized_changes hp.words)

/-- **A rule is changed by data that can be stored**, with cells of the right types. -/
theorem RuleRow.patch_of_isStorable (hp : data.IsStorable .rules) (ht : data.HasTypes .rules)
    (row : RuleRow) : ∃ after, row.patch data = .ok after :=
  patch_of_suits hp.toIsHarmless ht.suits row (Data.isOversized_changes hp.words)

end Storable

/-! ## Rows beside a changed one -/

namespace DestinationRow

/-- A row while another one is changed, if that one keeps its identifier. -/
theorem settle_eq (data : Data) (shop : String) {id : String} {row : DestinationRow}
    (hid : row.id = id) (other : DestinationRow) :
    settle data shop id row other =
      if other.id = id then row
      else if data.flagsDefault = true ∧ other.shop = shop then other.withoutFlag else other := by
  have hsame : (giveWay data shop (some id) other).id = other.id := by
    unfold giveWay
    split <;> rfl
  unfold settle Table.put
  change (if (giveWay data shop (some id) other).id = row.id then row else _) = _
  rw [hsame, hid]
  refine ite_congr rfl (fun _ => rfl) fun hne => ?_
  unfold giveWay
  simp [Ne.symm hne]

theorem settle_settle (data : Data) (shop : String) {id : String} {row : DestinationRow}
    (hid : row.id = id) (other : DestinationRow) :
    settle data shop id row (settle data shop id row other) = settle data shop id row other := by
  simp only [settle_eq data shop hid]
  split_ifs <;> simp_all [withoutFlag]

end DestinationRow

/-! ## Updates -/

namespace Store

open DestinationRow (replace_giveWay settle settle_eq settle_keeps settle_settle)

/-- A destination was updated by data, and nothing else was changed but the flags of the others. -/
structure UpdatesDestination (store : Store) (data : Data) (old row : DestinationRow)
    (after : Store) : Prop where
  /-- The identifier stays. -/
  id : row.id = old.id
  /-- The shop stays. -/
  shop : row.shop = old.shop
  /-- The time stays. -/
  createdAt : row.createdAt = old.createdAt
  /-- The columns that the data names are written, the others stay. -/
  cells : data.Overwrites old.cells row.cells
  /-- The other destinations stay, but for those of the shop that lose the flag to this one. -/
  destinations : after.destinations = store.destinations.map fun other =>
    if other.id = old.id then row
    else if data.flagsDefault = true ∧ other.shop = old.shop then other.withoutFlag else other
  /-- The rules stay. -/
  rules : after.rules = store.rules

/-- A rule was updated by data, and nothing else was changed. -/
structure UpdatesRule (store : Store) (data : Data) (old row : RuleRow) (after : Store) :
    Prop where
  /-- The identifier stays. -/
  id : row.id = old.id
  /-- The shop stays. -/
  shop : row.shop = old.shop
  /-- The time stays. -/
  createdAt : row.createdAt = old.createdAt
  /-- The columns that the data names are written, the others stay. -/
  cells : data.Overwrites old.cells row.cells
  /-- The other rules stay. -/
  rules : after.rules = store.rules.map fun other => if other.id = old.id then row else other
  /-- The destinations stay. -/
  destinations : after.destinations = store.destinations

variable {store : Store} {data : Data}

theorem updateDestination_isOk (hs : store.Sound) {old : DestinationRow}
    (hold : old ∈ store.destinations) (hp : data.IsStorable .destinations)
    (ht : data.HasTypes .destinations) {fresh : Stamp} :
    ((Operation.updateDestination old.shop old.id data).perform fresh store).1.isOk = true := by
  have hfound : store.destination? old.shop old.id = some old :=
    Table.find?_of_mem hs.destinations hold rfl
  obtain ⟨row, hpatch⟩ := DestinationRow.patch_of_isStorable hp ht old
  simp only [Operation.perform_updateDestination, hfound, hpatch, hp.toIsHarmless.amend]
  rfl

theorem exists_updatesDestination (hs : store.Sound) {old : DestinationRow}
    (hold : old ∈ store.destinations) (ht : data.HasTypes .destinations) {fresh : Stamp}
    (hok : ((Operation.updateDestination old.shop old.id data).perform fresh store).1.isOk = true) :
    ∃ row after, (Operation.updateDestination old.shop old.id data).perform fresh store =
        (.ok (.destination (some row), []), after) ∧
      store.UpdatesDestination data old row after ∧
      ∀ again, (Operation.updateDestination old.shop old.id data).perform again after =
        (.ok (.destination (some row), []), after) := by
  have hfound : store.destination? old.shop old.id = some old :=
    Table.find?_of_mem hs.destinations hold rfl
  cases hamend : data.amend (old.patch data) with
  | error fault =>
    simp only [Operation.perform_updateDestination, hfound, hamend] at hok
    cases hok
  | ok row =>
    have hpatch := Data.amend_ok hamend
    obtain ⟨hkey, htime, -⟩ := DestinationRow.patch_ok hpatch
    have hid : row.id = old.id := congrArg Prod.fst hkey
    have hshop : row.shop = old.shop := congrArg Prod.snd hkey
    have hwrites := DestinationRow.overwrites_of_patch ht hpatch
    let after : Store :=
      { store with destinations := store.destinations.map (settle data old.shop old.id row) }
    have hperform : (Operation.updateDestination old.shop old.id data).perform fresh store =
        (.ok (.destination (some row), []), after) := by
      simp only [Operation.perform_updateDestination, hfound, hamend, replace_giveWay, after]
    refine ⟨row, after, hperform, ⟨hid, hshop, htime, hwrites, ?_, rfl⟩, fun again => ?_⟩
    · exact List.map_congr_left fun other _ => settle_eq data old.shop hid other
    · -- the row is found again, there is nothing left to change, and the others gave way already
      have hagain : after.destination? old.shop old.id = some row := by
        refine Table.find?_of_mem (Table.distinct_map
          (settle_keeps hs.destinations hold rfl hkey) hs.destinations) ?_ hkey
        exact List.mem_map.mpr
          ⟨old, hold, (settle_eq data old.shop hid old).trans (if_pos rfl)⟩
      have hsame := Data.amend_again hamend
        (DestinationRow.patch_of_changes_eq_nil hpatch (Data.changes_eq_nil_of_overwrites hwrites))
      have hsettled : after.destinations.map (settle data old.shop old.id row) =
          after.destinations := by
        rw [List.map_map]
        exact List.map_congr_left fun other _ => settle_settle data old.shop hid other
      simp only [Operation.perform_updateDestination, hagain, hsame, replace_giveWay, hsettled]

theorem updateRule_isOk (hs : store.Sound) {old : RuleRow} (hold : old ∈ store.rules)
    (hp : data.IsStorable .rules) (ht : data.HasTypes .rules) {fresh : Stamp} :
    ((Operation.updateRule old.shop old.id data).perform fresh store).1.isOk = true := by
  have hfound : store.rule? old.shop old.id = some old := Table.find?_of_mem hs.rules hold rfl
  obtain ⟨row, hpatch⟩ := RuleRow.patch_of_isStorable hp ht old
  simp only [Operation.perform_updateRule, hfound, hpatch, hp.toIsHarmless.amend]
  rfl

theorem exists_updatesRule (hs : store.Sound) {old : RuleRow} (hold : old ∈ store.rules)
    (ht : data.HasTypes .rules) {fresh : Stamp}
    (hok : ((Operation.updateRule old.shop old.id data).perform fresh store).1.isOk = true) :
    ∃ row after, (Operation.updateRule old.shop old.id data).perform fresh store =
        (.ok (.rule (some row), []), after) ∧
      store.UpdatesRule data old row after ∧
      ∀ again, (Operation.updateRule old.shop old.id data).perform again after =
        (.ok (.rule (some row), []), after) := by
  have hfound : store.rule? old.shop old.id = some old := Table.find?_of_mem hs.rules hold rfl
  cases hamend : data.amend (old.patch data) with
  | error fault =>
    simp only [Operation.perform_updateRule, hfound, hamend] at hok
    cases hok
  | ok row =>
    have hpatch := Data.amend_ok hamend
    obtain ⟨hkey, htime, -⟩ := RuleRow.patch_ok hpatch
    have hid : row.id = old.id := congrArg Prod.fst hkey
    have hshop : row.shop = old.shop := congrArg Prod.snd hkey
    have hwrites := RuleRow.overwrites_of_patch ht hpatch
    let after : Store := { store with rules := Table.replace store.rules row }
    have hperform : (Operation.updateRule old.shop old.id data).perform fresh store =
        (.ok (.rule (some row), []), after) := by
      simp only [Operation.perform_updateRule, hfound, hamend, after]
    refine ⟨row, after, hperform, ⟨hid, hshop, htime, hwrites, ?_, rfl⟩, fun again => ?_⟩
    · rw [← hid]
      rfl
    · have hagain : after.rule? old.shop old.id = some row :=
        Table.find?_of_mem (Table.distinct_map (Table.put_keeps hs.rules hold hkey) hs.rules)
          ((Table.mem_replace hold hid).mpr (.inl rfl)) hkey
      have hsame := Data.amend_again hamend
        (RuleRow.patch_of_changes_eq_nil hpatch (Data.changes_eq_nil_of_overwrites hwrites))
      simp only [Operation.perform_updateRule, hagain, hsame, after, Table.replace_replace]

/-- **An update is a partial write that can be made again.** In a reachable store an identifier that
is not that of a row of the shop updates nothing. Else data with cells of the right types is taken
if it can be stored, and if it is taken, it is written into the row that is named, column by column,
and no other row changes but for the flags of the shop's other destinations. The same update leaves
the store behind as it is then. -/
theorem update_isPartialWrite (hr : store.Reachable) (shop id : String) (data : Data)
    (fresh : Stamp) :
    (((∀ row ∈ store.destinations, row.id = id → row.shop ≠ shop) →
        (Operation.updateDestination shop id data).perform fresh store =
          (.ok (.destination none, []), store)) ∧
      ∀ old ∈ store.destinations, old.id = id → old.shop = shop → data.HasTypes .destinations →
        (data.IsStorable .destinations →
          ((Operation.updateDestination shop id data).perform fresh store).1.isOk = true) ∧
        (((Operation.updateDestination shop id data).perform fresh store).1.isOk = true →
          ∃ row after, (Operation.updateDestination shop id data).perform fresh store =
              (.ok (.destination (some row), []), after) ∧
            store.UpdatesDestination data old row after ∧
            ∀ again, (Operation.updateDestination shop id data).perform again after =
              (.ok (.destination (some row), []), after))) ∧
      ((∀ row ∈ store.rules, row.id = id → row.shop ≠ shop) →
        (Operation.updateRule shop id data).perform fresh store = (.ok (.rule none, []), store)) ∧
      ∀ old ∈ store.rules, old.id = id → old.shop = shop → data.HasTypes .rules →
        (data.IsStorable .rules →
          ((Operation.updateRule shop id data).perform fresh store).1.isOk = true) ∧
        (((Operation.updateRule shop id data).perform fresh store).1.isOk = true →
          ∃ row after, (Operation.updateRule shop id data).perform fresh store =
              (.ok (.rule (some row), []), after) ∧
            store.UpdatesRule data old row after ∧
            ∀ again, (Operation.updateRule shop id data).perform again after =
              (.ok (.rule (some row), []), after)) := by
  refine ⟨⟨fun hnone => ?_, ?_⟩, fun hnone => ?_, ?_⟩
  · rw [Operation.perform_updateDestination, destination?, Table.find?_eq_none hnone]
  · rintro old hold rfl rfl ht
    exact ⟨fun hp => updateDestination_isOk hr.sound hold hp ht,
      exists_updatesDestination hr.sound hold ht⟩
  · rw [Operation.perform_updateRule, rule?, Table.find?_eq_none hnone]
  · rintro old hold rfl rfl ht
    exact ⟨fun hp => updateRule_isOk hr.sound hold hp ht, exists_updatesRule hr.sound hold ht⟩

/-- Two shops have destinations, one of them two and a rule. -/
def placesAndRule : Store :=
  Store.after {} [⟨.named "", .createDestination "acme" (.ofPlace "d1" true)⟩,
    ⟨.named "", .createDestination "acme" (.ofPlace "d2" false)⟩,
    ⟨.named "", .createDestination "globex" (.ofPlace "d3" true)⟩,
    ⟨.named "", .createRule "acme" (.ofShoes "r1" (.integer 1) "d1")⟩]

/-- Data that flags a destination, takes its telephone number away, and names what stays and what no
row has. -/
def flagged : Data :=
  [("is_default", .flag true), ("phone", .null), ("id", .text "d9"), ("color", .integer 7)]

/-- A destination of the shop is flagged, and a rule gets another priority. Those of another shop
are not there for it. -/
theorem update_isPartialWrite_placesAndRule :
    (Operation.updateDestination "acme" "d3" flagged).perform (.named "") placesAndRule =
        (.ok (.destination none, []), placesAndRule) ∧
      (∃ old row after, old.id = "d2" ∧ placesAndRule.UpdatesDestination flagged old row after ∧
        (Operation.updateDestination "acme" "d2" flagged).perform (.named "") placesAndRule =
          (.ok (.destination (some row), []), after) ∧
        (Operation.updateDestination "acme" "d2" flagged).perform (.named "") after =
          (.ok (.destination (some row), []), after)) ∧
      (Operation.updateRule "globex" "r1" [("priority", .integer 2)]).perform (.named "")
          placesAndRule = (.ok (.rule none, []), placesAndRule) ∧
      ∃ old row after, old.id = "r1" ∧
        placesAndRule.UpdatesRule [("priority", .integer 2)] old row after ∧
        (Operation.updateRule "acme" "r1" [("priority", .integer 2)]).perform (.named "")
            placesAndRule = (.ok (.rule (some row), []), after) ∧
        (Operation.updateRule "acme" "r1" [("priority", .integer 2)]).perform (.named "") after =
          (.ok (.rule (some row), []), after) := by
  have hr : placesAndRule.Reachable := Reachable.empty.after _
  obtain ⟨place, hplace, hplaceId, hplaceShop⟩ :
      ∃ row ∈ placesAndRule.destinations, row.id = "d2" ∧ row.shop = "acme" := by decide +kernel
  obtain ⟨rule, hrule, hruleId, hruleShop⟩ :
      ∃ row ∈ placesAndRule.rules, row.id = "r1" ∧ row.shop = "acme" := by decide +kernel
  have hplaceTaken := (update_isPartialWrite hr "acme" "d2" flagged (.named "")).1.2 place hplace
    hplaceId hplaceShop (by decide +kernel)
  have hruleTaken := (update_isPartialWrite hr "acme" "r1" [("priority", .integer 2)]
    (.named "")).2.2 rule hrule hruleId hruleShop (by decide +kernel)
  obtain ⟨row, after, hperform, hupdates, hagain⟩ := hplaceTaken.2 (hplaceTaken.1
    ⟨⟨by decide +kernel, by decide +kernel⟩, by decide +kernel⟩)
  obtain ⟨ruleRow, ruleAfter, hrulePerform, hruleUpdates, hruleAgain⟩ := hruleTaken.2 (hruleTaken.1
    ⟨⟨by decide +kernel, by decide +kernel⟩, by decide +kernel⟩)
  exact ⟨(update_isPartialWrite hr "acme" "d3" flagged (.named "")).1.1 (by decide +kernel),
    ⟨place, row, after, hplaceId, hupdates, hperform, hagain (.named "")⟩,
    (update_isPartialWrite hr "globex" "r1" _ (.named "")).2.1 (by decide +kernel),
    rule, ruleRow, ruleAfter, hruleId, hruleUpdates, hrulePerform, hruleAgain (.named "")⟩

end Store

end Disposition
