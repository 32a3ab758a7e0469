import Disposition.Proofs.Call

/-!
# Stored rows are well-formed

The forms are the only gate to the tables. There are two of them for each table: making a row takes
all of its columns, and changing one takes any part of them. Both keep to the bounds of the table,
and a column holds what the data says of it or what it held before; so whatever is changed, and in
however many steps, every column of every row stays within its bound.

Results:
* `Bound.Kept`: a cell within a bound is kept as it is.
* `Data.Fits.admits_of_fills`, `Data.Fits.admits_of_turns`: so a column stays within its bound.
* `Server.Wrote.withinBounds`: a write keeps all rows within the bounds of their tables.
* `Server.stored_wellFormed`: what that comes to, column by column.
-/

namespace Disposition

/-! ## Columns within bounds -/

/-- The bound of a column lets a cell in. -/
def TableName.Admits (table : TableName) (column : String) (cell : Cell) : Prop :=
  ∃ bound, table.bound? column = some bound ∧ bound.Holds cell

namespace Bound

variable {α : Type}

/-- What a reading takes from a cell within a bound is all of the cell. -/
def Kept (bound : Bound) (read : Cell → Option α) (keep : α → Cell) : Prop :=
  ∀ cell a, bound.Holds cell → read cell = some a → keep a = cell

/-- Only where there may be nothing, nothing is within a bound. -/
theorem Holds.ne_null {bound : Bound} {cell : Cell} (h : bound.Holds cell)
    (hb : bound ≠ .optional) : cell ≠ .null := by
  cases h with
  | absent => exact absurd rfl hb
  | text | present | flag | natural | condition => exact Cell.noConfusion

theorem kept_text (least : Nat) (most : Option Nat) :
    (Bound.text least most).Kept Cell.text? Cell.text := by
  rintro _ a ⟨⟩ hread
  exact congrArg Cell.text (Option.some.inj hread).symm

theorem kept_condition : Bound.condition.Kept Cell.text? Cell.text := by
  rintro _ a ⟨kind⟩ hread
  exact congrArg Cell.text (Option.some.inj hread).symm

theorem kept_natural : Bound.natural.Kept Cell.priority? Cell.ofPriority := by
  rintro _ a ⟨⟩ hread
  exact congrArg Cell.ofPriority (Option.some.inj hread).symm

end Bound

namespace Data.Fits

variable {α : Type} {table : TableName} {data : Data} (h : data.Fits table) {column : String}
  {bound : Bound} {read : Cell → Option α} {keep : α → Cell} (hb : table.bound? column = some bound)
  (hkept : bound.Kept read keep)

include h hb hkept

/-- **A column of a new row is within its bound**, if the data gives it a cell. -/
theorem admits_of_fills (hall : data.IsComplete table) (hne : bound ≠ .optional)
    {fallback : Cell} {a : α} (hfills : data.Fills column fallback read a) :
    table.Admits column (keep a) := by
  have hcolumn : column ∈ table.columns :=
    table.map_fst_bounds ▸ List.mem_map_of_mem (mem_of_lookup hb)
  obtain ⟨cell, hl⟩ := Option.isSome_iff_exists.mp (hall column hcolumn)
  have hholds := h.holds hb hl
  have hcell : data.cell column = cell := by
    rw [Data.cell, hl]
    rfl
  rw [Fills, hcell, if_neg (hholds.ne_null hne)] at hfills
  exact ⟨bound, hb, hkept cell a hholds hfills ▸ hholds⟩

/-- **A column of a changed row is within its bound**, if it was before. -/
theorem admits_of_turns {current after : α} (hheld : table.Admits column (keep current))
    (hturns : data.Turns column (keep current) read current after) :
    table.Admits column (keep after) := by
  unfold Turns at hturns
  cases hl : data.lookup column with
  | none =>
    simp only [hl] at hturns
    exact hturns ▸ hheld
  | some cell =>
    simp only [hl] at hturns
    split at hturns
    · exact hturns ▸ hheld
    · have hholds := h.holds hb hl
      exact ⟨bound, hb, hkept cell after hholds hturns ▸ hholds⟩

end Data.Fits

/-! ## Rows within bounds -/

/-- What a destination may not lack is within the bounds of its table. -/
structure DestinationRow.WithinBounds (row : DestinationRow) : Prop where
  /-- The name. -/
  name : TableName.destinations.Admits "name" (.text row.name)
  /-- The street. -/
  addressLine1 : TableName.destinations.Admits "address_line1" (.text row.addressLine1)
  /-- The city. -/
  city : TableName.destinations.Admits "city" (.text row.city)
  /-- The state. -/
  state : TableName.destinations.Admits "state" (.text row.state)
  /-- The postal code. -/
  postalCode : TableName.destinations.Admits "postal_code" (.text row.postalCode)
  /-- The country. -/
  country : TableName.destinations.Admits "country" (.text row.country)

/-- What a rule may not lack is within the bounds of its table. -/
structure RuleRow.WithinBounds (row : RuleRow) : Prop where
  /-- The name. -/
  name : TableName.rules.Admits "name" (.text row.name)
  /-- The priority. -/
  priority : TableName.rules.Admits "priority" (.ofPriority row.priority)
  /-- What the condition inspects. -/
  conditionType : TableName.rules.Admits "condition_type" (.text row.conditionType)
  /-- What the condition compares with. -/
  conditionValue : TableName.rules.Admits "condition_value" (.text row.conditionValue)
  /-- The destination. -/
  destinationId : TableName.rules.Admits "destination_id" (.text row.destinationId)

namespace DestinationRow

variable {data : Data} (h : data.Fits .destinations) {row after : DestinationRow}

include h

theorem withinBounds_of_ofData (hall : data.IsComplete .destinations) {shop : String}
    {fresh : Stamp}
    (hrow : ofData shop fresh data = .ok row) :
    row.WithinBounds := by
  have hfilled := (ofData_ok hrow).2.2.2
  have htext : ∀ {column s fallback least most},
      TableName.destinations.bound? column = some (.text least most) →
        data.Fills column fallback Cell.text? s → TableName.destinations.Admits column (.text s) :=
    fun hb hfills => h.admits_of_fills hb (Bound.kept_text _ _) hall nofun hfills
  exact ⟨htext rfl hfilled.name, htext rfl hfilled.addressLine1, htext rfl hfilled.city,
    htext rfl hfilled.state, htext rfl hfilled.postalCode, htext rfl hfilled.country⟩

theorem withinBounds_of_patch (hheld : row.WithinBounds) (hrow : row.patch data = .ok after) :
    after.WithinBounds := by
  have hchanged := (patch_ok hrow).2.2
  have htext : ∀ {column current s least most},
      TableName.destinations.bound? column = some (.text least most) →
        TableName.destinations.Admits column (.text current) →
          data.Turns column (.text current) Cell.text? current s →
            TableName.destinations.Admits column (.text s) :=
    fun hb hadmits hturns => h.admits_of_turns hb (Bound.kept_text _ _) hadmits hturns
  exact ⟨htext rfl hheld.name hchanged.name,
    htext rfl hheld.addressLine1 hchanged.addressLine1, htext rfl hheld.city hchanged.city,
    htext rfl hheld.state hchanged.state, htext rfl hheld.postalCode hchanged.postalCode,
    htext rfl hheld.country hchanged.country⟩

end DestinationRow

/-- The flag has no part in it. -/
theorem DestinationRow.WithinBounds.withoutFlag {row : DestinationRow} (h : row.WithinBounds) :
    row.withoutFlag.WithinBounds :=
  ⟨h.name, h.addressLine1, h.city, h.state, h.postalCode, h.country⟩

namespace RuleRow

variable {data : Data} (h : data.Fits .rules) {row after : RuleRow}

include h

theorem withinBounds_of_ofData (hall : data.IsComplete .rules) {shop : String} {fresh : Stamp}
    (hrow : ofData shop fresh data = .ok row) :
    row.WithinBounds := by
  have hfilled := (ofData_ok hrow).2.2.2
  exact ⟨h.admits_of_fills rfl (Bound.kept_text _ _) hall nofun hfilled.name,
    h.admits_of_fills rfl Bound.kept_natural hall nofun hfilled.priority,
    h.admits_of_fills rfl Bound.kept_condition hall nofun hfilled.conditionType,
    h.admits_of_fills rfl (Bound.kept_text _ _) hall nofun hfilled.conditionValue,
    h.admits_of_fills rfl (Bound.kept_text _ _) hall nofun hfilled.destinationId⟩

theorem withinBounds_of_patch (hheld : row.WithinBounds) (hrow : row.patch data = .ok after) :
    after.WithinBounds := by
  have hchanged := (patch_ok hrow).2.2
  exact ⟨h.admits_of_turns rfl (Bound.kept_text _ _) hheld.name hchanged.name,
    h.admits_of_turns rfl Bound.kept_natural hheld.priority hchanged.priority,
    h.admits_of_turns rfl Bound.kept_condition hheld.conditionType hchanged.conditionType,
    h.admits_of_turns rfl (Bound.kept_text _ _) hheld.conditionValue hchanged.conditionValue,
    h.admits_of_turns rfl (Bound.kept_text _ _) hheld.destinationId hchanged.destinationId⟩

end RuleRow

/-! ## Well-formed rows -/

/-- The destination has all that it should have. -/
structure DestinationRow.WellFormed (row : DestinationRow) : Prop where
  /-- The name has 1 to 200 characters. -/
  name : 1 ≤ row.name.length ∧ row.name.length ≤ 200
  /-- There is a street. -/
  addressLine1 : row.addressLine1 ≠ ""
  /-- There is a city. -/
  city : row.city ≠ ""
  /-- There is a state. -/
  state : row.state ≠ ""
  /-- There is a postal code. -/
  postalCode : row.postalCode ≠ ""
  /-- The country has two characters. -/
  country : row.country.length = 2

/-- The rule has all that it should have. -/
structure RuleRow.WellFormed (row : RuleRow) : Prop where
  /-- The name has 1 to 200 characters. -/
  name : 1 ≤ row.name.length ∧ row.name.length ≤ 200
  /-- The priority is an integer that is not below zero. -/
  priority : ∃ n : Int, row.priority = .integer n ∧ 0 ≤ n
  /-- What the condition inspects has one of the names, and is found by it. -/
  conditionType : ∃ kind : ConditionKind, row.conditionType = kind.name ∧
    ∀ destinations, (row.toRule destinations).kind? = some kind
  /-- There is something to compare with. -/
  conditionValue : row.conditionValue ≠ ""
  /-- There is the identifier of a destination. -/
  destinationId : row.destinationId ≠ ""

/-- Every row is well-formed. -/
structure Store.WellFormed (store : Store) : Prop where
  /-- Destinations. -/
  destinations : ∀ row ∈ store.destinations, row.WellFormed
  /-- Rules. -/
  rules : ∀ row ∈ store.rules, row.WellFormed

namespace TableName

variable {table : TableName} {column s : String} {least : Nat}

/-- A text within a bound is long enough and not too long. -/
theorem Admits.length {most : Option Nat} (h : table.Admits column (.text s))
    (hb : table.bound? column = some (.text least most)) :
    least ≤ s.length ∧ ∀ m ∈ most, s.length ≤ m := by
  obtain ⟨bound, hbound, hholds⟩ := h
  obtain rfl := Option.some.inj (hb.symm.trans hbound)
  cases hholds with
  | text hleast hmost => exact ⟨hleast, hmost⟩

theorem Admits.ne_empty {most : Option Nat} (h : table.Admits column (.text s))
    (hb : table.bound? column = some (.text 1 most)) : s ≠ "" := by
  rintro rfl
  exact absurd (h.length hb).1 (by decide)

end TableName

theorem DestinationRow.WithinBounds.wellFormed {row : DestinationRow} (h : row.WithinBounds) :
    row.WellFormed where
  name := (h.name.length rfl).imp_right fun hmost => hmost 200 rfl
  addressLine1 := h.addressLine1.ne_empty rfl
  city := h.city.ne_empty rfl
  state := h.state.ne_empty rfl
  postalCode := h.postalCode.ne_empty rfl
  country :=
    have ⟨hleast, hmost⟩ := h.country.length rfl
    Nat.le_antisymm (hmost 2 rfl) hleast

theorem RuleRow.WithinBounds.wellFormed {row : RuleRow} (h : row.WithinBounds) :
    row.WellFormed where
  name := (h.name.length rfl).imp_right fun hmost => hmost 200 rfl
  priority := by
    obtain ⟨bound, hb, hholds⟩ := h.priority
    obtain rfl := Option.some.inj hb
    cases hp : row.priority with
    | integer n =>
      rw [hp] at hholds
      cases hholds with
      | natural hn => exact ⟨n, rfl, hn⟩
    | real d =>
      rw [hp] at hholds
      cases hholds
    | text s =>
      rw [hp] at hholds
      cases hholds
  conditionType := by
    obtain ⟨bound, hb, hholds⟩ := h.conditionType
    obtain rfl := Option.some.inj hb
    -- a column of a row is no constructor, so the bound cannot be read off it as it stands
    generalize hname : row.conditionType = name at hholds
    cases hholds with
    | condition kind =>
      refine ⟨kind, rfl, fun destinations => ?_⟩
      have hkind : (row.toRule destinations).kind? = ConditionKind.ofName? row.conditionType := rfl
      rw [hkind, hname, ConditionKind.ofName?_name]
  conditionValue := h.conditionValue.ne_empty rfl
  destinationId := h.destinationId.ne_empty rfl

/-! ## Runs -/

/-- Every row is within the bounds of its table. -/
structure Store.WithinBounds (store : Store) : Prop where
  /-- Destinations. -/
  destinations : ∀ row ∈ store.destinations, row.WithinBounds
  /-- Rules. -/
  rules : ∀ row ∈ store.rules, row.WithinBounds

theorem Store.WithinBounds.wellFormed {store : Store} (h : store.WithinBounds) :
    store.WellFormed :=
  ⟨fun row hr => (h.destinations row hr).wellFormed, fun row hr => (h.rules row hr).wellFormed⟩

namespace Server

/-- **A write keeps all rows within the bounds of their tables.** -/
theorem Wrote.withinBounds {fresh : Stamp} {request : Request} {store after : Store}
    {response : Response} (h : Wrote fresh request store response after)
    (hstore : store.WithinBounds) : after.WithinBounds := by
  constructor
  · intro row hm
    rcases h.destination_cases hm with
      ⟨old, hold, rfl | rfl⟩ | ⟨data, hfits, hall, hrow⟩ | ⟨old, hold, data, hfits, hrow⟩
    · exact hstore.destinations row hold
    · exact (hstore.destinations old hold).withoutFlag
    · exact DestinationRow.withinBounds_of_ofData hfits hall hrow
    · exact DestinationRow.withinBounds_of_patch hfits (hstore.destinations old hold) hrow
  · intro row hm
    rcases h.rule_cases hm with hm | ⟨data, hfits, hall, hrow⟩ | ⟨old, hold, data, hfits, hrow⟩
    · exact hstore.rules row hm
    · exact RuleRow.withinBounds_of_ofData hfits hall hrow
    · exact RuleRow.withinBounds_of_patch hfits (hstore.rules old hold) hrow

/-- **What is stored is well-formed.** After any run of calls on an empty store, and so after any
run of requests to a server that starts with one, every destination and every rule is well-formed,
whatever was made, changed in part and deleted on the way. -/
theorem stored_wellFormed (settings : ServerSettings) :
    (∀ calls, (stores settings {} calls).WellFormed) ∧
      ∀ issued requests, (run { settings, issued } requests).2.store.WellFormed := by
  have hempty : Store.WithinBounds {} :=
    ⟨fun _ hr => absurd hr List.not_mem_nil, fun _ hr => absurd hr List.not_mem_nil⟩
  have hcalls : ∀ calls, (stores settings {} calls).WellFormed := fun calls =>
    (stores_invariant Wrote.withinBounds hempty calls).wellFormed
  refine ⟨hcalls, fun issued requests => ?_⟩
  obtain ⟨calls, -, -, hstore⟩ := run_eq { settings, issued } requests
  rw [hstore]
  exact hcalls calls

end Server

end Disposition
