import Disposition.Proofs.Frame

/-!
# Shops do not see each other

What a shop is told does not depend on what is done for another shop, with one exception: the
identifiers of a table are shared, and one that is taken cannot be given to a new row. If no row
that was made for the one shop has an identifier that the other one asks for, the first shop can be
left out of the run.

The proof runs both side by side. The two stores hold the same rows of the shop that is looked at,
and they have the same names among the identifiers that are free: those that no row of the hidden
shop was made with (`Store.Agrees`). A third shop may lose an identifier to the hidden one, so its
rows need not be the same; they only are where the identifier is free.

Results:
* `mem_names_next`: what a step does to the names of a table.
* `Agrees.next`: a step on both stores keeps the agreement, and is answered alike if it is one of
  the shop that is looked at.
* `Hides.agrees_next`: a step of the hidden shop by itself keeps the agreement.
* `history_shown`, `isolation`: whole runs.
-/

namespace Disposition

/-! ## Names -/

/-- The table and the identifier of the row that a step made, if it made one. -/
def Answered.created? (entry : Answered) : Option (TableName × String) :=
  match entry.operation, entry.reply with
  | .createDestination _ _, .ok (.destination (some row), _) => some (.destinations, row.id)
  | .createRule _ _, .ok (.rule (some row), _) => some (.rules, row.id)
  | _, _ => none

/-- The table and the identifier of the row that a step is to make, if it is to make one. -/
def Step.asked? (step : Step) : Option (TableName × String) :=
  match step.operation with
  | .createDestination _ data =>
    (data.newId .destinations step.fresh).toOption.map (.destinations, ·)
  | .createRule _ data => (data.newId .rules step.fresh).toOption.map (.rules, ·)
  | _ => none

theorem Step.asked?_createDestination {fresh : Stamp} {shop id : String} {data : Data}
    (h : data.newId .destinations fresh = .ok id) :
    (Step.mk fresh (.createDestination shop data)).asked? = some (.destinations, id) :=
  congrArg (fun result => result.toOption.map (TableName.destinations, ·)) h

theorem Step.asked?_createRule {fresh : Stamp} {shop id : String} {data : Data}
    (h : data.newId .rules fresh = .ok id) :
    (Step.mk fresh (.createRule shop data)).asked? = some (.rules, id) :=
  congrArg (fun result => result.toOption.map (TableName.rules, ·)) h

/-- The operation is to delete the row of that name. -/
def Operation.Erases (table : TableName) (name : String × String) : Operation → Prop
  | deleteDestination shop id => table = .destinations ∧ name = (id, shop)
  | deleteRule shop id => table = .rules ∧ name = (id, shop)
  | _ => False

theorem Operation.Erases.owner {operation : Operation} {table : TableName} {id owner : String}
    (h : operation.Erases table (id, owner)) : owner = operation.shop := by
  cases operation with
  | deleteDestination shop named => exact congrArg Prod.snd h.2
  | deleteRule shop named => exact congrArg Prod.snd h.2
  | _ => exact h.elim

namespace Store

/-- The names of the rows of a table. -/
def names (store : Store) : TableName → List (String × String)
  | .destinations => Table.keys store.destinations
  | .rules => Table.keys store.rules

end Store

open DestinationRow

theorem Answered.wrote_of_created? {entry : Answered} {name : TableName × String}
    (h : entry.created? = some name) : entry.operation.wrote entry.reply = true := by
  unfold created? at h
  split at h
  · rename_i hoperation hreply
    rw [hoperation, hreply]
    rfl
  · rename_i hoperation hreply
    rw [hoperation, hreply]
    rfl
  · cases h

theorem Operation.Wrote.asked? {fresh : Stamp} {operation : Operation} {store after : Store}
    {reply : Reply} (h : Wrote fresh store operation reply after) {name : TableName × String}
    (hc : (Answered.mk ⟨fresh, operation⟩ reply).created? = some name) :
    (Step.mk fresh operation).asked? = some name := by
  cases h with
  | madeDestination hshop hflag hid hnew =>
    cases hc
    exact Step.asked?_createDestination hid
  | madeRule hshop hid hnew =>
    cases hc
    exact Step.asked?_createRule hid
  | changedDestination | deletedDestination | changedRule | deletedRule => cases hc

theorem Operation.Wrote.mem_names {fresh : Stamp} {operation : Operation} {store after : Store}
    {reply : Reply} (h : Wrote fresh store operation reply after) (hs : store.Sound)
    (table : TableName) (name : String × String) :
    name ∈ after.names table ↔
      name ∈ store.names table ∧ ¬operation.Erases table name ∨
        ∃ id, (Answered.mk ⟨fresh, operation⟩ reply).created? = some (table, id) ∧
          name = (id, operation.shop) := by
  cases h with
  | @madeDestination shop data row hshop hflag hid hnew =>
    have hkeys := Table.keys_map (giveWay_keeps data shop none store.destinations)
    have hkey : Table.key row = (row.id, shop) := congrArg (row.id, ·) hshop
    cases table with
    | destinations =>
      simp [Store.names, Table.mem_keys_append, hkeys, hkey, Erases, Answered.created?,
        Operation.shop]
    | rules => simp [Store.names, Erases, Answered.created?]
  | @changedDestination shop id data old row hold hkey hsame hflag =>
    have hkeys : Table.keys (store.destinations.map (settle data shop id row)) =
        Table.keys store.destinations :=
      Table.keys_map (settle_keeps hs.destinations hold hkey hsame)
    cases table with
    | destinations => simp [Store.names, replace_giveWay, hkeys, Erases, Answered.created?]
    | rules => simp [Store.names, Erases, Answered.created?]
  | deletedDestination hkey =>
    cases table with
    | destinations => simp [Store.names, Table.mem_keys_erase, Erases, Answered.created?]
    | rules => simp [Store.names, Erases, Answered.created?]
  | @madeRule shop data row hshop hid hnew =>
    have hkey : Table.key row = (row.id, shop) := congrArg (row.id, ·) hshop
    cases table with
    | destinations => simp [Store.names, Erases, Answered.created?]
    | rules =>
      simp [Store.names, Table.mem_keys_append, hkey, Erases, Answered.created?, Operation.shop]
  | @changedRule shop id data old row hold hkey hsame =>
    have hkeys : Table.keys (Table.replace store.rules row) = Table.keys store.rules :=
      Table.keys_map (Table.put_keeps hs.rules hold hsame)
    cases table with
    | destinations => simp [Store.names, Erases, Answered.created?]
    | rules => simp [Store.names, hkeys, Erases, Answered.created?]
  | deletedRule hkey =>
    cases table with
    | destinations => simp [Store.names, Erases, Answered.created?]
    | rules => simp [Store.names, Table.mem_keys_erase, Erases, Answered.created?]

namespace Store

theorem next_deleteDestination (store : Store) (fresh : Stamp) (shop id : String) :
    store.next ⟨fresh, .deleteDestination shop id⟩ =
      { store with destinations := Table.erase store.destinations shop id } := by
  rw [next, Operation.perform_deleteDestination]

theorem next_deleteRule (store : Store) (fresh : Stamp) (shop id : String) :
    store.next ⟨fresh, .deleteRule shop id⟩ =
      { store with rules := Table.erase store.rules shop id } := by
  rw [next, Operation.perform_deleteRule]

/-- The name of a row that is to be deleted is gone. -/
theorem not_mem_names_of_erases (store : Store) (step : Step) {table : TableName}
    {name : String × String} (h : step.operation.Erases table name) :
    name ∉ (store.next step).names table := by
  obtain ⟨fresh, operation⟩ := step
  cases operation with
  | deleteDestination shop id =>
    obtain ⟨rfl, rfl⟩ := h
    rw [next_deleteDestination]
    exact fun hm => (Table.mem_keys_erase.mp hm).2 rfl
  | deleteRule shop id =>
    obtain ⟨rfl, rfl⟩ := h
    rw [next_deleteRule]
    exact fun hm => (Table.mem_keys_erase.mp hm).2 rfl
  | _ => exact h.elim

/-- **What a step does to the names of a table**: the one that is to be deleted goes, and that of a
new row comes. -/
theorem mem_names_next {store : Store} (hs : store.Sound) (step : Step) (table : TableName)
    (name : String × String) :
    name ∈ (store.next step).names table ↔
      name ∈ store.names table ∧ ¬step.operation.Erases table name ∨
        ∃ id, (store.answered step).created? = some (table, id) ∧
          name = (id, step.operation.shop) := by
  rcases store.next_cases step with h | ⟨hsame, hwrote⟩
  · exact h.mem_names hs table name
  · have hgone : step.operation.Erases table name → name ∉ (store.next step).names table :=
      store.not_mem_names_of_erases step
    rw [hsame] at hgone ⊢
    constructor
    · exact fun hm => .inl ⟨hm, fun he => hgone he hm⟩
    · rintro (⟨hm, -⟩ | ⟨id, hc, -⟩)
      · exact hm
      · exact absurd (Answered.wrote_of_created? hc) (Bool.eq_false_iff.mp hwrote)

/-! ## Agreement -/

/-- Two stores look the same to a shop: they hold the same rows of it, and they have the same names
among the identifiers that are free. -/
structure Agrees (shop : String) (free : TableName × String → Prop) (store other : Store) :
    Prop where
  /-- The rows of the shop. -/
  same : store.SameFor shop other
  /-- The names. -/
  names : ∀ table id, free (table, id) → ∀ owner,
    (id, owner) ∈ store.names table ↔ (id, owner) ∈ other.names table

/-- A step is answered alike on two stores, and leaves them with the same rows of a shop. -/
def Alike (shop : String) (store other : Store) (step : Step) : Prop :=
  store.answered step = other.answered step ∧ (store.next step).SameFor shop (other.next step)

namespace Agrees

variable {shop : String} {free : TableName × String → Prop} {store other third : Store}

theorem refl (shop : String) (free : TableName × String → Prop) (store : Store) :
    store.Agrees shop free store :=
  ⟨.refl shop store, fun _ _ _ _ => Iff.rfl⟩

theorem trans (h : store.Agrees shop free other) (hn : other.Agrees shop free third) :
    store.Agrees shop free third :=
  ⟨h.same.trans hn.same, fun table id hfree owner =>
    (h.names table id hfree owner).trans (hn.names table id hfree owner)⟩

theorem symm (h : store.Agrees shop free other) : other.Agrees shop free store :=
  ⟨h.same.symm, fun table id hfree owner => (h.names table id hfree owner).symm⟩

/-- A new destination with a free identifier is taken by both stores or by none. -/
theorem made_destination (h : store.Agrees shop free other) {fresh : Stamp} {owner : String}
    {data : Data}
    (hasked : ∀ name, Step.asked? ⟨fresh, .createDestination owner data⟩ = some name → free name) :
    (data.made fresh fun fresh =>
        Table.accept .destinations store.destinations
          (DestinationRow.ofData owner fresh data)) =
      data.made fresh fun fresh =>
        Table.accept .destinations other.destinations
          (DestinationRow.ofData owner fresh data) := by
  refine Data.made_congr fun time => Table.accept_congr fun row hdata => ?_
  obtain ⟨-, -, hid, -⟩ := DestinationRow.ofData_ok hdata
  have hfree : free (.destinations, row.id) := hasked _ (Step.asked?_createDestination hid)
  rw [Table.mem_ids_iff, Table.mem_ids_iff]
  exact exists_congr (h.names .destinations row.id hfree)

/-- A new rule with a free identifier is taken by both stores or by none. -/
theorem made_rule (h : store.Agrees shop free other) {fresh : Stamp} {owner : String}
    {data : Data}
    (hasked : ∀ name, Step.asked? ⟨fresh, .createRule owner data⟩ = some name → free name) :
    (data.made fresh fun fresh =>
        Table.accept .rules store.rules (RuleRow.ofData owner fresh data)) =
      data.made fresh fun fresh =>
        Table.accept .rules other.rules (RuleRow.ofData owner fresh data) := by
  refine Data.made_congr fun time => Table.accept_congr fun row hdata => ?_
  obtain ⟨-, -, hid, -⟩ := RuleRow.ofData_ok hdata
  have hfree : free (.rules, row.id) := hasked _ (Step.asked?_createRule hid)
  rw [Table.mem_ids_iff, Table.mem_ids_iff]
  exact exists_congr (h.names .rules row.id hfree)

/-! ## Steps of the shop itself -/

theorem alike_createDestination (h : store.Agrees shop free other) {fresh : Stamp} {data : Data}
    (hasked : ∀ name, Step.asked? ⟨fresh, .createDestination shop data⟩ = some name → free name) :
    Alike shop store other ⟨fresh, .createDestination shop data⟩ := by
  unfold Alike Store.answered Store.next
  rw [Operation.perform_createDestination, Operation.perform_createDestination,
    h.made_destination hasked]
  generalize data.made fresh _ = taken
  cases taken with
  | error fault => exact ⟨rfl, h.same⟩
  | ok row =>
    refine ⟨rfl, ?_, h.same.rules⟩
    rw [Table.ofShop_append, Table.ofShop_append, Table.ofShop_map (giveWay_keeps _ _ _ _),
      Table.ofShop_map (giveWay_keeps _ _ _ _), h.same.destinations]

theorem alike_updateDestination (h : store.SameFor shop other) (hs : store.Sound)
    (ho : other.Sound) (fresh : Stamp) (id : String) (data : Data) :
    Alike shop store other ⟨fresh, .updateDestination shop id data⟩ := by
  unfold Alike Store.answered Store.next
  rw [Operation.perform_updateDestination, Operation.perform_updateDestination, h.destination?]
  cases hold : other.destination? shop id with
  | none => exact ⟨rfl, h⟩
  | some old =>
    simp only
    cases hrow : data.amend (old.patch data) with
    | error fault => exact ⟨rfl, h⟩
    | ok row =>
      refine ⟨rfl, ?_, h.rules⟩
      have hsame := (patch_ok (Data.amend_ok hrow)).1
      -- the row stands in both tables, so it is replaced in both
      have hsettle : ∀ kept : Store, kept.Sound → kept.destination? shop id = some old →
          Table.ofShop (kept.destinations.map (settle data shop id row)) shop =
            (Table.ofShop kept.destinations shop).map (settle data shop id row) := by
        intro kept hk hfound
        obtain ⟨hm, hid, hshop⟩ := Table.find?_some hfound
        have hkey : Table.key old = (id, shop) := by rw [Table.key, hid, hshop]
        exact Table.ofShop_map (settle_keeps hk.destinations hm hkey hsame) shop
      simp only [replace_giveWay]
      rw [hsettle store hs ((h.destination? id).trans hold), hsettle other ho hold,
        h.destinations]

theorem alike_deleteDestination (h : store.SameFor shop other) (fresh : Stamp) (id : String) :
    Alike shop store other ⟨fresh, .deleteDestination shop id⟩ := by
  unfold Alike Store.answered Store.next
  rw [Operation.perform_deleteDestination, Operation.perform_deleteDestination, h.destination?]
  refine ⟨rfl, ?_, h.rules⟩
  rw [Table.ofShop_erase, Table.ofShop_erase, h.destinations]

theorem alike_createRule (h : store.Agrees shop free other) {fresh : Stamp} {data : Data}
    (hasked : ∀ name, Step.asked? ⟨fresh, .createRule shop data⟩ = some name → free name) :
    Alike shop store other ⟨fresh, .createRule shop data⟩ := by
  unfold Alike Store.answered Store.next
  rw [Operation.perform_createRule, Operation.perform_createRule, h.made_rule hasked]
  generalize data.made fresh _ = taken
  cases taken with
  | error fault => exact ⟨rfl, h.same⟩
  | ok row =>
    refine ⟨rfl, h.same.destinations, ?_⟩
    rw [Table.ofShop_append, Table.ofShop_append, h.same.rules]

theorem alike_updateRule (h : store.SameFor shop other) (hs : store.Sound) (ho : other.Sound)
    (fresh : Stamp) (id : String) (data : Data) :
    Alike shop store other ⟨fresh, .updateRule shop id data⟩ := by
  unfold Alike Store.answered Store.next
  rw [Operation.perform_updateRule, Operation.perform_updateRule, h.rule?]
  cases hold : other.rule? shop id with
  | none => exact ⟨rfl, h⟩
  | some old =>
    simp only
    cases hrow : data.amend (old.patch data) with
    | error fault => exact ⟨rfl, h⟩
    | ok row =>
      refine ⟨rfl, h.destinations, ?_⟩
      have hsame := (RuleRow.patch_ok (Data.amend_ok hrow)).1
      have hput : ∀ kept : Store, kept.Sound → kept.rule? shop id = some old →
          Table.ofShop (Table.replace kept.rules row) shop =
            (Table.ofShop kept.rules shop).map (Table.put row) := by
        intro kept hk hfound
        rw [Table.replace_eq_map,
          Table.ofShop_map (Table.put_keeps hk.rules (Table.find?_some hfound).1 hsame)]
      rw [hput store hs ((h.rule? id).trans hold), hput other ho hold, h.rules]

theorem alike_deleteRule (h : store.SameFor shop other) (fresh : Stamp) (id : String) :
    Alike shop store other ⟨fresh, .deleteRule shop id⟩ := by
  unfold Alike Store.answered Store.next
  rw [Operation.perform_deleteRule, Operation.perform_deleteRule, h.rule?]
  refine ⟨rfl, h.destinations, ?_⟩
  rw [Table.ofShop_erase, Table.ofShop_erase, h.rules]

/-- **A step of the shop is answered alike** by stores that look the same to it. -/
theorem alike (h : store.Agrees shop free other) (hs : store.Sound) (ho : other.Sound)
    {step : Step} (hshop : step.operation.shop = shop)
    (hasked : ∀ name, step.asked? = some name → free name) : Alike shop store other step := by
  obtain ⟨fresh, operation⟩ := step
  subst hshop
  by_cases hw : operation.writes = true
  · cases operation with
    | createDestination => exact h.alike_createDestination hasked
    | updateDestination => exact alike_updateDestination h.same hs ho _ _ _
    | deleteDestination => exact alike_deleteDestination h.same _ _
    | createRule => exact h.alike_createRule hasked
    | updateRule => exact alike_updateRule h.same hs ho _ _ _
    | deleteRule => exact alike_deleteRule h.same _ _
    | _ => cases hw
  · obtain ⟨hreply, hstore, hother⟩ :=
      Operation.perform_of_not_writes (Bool.eq_false_iff.mpr hw) h.same fresh
    refine ⟨congrArg (Answered.mk ⟨fresh, operation⟩) hreply, ?_⟩
    rw [next, next, hstore, hother]
    exact h.same

end Agrees

/-! ## Steps of all shops -/

variable {store other : Store} {shop : String} {free : TableName × String → Prop}

/-- What a step made is what it was to make. -/
theorem asked?_of_created? {step : Step} {name : TableName × String}
    (h : (store.answered step).created? = some name) : step.asked? = some name := by
  rcases store.next_cases step with hw | ⟨-, hw⟩
  · exact hw.asked? h
  · exact absurd (Answered.wrote_of_created? h) (Bool.eq_false_iff.mp hw)

namespace Agrees

/-- A row with a free identifier that one store makes is made by the other one too. -/
theorem created? (h : store.Agrees shop free other) {step : Step} {name : TableName × String}
    (hfree : free name) (hc : (store.answered step).created? = some name) :
    (other.answered step).created? = some name := by
  have hasked : ∀ other, step.asked? = some other → free other := by
    intro other ho
    rwa [← Option.some.inj ((asked?_of_created? hc).symm.trans ho)]
  obtain ⟨fresh, operation⟩ := step
  suffices he : store.answered ⟨fresh, operation⟩ = other.answered ⟨fresh, operation⟩ by rwa [← he]
  unfold Store.answered
  cases operation with
  | createDestination owner data =>
    rw [Operation.perform_createDestination, Operation.perform_createDestination,
      h.made_destination hasked]
    generalize data.made fresh _ = taken
    cases taken <;> rfl
  | createRule owner data =>
    rw [Operation.perform_createRule, Operation.perform_createRule, h.made_rule hasked]
    generalize data.made fresh _ = taken
    cases taken <;> rfl
  | _ => exact absurd (asked?_of_created? hc) (by simp [Step.asked?])

/-- The names stay alike where they are free. -/
theorem names_next (h : store.Agrees shop free other) (hs : store.Sound) (ho : other.Sound)
    (step : Step) {table : TableName} {id : String} (hfree : free (table, id)) (owner : String) :
    (id, owner) ∈ (store.next step).names table ↔
      (id, owner) ∈ (other.next step).names table := by
  have hcreated : ∀ new, (id, owner) = (new, step.operation.shop) →
      ((store.answered step).created? = some (table, new) ↔
        (other.answered step).created? = some (table, new)) := by
    intro new hn
    have hid : id = new := congrArg Prod.fst hn
    rw [hid] at hfree
    exact ⟨h.created? hfree, h.symm.created? hfree⟩
  rw [mem_names_next hs, mem_names_next ho, h.names table id hfree owner]
  exact or_congr Iff.rfl (exists_congr fun new => and_congr_left (hcreated new))

/-- **A step on both stores** keeps them alike to a shop. If it is a step of that shop, which asks
for free identifiers only, it is answered alike. -/
theorem next (h : store.Agrees shop free other) (hs : store.Sound) (ho : other.Sound) {step : Step}
    (hasked : step.operation.shop = shop → ∀ name, step.asked? = some name → free name) :
    (store.next step).Agrees shop free (other.next step) ∧
      (step.operation.shop = shop → store.answered step = other.answered step) := by
  have hnames : ∀ table id, free (table, id) → ∀ owner,
      (id, owner) ∈ (store.next step).names table ↔ (id, owner) ∈ (other.next step).names table :=
    fun table id hfree owner => h.names_next hs ho step hfree owner
  by_cases hshop : step.operation.shop = shop
  · obtain ⟨hentry, hsame⟩ := h.alike hs ho hshop (hasked hshop)
    exact ⟨⟨hsame, hnames⟩, fun _ => hentry⟩
  · refine ⟨⟨?_, hnames⟩, fun he => absurd he hshop⟩
    exact ((hs.sameFor_next step hshop).trans h.same).trans (ho.sameFor_next step hshop).symm

end Agrees

/-- No row of the shop has a free identifier. -/
def Hides (store : Store) (hidden : String) (free : TableName × String → Prop) : Prop :=
  ∀ table id, (id, hidden) ∈ store.names table → ¬free (table, id)

theorem hides_empty (hidden : String) (free : TableName × String → Prop) :
    Hides {} hidden free := by
  intro table id h
  cases table <;> exact absurd h List.not_mem_nil

theorem Hides.next {hidden : String} (h : store.Hides hidden free) (hs : store.Sound) {step : Step}
    (hcreated : step.operation.shop = hidden →
      ∀ name, (store.answered step).created? = some name → ¬free name) :
    (store.next step).Hides hidden free := by
  intro table id hm
  rcases (mem_names_next hs step table (id, hidden)).mp hm with ⟨hm, -⟩ | ⟨new, hc, hn⟩
  · exact h table id hm
  · obtain ⟨rfl, hshop⟩ := Prod.mk.inj hn
    exact hcreated hshop.symm _ hc

/-- **A step of the hidden shop by itself** keeps the store alike to another shop. -/
theorem Hides.agrees_next {hidden : String} (h : store.Hides hidden free) (hs : store.Sound)
    (hne : hidden ≠ shop) {step : Step} (hshop : step.operation.shop = hidden)
    (hcreated : ∀ name, (store.answered step).created? = some name → ¬free name) :
    (store.next step).Agrees shop free store := by
  refine ⟨hs.sameFor_next step (hshop ▸ hne), fun table id hfree owner => ?_⟩
  rw [mem_names_next hs]
  constructor
  · rintro (⟨hm, -⟩ | ⟨new, hc, hn⟩)
    · exact hm
    · obtain ⟨rfl, -⟩ := Prod.mk.inj hn
      exact absurd hfree (hcreated _ hc)
  · refine fun hm => .inl ⟨hm, fun he => ?_⟩
    -- what it deletes is a row of its own, whose identifier is not free
    have howner : owner = hidden := by
      rw [← hshop]
      exact he.owner
    exact h table id (howner ▸ hm) hfree

end Store

/-! ## Runs -/

/-- The entries of a shop. -/
def entriesOf (shop : String) (history : List Answered) : List Answered :=
  history.filter fun entry => entry.operation.shop = shop

/-- The steps of all shops but one. -/
def without (hidden : String) (steps : List Step) : List Step :=
  steps.filter fun step => step.operation.shop ≠ hidden

/-- An identifier of a table is free of a shop if no row that was made for the shop has it. -/
def FreeOf (hidden : String) (history : List Answered) (name : TableName × String) : Prop :=
  ∀ entry ∈ history, entry.operation.shop = hidden → entry.created? ≠ some name

theorem entriesOf_cons (shop : String) (entry : Answered) (history : List Answered) :
    entriesOf shop (entry :: history) =
      if entry.operation.shop = shop then entry :: entriesOf shop history
      else entriesOf shop history := by
  unfold entriesOf
  rw [List.filter_cons]
  simp only [decide_eq_true_eq]

theorem without_cons (hidden : String) (step : Step) (steps : List Step) :
    without hidden (step :: steps) =
      if step.operation.shop = hidden then without hidden steps
      else step :: without hidden steps := by
  unfold without
  rw [List.filter_cons]
  by_cases h : step.operation.shop = hidden <;> simp [h]

namespace Store

variable {store other : Store} {shop hidden : String} {free : TableName × String → Prop}

theorem history_shown (hne : hidden ≠ shop) (h : store.Agrees shop free other)
    (hs : store.Sound) (ho : other.Sound) (hh : store.Hides hidden free) (steps : List Step)
    (hcreated : ∀ entry ∈ store.history steps, entry.operation.shop = hidden →
      ∀ name, entry.created? = some name → ¬free name)
    (hasked : ∀ step ∈ steps, step.operation.shop = shop →
      ∀ name, step.asked? = some name → free name) :
    entriesOf shop (store.history steps) =
      entriesOf shop (other.history (without hidden steps)) := by
  induction steps generalizing store other with
  | nil => rfl
  | cons step steps ih =>
    have hfirst := hcreated (store.answered step) List.mem_cons_self
    have hrest := fun entry he => hcreated entry (List.mem_cons_of_mem _ he)
    have haskedRest := fun step hst => hasked step (List.mem_cons_of_mem _ hst)
    have hnext := hs.perform step.fresh step.operation
    rw [without_cons, Store.history, entriesOf_cons]
    by_cases hstep : step.operation.shop = hidden
    · -- the step is left out of the second run
      have hdropped : (store.answered step).operation.shop ≠ shop := hstep ▸ hne
      rw [if_pos hstep, if_neg hdropped]
      exact ih ((hh.agrees_next hs hne hstep (hfirst hstep)).trans h) hnext ho
        (hh.next hs hfirst) hrest haskedRest
    · obtain ⟨hagrees, hentry⟩ := h.next hs ho (hasked step List.mem_cons_self)
      have hlater := ih hagrees hnext (ho.perform step.fresh step.operation)
        (hh.next hs hfirst) hrest haskedRest
      rw [if_neg hstep, Store.history, entriesOf_cons, hlater]
      by_cases hshop : step.operation.shop = shop
      · rw [hentry hshop]
      · have hfirstOther : (store.answered step).operation.shop ≠ shop := hshop
        have hfirstOwn : (other.answered step).operation.shop ≠ shop := hshop
        rw [if_neg hfirstOther, if_neg hfirstOwn]

/-- **Shops do not see each other.** If no row that was made for the one shop has an identifier that
the other one asks for, the steps of the one can be left out of a run from the empty store, and the
other gets the same answers. And in a reachable store a step of a shop leaves the rows of every
other shop. -/
theorem isolation (hidden shop : String) (hne : hidden ≠ shop) (steps : List Step)
    (hids : ∀ entry ∈ Store.history {} steps, entry.operation.shop = hidden →
      ∀ step ∈ steps, step.operation.shop = shop →
        ∀ name ∈ entry.created?, name ∉ step.asked?) :
    entriesOf shop (Store.history {} steps) =
        entriesOf shop (Store.history {} (without hidden steps)) ∧
      ∀ store : Store, store.Reachable → ∀ step : Step, step.operation.shop = hidden →
        ∀ other, hidden ≠ other → (store.next step).SameFor other store := by
  refine ⟨?_, fun store hr step hstep other hother => hr.sound.sameFor_next step (hstep ▸ hother)⟩
  refine history_shown hne (.refl shop (FreeOf hidden (Store.history {} steps)) {}) sound_empty
    sound_empty (hides_empty hidden _) steps ?_ ?_
  · exact fun entry he hshop name hc hfree => hfree entry he hshop hc
  · exact fun step hst hshop name ha entry he hhidden hc =>
      hids entry he hhidden step hst hshop name hc ha

/-- Two shops make a default destination each; one of them deletes its own again, and the other one
asks for its default. -/
def twoShops : List Step :=
  [⟨.named "", .createDestination "acme" (.ofPlace "d1" true)⟩,
    ⟨.named "", .createDestination "globex" (.ofPlace "d2" true)⟩,
    ⟨.named "", .deleteDestination "acme" "d1"⟩, ⟨.named "", .getDefault "globex"⟩]

/-- Without the one shop the other gets the same answers, and a deletion of the one leaves the rows
of the other. -/
theorem isolation_twoShops :
    entriesOf "globex" (Store.history {} twoShops) =
        entriesOf "globex" (Store.history {} (without "acme" twoShops)) ∧
      (Store.next (Store.after {} (twoShops.take 2))
          ⟨.named "", .deleteDestination "acme" "d1"⟩).SameFor
        "globex" (Store.after {} (twoShops.take 2)) :=
  have h := isolation "acme" "globex" (by decide) twoShops (by decide +kernel)
  ⟨h.1, h.2 _ (Reachable.empty.after _) _ rfl "globex" (by decide)⟩

end Store

end Disposition
