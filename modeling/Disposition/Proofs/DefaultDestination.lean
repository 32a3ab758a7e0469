import Disposition.Proofs.Run
import Mathlib.Data.List.Induction

/-!
# The default destination of a shop

A destination gets the flag of the default when it is made or changed with data that flags it
(`Answered.Flags`). It loses the flag when another one of its shop gets it, and when it is deleted
or changed with data that unflags it (`Answered.Unflags`). Nothing else moves the flag.

Results:
* `flagged_next`: what a step makes of the flags.
* `Reachable.oneDefault`: in a reachable store a shop has at most one default.
* `default_iff_lastFlagged`: after a run the default of a shop is the destination that was flagged
  last, if it was not deleted or unflagged since.
-/

namespace Disposition

/-! ## The flags of a table -/

namespace DestinationRow

/-- The destination of a shop with that identifier is there and has the flag of the default. -/
def Flagged (rows : List DestinationRow) (shop id : String) : Prop :=
  ∃ row ∈ rows, row.shop = shop ∧ row.id = id ∧ row.isDefault = true

variable {rows : List DestinationRow} {shop id : String}

theorem not_flagged_nil : ¬Flagged [] shop id := by
  rintro ⟨row, hr, -⟩
  exact List.not_mem_nil hr

theorem flagged_append {row : DestinationRow} :
    Flagged (rows ++ [row]) shop id ↔
      Flagged rows shop id ∨ row.shop = shop ∧ row.id = id ∧ row.isDefault = true := by
  simp only [Flagged, List.mem_append, List.mem_singleton, or_and_right, exists_or, exists_eq_left]

theorem flagged_erase {other named : String} :
    Flagged (Table.erase rows other named) shop id ↔
      Flagged rows shop id ∧ ¬(other = shop ∧ named = id) := by
  constructor
  · rintro ⟨row, hr, rfl, rfl, hd⟩
    obtain ⟨hm, hn⟩ := Table.mem_erase.mp hr
    exact ⟨⟨row, hm, rfl, rfl, hd⟩, fun ⟨hs, hi⟩ => hn ⟨hi.symm, hs.symm⟩⟩
  · rintro ⟨⟨row, hm, rfl, rfl, hd⟩, hn⟩
    exact ⟨row, Table.mem_erase.mpr ⟨hm, fun ⟨hi, hs⟩ => hn ⟨hs.symm, hi.symm⟩⟩, rfl, rfl, hd⟩

theorem flagged_replace {old row : DestinationRow} (hold : old ∈ rows) (hid : row.id = old.id) :
    Flagged (Table.replace rows row) shop id ↔
      row.shop = shop ∧ row.id = id ∧ row.isDefault = true ∨
        Flagged rows shop id ∧ row.id ≠ id := by
  constructor
  · rintro ⟨r, hr, hs, hi, hd⟩
    rcases (Table.mem_replace hold hid).mp hr with rfl | ⟨hm, hne⟩
    · exact .inl ⟨hs, hi, hd⟩
    · exact .inr ⟨⟨r, hm, hs, hi, hd⟩, fun he => hne (hi.trans he.symm)⟩
  · rintro (⟨hs, hi, hd⟩ | ⟨⟨r, hm, hs, hi, hd⟩, hne⟩)
    · exact ⟨row, (Table.mem_replace hold hid).mpr (.inl rfl), hs, hi, hd⟩
    · exact ⟨r, (Table.mem_replace hold hid).mpr (.inr ⟨hm, fun he => hne (he.symm.trans hi)⟩),
        hs, hi, hd⟩

/-- Giving way takes the flag of the others of a shop, and no other flag. -/
theorem flagged_giveWay {data : Data} {other : String} {kept : Option String} :
    Flagged (rows.map (giveWay data other kept)) shop id ↔
      Flagged rows shop id ∧ ¬(data.flagsDefault = true ∧ other = shop ∧ kept ≠ some id) := by
  constructor
  · rintro ⟨row, hr, hs, hi, hd⟩
    obtain ⟨r, hm, rfl⟩ := List.mem_map.mp hr
    unfold giveWay at hs hi hd
    by_cases h : data.flagsDefault = true ∧ r.shop = other ∧ kept ≠ some r.id
    · rw [if_pos h] at hd
      exact absurd hd Bool.false_ne_true
    · rw [if_neg h] at hs hi hd
      refine ⟨⟨r, hm, hs, hi, hd⟩, fun ⟨hf, ho, hk⟩ => h ⟨hf, hs.trans ho.symm, ?_⟩⟩
      rwa [hi]
  · rintro ⟨⟨r, hm, rfl, rfl, hd⟩, hn⟩
    refine ⟨r, List.mem_map.mpr ⟨r, hm, if_neg fun ⟨hf, ho, hk⟩ => hn ⟨hf, ho.symm, hk⟩⟩,
      rfl, rfl, hd⟩

/-- In a sound table the flag of a row is the flag of what the row is named by. -/
theorem flagged_iff_of_mem (hd : Table.Distinct rows) {row : DestinationRow} (hr : row ∈ rows)
    (hid : row.id = id) : Flagged rows shop id ↔ row.shop = shop ∧ row.isDefault = true := by
  constructor
  · rintro ⟨other, ho, hs, hi, hflag⟩
    have he : other = row := hd.eq ho hr (hi.trans hid.symm)
    exact he ▸ ⟨hs, hflag⟩
  · rintro ⟨hs, hflag⟩
    exact ⟨row, hr, hs, hid, hflag⟩

end DestinationRow

open DestinationRow (Flagged)

/-! ## What moves the flag -/

namespace Answered

/-- The step made or changed a destination, with data that flags it. -/
def Flags (shop id : String) (entry : Answered) : Prop :=
  match entry.operation, entry.reply with
  | .createDestination other data, .ok (.destination (some row), _) =>
    other = shop ∧ row.id = id ∧ data.flagsDefault = true
  | .updateDestination other named data, .ok (.destination (some _), _) =>
    other = shop ∧ named = id ∧ data.flagsDefault = true
  | _, _ => False

/-- The step deleted a destination, or changed it with data that unflags it. -/
def Unflags (shop id : String) (entry : Answered) : Prop :=
  match entry.operation, entry.reply with
  | .deleteDestination other named, .ok (.deleted true, _) => other = shop ∧ named = id
  | .updateDestination other named data, .ok (.destination (some _), _) =>
    other = shop ∧ named = id ∧ ∃ cell, data.lookup "is_default" = some cell ∧ cell.isTruthy = false
  | _, _ => False

/-- A step flags at most one destination. -/
theorem Flags.unique {shop id other : String} {entry : Answered} (h : entry.Flags shop id)
    (ho : entry.Flags shop other) : id = other := by
  unfold Flags at h ho
  split at h
  · rename_i hoperation hreply
    simp only [hoperation, hreply] at ho
    exact h.2.1.symm.trans ho.2.1
  · rename_i hoperation hreply
    simp only [hoperation, hreply] at ho
    exact h.2.1.symm.trans ho.2.1
  · exact h.elim

/-- The flag of a destination is kept by a step that flags none of its shop and does not unflag
it. -/
def KeepsFlag (shop id : String) (entry : Answered) : Prop :=
  (∀ other, ¬entry.Flags shop other) ∧ ¬entry.Unflags shop id

end Answered

/-- The data of a change leaves a flag on if it flags the row, or if it says nothing and the flag
was on. -/
theorem Data.flagAfter_iff {data : Data} {current : Bool} :
    data.flagAfter current = true ↔
      data.flagsDefault = true ∨
        current = true ∧
          ¬∃ cell, data.lookup "is_default" = some cell ∧ cell.isTruthy = false := by
  unfold flagAfter flagsDefault cell
  cases data.lookup "is_default" with
  | none => simp [Cell.isTruthy]
  | some cell => cases h : cell.isTruthy <;> simp [h]

theorem Answered.Flags.wrote {shop id : String} {entry : Answered} (h : entry.Flags shop id) :
    entry.operation.wrote entry.reply = true := by
  unfold Flags at h
  split at h
  · rename_i hoperation hreply
    rw [hoperation, hreply]
    rfl
  · rename_i hoperation hreply
    rw [hoperation, hreply]
    rfl
  · exact h.elim

theorem Answered.Unflags.wrote {shop id : String} {entry : Answered} (h : entry.Unflags shop id) :
    entry.operation.wrote entry.reply = true := by
  unfold Unflags at h
  split at h
  · rename_i hoperation hreply
    rw [hoperation, hreply]
    rfl
  · rename_i hoperation hreply
    rw [hoperation, hreply]
    rfl
  · exact h.elim

/-! ## Steps -/

open DestinationRow

variable {fresh : Stamp} {shop id : String} {store after : Store} {operation : Operation}
  {reply : Reply}

theorem Operation.Wrote.flagged (h : Wrote fresh store operation reply after)
    (hs : store.Sound) :
    Flagged after.destinations shop id ↔
      (Answered.mk ⟨fresh, operation⟩ reply).Flags shop id ∨
        Flagged store.destinations shop id ∧
          (Answered.mk ⟨fresh, operation⟩ reply).KeepsFlag shop id := by
  cases h with
  | madeDestination hshop hflag hid hnew =>
    rw [flagged_append, flagged_giveWay, hflag, hshop]
    simp only [Answered.KeepsFlag, Answered.Flags, Answered.Unflags]
    grind
  | @changedDestination other named data old row hold hkey hsame hflag =>
    have hid : row.id = named := congrArg Prod.fst (hsame.trans hkey)
    have hshop : row.shop = other := congrArg Prod.snd (hsame.trans hkey)
    have holdid : old.id = named := congrArg Prod.fst hkey
    have holdshop : old.shop = other := congrArg Prod.snd hkey
    rw [flagged_replace (mem_map_giveWay_kept data hold hkey) (hid.trans holdid.symm),
      flagged_giveWay, hflag, Data.flagAfter_iff, hid, hshop]
    simp only [Answered.KeepsFlag, Answered.Flags, Answered.Unflags]
    by_cases hn : named = id
    · rw [flagged_iff_of_mem hs.destinations hold (holdid.trans hn), holdshop]
      grind
    · grind
  | deletedDestination hkey =>
    rw [flagged_erase]
    simp only [Answered.KeepsFlag, Answered.Flags, Answered.Unflags]
    grind
  | madeRule | changedRule | deletedRule =>
    simp only [Answered.KeepsFlag, Answered.Flags, Answered.Unflags]
    grind

namespace Store

/-- **What a step makes of the flags**: a destination has the flag if the step flagged it, or if it
had the flag and the step kept it. -/
theorem flagged_next (hs : store.Sound) (step : Step) :
    Flagged (store.next step).destinations shop id ↔
      (store.answered step).Flags shop id ∨
        Flagged store.destinations shop id ∧ (store.answered step).KeepsFlag shop id := by
  rcases store.next_cases step with h | ⟨hsame, hwrote⟩
  · exact h.flagged hs
  · have hno : (store.answered step).operation.wrote (store.answered step).reply ≠ true :=
      Bool.eq_false_iff.mp hwrote
    rw [hsame]
    constructor
    · exact fun hf => .inr ⟨hf, fun _ h => hno h.wrote, fun h => hno h.wrote⟩
    · rintro (h | ⟨hf, -⟩)
      · exact absurd h.wrote hno
      · exact hf

/-- A shop has at most one default destination. -/
def OneDefault (store : Store) : Prop :=
  ∀ shop id other, Flagged store.destinations shop id → Flagged store.destinations shop other →
    id = other

theorem OneDefault.next (h : store.OneDefault) (hs : store.Sound) (step : Step) :
    (store.next step).OneDefault := by
  intro shop id other hid hother
  rcases (flagged_next hs step).mp hid with hid | ⟨hid, hkeeps⟩
  · rcases (flagged_next hs step).mp hother with hother | ⟨-, hkeeps⟩
    · exact hid.unique hother
    · exact absurd hid (hkeeps.1 id)
  · rcases (flagged_next hs step).mp hother with hother | ⟨hother, -⟩
    · exact absurd hother (hkeeps.1 other)
    · exact h shop id other hid hother

theorem Reachable.oneDefault (h : store.Reachable) : store.OneDefault := by
  induction h with
  | empty => exact fun shop id other hid => absurd hid not_flagged_nil
  | step hr fresh operation ih => exact ih.next hr.sound ⟨fresh, operation⟩

/-- In a sound store with at most one default the flagged rows of a shop are at most one. -/
theorem OneDefault.length_le_one (h : store.OneDefault) (hs : store.Sound) (shop : String) :
    ((Table.ofShop store.destinations shop).filter (·.isDefault)).length ≤ 1 := by
  have hflagged : ∀ row ∈ (Table.ofShop store.destinations shop).filter (·.isDefault),
      Flagged store.destinations shop row.id := by
    intro row hr
    obtain ⟨hm, hd⟩ := List.mem_filter.mp hr
    obtain ⟨hm, hshop⟩ := Table.mem_ofShop.mp hm
    exact ⟨row, hm, hshop, rfl, hd⟩
  have hnodup : (((Table.ofShop store.destinations shop).filter (·.isDefault)).map (·.id)).Nodup :=
    ((List.filter_sublist.trans List.filter_sublist).map ShopRow.id).nodup hs.destinations
  cases hl : (Table.ofShop store.destinations shop).filter (·.isDefault) with
  | nil => exact Nat.zero_le 1
  | cons row rest =>
    cases rest with
    | nil => exact Nat.le_refl 1
    | cons other rest =>
      rw [hl] at hflagged hnodup
      have hid : row.id = other.id :=
        h shop _ _ (hflagged row List.mem_cons_self)
          (hflagged other (List.mem_cons_of_mem _ List.mem_cons_self))
      rw [List.map_cons, List.nodup_cons] at hnodup
      exact absurd (List.mem_map.mpr ⟨other, List.mem_cons_self, hid.symm⟩) hnodup.1

end Store

/-! ## Runs -/

/-- The destination was flagged last of its shop, and was not deleted or unflagged since. -/
def LastFlagged (shop id : String) (history : List Answered) : Prop :=
  ∃ before entry later, history = before ++ entry :: later ∧ entry.Flags shop id ∧
    ∀ other ∈ later, other.KeepsFlag shop id

theorem not_lastFlagged_nil : ¬LastFlagged shop id [] := by
  rintro ⟨before, entry, later, h, -⟩
  exact absurd h.symm (List.append_ne_nil_of_right_ne_nil before (List.cons_ne_nil entry later))

theorem lastFlagged_snoc {history : List Answered} {entry : Answered} :
    LastFlagged shop id (history ++ [entry]) ↔
      entry.Flags shop id ∨ LastFlagged shop id history ∧ entry.KeepsFlag shop id := by
  constructor
  · rintro ⟨before, flagging, later, h, hf, hkeeps⟩
    induction later using List.reverseRecOn with
    | nil =>
      obtain ⟨-, he⟩ := List.append_inj' h rfl
      cases he
      exact .inl hf
    | append_singleton later last =>
      rw [← List.cons_append, ← List.append_assoc] at h
      obtain ⟨hh, he⟩ := List.append_inj' h rfl
      cases he
      refine .inr ⟨⟨before, flagging, later, hh, hf, fun other ho => ?_⟩, ?_⟩
      · exact hkeeps other (List.mem_append_left _ ho)
      · exact hkeeps entry (List.mem_append_right _ List.mem_cons_self)
  · rintro (hf | ⟨⟨before, flagging, later, rfl, hf, hkeeps⟩, hlast⟩)
    · exact ⟨history, entry, [], rfl, hf, fun _ h => absurd h List.not_mem_nil⟩
    · refine ⟨before, flagging, later ++ [entry], List.append_assoc _ _ _, hf, fun other ho => ?_⟩
      rcases List.mem_append.mp ho with ho | ho
      · exact hkeeps other ho
      · rwa [List.mem_singleton.mp ho]

/-- After a run from the empty store a destination has the flag if it was flagged last. -/
theorem Store.flagged_after_iff (steps : List Step) (shop id : String) :
    Flagged (Store.after {} steps).destinations shop id ↔
      LastFlagged shop id (Store.history {} steps) := by
  induction steps using List.reverseRecOn with
  | nil => exact iff_of_false not_flagged_nil not_lastFlagged_nil
  | append_singleton steps step ih =>
    rw [after_append, history_append]
    simp only [Store.after, Store.history]
    rw [lastFlagged_snoc, flagged_next (sound_empty.after steps) step, ih]

/-- **The default of a shop after a run from the empty store.** At most one destination of the shop
has the flag. It is the one that was flagged last, and if that one was deleted or unflagged since,
there is none. -/
theorem default_iff_lastFlagged (steps : List Step) (shop : String) :
    ((Table.ofShop (Store.after {} steps).destinations shop).filter (·.isDefault)).length ≤ 1 ∧
      ∀ id, Flagged (Store.after {} steps).destinations shop id ↔
        LastFlagged shop id (Store.history {} steps) :=
  have hr := Store.Reachable.empty.after steps
  ⟨hr.oneDefault.length_le_one hr.sound shop, fun id => Store.flagged_after_iff steps shop id⟩

end Disposition
