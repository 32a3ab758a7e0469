import Disposition.Store.Table
import Mathlib.Data.List.Nodup

/-!
# Tables under changes

Rows belong to shops and have identifiers. A table is sound if no two of its rows have the same
identifier (`Distinct`). The changes of a table are inserting, erasing, replacing, and editing rows
in place without changing what they are named by (`Keeps`).

Results:
* `find?_eq_some_iff`: in a sound table a look-up finds exactly the row that is named.
* `Distinct.perm_of_mem_iff`, `Distinct.eq_of_pairwise`: sound tables with the same rows are the
  same but for the order, and an order that tells identifiers apart leaves no choice.
* `find?_eq_of_mem_iff`, `byId_eq_of_perm`: what is looked up does not depend on the order.
* `distinct_append`, `distinct_erase`, `distinct_map`: every change keeps a table sound.
* `ofShop_append`, `ofShop_erase`, `ofShop_map`: what a change does to the rows of each shop; to
  those of another shop, nothing (`ofShop_append_of_ne` and so on).
* `mem_keys_append`, `mem_keys_erase`, `keys_map`: what it does to the names.
* `put_keeps`: a replacement is an edit in place; `replace_replace`: made twice it is made once.
-/

namespace Disposition.Table

variable {ρ : Type} [ShopRow ρ]

/-- What a row is named by: its identifier and its shop. -/
def key (row : ρ) : String × String :=
  (ShopRow.id row, ShopRow.shop row)

/-- The names of the rows of a table. -/
def keys (rows : List ρ) : List (String × String) :=
  rows.map key

/-- No two rows have the same identifier. -/
def Distinct (rows : List ρ) : Prop :=
  (rows.map ShopRow.id).Nodup

/-- An edit of the rows of a table that keeps their names. -/
def Keeps (rows : List ρ) (f : ρ → ρ) : Prop :=
  ∀ row ∈ rows, key (f row) = key row

theorem isNamed_iff {shop id : String} {row : ρ} :
    isNamed shop id row = true ↔ key row = (id, shop) := by
  simp only [isNamed, key, Bool.and_eq_true, decide_eq_true_eq, Prod.mk.injEq]

theorem mem_keys_iff {rows : List ρ} {id shop : String} :
    (id, shop) ∈ keys rows ↔ ∃ row ∈ rows, ShopRow.id row = id ∧ ShopRow.shop row = shop := by
  simp only [keys, key, List.mem_map, Prod.mk.injEq]

theorem mem_ids_iff {rows : List ρ} {id : String} :
    id ∈ rows.map ShopRow.id ↔ ∃ shop, (id, shop) ∈ keys rows := by
  rw [List.mem_map]
  constructor
  · rintro ⟨row, hm, rfl⟩
    exact ⟨ShopRow.shop row, mem_keys_iff.mpr ⟨row, hm, rfl, rfl⟩⟩
  · rintro ⟨shop, h⟩
    obtain ⟨row, hm, hid, -⟩ := mem_keys_iff.mp h
    exact ⟨row, hm, hid⟩

/-! ## Looking up -/

theorem distinct_nil : Distinct ([] : List ρ) :=
  List.nodup_nil

/-- In a sound table two rows with the same identifier are the same. -/
theorem Distinct.eq {rows : List ρ} (h : Distinct rows) {row other : ρ} (hr : row ∈ rows)
    (ho : other ∈ rows) (he : ShopRow.id row = ShopRow.id other) : row = other :=
  List.inj_on_of_nodup_map h hr ho he

theorem Distinct.perm {rows others : List ρ} (h : Distinct rows) (hp : others.Perm rows) :
    Distinct others :=
  (hp.map ShopRow.id).nodup_iff.mpr h

theorem Distinct.filter {rows : List ρ} (h : Distinct rows) (p : ρ → Bool) :
    Distinct (rows.filter p) :=
  (List.filter_sublist.map ShopRow.id).nodup h

theorem Distinct.ofShop {rows : List ρ} (h : Distinct rows) (shop : String) :
    Distinct (ofShop rows shop) :=
  h.filter _

/-- **The rows of a sound table have one order**, in any order that tells identifiers apart. -/
theorem Distinct.eq_of_pairwise {rows others : List ρ} (h : Distinct rows) {R : ρ → ρ → Prop}
    (hanti : ∀ {row other}, R row other → R other row → ShopRow.id row = ShopRow.id other)
    (hp : rows.Perm others) (hs : rows.Pairwise R) (ho : others.Pairwise R) : rows = others :=
  List.Perm.eq_of_pairwise (fun _ _ hrow hother hle hge =>
    h.eq hrow (hp.mem_iff.mpr hother) (hanti hle hge)) hs ho hp

/-- Sound tables that hold the same rows hold them in some order each. -/
theorem Distinct.perm_of_mem_iff {rows others : List ρ} (h : Distinct rows) (ho : Distinct others)
    (hm : ∀ row, row ∈ rows ↔ row ∈ others) : rows.Perm others :=
  (List.perm_ext_iff_of_nodup (.of_map ShopRow.id h) (.of_map ShopRow.id ho)).mpr hm

theorem key_of_find?_some {rows : List ρ} {shop id : String} {row : ρ}
    (h : find? rows shop id = some row) : key row = (id, shop) :=
  isNamed_iff.mp (List.find?_some h)

theorem find?_some {rows : List ρ} {shop id : String} {row : ρ}
    (h : find? rows shop id = some row) :
    row ∈ rows ∧ ShopRow.id row = id ∧ ShopRow.shop row = shop := by
  have hn := key_of_find?_some h
  simp only [key, Prod.mk.injEq] at hn
  exact ⟨List.mem_of_find?_eq_some h, hn⟩

/-- **A look-up finds exactly the row that is named.** -/
theorem find?_eq_some_iff {rows : List ρ} (hd : Distinct rows) {shop id : String} {row : ρ} :
    find? rows shop id = some row ↔
      row ∈ rows ∧ ShopRow.id row = id ∧ ShopRow.shop row = shop := by
  refine ⟨find?_some, fun ⟨hm, hid, hs⟩ => ?_⟩
  cases hf : find? rows shop id with
  | none =>
    have hn := List.find?_eq_none.mp hf row hm
    exact absurd (isNamed_iff.mpr (by rw [key, hid, hs])) hn
  | some other =>
    obtain ⟨ho, hoid, -⟩ := find?_some hf
    rw [hd.eq hm ho (hid.trans hoid.symm)]

theorem find?_of_mem {rows : List ρ} (hd : Distinct rows) {shop id : String} {row : ρ}
    (hm : row ∈ rows) (hk : key row = (id, shop)) : find? rows shop id = some row :=
  (find?_eq_some_iff hd).mpr ⟨hm, congrArg Prod.fst hk, congrArg Prod.snd hk⟩

/-- In a sound table an identifier alone finds its row. -/
theorem find?_id_eq_some_iff {rows : List ρ} (hd : Distinct rows) {id : String} {row : ρ} :
    rows.find? (fun other => ShopRow.id other = id) = some row ↔
      row ∈ rows ∧ ShopRow.id row = id := by
  have hfound : ∀ {other}, rows.find? (fun other => ShopRow.id other = id) = some other →
      other ∈ rows ∧ ShopRow.id other = id := by
    intro other h
    have hid := List.find?_some h
    exact ⟨List.mem_of_find?_eq_some h, of_decide_eq_true hid⟩
  refine ⟨hfound, fun ⟨hm, hid⟩ => ?_⟩
  cases hf : rows.find? (fun other => ShopRow.id other = id) with
  | none => exact absurd (decide_eq_true hid) (List.find?_eq_none.mp hf row hm)
  | some other => rw [hd.eq hm (hfound hf).1 (hid.trans (hfound hf).2.symm)]

/-- In a sound table an identifier picks out one row. -/
theorem Distinct.filter_id {rows : List ρ} (hd : Distinct rows) {row : ρ} (hm : row ∈ rows) :
    rows.filter (fun other => ShopRow.id other = ShopRow.id row) = [row] := by
  refine List.perm_singleton.mp
    ((hd.filter _).perm_of_mem_iff (List.nodup_singleton _) fun other => ?_)
  rw [List.mem_filter, List.mem_singleton, decide_eq_true_eq]
  constructor
  · rintro ⟨ho, hid⟩
    exact hd.eq ho hm hid
  · rintro rfl
    exact ⟨hm, rfl⟩

theorem find?_isSome_iff {rows : List ρ} {shop id : String} :
    (find? rows shop id).isSome = true ↔ (id, shop) ∈ keys rows := by
  simp only [find?, List.find?_isSome, isNamed_iff, keys, List.mem_map]

theorem find?_eq_none {rows : List ρ} {shop id : String}
    (h : ∀ row ∈ rows, ShopRow.id row = id → ShopRow.shop row ≠ shop) :
    find? rows shop id = none := by
  refine List.find?_eq_none.mpr fun row hrow hnamed => ?_
  rw [isNamed, Bool.and_eq_true, decide_eq_true_eq, decide_eq_true_eq] at hnamed
  exact h row hrow hnamed.1 hnamed.2

/-- A look-up reads only the rows of its shop. -/
theorem find?_ofShop (rows : List ρ) (shop id : String) :
    find? (ofShop rows shop) shop id = find? rows shop id := by
  unfold find? ofShop
  rw [List.find?_filter]
  congr 1
  funext row
  by_cases h : ShopRow.shop row = shop <;> simp [isNamed, h]

theorem byId_congr {rows others : List ρ} {shop : String}
    (h : ofShop rows shop = ofShop others shop) : byId rows shop = byId others shop := by
  unfold byId
  rw [h]

/-- A look-up finds the same in tables that hold the same rows of its shop. -/
theorem find?_eq_of_mem_iff {rows others : List ρ} (hd : Distinct rows) (ho : Distinct others)
    {shop : String} (h : ∀ row, row ∈ ofShop rows shop ↔ row ∈ ofShop others shop) (id : String) :
    find? rows shop id = find? others shop id := by
  refine Option.ext fun row => ?_
  rw [← find?_ofShop rows, ← find?_ofShop others, find?_eq_some_iff (hd.ofShop shop),
    find?_eq_some_iff (ho.ofShop shop), h row]

/-- So do the rows of the shop by their identifiers. -/
theorem byId_eq_of_perm {rows others : List ρ} (hd : Distinct rows) {shop : String}
    (h : (ofShop rows shop).Perm (ofShop others shop)) : byId rows shop = byId others shop := by
  have hsorted : ∀ table : List ρ, (byId table shop).Pairwise
      fun row other => decide (ShopRow.id row ≤ ShopRow.id other) = true := by
    intro table
    refine List.pairwise_mergeSort (fun a b c hab hbc => ?_) (fun a b => ?_) _
    · exact decide_eq_true (String.le_trans (of_decide_eq_true hab) (of_decide_eq_true hbc))
    · rw [Bool.or_eq_true, decide_eq_true_eq, decide_eq_true_eq]
      exact String.le_total _ _
  have hperm : (byId rows shop).Perm (byId others shop) :=
    (List.mergeSort_perm _ _).trans (h.trans (List.mergeSort_perm _ _).symm)
  refine ((hd.ofShop shop).perm (List.mergeSort_perm _ _)).eq_of_pairwise ?_ hperm
    (hsorted rows) (hsorted others)
  exact fun hle hge => String.le_antisymm (of_decide_eq_true hle) (of_decide_eq_true hge)

/-- Nothing is erased that is not there. -/
theorem erase_of_find?_none {rows : List ρ} {shop id : String} (h : find? rows shop id = none) :
    erase rows shop id = rows := by
  refine List.filter_eq_self.mpr fun row hr => ?_
  rw [Bool.not_eq_true', Bool.eq_false_iff]
  exact List.find?_eq_none.mp h row hr

/-! ## Inserting -/

theorem insert_eq {table : TableName} {rows : List ρ} {row : ρ} :
    insert table rows row =
      if ShopRow.id row ∈ rows.map ShopRow.id then .error (.repeatedId table)
      else .ok (rows ++ [row]) := by
  unfold insert
  congr 1
  simp only [List.any_eq_true, decide_eq_true_eq, List.mem_map]

theorem distinct_append {rows : List ρ} (h : Distinct rows) {row : ρ}
    (hnew : ShopRow.id row ∉ rows.map ShopRow.id) : Distinct (rows ++ [row]) := by
  unfold Distinct at *
  rw [List.map_append, List.map_singleton]
  exact List.nodup_append.mpr ⟨h, List.nodup_singleton _, fun a ha b hb hab =>
    hnew (List.mem_singleton.mp hb ▸ hab ▸ ha)⟩

theorem ofShop_append (rows : List ρ) (row : ρ) (shop : String) :
    ofShop (rows ++ [row]) shop =
      ofShop rows shop ++ if ShopRow.shop row = shop then [row] else [] := by
  unfold ofShop
  rw [List.filter_append, List.filter_singleton]
  by_cases h : ShopRow.shop row = shop <;> simp [h]

theorem ofShop_append_of_ne {rows : List ρ} {row : ρ} {shop : String}
    (h : ShopRow.shop row ≠ shop) : ofShop (rows ++ [row]) shop = ofShop rows shop := by
  rw [ofShop_append, if_neg h, List.append_nil]

theorem mem_keys_append {rows : List ρ} {row : ρ} {k : String × String} :
    k ∈ keys (rows ++ [row]) ↔ k ∈ keys rows ∨ k = key row := by
  simp only [keys, List.map_append, List.map_singleton, List.mem_append, List.mem_singleton]

/-! ## Erasing -/

theorem distinct_erase {rows : List ρ} (h : Distinct rows) (shop id : String) :
    Distinct (erase rows shop id) :=
  h.filter _

theorem ofShop_erase (rows : List ρ) (shop id other : String) :
    ofShop (erase rows shop id) other = erase (ofShop rows other) shop id := by
  simp only [ofShop, erase, List.filter_filter, Bool.and_comm]

theorem ofShop_erase_of_ne (rows : List ρ) {shop other : String} (id : String) (h : shop ≠ other) :
    ofShop (erase rows shop id) other = ofShop rows other := by
  rw [ofShop_erase]
  refine List.filter_eq_self.mpr fun row hr => ?_
  have hs : ShopRow.shop row ≠ shop := fun he => h (he.symm.trans (mem_ofShop.mp hr).2)
  simp [isNamed, hs]

theorem mem_keys_erase {rows : List ρ} {shop id : String} {k : String × String} :
    k ∈ keys (erase rows shop id) ↔ k ∈ keys rows ∧ k ≠ (id, shop) := by
  simp only [keys, erase, List.mem_map, List.mem_filter, Bool.not_eq_true', Bool.eq_false_iff,
    ne_eq, isNamed_iff]
  constructor
  · rintro ⟨row, ⟨hm, hk⟩, rfl⟩
    exact ⟨⟨row, hm, rfl⟩, hk⟩
  · rintro ⟨⟨row, hm, rfl⟩, hk⟩
    exact ⟨row, ⟨hm, hk⟩, rfl⟩

/-! ## Editing in place -/

theorem Keeps.id {rows : List ρ} {f : ρ → ρ} (h : Keeps rows f) {row : ρ} (hr : row ∈ rows) :
    ShopRow.id (f row) = ShopRow.id row :=
  congrArg Prod.fst (h row hr)

theorem Keeps.shop {rows : List ρ} {f : ρ → ρ} (h : Keeps rows f) {row : ρ} (hr : row ∈ rows) :
    ShopRow.shop (f row) = ShopRow.shop row :=
  congrArg Prod.snd (h row hr)

theorem keys_map {rows : List ρ} {f : ρ → ρ} (h : Keeps rows f) :
    keys (rows.map f) = keys rows := by
  unfold keys
  rw [List.map_map]
  exact List.map_congr_left h

theorem ids_map {rows : List ρ} {f : ρ → ρ} (h : Keeps rows f) :
    (rows.map f).map ShopRow.id = rows.map ShopRow.id := by
  rw [List.map_map]
  exact List.map_congr_left fun row hr => h.id hr

theorem distinct_map {rows : List ρ} {f : ρ → ρ} (h : Keeps rows f) (hd : Distinct rows) :
    Distinct (rows.map f) := by
  unfold Distinct
  rwa [ids_map h]

theorem ofShop_map {rows : List ρ} {f : ρ → ρ} (h : Keeps rows f) (shop : String) :
    ofShop (rows.map f) shop = (ofShop rows shop).map f := by
  unfold ofShop
  rw [List.filter_map]
  congr 1
  refine List.filter_congr fun row hr => ?_
  simp only [Function.comp, h.shop hr]

/-- An edit of the rows of one shop leaves those of another as they are. -/
theorem ofShop_map_of_ne {rows : List ρ} {f : ρ → ρ} (h : Keeps rows f) {shop other : String}
    (hf : ∀ row ∈ rows, ShopRow.shop row ≠ shop → f row = row) (hne : shop ≠ other) :
    ofShop (rows.map f) other = ofShop rows other := by
  rw [ofShop_map h]
  conv_rhs => rw [← List.map_id (ofShop rows other)]
  refine List.map_congr_left fun row hr => ?_
  obtain ⟨hm, hs⟩ := mem_ofShop.mp hr
  exact hf row hm fun he => hne (he.symm.trans hs)

/-! ## Replacing -/

/-- The row that stands where one stood, if it has the same identifier. -/
def put (row other : ρ) : ρ :=
  if ShopRow.id other = ShopRow.id row then row else other

theorem replace_eq_map (rows : List ρ) (row : ρ) : replace rows row = rows.map (put row) :=
  rfl

/-- **In a sound table a row is replaced by one with the same name.** -/
theorem put_keeps {rows : List ρ} (hd : Distinct rows) {old row : ρ} (hold : old ∈ rows)
    (hk : key row = key old) : Keeps rows (put row) := by
  intro other ho
  unfold put
  by_cases h : ShopRow.id other = ShopRow.id row
  · have he : other = old := hd.eq ho hold (h.trans (congrArg Prod.fst hk))
    rw [if_pos h, hk, he]
  · rw [if_neg h]

theorem put_of_ne {rows : List ρ} (hd : Distinct rows) {old row : ρ} (hold : old ∈ rows)
    (hk : key row = key old) {other : ρ} (ho : other ∈ rows)
    (hs : ShopRow.shop other ≠ ShopRow.shop row) : put row other = other := by
  unfold put
  refine if_neg fun h => hs ?_
  have he : other = old := hd.eq ho hold (h.trans (congrArg Prod.fst hk))
  rw [he]
  exact (congrArg Prod.snd hk).symm

/-- After a replacement the table holds the new row and, for all other identifiers, what it held. -/
theorem mem_replace {rows : List ρ} {old row other : ρ} (hold : old ∈ rows)
    (hid : ShopRow.id row = ShopRow.id old) :
    other ∈ replace rows row ↔ other = row ∨ other ∈ rows ∧ ShopRow.id other ≠ ShopRow.id row := by
  rw [replace_eq_map, List.mem_map]
  constructor
  · rintro ⟨r, hr, rfl⟩
    unfold put
    by_cases h : ShopRow.id r = ShopRow.id row
    · exact .inl (if_pos h)
    · rw [if_neg h]
      exact .inr ⟨hr, h⟩
  · rintro (rfl | ⟨hm, h⟩)
    · exact ⟨old, hold, if_pos hid.symm⟩
    · exact ⟨other, hm, if_neg h⟩

/-- A row that was put in its place is there already. -/
theorem replace_replace (rows : List ρ) (row : ρ) :
    replace (replace rows row) row = replace rows row := by
  simp only [replace, List.map_map]
  refine List.map_congr_left fun other _ => ?_
  by_cases h : ShopRow.id other = ShopRow.id row <;> simp [h]

end Disposition.Table
