import Disposition.Store.Row

/-!
# Tables

A table is the list of its rows in the order in which they were made. Every look-up and every
change is confined to the rows of one shop; only identifiers are compared across shops. This is what
`BaseRepository` does with the rows of either table.
-/

namespace Disposition.Table

variable {ρ : Type} [ShopRow ρ]

/-- The row has that identifier and belongs to that shop. -/
def isNamed (shop id : String) (row : ρ) : Bool :=
  ShopRow.id row = id && ShopRow.shop row = shop

/-- The rows of a shop. -/
def ofShop (rows : List ρ) (shop : String) : List ρ :=
  rows.filter fun row => ShopRow.shop row = shop

/-- The rows of a shop are the rows that belong to it. -/
theorem mem_ofShop {rows : List ρ} {shop : String} {row : ρ} :
    row ∈ ofShop rows shop ↔ row ∈ rows ∧ ShopRow.shop row = shop := by
  simp [ofShop]

/-- The row of a shop with that identifier. -/
def find? (rows : List ρ) (shop id : String) : Option ρ :=
  rows.find? (isNamed shop id)

/-- The rows with a new one at the end. No two rows have the same identifier. -/
def insert (table : TableName) (rows : List ρ) (row : ρ) : Except StoreFault (List ρ) :=
  if rows.any fun other => ShopRow.id other = ShopRow.id row then .error (.repeatedId table)
  else .ok (rows ++ [row])

/-- The rows with the one of that identifier replaced where it stands. -/
def replace (rows : List ρ) (row : ρ) : List ρ :=
  rows.map fun other => if ShopRow.id other = ShopRow.id row then row else other

/-- The rows without the one of a shop with that identifier. -/
def erase (rows : List ρ) (shop id : String) : List ρ :=
  rows.filter fun row => !isNamed shop id row

/-- The rows that stay are all but the one that is named. -/
theorem mem_erase {rows : List ρ} {shop id : String} {row : ρ} :
    row ∈ erase rows shop id ↔
      row ∈ rows ∧ ¬(ShopRow.id row = id ∧ ShopRow.shop row = shop) := by
  simp only [erase, isNamed, List.mem_filter, Bool.not_eq_true', Bool.and_eq_false_iff,
    decide_eq_false_iff_not, Decidable.not_and_iff_not_or_not]

/-- The rows of a shop by their identifiers. -/
def byId (rows : List ρ) (shop : String) : List ρ :=
  (ofShop rows shop).mergeSort fun row other => ShopRow.id row ≤ ShopRow.id other

end Disposition.Table
