import Disposition.Value

/-!
# Routing contexts

The facts of one return that rules are tested against: the value of the order, the reason of the
return, the tags of the customer and the items. Facts keep the shape they came in. Tags that were
never supplied are not the same as no tags. This is `RoutingContext`, and an item is an `ItemFacet`.
-/

namespace Disposition

/-- The facts of one line item. -/
structure Item where
  /-- The type of the product. -/
  productType : Value := .null
  /-- The tags of the product; `none` if it has no tag data. -/
  productTags : Option (List Value) := some []
  /-- The vendor of the product. -/
  productVendor : Value := .null
  /-- The stock keeping unit. -/
  sku : Value := .null
  deriving Repr, Inhabited

/-- The facts of one return. -/
structure Context where
  /-- The value of the order. -/
  orderValue : Value := .null
  /-- The reason of the return. -/
  returnReason : Value := .null
  /-- The tags of the customer; `none` if there is no tag data. -/
  customerTags : Option (List Value) := none
  /-- The line items. -/
  items : List Item := []
  deriving Repr, Inhabited

end Disposition
