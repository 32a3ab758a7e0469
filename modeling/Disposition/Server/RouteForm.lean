import Disposition.Context
import Disposition.Server.Scalar

/-!
# Returns to be routed

The body that asks where a return would go: the order with its value and its items, and maybe the
return and the customer. Unlike raw data it has a fixed shape. This is `RouteRequest`.

* `RouteForm.read`: the context of the return and its identifier, or all problems of the body.
-/

namespace Disposition

/-- A return to be routed. -/
structure RouteForm where
  /-- The facts of the return. -/
  context : Context
  /-- The identifier of the return. -/
  requestId : Option String
  deriving Repr, Inhabited

namespace RouteForm

open Checked

/-- A text that may be null or left out. -/
def optionalText (name : String) (members : List (String × Json)) : Checked (Option String) :=
  member name (some none) (orNull text) members

/-- A set of tags. -/
def tagSet (tags : List String) : List Value :=
  Value.distinct (tags.map .text)

/-- A line item. -/
def item (v : Json) : Checked Item := do
  let members ← Checked.members v
  let tags := member "product_tags" (some []) (elements text) members
  let ((productType, tags), (productVendor, sku)) ←
    both (both (optionalText "product_type" members) tags)
      (both (optionalText "product_vendor" members) (optionalText "sku" members))
  return {
    productType := .ofOption productType
    productTags := some (tagSet tags)
    productVendor := .ofOption productVendor
    sku := .ofOption sku }

/-- The value and the items of an order. -/
def order (v : Json) : Checked (Double × List Item) := do
  let members ← Checked.members v
  both (member "total_value" none number members)
    (member "line_items" (some []) (elements item) members)

/-- The identifier and the reason of a return. -/
def returned (v : Json) : Checked (Option String × Option String) := do
  let members ← Checked.members v
  both (optionalText "id" members) (optionalText "reason" members)

/-- The tags of a customer. -/
def customer (v : Json) : Checked (Option (List String)) := do
  let members ← Checked.members v
  member "tags" (some none) (orNull (elements text)) members

/-- A return to be routed. -/
def read (body : Json) : Checked RouteForm := do
  let members ← Checked.members body
  let (((orderValue, items), (requestId, reason)), tags) ←
    both
      (both (member "order" none order members)
        (member "return_request" (some (none, none)) returned members))
      (member "customer" (some none) (orNull customer) members)
  return {
    context := {
      orderValue := .double orderValue
      returnReason := .ofOption reason
      customerTags := tags.join.map tagSet
      items }
    requestId }

end RouteForm

end Disposition
