import Disposition.Context
import Disposition.Value.Text

/-!
# Contexts from raw data

Order, return and customer data come as values of unknown shape, and a context is read from
them access by access. The first access that the shape does not allow is the fault of the data:
the tags of the customer are looked up first, then the value of the order and the reason of the
return; then the tags are made a set, and last the items are read from left to right. This is
`build_routing_context`, with `_to_facets` and `ItemFacet.from_mapping` for the items.

* `RawReturn.context`: the context, or the fault.
* `AccessFault.message`: the wording of a fault.
-/

namespace Disposition

/-- An access that the shape of the data does not allow. -/
inductive AccessFault
  /-- The order has no member of that name. -/
  | missingMember (name : String)
  /-- The order is no object. -/
  | notKeyed (kind : Kind)
  /-- Facts are looked up in something that is no object. -/
  | notAnObject (kind : Kind)
  /-- Something that is no collection is gone through. -/
  | notIterable (kind : Kind)
  /-- A value is no tag. -/
  | notATag (fault : Value.TagFault)
  deriving DecidableEq, Repr

/-- The wording of a fault. -/
def AccessFault.message : AccessFault → String
  | missingMember name => Text.quote name
  | notKeyed .list => "list indices must be integers or slices, not str"
  | notKeyed .text => "string indices must be integers, not 'str'"
  | notKeyed kind => "'" ++ kind.name ++ "' object is not subscriptable"
  | notAnObject kind => "'" ++ kind.name ++ "' object has no attribute 'get'"
  | notIterable kind => "'" ++ kind.name ++ "' object is not iterable"
  | notATag (.compound kind) => "unhashable type: '" ++ kind.name ++ "'"
  | notATag .signalingNan => "Cannot hash a signaling NaN value"

namespace Value

/-- The members of an object. -/
def members : Value → Except AccessFault (List (String × Value))
  | object members => .ok members
  | v => .error (.notAnObject v.kind)

/-- The elements of a collection. -/
def elements (v : Value) : Except AccessFault (List Value) :=
  match v.elements? with
  | some values => .ok values
  | none => .error (.notIterable v.kind)

/-- The first fault of some values as tags. -/
def checkTags (values : List Value) : Except AccessFault Unit :=
  match values.findSome? tagFault? with
  | some fault => .error (.notATag fault)
  | none => .ok ()

/-- The elements of a collection as a set of tags. -/
def tagSet (v : Value) : Except AccessFault (List Value) := do
  let values ← v.elements
  checkTags values
  return distinct values

/-- The elements of a collection that may be absent. -/
def elementsIfAny (v : Value) : Except AccessFault (List Value) :=
  if v.isTruthy then v.elements else .ok []

/-- The set of tags of a collection that may be absent. -/
def tagSetIfAny (v : Value) : Except AccessFault (List Value) :=
  if v.isTruthy then v.tagSet else .ok []

/-- The facts of a line item. One that was read before is kept as it is. -/
def lineItem : Value → Except AccessFault Item
  | item productType productTags productVendor sku =>
    .ok { productType, productTags, productVendor, sku }
  | v => do
    let facts ← v.members
    let productTags ← (member facts "product_tags").tagSetIfAny
    return {
      productType := member facts "product_type"
      productTags := some productTags
      productVendor := member facts "product_vendor"
      sku := member facts "sku" }

/-- The tag data of a customer; there is none without a customer. -/
def customerTagData : Value → Except AccessFault Value
  | null => .ok null
  | v => do return member (← v.members) "tags"

/-- The value of an order, which has to be there, though it may be anything. -/
def totalValue : Value → Except AccessFault Value
  | object members =>
    match members.lookup "total_value" with
    | some v => .ok v
    | none => .error (.missingMember "total_value")
  | v => .error (.notKeyed v.kind)

/-- The customer's set of tags, if there is tag data. -/
def customerTags : Value → Except AccessFault (Option (List Value))
  | null => .ok none
  | tags => do return some (← tags.tagSet)

end Value

/-- The data of one return as it was exchanged. -/
structure RawReturn where
  /-- The order. -/
  order : Value
  /-- The return. -/
  returned : Value
  /-- The customer, null if unknown. -/
  customer : Value := .null
  deriving Repr, Inhabited

/-- The line items of an order that was found to be an object. -/
def RawReturn.items (raw : RawReturn) : Except AccessFault (List Item) := do
  let lineItems ← (Value.member (← raw.order.members) "line_items").elementsIfAny
  lineItems.mapM Value.lineItem

/-- The context of a return, or the first fault of its data. -/
def RawReturn.context (raw : RawReturn) : Except AccessFault Context := do
  let tagData ← raw.customer.customerTagData
  let orderValue ← raw.order.totalValue
  let facts ← raw.returned.members
  let customerTags ← tagData.customerTags
  let items ← raw.items
  return { orderValue, returnReason := Value.member facts "reason", customerTags, items }

end Disposition
