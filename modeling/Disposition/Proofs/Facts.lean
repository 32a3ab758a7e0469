import Disposition.Decision
import Mathlib.Data.List.Forall2
import Mathlib.Data.Option.Defs

/-!
# More facts, more rules

Every condition asks whether something is there: an item of that type, a tag, an order value beyond
a threshold. None asks for all of the items or for the first of them, and none asks whether
something is missing. So a rule that holds on a return still holds if items, tags of items or tags
of the customer are added, and it makes no difference in which order they come and how often.

The value of the order and the reason of the return are not added to: each is one fact, and it has
to be the same. Tags that were never supplied are no tags here.

Results:
* `Value.Same.text?_eq`: values that are the same are the same text, or neither is a text.
* `Context.IsWithin`: the facts of one return are among those of another.
* `ConditionKind.holds_of_isWithin`: what holds on some facts holds on more.
* `Rule.holds_mono`: rules are monotone in the facts, and the same facts meet the same rules.
* `Decision.resolve_of_isWithin`: the same facts lead to the same decision.
-/

namespace Disposition

/-! ## Facts among others -/

/-- Two values are the same: not only one and the same, but also values that are equal as tags are,
and lists and objects with the same contents. -/
inductive Value.Same : Value → Value → Prop
  /-- Every value is the same as itself. -/
  | refl (v : Value) : Same v v
  /-- Values that are equal as tags are the same. -/
  | equal {v w : Value} (h : v.equal w = true) : Same v w
  /-- Lists are the same if their elements are. -/
  | list {values others : List Value} (h : values.Forall₂ Same others) :
    Same (.list values) (.list others)
  /-- Objects are the same if they have the same names and the members of a name are the same. -/
  | object {members others : List (String × Value)}
    (h : ∀ name, Option.Rel Same (members.lookup name) (others.lookup name)) :
    Same (.object members) (.object others)

/-- Every one of the tags is one of the others; tags that were never supplied are none. -/
def Value.TagsWithin (tags others : Option (List Value)) : Prop :=
  ∀ tag ∈ tags.getD [], ∃ other ∈ others.getD [], tag.Same other

/-- The item is another, which may have more tags. -/
structure Item.IsWithin (item other : Item) : Prop where
  /-- The product has the same type. -/
  productType : item.productType.Same other.productType
  /-- The product has the same vendor. -/
  productVendor : item.productVendor.Same other.productVendor
  /-- The stock keeping unit is the same. -/
  sku : item.sku.Same other.sku
  /-- The tags of the product are among those of the other. -/
  productTags : Value.TagsWithin item.productTags other.productTags

/-- The facts of one return are among those of another, in any order and number. -/
structure Context.IsWithin (context other : Context) : Prop where
  /-- The order has the same value. -/
  orderValue : context.orderValue = other.orderValue
  /-- The return has the same reason. -/
  returnReason : context.returnReason = other.returnReason
  /-- Every item is one of the items of the other, up to more tags there. -/
  items : ∀ item ∈ context.items, ∃ there ∈ other.items, item.IsWithin there
  /-- The tags of the customer are among those of the other. -/
  customerTags : Value.TagsWithin context.customerTags other.customerTags

/-- Tags are within all lists in which they occur. -/
theorem Value.tagsWithin_of_subset {tags others : Option (List Value)}
    (h : tags.getD [] ⊆ others.getD []) : TagsWithin tags others :=
  fun tag htag => ⟨tag, h htag, .refl tag⟩

theorem Item.IsWithin.refl (item : Item) : item.IsWithin item :=
  ⟨.refl _, .refl _, .refl _, Value.tagsWithin_of_subset (List.Subset.refl _)⟩

/-- Facts that occur in both returns may stand in any order, and any number of times. -/
theorem Context.isWithin_of_subset {context other : Context}
    (horder : context.orderValue = other.orderValue)
    (hreason : context.returnReason = other.returnReason)
    (hitems : context.items ⊆ other.items)
    (htags : context.customerTags.getD [] ⊆ other.customerTags.getD []) :
    context.IsWithin other where
  orderValue := horder
  returnReason := hreason
  items := fun item hitem => ⟨item, hitems hitem, .refl item⟩
  customerTags := Value.tagsWithin_of_subset htags

/-! ## What conditions see of a value -/

namespace Value

/-- A number is no text. -/
theorem text?_eq_none_of_exactValue? {v : Value} {x : Exact} (h : v.exactValue? = some x) :
    v.text? = none := by
  cases v with
  | text => cases h
  | _ => rfl

theorem text?_eq_of_equal {v w : Value} (h : v.equal w = true) : v.text? = w.text? := by
  fun_cases equal v w with
  | case1 => rfl
  | case2 s t =>
    rw [equal, decide_eq_true_eq] at h
    rw [h]
  | case3 => rfl
  | case4 _ _ _ _ _ x y hx hy =>
    rw [text?_eq_none_of_exactValue? hx, text?_eq_none_of_exactValue? hy]
  | case5 => simp_all [equal]

/-- **The same values are the same text**, or neither of them is a text. -/
theorem Same.text?_eq {v w : Value} (h : v.Same w) : v.text? = w.text? := by
  cases h with
  | refl => rfl
  | equal h => exact text?_eq_of_equal h
  | list => rfl
  | object => rfl

theorem Same.hasLower_eq {v w : Value} (h : v.Same w) (operand : String) :
    v.hasLower operand = w.hasLower operand := by
  rw [hasLower, hasLower, lowered?, lowered?, h.text?_eq]

theorem Same.lowerContains_eq {v w : Value} (h : v.Same w) (operand : String) :
    v.lowerContains operand = w.lowerContains operand := by
  rw [lowerContains, lowerContains, lowered?, lowered?, h.text?_eq]

end Value

/-! ## Conditions -/

/-- What one of some elements has, one of others has if each of the first has a counterpart. -/
theorem any_of_any {α : Type} {xs ys : List α} {p : α → Bool}
    (h : ∀ x ∈ xs, ∃ y ∈ ys, p x = true → p y = true) (hany : xs.any p = true) :
    ys.any p = true := by
  obtain ⟨x, hx, hp⟩ := List.any_eq_true.mp hany
  obtain ⟨y, hy, hxy⟩ := h x hx
  exact List.any_eq_true.mpr ⟨y, hy, hxy hp⟩

theorem Value.TagsWithin.any_hasLower {tags others : Option (List Value)}
    (h : TagsWithin tags others) (operand : String) :
    (tags.getD []).any (·.hasLower operand) = true →
      (others.getD []).any (·.hasLower operand) = true := by
  refine any_of_any fun tag htag => ?_
  obtain ⟨other, hother, hsame⟩ := h tag htag
  exact ⟨other, hother, fun hlower => by rwa [← hsame.hasLower_eq operand]⟩

/-- What one item has, an item of the other return has, if the counterpart of an item has it. -/
theorem Context.IsWithin.any_items {context other : Context} (h : context.IsWithin other)
    {p : Item → Bool} (hp : ∀ {item there : Item}, item.IsWithin there → p item = true →
      p there = true) : context.items.any p = true → other.items.any p = true := by
  refine any_of_any fun item hitem => ?_
  obtain ⟨there, hthere, hwithin⟩ := h.items item hitem
  exact ⟨there, hthere, hp hwithin⟩

/-- **What holds on some facts holds on more**, whatever the condition inspects. -/
theorem ConditionKind.holds_of_isWithin {context other : Context} (h : context.IsWithin other)
    (kind : ConditionKind) (operand : Value) (hholds : kind.holds operand context = true) :
    kind.holds operand other = true := by
  cases kind with
  | productType =>
    exact h.any_items (fun hwithin hp => by rwa [← hwithin.productType.hasLower_eq]) hholds
  | productTag =>
    exact h.any_items (fun hwithin hp => hwithin.productTags.any_hasLower _ hp) hholds
  | skuContains =>
    exact h.any_items (fun hwithin hp => by rwa [← hwithin.sku.lowerContains_eq]) hholds
  | orderValueAbove => rwa [holds, ← h.orderValue]
  | orderValueBelow => rwa [holds, ← h.orderValue]
  | returnReason => rwa [holds, ← h.returnReason]
  | customerTag => exact h.customerTags.any_hasLower _ hholds
  | productVendor =>
    exact h.any_items (fun hwithin hp => by rwa [← hwithin.productVendor.hasLower_eq]) hholds

/-! ## Rules -/

namespace Rule

theorem holds_of_isWithin (rule : Rule) {context other : Context} (h : context.IsWithin other)
    (hholds : rule.holds context = true) : rule.holds other = true := by
  unfold holds at hholds ⊢
  cases hkind : rule.kind? with
  | none => rw [hkind] at hholds; cases hholds
  | some kind =>
    rw [hkind] at hholds
    exact kind.holds_of_isWithin h rule.conditionValue hholds

theorem holds_eq_of_isWithin (rule : Rule) {context other : Context}
    (h : context.IsWithin other) (h' : other.IsWithin context) :
    rule.holds context = rule.holds other :=
  Bool.eq_iff_iff.mpr ⟨rule.holds_of_isWithin h, rule.holds_of_isWithin h'⟩

/-- **Rules are monotone in the facts and blind to their order**: a rule that holds on a return
holds on every return that has the same facts and more, and returns each of whose facts the other
has meet the same rules. -/
theorem holds_mono (rule : Rule) :
    (∀ context other : Context, context.IsWithin other →
      rule.holds context = true → rule.holds other = true) ∧
      ∀ context other : Context, context.IsWithin other → other.IsWithin context →
        rule.holds context = rule.holds other :=
  ⟨fun _ _ h => rule.holds_of_isWithin h, fun _ _ h h' => rule.holds_eq_of_isWithin h h'⟩

/-- A rule on products on sale. -/
def onSale : Rule where
  id := "sale"
  name := "On sale"
  conditionType := .text "product_tag"
  conditionValue := .text " Sale "
  destinationId := some "d1"

end Rule

/-- The return of a pair of shoes on sale. -/
def Context.saleShoes : Context where
  items := [{ productType := .text "Shoes", productTags := some [.text "sale"], sku := .int 1 }]

/-- The return of a hat and the same shoes, which have another tag, by a customer with a tag. -/
def Context.saleShoesAndHat : Context where
  customerTags := some [.text "vip"]
  items := [{ productType := .text "Hat" },
    { productType := .text "Shoes", productTags := some [.text "new", .text "sale"],
      sku := .decimal (.finite false 10 (-1)) }]

/-- The items of that return in the other order, the hat twice. -/
def Context.hatsAndSaleShoes : Context :=
  { saleShoesAndHat with
    items := saleShoesAndHat.items.reverse ++ [{ productType := .text "Hat" }] }

/-- A hat more, another tag and the same unit in another form: the rule on sales still holds. With
the items in another order it holds as well. -/
theorem Rule.holds_mono_sale :
    onSale.holds .saleShoes = true ∧ onSale.holds .saleShoesAndHat = true ∧
      onSale.holds .saleShoesAndHat = onSale.holds .hatsAndSaleShoes := by
  have hshoes : Item.IsWithin
      { productType := .text "Shoes", productTags := some [.text "sale"], sku := .int 1 }
      { productType := .text "Shoes", productTags := some [.text "new", .text "sale"],
        sku := .decimal (.finite false 10 (-1)) } :=
    { productType := .refl _
      productVendor := .refl _
      sku := .equal (by decide +kernel)
      productTags := Value.tagsWithin_of_subset (by simp) }
  have hwithin : Context.saleShoes.IsWithin .saleShoesAndHat :=
    { orderValue := rfl
      returnReason := rfl
      items := fun item hitem => by
        rw [List.mem_singleton.mp hitem]
        exact ⟨_, List.mem_cons_of_mem _ List.mem_cons_self, hshoes⟩
      customerTags := Value.tagsWithin_of_subset (List.nil_subset _) }
  have hholds : onSale.holds .saleShoes = true := by decide +kernel
  refine ⟨hholds, (holds_mono onSale).1 _ _ hwithin hholds, (holds_mono onSale).2 _ _ ?_ ?_⟩
  · exact Context.isWithin_of_subset rfl rfl
      (by simp [Context.hatsAndSaleShoes, Context.saleShoesAndHat]) (List.Subset.refl _)
  · exact Context.isWithin_of_subset rfl rfl
      (by simp [Context.hatsAndSaleShoes, Context.saleShoesAndHat]) (List.Subset.refl _)

/-! ## Decisions -/

theorem Rule.firstRoutable_of_isWithin {context other : Context} (h : context.IsWithin other)
    (h' : other.IsWithin context) (rules : List Rule) :
    firstRoutable context rules = firstRoutable other rules := by
  induction rules with
  | nil => rfl
  | cons rule rules ih =>
    rw [firstRoutable, firstRoutable, rule.holds_eq_of_isWithin h h', ih]

/-- **The same facts lead to the same decision**, with the same events on the way. -/
theorem Decision.resolve_of_isWithin {context other : Context} (h : context.IsWithin other)
    (h' : other.IsWithin context) (rules : List Rule) (destinations : List Destination)
    (requestId : Option String) :
    resolve rules destinations context requestId = resolve rules destinations other requestId := by
  simp only [resolve, Rule.select, Rule.firstRoutable_of_isWithin h h']

end Disposition
