import Disposition.Proofs.Shape

/-!
# What the data of a return must be like

The context of a return is read from data of any shape. It can be read if the data is well-shaped:
a customer, if there is one, is an object, and its tags, if they are not null, are a collection of
tags; the order is an object that has a value, and its line items, if they are there, are a
collection of line items that can be read; and the return is an object.

If the data is not well-shaped, the fault is that of the first access that the shape does not allow,
whatever else is wrong. To say so without following the reading, every access has a fault of its own
(`RawReturn.FailsAt`), whether or not the accesses before it fail.

Results:
* `RawReturn.bind_eq_error_iff_failsFrom`: one access, and those behind it.
* `RawReturn.context_eq_error_iff`: the fault is the first one.
* `RawReturn.exists_context_iff`: there is a context if the data is well-shaped.
* `RawReturn.describes_of_context`: the context is the one that the data describes.
* `RawReturn.context_describes_or_failsFirst`: data of any shape is described or fails at its first
  access that does.
-/

namespace Disposition

/-! ## The accesses -/

namespace Value

theorem members_eq_ok_iff {v : Value} {facts : List (String × Value)} :
    v.members = .ok facts ↔ v = .object facts := by
  cases v <;> simp [members]

theorem members_eq_error_iff {v : Value} {fault : AccessFault} :
    v.members = .error fault ↔ (∀ facts, v ≠ .object facts) ∧ fault = .notAnObject v.kind := by
  cases v <;> simp [members, eq_comm]

theorem customerTagData_eq_ok_iff {v data : Value} :
    v.customerTagData = .ok data ↔
      v = .null ∧ data = .null ∨ ∃ facts, v = .object facts ∧ data = member facts "tags" := by
  cases v <;> simp [customerTagData, members, bind, Except.bind, pure, Except.pure, eq_comm]

theorem customerTagData_eq_error_iff {v : Value} {fault : AccessFault} :
    v.customerTagData = .error fault ↔
      v ≠ .null ∧ (∀ facts, v ≠ .object facts) ∧ fault = .notAnObject v.kind := by
  cases v <;> simp [customerTagData, members, bind, Except.bind, pure, Except.pure, eq_comm]

theorem totalValue_eq_ok_iff {v value : Value} :
    v.totalValue = .ok value ↔
      ∃ facts, v = .object facts ∧ facts.lookup "total_value" = some value := by
  cases v with
  | object facts => cases h : facts.lookup "total_value" <;> simp [totalValue, h]
  | _ => simp [totalValue]

theorem totalValue_eq_error_iff {v : Value} {fault : AccessFault} :
    v.totalValue = .error fault ↔
      (∀ facts, v ≠ .object facts) ∧ fault = .notKeyed v.kind ∨
        ∃ facts, v = .object facts ∧ facts.lookup "total_value" = none ∧
          fault = .missingMember "total_value" := by
  cases v with
  | object facts =>
    simp only [totalValue, ne_eq, object.injEq, forall_eq', false_and, false_or,
      exists_eq_left']
    cases h : facts.lookup "total_value" with
    | none => simp only [Except.error.injEq, true_and, eq_comm]
    | some value => simp only [reduceCtorEq, false_and]
  | _ => simp [totalValue, @eq_comm _ fault]

/-- Tags that are not null are made a set. -/
theorem customerTags_of_ne_null {v : Value} (h : v ≠ .null) :
    v.customerTags = v.tagSet >>= fun tags => .ok (some tags) := by
  cases v with
  | null => exact absurd rfl h
  | _ => rfl

/-- There is no tag data if it is null, and else the set of some tags. -/
theorem customerTags_cases {v : Value} {tags : Option (List Value)}
    (h : v.customerTags = .ok tags) :
    v = .null ∧ tags = none ∨
      v ≠ .null ∧ ∃ values set, tags = some set ∧ v.Holds values ∧ IsSetOf values set := by
  by_cases hnull : v = .null
  · subst hnull
    cases h
    exact .inl ⟨rfl, rfl⟩
  · rw [customerTags_of_ne_null hnull, bind_eq_ok_iff] at h
    obtain ⟨set, hset, ⟨⟩⟩ := h
    obtain ⟨values, hvalues, -, rfl⟩ := tagSet_eq_ok_iff.mp hset
    exact .inr ⟨hnull, values, _, rfl, hvalues, isSetOf_distinct values⟩

theorem exists_customerTags_iff {v : Value} :
    (∃ tags, v.customerTags = .ok tags) ↔ v = .null ∨ v.HasTags := by
  by_cases h : v = .null
  · subst h
    exact iff_of_true ⟨none, rfl⟩ (.inl rfl)
  · simp only [customerTags_of_ne_null h, h, false_or, ← exists_tagSet_iff, bind_eq_ok_iff]
    constructor
    · rintro ⟨-, tags, htags, -⟩
      exact ⟨tags, htags⟩
    · rintro ⟨tags, htags⟩
      exact ⟨_, tags, htags, rfl⟩

theorem customerTags_eq_error_iff {v : Value} {fault : AccessFault} :
    v.customerTags = .error fault ↔ v ≠ .null ∧ v.TagSetFails fault := by
  by_cases h : v = .null
  · subst h
    exact iff_of_false nofun fun hnull => hnull.1 rfl
  · simp [customerTags_of_ne_null h, bind_eq_error_iff, tagSet_eq_error_iff, h]

end Value

/-- An access to the data of a return. -/
inductive Access
  /-- The tags of the customer are looked up. -/
  | customer
  /-- The value of the order is looked up. -/
  | totalValue
  /-- The reason of the return is looked up. -/
  | returned
  /-- The tags of the customer are made a set. -/
  | tags
  /-- The line items are gone through. -/
  | lineItems
  /-- The facts of the line item at some place are read. -/
  | lineItem (i : Nat)
  deriving DecidableEq, Repr

/-- The place of an access among the others. -/
def Access.place : Access → Nat
  | customer => 0
  | totalValue => 1
  | returned => 2
  | tags => 3
  | lineItems => 4
  | lineItem i => i + 5

/-- No two accesses have the same place. -/
theorem Access.place_inj {access other : Access} (h : access.place = other.place) :
    access = other := by
  cases access <;> cases other <;> simp_all [place]

namespace RawReturn

open Value (member)

/-- The shape that the data of a return must have. -/
structure IsWellShaped (raw : RawReturn) : Prop where
  /-- A customer is an object, and tags are a collection of tags. -/
  customer : raw.customer = .null ∨ ∃ facts, raw.customer = .object facts ∧
    (member facts "tags" = .null ∨ (member facts "tags").HasTags)
  /-- The order is an object that has a value, and its line items have the shape that they must
  have. -/
  order : ∃ facts, raw.order = .object facts ∧ facts.lookup "total_value" ≠ none ∧
    ∃ values, (member facts "line_items").HoldsIfAny values ∧ ∀ v ∈ values, v.IsLineItem
  /-- The return is an object. -/
  returned : ∃ facts, raw.returned = .object facts

/-- The context that the data of a return describes. -/
structure Describes (raw : RawReturn) (context : Context) : Prop where
  /-- The value of the order is passed on. -/
  orderValue : ∃ facts, raw.order = .object facts ∧
    facts.lookup "total_value" = some context.orderValue
  /-- So is the reason of the return, null if there is none. -/
  returnReason : ∃ facts, raw.returned = .object facts ∧
    context.returnReason = member facts "reason"
  /-- There is no tag data if there is no customer, or the customer has no tags or null. -/
  untagged : context.customerTags = none ↔
    raw.customer = .null ∨ ∃ facts, raw.customer = .object facts ∧ member facts "tags" = .null
  /-- Else the tags are the set of the customer's tags. -/
  tagged : ∀ tags, context.customerTags = some tags → ∃ facts values,
    raw.customer = .object facts ∧ (member facts "tags").Holds values ∧ Value.IsSetOf values tags
  /-- There is one item for each line item, with its facts, in the same order. -/
  items : ∃ facts values, raw.order = .object facts ∧
    (member facts "line_items").HoldsIfAny values ∧
      List.Forall₂ Value.HasFacts values context.items

/-- Why an access fails, if what it is made to is there at all. -/
inductive FailsAt (raw : RawReturn) : Access → AccessFault → Prop
  | customer (hnull : raw.customer ≠ .null) (h : ∀ facts, raw.customer ≠ .object facts) :
      FailsAt raw .customer (.notAnObject raw.customer.kind)
  | notKeyed (h : ∀ facts, raw.order ≠ .object facts) :
      FailsAt raw .totalValue (.notKeyed raw.order.kind)
  | missingMember {facts : List (String × Value)} (horder : raw.order = .object facts)
      (h : facts.lookup "total_value" = none) :
      FailsAt raw .totalValue (.missingMember "total_value")
  | returned (h : ∀ facts, raw.returned ≠ .object facts) :
      FailsAt raw .returned (.notAnObject raw.returned.kind)
  | tags {facts : List (String × Value)} {fault : AccessFault}
      (hcustomer : raw.customer = .object facts) (hnull : member facts "tags" ≠ .null)
      (h : (member facts "tags").TagSetFails fault) : FailsAt raw .tags fault
  | lineItems {facts : List (String × Value)} (horder : raw.order = .object facts)
      (hpresent : (member facts "line_items").isTruthy = true)
      (h : ∀ values, ¬(member facts "line_items").Holds values) :
      FailsAt raw .lineItems (.notIterable (member facts "line_items").kind)
  | lineItem {facts : List (String × Value)} {values : List Value} {i : Nat} {v : Value}
      {fault : AccessFault} (horder : raw.order = .object facts)
      (hvalues : (member facts "line_items").HoldsIfAny values) (hv : values[i]? = some v)
      (h : v.LineItemFails fault) : FailsAt raw (.lineItem i) fault

/-- An access does not fail. -/
def Passes (raw : RawReturn) (access : Access) : Prop :=
  ∀ fault, ¬raw.FailsAt access fault

/-- The fault is that of the first access that fails. -/
def FailsFirst (raw : RawReturn) (fault : AccessFault) : Prop :=
  ∃ access, raw.FailsAt access fault ∧ ∀ earlier, earlier.place < access.place → raw.Passes earlier

section Stages

variable {raw : RawReturn} {fault : AccessFault}

theorem failsAt_customer_iff :
    raw.FailsAt .customer fault ↔ raw.customer.customerTagData = .error fault := by
  rw [Value.customerTagData_eq_error_iff]
  constructor
  · rintro ⟨hnull, h⟩
    exact ⟨hnull, h, rfl⟩
  · rintro ⟨hnull, h, rfl⟩
    exact .customer hnull h

theorem failsAt_totalValue_iff :
    raw.FailsAt .totalValue fault ↔ raw.order.totalValue = .error fault := by
  rw [Value.totalValue_eq_error_iff]
  constructor
  · intro h
    cases h with
    | notKeyed h => exact .inl ⟨h, rfl⟩
    | missingMember horder h => exact .inr ⟨_, horder, h, rfl⟩
  · rintro (⟨h, rfl⟩ | ⟨facts, horder, h, rfl⟩)
    · exact .notKeyed h
    · exact .missingMember horder h

theorem failsAt_returned_iff :
    raw.FailsAt .returned fault ↔ raw.returned.members = .error fault := by
  rw [Value.members_eq_error_iff]
  constructor
  · intro h
    cases h with
    | returned h => exact ⟨h, rfl⟩
  · rintro ⟨h, rfl⟩
    exact .returned h

theorem failsAt_tags_iff {data : Value} (hdata : raw.customer.customerTagData = .ok data) :
    raw.FailsAt .tags fault ↔ data.customerTags = .error fault := by
  rw [Value.customerTags_eq_error_iff]
  rcases Value.customerTagData_eq_ok_iff.mp hdata with ⟨hnull, rfl⟩ | ⟨facts, hcustomer, rfl⟩
  · refine iff_of_false ?_ fun h => h.1 rfl
    intro h
    cases h with
    | tags hcustomer => simp [hnull] at hcustomer
  · constructor
    · intro h
      cases h with
      | tags hother hnull h =>
        obtain rfl := Value.object.inj (hcustomer.symm.trans hother)
        exact ⟨hnull, h⟩
    · rintro ⟨hnull, h⟩
      exact .tags hcustomer hnull h

variable {facts : List (String × Value)} (horder : raw.order = .object facts)

include horder

theorem items_eq :
    raw.items = (member facts "line_items").elementsIfAny >>= fun values =>
      values.mapM Value.lineItem := by
  unfold items
  rw [horder]
  rfl

theorem failsAt_lineItems_iff :
    raw.FailsAt .lineItems fault ↔ (member facts "line_items").elementsIfAny = .error fault := by
  rw [Value.elementsIfAny_eq_error_iff]
  constructor
  · intro h
    cases h with
    | lineItems hother hpresent h =>
      obtain rfl := Value.object.inj (horder.symm.trans hother)
      exact ⟨hpresent, h, rfl⟩
  · rintro ⟨hpresent, h, rfl⟩
    exact .lineItems horder hpresent h

theorem failsAt_lineItem_iff {values : List Value}
    (hvalues : (member facts "line_items").elementsIfAny = .ok values) {i : Nat} :
    raw.FailsAt (.lineItem i) fault ↔ ∃ v, values[i]? = some v ∧ v.lineItem = .error fault := by
  constructor
  · intro h
    cases h with
    | lineItem hother hothers hv h =>
      obtain rfl := Value.object.inj (horder.symm.trans hother)
      have hsame := hvalues.symm.trans (Value.elementsIfAny_eq_ok_iff.mpr hothers)
      obtain rfl := Except.ok.inj hsame
      exact ⟨_, hv, Value.lineItem_eq_error_iff.mpr h⟩
  · rintro ⟨v, hv, h⟩
    exact .lineItem horder (Value.elementsIfAny_eq_ok_iff.mp hvalues) hv
      (Value.lineItem_eq_error_iff.mp h)

end Stages

/-! ## The first fault -/

/-- The fault is that of the first access that fails, of those from some place on. -/
def FailsFrom (raw : RawReturn) (place : Nat) (fault : AccessFault) : Prop :=
  ∃ access, place ≤ access.place ∧ raw.FailsAt access fault ∧
    ∀ earlier, place ≤ earlier.place → earlier.place < access.place → raw.Passes earlier

section FirstFault

variable {raw : RawReturn} {fault : AccessFault}

theorem failsFrom_zero_iff : raw.FailsFrom 0 fault ↔ raw.FailsFirst fault := by
  simp [FailsFrom, FailsFirst]

/-- **One access after the other**: either the access at a place fails, or it passes and leaves the
fault to those behind it. -/
theorem failsFrom_iff (access : Access) :
    raw.FailsFrom access.place fault ↔
      raw.FailsAt access fault ∨ raw.Passes access ∧ raw.FailsFrom (access.place + 1) fault := by
  constructor
  · rintro ⟨first, hplace, hfails, hearlier⟩
    by_cases hsame : first.place = access.place
    · exact .inl (Access.place_inj hsame ▸ hfails)
    · refine .inr ⟨hearlier access (Nat.le_refl _) (by omega), first, by omega, hfails, ?_⟩
      exact fun earlier hfrom => hearlier earlier (by omega)
  · rintro (hfails | ⟨hpasses, first, hplace, hfails, hearlier⟩)
    · exact ⟨access, Nat.le_refl _, hfails, fun earlier hfrom hlt => absurd hlt (by omega)⟩
    · refine ⟨first, by omega, hfails, fun earlier hfrom hlt => ?_⟩
      by_cases hsame : earlier.place = access.place
      · exact Access.place_inj hsame ▸ hpasses
      · exact hearlier earlier (by omega) hlt

/-- What goes on with the result of an access fails with the first fault, if what goes on does. -/
theorem bind_eq_error_iff_failsFrom {α β : Type} {result : Except AccessFault α}
    {rest : α → Except AccessFault β} (access : Access)
    (hresult : ∀ fault, raw.FailsAt access fault ↔ result = .error fault)
    (hrest : ∀ a, result = .ok a →
      (rest a = .error fault ↔ raw.FailsFrom (access.place + 1) fault)) :
    result >>= rest = .error fault ↔ raw.FailsFrom access.place fault := by
  rw [failsFrom_iff, Passes]
  simp only [hresult]
  cases result with
  | error other => simp [bind, Except.bind]
  | ok a => simp [ok_bind, hrest a rfl]

/-- Line items are read from left to right. -/
theorem mapM_lineItem_eq_error_iff {facts : List (String × Value)}
    (horder : raw.order = .object facts) {values : List Value}
    (hvalues : (member facts "line_items").elementsIfAny = .ok values) {before after : List Value}
    (hsplit : values = before ++ after) :
    after.mapM Value.lineItem = .error fault ↔
      raw.FailsFrom (Access.lineItem before.length).place fault := by
  induction after generalizing before with
  | nil =>
    refine iff_of_false nofun ?_
    rintro ⟨access, hplace, hfails, -⟩
    cases access with
    | lineItem i =>
      obtain ⟨v, hv, -⟩ := (failsAt_lineItem_iff horder hvalues).mp hfails
      have hi : before.length ≤ i := Nat.le_of_add_le_add_right hplace
      simp [hsplit, hi] at hv
    | customer | totalValue | returned | tags | lineItems => simp [Access.place] at hplace
  | cons v after ih =>
    rw [List.mapM_cons]
    refine bind_eq_error_iff_failsFrom (.lineItem before.length) (fun other => ?_) fun item _ => ?_
    · simp [failsAt_lineItem_iff horder hvalues, hsplit]
    · have hrest := @ih (before ++ [v]) (by rw [hsplit, List.append_assoc]; rfl)
      rw [List.length_append] at hrest
      rw [bind_pure_eq_error_iff, hrest]
      rfl

/-- **The fault is that of the first access that fails.** -/
theorem context_eq_error_iff : raw.context = .error fault ↔ raw.FailsFirst fault := by
  rw [← failsFrom_zero_iff, context]
  refine bind_eq_error_iff_failsFrom .customer (fun _ => failsAt_customer_iff) fun data hdata => ?_
  refine bind_eq_error_iff_failsFrom .totalValue (fun _ => failsAt_totalValue_iff)
    fun value hvalue => ?_
  refine bind_eq_error_iff_failsFrom .returned (fun _ => failsAt_returned_iff) fun facts _ => ?_
  refine bind_eq_error_iff_failsFrom .tags (fun _ => failsAt_tags_iff hdata) fun tags _ => ?_
  obtain ⟨order, horder, -⟩ := Value.totalValue_eq_ok_iff.mp hvalue
  rw [items_eq horder, bind_assoc]
  refine bind_eq_error_iff_failsFrom .lineItems (fun _ => failsAt_lineItems_iff horder)
    fun values hvalues => ?_
  rw [bind_pure_eq_error_iff]
  exact mapM_lineItem_eq_error_iff horder hvalues (List.nil_append values).symm

end FirstFault

/-! ## The context -/

section Success

variable {raw : RawReturn} {facts : List (String × Value)} (horder : raw.order = .object facts)

include horder

theorem items_eq_ok_iff {items : List Item} :
    raw.items = .ok items ↔ ∃ values, (member facts "line_items").HoldsIfAny values ∧
      List.Forall₂ (fun v item => v.lineItem = .ok item) values items := by
  simp only [items_eq horder, bind_eq_ok_iff, Value.elementsIfAny_eq_ok_iff, mapM_eq_ok_iff]

theorem exists_items_iff :
    (∃ items, raw.items = .ok items) ↔ ∃ values, (member facts "line_items").HoldsIfAny values ∧
      ∀ v ∈ values, v.IsLineItem := by
  simp only [items_eq horder, bind_eq_ok_iff, Value.elementsIfAny_eq_ok_iff,
    ← Value.exists_lineItem_iff, ← exists_mapM_iff]
  constructor
  · rintro ⟨items, values, hvalues, hitems⟩
    exact ⟨values, hvalues, items, hitems⟩
  · rintro ⟨values, hvalues, items, hitems⟩
    exact ⟨items, values, hvalues, hitems⟩

end Success

/-- **There is a context if the data is well-shaped.** -/
theorem exists_context_iff {raw : RawReturn} :
    (∃ context, raw.context = .ok context) ↔ raw.IsWellShaped := by
  simp only [context, bind_eq_ok_iff, pure_eq_ok_iff, Value.customerTagData_eq_ok_iff,
    Value.totalValue_eq_ok_iff, Value.members_eq_ok_iff]
  constructor
  · rintro ⟨-, data, hdata, value, ⟨order, horder, hvalue⟩, facts, hreturned, tags, htags, items,
      hitems, -⟩
    have hshape := Value.exists_customerTags_iff.mp ⟨tags, htags⟩
    refine ⟨?_, ⟨order, horder, ?_, (exists_items_iff horder).mp ⟨items, hitems⟩⟩, facts, hreturned⟩
    · rcases hdata with ⟨hnull, -⟩ | ⟨facts, hcustomer, rfl⟩
      · exact .inl hnull
      · exact .inr ⟨facts, hcustomer, hshape⟩
    · rw [hvalue]
      exact Option.some_ne_none value
  · rintro ⟨hcustomer, ⟨order, horder, hvalue, hlines⟩, facts, hreturned⟩
    obtain ⟨value, hvalue⟩ := Option.ne_none_iff_exists'.mp hvalue
    obtain ⟨items, hitems⟩ := (exists_items_iff horder).mpr hlines
    rcases hcustomer with hnull | ⟨customer, hcustomer, hshape⟩
    · exact ⟨_, .null, .inl ⟨hnull, rfl⟩, value, ⟨order, horder, hvalue⟩, facts, hreturned, none,
        rfl, items, hitems, rfl⟩
    · obtain ⟨tags, htags⟩ := Value.exists_customerTags_iff.mpr hshape
      exact ⟨_, _, .inr ⟨customer, hcustomer, rfl⟩, value, ⟨order, horder, hvalue⟩, facts,
        hreturned, tags, htags, items, hitems, rfl⟩

/-- The tags of a context are those of the customer. -/
theorem tagData_of_customerTags {customer data : Value} {tags : Option (List Value)}
    (hdata : customer = .null ∧ data = .null ∨
      ∃ facts, customer = .object facts ∧ data = member facts "tags")
    (htags : data.customerTags = .ok tags) :
    (tags = none ↔
        customer = .null ∨ ∃ facts, customer = .object facts ∧ member facts "tags" = .null) ∧
      ∀ set, tags = some set → ∃ facts values,
        customer = .object facts ∧ (member facts "tags").Holds values ∧
          Value.IsSetOf values set := by
  rcases hdata with ⟨hcustomer, rfl⟩ | ⟨facts, rfl, rfl⟩
  · cases htags
    exact ⟨iff_of_true rfl (.inl hcustomer), nofun⟩
  · rcases Value.customerTags_cases htags with
      ⟨hnull, rfl⟩ | ⟨hnull, values, set, rfl, hvalues, hset⟩
    · exact ⟨iff_of_true rfl (.inr ⟨facts, rfl, hnull⟩), nofun⟩
    · refine ⟨iff_of_false (Option.some_ne_none set) ?_, ?_⟩
      · rintro (hobject | ⟨_, ⟨⟩, h⟩)
        · cases hobject
        · exact hnull h
      · rintro _ ⟨⟩
        exact ⟨facts, values, rfl, hvalues, hset⟩

/-- **The context is the one that the data describes.** -/
theorem describes_of_context {raw : RawReturn} {context : Context}
    (h : raw.context = .ok context) : raw.Describes context := by
  simp only [RawReturn.context, bind_eq_ok_iff, pure_eq_ok_iff, Value.customerTagData_eq_ok_iff,
    Value.totalValue_eq_ok_iff, Value.members_eq_ok_iff] at h
  obtain ⟨data, hdata, value, ⟨order, horder, hvalue⟩, facts, hreturned, tags, htags, items,
    hitems, rfl⟩ := h
  obtain ⟨values, hvalues, hall⟩ := (items_eq_ok_iff horder).mp hitems
  have hfacts : List.Forall₂ Value.HasFacts values items :=
    hall.imp fun _ _ => Value.hasFacts_of_lineItem
  obtain ⟨huntagged, htagged⟩ := tagData_of_customerTags hdata htags
  exact {
    orderValue := ⟨order, horder, hvalue⟩
    returnReason := ⟨facts, hreturned, rfl⟩
    untagged := huntagged
    tagged := htagged
    items := ⟨order, values, horder, hvalues, hfacts⟩ }

/-- **What the data of a return must be like.** Data of any shape makes a context if and only if it
is well-shaped, and the context is the one that it describes. Else the fault is that of the first
access that fails: the tags of the customer are looked up first, then the value of the order and the
reason of the return; then the tags are made a set, and last the line items are read from left to
right. -/
theorem context_describes_or_failsFirst (raw : RawReturn) :
    ((∃ context, raw.context = .ok context) ↔ raw.IsWellShaped) ∧
      (∀ context, raw.context = .ok context → raw.Describes context) ∧
        ∀ fault, raw.context = .error fault ↔ raw.FailsFirst fault :=
  ⟨exists_context_iff, fun _ => describes_of_context, fun _ => context_eq_error_iff⟩

/-- The data of two items, one of which was read before; a tag of the customer is given twice, as a
number and as a truth value. -/
def twoItems : RawReturn where
  order := .object [("total_value", .int 120),
    ("line_items", .list [.item (.text "Shoes") none .null .null,
      .object [("product_tags", .text "aab")]])]
  returned := .object []
  customer := .object [("tags", .list [.int 1, .bool true, .text "vip"])]

/-- Data with four faults: the order has no value, the return is no object, a tag of the customer is
a list, and a line item is a number. -/
def fourFaults : RawReturn where
  order := .object [("line_items", .list [.object [], .int 3])]
  returned := .list []
  customer := .object [("tags", .list [.text "vip", .list []])]

/-- Data that is well-shaped, and the first of four faults. -/
theorem context_describes_or_failsFirst_fourFaults :
    (∃ context, twoItems.context = .ok context) ∧ twoItems.IsWellShaped ∧
      fourFaults.FailsFirst (.missingMember "total_value") :=
  ⟨⟨_, rfl⟩, (context_describes_or_failsFirst twoItems).1.mp ⟨_, rfl⟩,
    ((context_describes_or_failsFirst fourFaults).2.2 (.missingMember "total_value")).mp rfl⟩

end RawReturn

end Disposition
