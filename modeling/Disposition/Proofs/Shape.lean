import Disposition.Context.Raw
import Disposition.Proofs.Work
import Mathlib.Data.List.Induction

/-!
# The shape of tags and line items

Tags and line items come as values of any shape. Some values are collections, some values are tags,
and a collection of tags can be made a set, in which of equal tags the first is kept. A line item
was read before, or it is an object whose tags, if they are there, are a collection of tags. What is
empty or zero is not there.

Results:
* `Value.isSetOf_distinct`: the set of some values.
* `Value.tagSet_eq_ok_iff`, `Value.tagSet_eq_error_iff`: the set of some tags, or why there is none.
* `Value.hasFacts_of_lineItem`, `Value.exists_lineItem_iff`, `Value.lineItem_eq_error_iff`: the
  facts of a line item, which line items have some, and why others have none.
-/

namespace Disposition

namespace Value

/-! ## Collections -/

/-- The value is a collection of those elements. -/
inductive Holds : Value → List Value → Prop
  /-- A text holds its characters. -/
  | text (s : String) : Holds (.text s) (s.toList.map fun c => .text (String.singleton c))
  /-- A list holds its items. -/
  | list (items : List Value) : Holds (.list items) items
  /-- An object holds the names of its members. -/
  | object (members : List (String × Value)) :
      Holds (.object members) (members.map fun (name, _) => .text name)

theorem elements?_eq_some_iff {v : Value} {values : List Value} :
    v.elements? = some values ↔ v.Holds values := by
  constructor
  · intro h
    cases v with
    | text s => cases h; exact .text s
    | list values => cases h; exact .list values
    | object members => cases h; exact .object members
    | null | bool _ | int _ | double _ | decimal _ | fraction _ | item _ _ _ _ => cases h
  · rintro ⟨⟩ <;> rfl

theorem elements_eq_ok_iff {v : Value} {values : List Value} :
    v.elements = .ok values ↔ v.Holds values := by
  rw [← elements?_eq_some_iff, elements]
  cases v.elements? <;> simp

theorem elements_eq_error_iff {v : Value} {fault : AccessFault} :
    v.elements = .error fault ↔ (∀ values, ¬v.Holds values) ∧ fault = .notIterable v.kind := by
  simp only [← elements?_eq_some_iff, elements]
  cases v.elements? <;> simp [eq_comm]

/-! ## Tags -/

/-- The value can be a tag. -/
inductive IsTag : Value → Prop
  | null : IsTag .null
  | bool (b : Bool) : IsTag (.bool b)
  | int (n : Int) : IsTag (.int n)
  | double (d : Double) : IsTag (.double d)
  /-- A decimal number can, unless it is a NaN that signals. -/
  | decimal {d : Decimal} (h : ∀ negative payload, d ≠ .nan negative true payload) :
      IsTag (.decimal d)
  | fraction (q : Rat) : IsTag (.fraction q)
  | text (s : String) : IsTag (.text s)
  /-- An item can, if its facts can. -/
  | item {productType productVendor sku : Value} (productTags : Option (List Value))
      (htype : IsTag productType) (hvendor : IsTag productVendor) (hsku : IsTag sku) :
      IsTag (.item productType productTags productVendor sku)

/-- Why the value cannot be a tag. -/
inductive TagFails : Value → TagFault → Prop
  | list (items : List Value) : TagFails (.list items) (.compound .list)
  | object (members : List (String × Value)) : TagFails (.object members) (.compound .object)
  | signaling (negative : Bool) (payload : Nat) :
      TagFails (.decimal (.nan negative true payload)) .signalingNan
  | productType {productType : Value} (productTags : Option (List Value))
      (productVendor sku : Value) {fault : TagFault} (h : TagFails productType fault) :
      TagFails (.item productType productTags productVendor sku) fault
  | productVendor {productType productVendor : Value} (productTags : Option (List Value))
      (sku : Value) {fault : TagFault} (htype : IsTag productType)
      (h : TagFails productVendor fault) :
      TagFails (.item productType productTags productVendor sku) fault
  | sku {productType productVendor sku : Value} (productTags : Option (List Value))
      {fault : TagFault} (htype : IsTag productType) (hvendor : IsTag productVendor)
      (h : TagFails sku fault) :
      TagFails (.item productType productTags productVendor sku) fault

theorem tagFault?_eq_none_iff : ∀ {v : Value}, v.tagFault? = none ↔ v.IsTag
  | .list _ | .object _ => iff_of_false nofun nofun
  | .decimal (.nan negative true payload) =>
    iff_of_false nofun fun | .decimal h => h negative payload rfl
  | .decimal (.nan _ false _) | .decimal (.finite _ _ _) | .decimal (.infinite _) =>
    iff_of_true rfl (.decimal nofun)
  | .null | .bool _ | .int _ | .double _ | .fraction _ | .text _ =>
    iff_of_true rfl (by constructor)
  | .item productType productTags productVendor sku => by
    rw [tagFault?, Option.or_eq_none_iff, Option.or_eq_none_iff, tagFault?_eq_none_iff,
      tagFault?_eq_none_iff, tagFault?_eq_none_iff]
    constructor
    · rintro ⟨htype, hvendor, hsku⟩
      exact .item productTags htype hvendor hsku
    · intro h
      cases h with
      | item _ htype hvendor hsku => exact ⟨htype, hvendor, hsku⟩

theorem tagFault?_eq_some_iff {fault : TagFault} :
    ∀ {v : Value}, v.tagFault? = some fault ↔ v.TagFails fault
  | .list items => by
    rw [tagFault?, Option.some.injEq]
    exact ⟨fun h => h ▸ .list items, fun | .list _ => rfl⟩
  | .object members => by
    rw [tagFault?, Option.some.injEq]
    exact ⟨fun h => h ▸ .object members, fun | .object _ => rfl⟩
  | .decimal (.nan negative true payload) => by
    rw [tagFault?, Option.some.injEq]
    exact ⟨fun h => h ▸ .signaling negative payload, fun | .signaling _ _ => rfl⟩
  | .decimal (.nan _ false _) | .decimal (.finite _ _ _) | .decimal (.infinite _)
  | .null | .bool _ | .int _ | .double _ | .fraction _ | .text _ =>
    iff_of_false nofun nofun
  | .item productType productTags productVendor sku => by
    rw [tagFault?, Option.or_eq_some_iff, Option.or_eq_some_iff, tagFault?_eq_none_iff,
      tagFault?_eq_none_iff, tagFault?_eq_some_iff, tagFault?_eq_some_iff, tagFault?_eq_some_iff]
    constructor
    · rintro (h | ⟨htype, h | ⟨hvendor, h⟩⟩)
      · exact .productType productTags productVendor sku h
      · exact .productVendor productTags sku htype h
      · exact .sku productTags htype hvendor h
    · intro h
      cases h with
      | productType _ _ _ h => exact .inl h
      | productVendor _ _ htype h => exact .inr ⟨htype, .inl h⟩
      | sku _ htype hvendor h => exact .inr ⟨htype, .inr ⟨hvendor, h⟩⟩

/-! ## Sets of tags -/

/-- The tags are the set of some values. -/
structure IsSetOf (values tags : List Value) : Prop where
  /-- The tags are among the values, and stand in their order. -/
  sublist : tags.Sublist values
  /-- Every value is one of the tags, or equals one. -/
  covers : ∀ v ∈ values, v ∈ tags ∨ ∃ tag ∈ tags, v.equal tag = true
  /-- No tag equals one before it. -/
  apart : tags.Pairwise fun tag later => later.equal tag = false

theorem distinct_concat (values : List Value) (v : Value) :
    distinct (values ++ [v]) =
      if (distinct values).any (equal v) then distinct values else distinct values ++ [v] := by
  unfold distinct
  rw [List.foldl_append]
  rfl

/-- **Of equal values the first is kept**, and nothing else is lost. -/
theorem isSetOf_distinct (values : List Value) : IsSetOf values (distinct values) := by
  induction values using List.reverseRecOn with
  | nil => exact ⟨.slnil, fun _ h => absurd h List.not_mem_nil, .nil⟩
  | append_singleton values v ih =>
    rw [distinct_concat]
    have hearlier : values.Sublist (values ++ [v]) := List.sublist_append_left _ _
    by_cases hknown : (distinct values).any (equal v) = true
    · rw [if_pos hknown]
      refine ⟨ih.sublist.trans hearlier, fun w hw => ?_, ih.apart⟩
      rcases List.mem_append.mp hw with hw | hw
      · exact ih.covers w hw
      · rw [List.mem_singleton.mp hw]
        exact .inr (List.any_eq_true.mp hknown)
    · rw [if_neg hknown]
      refine ⟨ih.sublist.append (.refl _), fun w hw => ?_, ?_⟩
      · rcases List.mem_append.mp hw with hw | hw
        · rcases ih.covers w hw with h | ⟨tag, htag, h⟩
          · exact .inl (List.mem_append_left _ h)
          · exact .inr ⟨tag, List.mem_append_left _ htag, h⟩
        · exact .inl (List.mem_append_right _ hw)
      · refine List.pairwise_append.mpr ⟨ih.apart, List.pairwise_singleton _ _, ?_⟩
        intro tag htag later hlater
        rw [List.mem_singleton.mp hlater]
        by_contra hequal
        exact hknown (List.any_eq_true.mpr ⟨tag, htag, by simpa using hequal⟩)

/-- The value is a collection of tags. -/
def HasTags (v : Value) : Prop :=
  ∃ values, v.Holds values ∧ ∀ w ∈ values, w.IsTag

/-- Why the elements of a value cannot be made a set of tags: there are none, or the first that is
no tag. -/
inductive TagSetFails (v : Value) : AccessFault → Prop
  | notIterable (h : ∀ values, ¬v.Holds values) : TagSetFails v (.notIterable v.kind)
  | notATag {before after : List Value} {w : Value} {fault : TagFault}
      (h : v.Holds (before ++ w :: after)) (hbefore : ∀ u ∈ before, u.IsTag)
      (hw : w.TagFails fault) : TagSetFails v (.notATag fault)

theorem checkTags_eq_ok_iff {values : List Value} {u : Unit} :
    checkTags values = .ok u ↔ ∀ v ∈ values, v.IsTag := by
  simp only [checkTags, ← tagFault?_eq_none_iff, ← List.findSome?_eq_none_iff]
  cases values.findSome? tagFault? <;> simp

theorem checkTags_eq_error_iff {values : List Value} {fault : AccessFault} :
    checkTags values = .error fault ↔
      ∃ before w after tagFault, values = before ++ w :: after ∧ (∀ u ∈ before, u.IsTag) ∧
        w.TagFails tagFault ∧ fault = .notATag tagFault := by
  unfold checkTags
  constructor
  · intro h
    cases hfind : values.findSome? tagFault? with
    | none => simp [hfind] at h
    | some tagFault =>
      obtain ⟨before, w, after, hvalues, hw, hbefore⟩ := List.findSome?_eq_some_iff.mp hfind
      refine ⟨before, w, after, tagFault, hvalues, fun u hu => ?_, tagFault?_eq_some_iff.mp hw, ?_⟩
      · exact tagFault?_eq_none_iff.mp (hbefore u hu)
      · simpa [hfind, eq_comm] using h
  · rintro ⟨before, w, after, tagFault, rfl, hbefore, hw, rfl⟩
    have hfind : (before ++ w :: after).findSome? tagFault? = some tagFault :=
      List.findSome?_eq_some_iff.mpr ⟨before, w, after, rfl, tagFault?_eq_some_iff.mpr hw,
        fun u hu => tagFault?_eq_none_iff.mpr (hbefore u hu)⟩
    simp [hfind]

/-- **The set of tags of a collection of tags.** -/
theorem tagSet_eq_ok_iff {v : Value} {tags : List Value} :
    v.tagSet = .ok tags ↔
      ∃ values, v.Holds values ∧ (∀ w ∈ values, w.IsTag) ∧ distinct values = tags := by
  simp only [tagSet, bind_eq_ok_iff, elements_eq_ok_iff, checkTags_eq_ok_iff, pure_eq_ok_iff,
    exists_const]

theorem exists_tagSet_iff {v : Value} : (∃ tags, v.tagSet = .ok tags) ↔ v.HasTags := by
  simp only [tagSet_eq_ok_iff, HasTags]
  constructor
  · rintro ⟨tags, values, hvalues, htags, -⟩
    exact ⟨values, hvalues, htags⟩
  · rintro ⟨values, hvalues, htags⟩
    exact ⟨_, values, hvalues, htags, rfl⟩

/-- **Why there is no set of tags.** -/
theorem tagSet_eq_error_iff {v : Value} {fault : AccessFault} :
    v.tagSet = .error fault ↔ v.TagSetFails fault := by
  simp only [tagSet, bind_eq_error_iff, elements_eq_error_iff, elements_eq_ok_iff,
    checkTags_eq_error_iff, pure, Except.pure, reduceCtorEq, and_false, exists_const, or_false]
  constructor
  · rintro (⟨hnone, rfl⟩ | ⟨values, hvalues, before, w, after, tagFault, rfl, hbefore, hw, rfl⟩)
    · exact .notIterable hnone
    · exact .notATag hvalues hbefore hw
  · rintro (hnone | ⟨hvalues, hbefore, hw⟩)
    · exact .inl ⟨hnone, rfl⟩
    · exact .inr ⟨_, hvalues, _, _, _, _, rfl, hbefore, hw, rfl⟩

/-! ## Line items -/

/-- The value is a collection of those elements, or it counts as absent and there are none. -/
inductive HoldsIfAny (v : Value) : List Value → Prop
  | absent (h : v.isTruthy = false) : HoldsIfAny v []
  | present {values : List Value} (h : v.isTruthy = true) (hvalues : v.Holds values) :
      HoldsIfAny v values

theorem holdsIfAny_iff_of_present {v : Value} (h : v.isTruthy = true) {values : List Value} :
    v.HoldsIfAny values ↔ v.Holds values := by
  refine ⟨?_, .present h⟩
  rintro (hfalse | ⟨-, hvalues⟩)
  · rw [h] at hfalse
    cases hfalse
  · exact hvalues

theorem holdsIfAny_iff_of_absent {v : Value} (h : v.isTruthy = false) {values : List Value} :
    v.HoldsIfAny values ↔ values = [] := by
  constructor
  · rintro (- | ⟨htrue, -⟩)
    · rfl
    · rw [h] at htrue
      cases htrue
  · rintro rfl
    exact .absent h

theorem elementsIfAny_eq_ok_iff {v : Value} {values : List Value} :
    v.elementsIfAny = .ok values ↔ v.HoldsIfAny values := by
  unfold elementsIfAny
  cases h : v.isTruthy with
  | true => simp [holdsIfAny_iff_of_present h, elements_eq_ok_iff]
  | false => simp [holdsIfAny_iff_of_absent h, eq_comm]

theorem elementsIfAny_eq_error_iff {v : Value} {fault : AccessFault} :
    v.elementsIfAny = .error fault ↔
      v.isTruthy = true ∧ (∀ values, ¬v.Holds values) ∧ fault = .notIterable v.kind := by
  unfold elementsIfAny
  cases h : v.isTruthy <;> simp [elements_eq_error_iff]

theorem tagSetIfAny_eq_ok_iff {v : Value} {tags : List Value} :
    v.tagSetIfAny = .ok tags ↔
      ∃ values, v.HoldsIfAny values ∧ (∀ w ∈ values, w.IsTag) ∧ distinct values = tags := by
  unfold tagSetIfAny
  cases h : v.isTruthy with
  | true => simp [holdsIfAny_iff_of_present h, tagSet_eq_ok_iff]
  | false => simp [holdsIfAny_iff_of_absent h, distinct]

theorem tagSetIfAny_eq_error_iff {v : Value} {fault : AccessFault} :
    v.tagSetIfAny = .error fault ↔ v.isTruthy = true ∧ v.TagSetFails fault := by
  unfold tagSetIfAny
  cases h : v.isTruthy <;> simp [tagSet_eq_error_iff]

/-- A line item has the shape that it must have: it was read before, or it is an object whose tags,
if they are there, are a collection of tags. -/
inductive IsLineItem : Value → Prop
  | item (productType : Value) (productTags : Option (List Value)) (productVendor sku : Value) :
      IsLineItem (.item productType productTags productVendor sku)
  | object {facts : List (String × Value)} {values : List Value}
      (h : (member facts "product_tags").HoldsIfAny values) (htags : ∀ v ∈ values, v.IsTag) :
      IsLineItem (.object facts)

/-- The facts of a line item: those that were read before, or those that an object holds, with the
set of its tags. -/
inductive HasFacts : Value → Item → Prop
  | item (productType : Value) (productTags : Option (List Value)) (productVendor sku : Value) :
      HasFacts (.item productType productTags productVendor sku)
        { productType, productTags, productVendor, sku }
  | object {facts : List (String × Value)} {values tags : List Value}
      (h : (member facts "product_tags").HoldsIfAny values) (hset : IsSetOf values tags) :
      HasFacts (.object facts) {
        productType := member facts "product_type"
        productTags := some tags
        productVendor := member facts "product_vendor"
        sku := member facts "sku" }

/-- Why a line item cannot be read: it is no object, or its tags are no collection of tags. -/
inductive LineItemFails : Value → AccessFault → Prop
  | notAnObject {v : Value}
      (hitem : ∀ productType productTags productVendor sku,
        v ≠ .item productType productTags productVendor sku)
      (hobject : ∀ facts, v ≠ .object facts) : LineItemFails v (.notAnObject v.kind)
  | tags {facts : List (String × Value)} {fault : AccessFault}
      (h : (member facts "product_tags").isTruthy = true)
      (hfails : (member facts "product_tags").TagSetFails fault) :
      LineItemFails (.object facts) fault

theorem lineItem_object_eq_ok_iff {facts : List (String × Value)} {item : Item} :
    lineItem (.object facts) = .ok item ↔
      ∃ tags, (member facts "product_tags").tagSetIfAny = .ok tags ∧ item = {
        productType := member facts "product_type"
        productTags := some tags
        productVendor := member facts "product_vendor"
        sku := member facts "sku" } := by
  simp only [lineItem, members, ok_bind, bind_eq_ok_iff, pure_eq_ok_iff, @eq_comm _ item]

/-- **What is read of a line item** are its facts. -/
theorem hasFacts_of_lineItem {v : Value} {item : Item} (h : v.lineItem = .ok item) :
    v.HasFacts item := by
  cases v with
  | item productType productTags productVendor sku =>
    cases h
    exact .item productType productTags productVendor sku
  | object facts =>
    obtain ⟨tags, htags, rfl⟩ := lineItem_object_eq_ok_iff.mp h
    obtain ⟨values, hvalues, -, rfl⟩ := tagSetIfAny_eq_ok_iff.mp htags
    exact .object hvalues (isSetOf_distinct values)
  | null | bool _ | int _ | double _ | decimal _ | fraction _ | text _ | list _ =>
    cases h

theorem exists_lineItem_iff {v : Value} : (∃ item, v.lineItem = .ok item) ↔ v.IsLineItem := by
  constructor
  · rintro ⟨item, h⟩
    cases v with
    | item productType productTags productVendor sku => exact .item _ _ _ _
    | object facts =>
      obtain ⟨tags, htags, -⟩ := lineItem_object_eq_ok_iff.mp h
      obtain ⟨values, hvalues, hall, -⟩ := tagSetIfAny_eq_ok_iff.mp htags
      exact .object hvalues hall
    | null | bool _ | int _ | double _ | decimal _ | fraction _ | text _ | list _ =>
      cases h
  · rintro (⟨_, _, _, _⟩ | ⟨hvalues, hall⟩)
    · exact ⟨_, rfl⟩
    · exact ⟨_, lineItem_object_eq_ok_iff.mpr
        ⟨_, tagSetIfAny_eq_ok_iff.mpr ⟨_, hvalues, hall, rfl⟩, rfl⟩⟩

/-- **Why a line item cannot be read.** -/
theorem lineItem_eq_error_iff {v : Value} {fault : AccessFault} :
    v.lineItem = .error fault ↔ v.LineItemFails fault := by
  cases v with
  | item productType productTags productVendor sku =>
    refine iff_of_false nofun ?_
    rintro ⟨hitem, -⟩
    exact hitem _ _ _ _ rfl
  | object facts =>
    simp only [lineItem, members, ok_bind, bind_eq_error_iff, tagSetIfAny_eq_error_iff, pure,
      Except.pure, reduceCtorEq, and_false, exists_const, or_false]
    constructor
    · rintro ⟨hpresent, hfails⟩
      exact .tags hpresent hfails
    · rintro (⟨-, hobject⟩ | ⟨hpresent, hfails⟩)
      · exact absurd rfl (hobject facts)
      · exact ⟨hpresent, hfails⟩
  | null | bool _ | int _ | double _ | decimal _ | fraction _ | text _ | list _ =>
    constructor
    · rintro ⟨⟩
      exact .notAnObject nofun nofun
    · rintro ⟨-, -⟩
      rfl

end Value

end Disposition
