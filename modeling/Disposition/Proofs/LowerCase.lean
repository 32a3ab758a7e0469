import Disposition.Proofs.Substring
import Disposition.Proofs.Trimming

/-!
# Normal forms of operands

The operand of a rule on texts is compared in its normal form, without the blanks at its ends and in
lower case. The normal form is final: putting it in normal form again changes nothing, so it makes
no difference which of the two is stored.

Two facts about the table of lower cases carry this. No lower case has a lower case of its own, so
lower case twice is lower case once; and blanks have no lower case and are none, so the lower case
of a text is trimmed if and only if the text is. The table is a list of runs, and both are seen from
the ends and parities of its runs (`CaseRow.apart`), without going through its characters.

The text of a context is not trimmed before it is compared. So what begins or ends with a blank
never equals an operand.

Results:
* `Text.lowerRows_apart`, `Text.lowerRows_apart_blank`: the two facts about the table.
* `Text.isSmall_of_mem_lowerAt`, `Text.isBlank_of_mem_lowerAt`: the lower case of a character.
* `Text.lower_lower`, `Text.isTrimmed_lower`, `Text.normalize_normalize`: that of a text.
* `ConditionKind.holds_iff_of_comparesWhole`: conditions on whole texts.
* `Rule.normalized_operand`: all of it for rules.
-/

namespace Disposition

namespace Text

/-! ## The table -/

namespace CaseRow

/-- The run of the lower cases of a run. -/
def lowered (row : CaseRow) : CaseRow where
  first := (row.first + row.shift).toNat
  last := (row.last + row.shift).toNat
  step := row.step
  shift := 0

/-- The run of a character. -/
def single (c : Char) : CaseRow where
  first := c.toNat
  last := c.toNat
  step := 1
  shift := 0

/-- The characters of the run are all even or all odd. -/
def hasParity (row : CaseRow) : Bool :=
  row.step % 2 == 0 || row.first == row.last

/-- The runs have no character in common, as is seen from their ends and parities. -/
def apart (row other : CaseRow) : Bool :=
  row.last.blt other.first || other.last.blt row.first ||
    (row.hasParity && other.hasParity && row.first % 2 != other.first % 2)

variable {row other : CaseRow} {code : Nat}

theorem covers_iff : row.covers code = true ↔
    row.first ≤ code ∧ code ≤ row.last ∧ row.step ∣ code - row.first := by
  simp only [covers, Bool.and_eq_true, decide_eq_true_eq, beq_iff_eq, and_assoc,
    Nat.dvd_iff_mod_eq_zero]

theorem covers_single (c : Char) : (single c).covers c.toNat = true :=
  covers_iff.mpr ⟨Nat.le_refl _, Nat.le_refl _, Nat.one_dvd _⟩

theorem mod_two_eq_of_hasParity (h : row.hasParity = true) (hc : row.covers code = true) :
    code % 2 = row.first % 2 := by
  obtain ⟨hfirst, hlast, hdvd⟩ := covers_iff.mp hc
  rw [hasParity, Bool.or_eq_true, beq_iff_eq, beq_iff_eq] at h
  rcases h with hstep | hsingle
  · have h2 : 2 ∣ code - row.first := Nat.dvd_trans (Nat.dvd_of_mod_eq_zero hstep) hdvd
    omega
  · have heq : code = row.first := by omega
    rw [heq]

/-- What is in the one run is not in the other. -/
theorem covers_eq_false_of_apart (h : row.apart other = true) (hc : row.covers code = true) :
    other.covers code = false := by
  refine Bool.eq_false_iff.mpr fun ho => ?_
  obtain ⟨hfirst, hlast, -⟩ := covers_iff.mp hc
  obtain ⟨hofirst, holast, -⟩ := covers_iff.mp ho
  simp only [apart, Bool.or_eq_true, Bool.and_eq_true, Nat.blt_eq, bne_iff_ne, ne_eq] at h
  rcases h with (h | h) | ⟨⟨hrow, hother⟩, h⟩
  · omega
  · omega
  · exact h ((mod_two_eq_of_hasParity hrow hc).symm.trans (mod_two_eq_of_hasParity hother ho))

theorem covers_lowered (hshift : 0 ≤ row.first + row.shift) (h : row.covers code = true) :
    row.lowered.covers (code + row.shift).toNat = true := by
  obtain ⟨hfirst, hlast, hdvd⟩ := covers_iff.mp h
  refine covers_iff.mpr ⟨?_, ?_, ?_⟩
  · simp only [lowered]; omega
  · simp only [lowered]; omega
  · have heq : (code + row.shift).toNat - (row.first + row.shift).toNat = code - row.first := by
      omega
    simp only [lowered, heq, hdvd]

end CaseRow

/-- The blanks as runs. -/
def blankRuns : List CaseRow :=
  [⟨0x9, 0xD, 1, 0⟩, ⟨0x1C, 0x20, 1, 0⟩, ⟨0x85, 0x85, 1, 0⟩, ⟨0xA0, 0xA0, 1, 0⟩,
   ⟨0x1680, 0x1680, 1, 0⟩, ⟨0x2000, 0x200A, 1, 0⟩, ⟨0x2028, 0x2029, 1, 0⟩, ⟨0x202F, 0x202F, 1, 0⟩,
   ⟨0x205F, 0x205F, 1, 0⟩, ⟨0x3000, 0x3000, 1, 0⟩]

theorem isBlank_iff {c : Char} :
    isBlank c = true ↔ ∃ run ∈ blankRuns, run.covers c.toNat = true := by
  simp only [isBlank, isSpace, Bool.or_eq_true, Bool.and_eq_true, decide_eq_true_eq, beq_iff_eq,
    blankRuns, List.mem_cons, List.not_mem_nil, or_false, CaseRow.covers_iff, exists_eq_or_imp,
    Nat.one_dvd, and_true, existsAndEq, true_and]
  omega

theorem isBlank_eq_false {c : Char} (h : ∀ run ∈ blankRuns, run.covers c.toNat = false) :
    isBlank c = false := by
  refine Bool.eq_false_iff.mpr fun hblank => ?_
  obtain ⟨run, hrun, hcovers⟩ := isBlank_iff.mp hblank
  exact Bool.eq_false_iff.mp (h run hrun) hcovers

/-- The capitals that are lowered by rules of their own. -/
def specialCapitals : List Char :=
  [dottedCapitalI, capitalSigma]

/-- Their lower cases. -/
def specialSmalls : List Char :=
  ['i', combiningDot, smallSigma, finalSigma]

/-- **No lower case has a lower case of its own.** -/
theorem lowerRows_apart {row other : CaseRow} (hrow : row ∈ lowerRows)
    (hother : other ∈ lowerRows) : row.lowered.apart other = true := by
  have hall : (lowerRows.all fun row => lowerRows.all row.lowered.apart) = true := by
    decide +kernel
  exact List.all_eq_true.mp (List.all_eq_true.mp hall row hrow) other hother

/-- No lower case is a special capital. -/
theorem lowerRows_apart_special :
    ∀ row ∈ lowerRows, ∀ run ∈ specialCapitals.map CaseRow.single,
      row.lowered.apart run = true := by
  decide +kernel

/-- **Blanks have no lower case and are none.** -/
theorem lowerRows_apart_blank :
    ∀ row ∈ lowerRows, ∀ run ∈ blankRuns, row.apart run = true ∧ row.lowered.apart run = true := by
  decide +kernel

/-- All lower cases are characters. -/
theorem lowerRows_valid : ∀ row ∈ lowerRows, 0 ≤ row.first + row.shift ∧
    (row.lowered.last < 0xD800 ∨ 0xDFFF < row.lowered.first ∧ row.lowered.last < 0x110000) := by
  decide +kernel

theorem lowerCode_eq_self {code : Nat} (h : ∀ row ∈ lowerRows, row.covers code = false) :
    lowerCode code = code := by
  have hnone : lowerRows.find? (·.covers code) = none :=
    List.find?_eq_none.mpr fun row hrow => Bool.eq_false_iff.mp (h row hrow)
  rw [lowerCode, hnone]

/-- A code point is its own lower case, or it is in a run and its lower case in the lowered run. -/
theorem lowerCode_cases (code : Nat) : lowerCode code = code ∨
    ∃ row ∈ lowerRows, row.covers code = true ∧ row.lowered.covers (lowerCode code) = true := by
  cases hfind : lowerRows.find? (·.covers code) with
  | none =>
    refine .inl (lowerCode_eq_self fun row hrow => Bool.eq_false_iff.mpr ?_)
    exact List.find?_eq_none.mp hfind row hrow
  | some row =>
    have hrow := List.mem_of_find?_eq_some hfind
    have hcovers : row.covers code = true := by simpa using List.find?_some hfind
    refine .inr ⟨row, hrow, hcovers, ?_⟩
    rw [lowerCode, hfind]
    exact CaseRow.covers_lowered (lowerRows_valid row hrow).1 hcovers

theorem isValidChar_lowerCode {code : Nat} (h : code.isValidChar) :
    (lowerCode code).isValidChar := by
  rcases lowerCode_cases code with heq | ⟨row, hrow, -, hlowered⟩
  · rwa [heq]
  · obtain ⟨hfirst, hlast, -⟩ := CaseRow.covers_iff.mp hlowered
    rcases (lowerRows_valid row hrow).2 with hlow | ⟨hhigh, hend⟩
    · exact .inl (Nat.lt_of_le_of_lt hlast hlow)
    · exact .inr ⟨Nat.lt_of_lt_of_le hhigh hfirst, Nat.lt_of_le_of_lt hlast hend⟩

theorem toNat_ofNat {code : Nat} (h : code.isValidChar) : (Char.ofNat code).toNat = code := by
  rw [Char.ofNat, dif_pos h]
  rfl

/-! ## Characters -/

/-- The character is its own lower case, wherever it stands. -/
structure IsSmall (c : Char) : Prop where
  /-- It has no other lower case. -/
  lowerChar_eq : lowerChar c = [c]
  /-- It is not the capital whose lower case depends on the place. -/
  ne_capitalSigma : c ≠ capitalSigma

instance : DecidablePred IsSmall := fun c =>
  decidable_of_iff (lowerChar c = [c] ∧ c ≠ capitalSigma) ⟨fun h => ⟨h.1, h.2⟩, fun h => ⟨h.1, h.2⟩⟩

variable {before after : List Char} {c d : Char}

theorem ne_of_not_special (h : c ∉ specialCapitals) : c ≠ dottedCapitalI ∧ c ≠ capitalSigma := by
  rwa [specialCapitals, List.mem_pair, not_or] at h

theorem isSmall_of_lowerCode (hspecial : c ∉ specialCapitals) (h : lowerCode c.toNat = c.toNat) :
    IsSmall c := by
  obtain ⟨hdotted, hsigma⟩ := ne_of_not_special hspecial
  refine ⟨?_, hsigma⟩
  rw [lowerChar, if_neg hdotted, h, Char.ofNat_toNat]

theorem mem_specialSmalls (hspecial : c ∈ specialCapitals) (h : d ∈ lowerAt before after c) :
    d ∈ specialSmalls := by
  rw [specialCapitals, List.mem_pair] at hspecial
  rcases hspecial with rfl | rfl
  · exact List.mem_append_left [smallSigma, finalSigma] h
  · rw [lowerAt, if_pos rfl, List.mem_singleton] at h
    split at h <;> simp [h, specialSmalls]

theorem lowerAt_of_not_special (hspecial : c ∉ specialCapitals) :
    lowerAt before after c = [Char.ofNat (lowerCode c.toNat)] := by
  obtain ⟨hdotted, hsigma⟩ := ne_of_not_special hspecial
  rw [lowerAt, if_neg hsigma, lowerChar, if_neg hdotted]

/-- A lower case comes from a rule of its own, or it is the character itself, or it comes from a run
of the table. -/
theorem mem_lowerAt_cases (h : d ∈ lowerAt before after c) :
    (c ∈ specialCapitals ∧ d ∈ specialSmalls) ∨ (d = c ∧ IsSmall c) ∨
      ∃ row ∈ lowerRows, row.covers c.toNat = true ∧ row.lowered.covers d.toNat = true := by
  by_cases hspecial : c ∈ specialCapitals
  · exact .inl ⟨hspecial, mem_specialSmalls hspecial h⟩
  rw [lowerAt_of_not_special hspecial, List.mem_singleton] at h
  subst h
  rcases lowerCode_cases c.toNat with heq | ⟨row, hrow, hcovers, hlowered⟩
  · refine .inr (.inl ⟨?_, isSmall_of_lowerCode hspecial heq⟩)
    rw [heq, Char.ofNat_toNat]
  · have hvalid : c.toNat.isValidChar := c.valid
    refine .inr (.inr ⟨row, hrow, hcovers, ?_⟩)
    rwa [toNat_ofNat (isValidChar_lowerCode hvalid)]

/-- A lower case from the table is small. -/
theorem isSmall_of_covers {row : CaseRow} (hrow : row ∈ lowerRows)
    (hlowered : row.lowered.covers d.toNat = true) : IsSmall d := by
  refine isSmall_of_lowerCode (fun hspecial => ?_) (lowerCode_eq_self fun other hother =>
    CaseRow.covers_eq_false_of_apart (lowerRows_apart hrow hother) hlowered)
  have hrun : CaseRow.single d ∈ specialCapitals.map CaseRow.single := List.mem_map_of_mem hspecial
  have hapart := CaseRow.covers_eq_false_of_apart (lowerRows_apart_special row hrow _ hrun) hlowered
  exact Bool.eq_false_iff.mp hapart (CaseRow.covers_single d)

/-- **What is in lower case stays as it is.** -/
theorem isSmall_of_mem_lowerAt (h : d ∈ lowerAt before after c) : IsSmall d := by
  rcases mem_lowerAt_cases h with ⟨-, hd⟩ | ⟨rfl, hsmall⟩ | ⟨row, hrow, -, hlowered⟩
  · have hall : (specialSmalls.all fun d => IsSmall d) = true := by decide +kernel
    exact of_decide_eq_true (List.all_eq_true.mp hall d hd)
  · exact hsmall
  · exact isSmall_of_covers hrow hlowered

/-- **Blanks stay blanks**, and nothing else becomes one. -/
theorem isBlank_of_mem_lowerAt (h : d ∈ lowerAt before after c) : isBlank d = isBlank c := by
  rcases mem_lowerAt_cases h with ⟨hc, hd⟩ | ⟨rfl, -⟩ | ⟨row, hrow, hcovers, hlowered⟩
  · have hall : (specialCapitals ++ specialSmalls).all (!isBlank ·) = true := rfl
    have hc := List.all_eq_true.mp hall c (List.mem_append_left _ hc)
    have hd := List.all_eq_true.mp hall d (List.mem_append_right _ hd)
    rw [Bool.not_eq_true'] at hc hd
    rw [hd, hc]
  · rfl
  · have hd : isBlank d = false := isBlank_eq_false fun run hrun =>
      CaseRow.covers_eq_false_of_apart (lowerRows_apart_blank row hrow run hrun).2 hlowered
    have hc : isBlank c = false := isBlank_eq_false fun run hrun =>
      CaseRow.covers_eq_false_of_apart (lowerRows_apart_blank row hrow run hrun).1 hcovers
    rw [hd, hc]

theorem lowerAt_ne_nil (before after : List Char) (c : Char) : lowerAt before after c ≠ [] := by
  unfold lowerAt lowerChar
  split_ifs <;> simp

/-! ## Texts -/

theorem isSmall_of_mem_lowerWithin {cs : List Char} (h : d ∈ lowerWithin before after cs) :
    IsSmall d := by
  induction cs generalizing before with
  | nil => exact absurd h List.not_mem_nil
  | cons c cs ih =>
    rcases List.mem_append.mp h with h | h
    · exact isSmall_of_mem_lowerAt h
    · exact ih h

theorem lowerWithin_of_isSmall {cs : List Char} (h : ∀ c ∈ cs, IsSmall c) :
    lowerWithin before after cs = cs := by
  induction cs generalizing before with
  | nil => rfl
  | cons c cs ih =>
    obtain ⟨hlower, hsigma⟩ := h c List.mem_cons_self
    rw [lowerWithin, lowerAt, if_neg hsigma, hlower,
      ih fun d hd => h d (List.mem_cons_of_mem c hd), List.singleton_append]

/-- **Lower case twice is lower case once.** -/
theorem lower_lower (cs : List Char) : lower (lower cs) = lower cs := by
  rw [lower_eq (lower cs)]
  refine lowerWithin_of_isSmall fun d hd => ?_
  rw [lower_eq] at hd
  exact isSmall_of_mem_lowerWithin hd

/-- The lower case of a character begins as the character does, as far as blanks go, and ends so. -/
theorem ends_lowerAt (before after : List Char) (c : Char) :
    (lowerAt before after c).head?.map isBlank = some (isBlank c) ∧
      (lowerAt before after c).getLast?.map isBlank = some (isBlank c) := by
  have hne := lowerAt_ne_nil before after c
  rw [List.head?_eq_some_head hne, List.getLast?_eq_some_getLast hne]
  exact ⟨congrArg some (isBlank_of_mem_lowerAt (List.head_mem hne)),
    congrArg some (isBlank_of_mem_lowerAt (List.getLast_mem hne))⟩

/-- The lower case of a text begins and ends with blanks as the text does. -/
theorem ends_lower (cs : List Char) :
    (lower cs).head?.map isBlank = cs.head?.map isBlank ∧
      (lower cs).getLast?.map isBlank = cs.getLast?.map isBlank := by
  rw [lower_eq]
  constructor
  · cases cs with
    | nil => rfl
    | cons c cs =>
      rw [lowerWithin, List.head?_append_of_ne_nil _ (lowerAt_ne_nil _ _ c)]
      exact (ends_lowerAt _ _ c).1
  · rcases List.eq_nil_or_concat cs with rfl | ⟨init, c, rfl⟩
    · rfl
    · have hlast : lowerWithin ([] ++ init) [] [c] = lowerAt ([] ++ init) [] c :=
        List.append_nil _
      rw [List.concat_eq_append, lowerWithin_append, hlast,
        List.getLast?_append_of_ne_nil _ (lowerAt_ne_nil _ _ c), List.getLast?_concat]
      exact (ends_lowerAt _ _ c).2

theorem isTrimmed_lower {cs : List Char} : IsTrimmed (lower cs) ↔ IsTrimmed cs := by
  obtain ⟨hhead, hlast⟩ := ends_lower cs
  rw [isTrimmed_iff, isTrimmed_iff, hhead, hlast]

/-- **Normal form twice is normal form once.** -/
theorem normalize_normalize (s : String) : normalize (normalize s) = normalize s := by
  have htrimmed : IsTrimmed (lower (trim s.toList)) := isTrimmed_lower.mpr (isTrimmed_trim _)
  unfold normalize
  rw [String.toList_ofList, htrimmed.trim_eq, lower_lower]

/-- A text whose lower case is in normal form is trimmed. -/
theorem isTrimmed_of_lowerString_eq {s t : String} (h : lowerString s = normalize t) :
    IsTrimmed s.toList := by
  have hlower : lower s.toList = lower (trim t.toList) := String.ofList_injective h
  rw [← isTrimmed_lower, hlower, isTrimmed_lower]
  exact isTrimmed_trim _

end Text

/-! ## Rules -/

open Text

/-- The values of a context that a condition of that kind inspects. -/
def Context.inspected (context : Context) : ConditionKind → List Value
  | .productType => context.items.map (·.productType)
  | .productTag => context.items.flatMap fun item => item.productTags.getD []
  | .productVendor => context.items.map (·.productVendor)
  | .skuContains => context.items.map (·.sku)
  | .orderValueAbove | .orderValueBelow => [context.orderValue]
  | .returnReason => [context.returnReason]
  | .customerTag => context.customerTags.getD []

theorem Value.hasLower_iff {v : Value} {operand : String} :
    v.hasLower operand = true ↔ ∃ s, v = .text s ∧ lowerString s = operand := by
  cases v <;> simp [Value.hasLower, Value.lowered?, Value.text?]

namespace ConditionKind

/-- A condition of that kind compares its operand with texts as a whole. -/
def comparesWhole : ConditionKind → Bool
  | productType | productTag | productVendor | returnReason | customerTag => true
  | skuContains | orderValueAbove | orderValueBelow => false

/-- A condition on texts depends on its operand as it is compared. -/
theorem holds_congr {kind : ConditionKind} (hkind : kind.isThreshold = false) {v w : Value}
    (h : v.operand = w.operand) (context : Context) :
    kind.holds v context = kind.holds w context := by
  unfold holds
  cases kind with
  | orderValueAbove | orderValueBelow => cases hkind
  | productType | productTag | productVendor | skuContains | returnReason | customerTag => rw [h]

/-- A condition that compares texts as a whole holds where one of them has its operand for a lower
case. -/
theorem holds_iff_of_comparesWhole {kind : ConditionKind} (hkind : kind.comparesWhole = true)
    {v : Value} {context : Context} : kind.holds v context = true ↔
      ∃ s, .text s ∈ context.inspected kind ∧ lowerString s = v.operand := by
  have hany : kind.holds v context = (context.inspected kind).any (·.hasLower v.operand) := by
    cases kind with
    | skuContains | orderValueAbove | orderValueBelow => cases hkind
    | productType | productVendor => simp [holds, Context.inspected, Function.comp_def]
    | productTag => exact List.any_flatMap.symm
    | returnReason => exact (Bool.or_false _).symm
    | customerTag => rfl
  rw [hany, List.any_eq_true]
  constructor
  · rintro ⟨w, hmem, hlower⟩
    obtain ⟨s, rfl, hs⟩ := Value.hasLower_iff.mp hlower
    exact ⟨s, hmem, hs⟩
  · rintro ⟨s, hmem, hs⟩
    exact ⟨_, hmem, Value.hasLower_iff.mpr ⟨s, rfl, hs⟩⟩

end ConditionKind

/-- **Normal forms of operands.** The normal form of a normal form is the same. A rule on texts with
the normal form of its operand holds in the same contexts; so no harm is done if normal forms are
stored. A rule that compares whole texts holds if and only if a text of the context that is trimmed
has the operand for its lower case; no text that begins or ends with a blank has. -/
theorem Rule.normalized_operand :
    (∀ s, normalize (normalize s) = normalize s) ∧
    (∀ (rule : Rule) (s : String), rule.conditionValue = .text s →
      (∀ kind, rule.kind? = some kind → kind.isThreshold = false) →
        ∀ context, { rule with conditionValue := .text (normalize s) }.holds context =
          rule.holds context) ∧
    ∀ (rule : Rule) (kind : ConditionKind), rule.kind? = some kind → kind.comparesWhole = true →
      (∀ context, rule.holds context = true ↔
        ∃ s, .text s ∈ context.inspected kind ∧ IsTrimmed s.toList ∧
          lowerString s = rule.conditionValue.operand) ∧
      ∀ s, ¬IsTrimmed s.toList → (Value.text s).hasLower rule.conditionValue.operand = false := by
  refine ⟨normalize_normalize, fun rule s hvalue hkind context => ?_,
    fun rule kind hrule hkind => ?_⟩
  · have hsame : ({ rule with conditionValue := .text (normalize s) } : Rule).kind? = rule.kind? :=
      rfl
    unfold Rule.holds
    rw [hsame]
    cases hrule : rule.kind? with
    | none => rfl
    | some kind =>
      refine ConditionKind.holds_congr (hkind kind hrule) ?_ context
      rw [hvalue]
      exact normalize_normalize s
  · have htrimmed : ∀ s, lowerString s = rule.conditionValue.operand → IsTrimmed s.toList :=
      fun s => isTrimmed_of_lowerString_eq
    refine ⟨fun context => ?_, fun s hs => Bool.eq_false_iff.mpr fun hlower => hs ?_⟩
    · rw [Rule.holds, hrule]
      refine (ConditionKind.holds_iff_of_comparesWhole hkind).trans (exists_congr fun s => ?_)
      exact and_congr_right fun _ => (and_iff_right_of_imp (htrimmed s)).symm
    · obtain ⟨t, heq, ht⟩ := Value.hasLower_iff.mp hlower
      cases heq
      exact htrimmed s ht

/-- A rule on vendors. -/
def Rule.onVendor (v : String) : Rule where
  id := "r"
  name := "Vendor"
  conditionType := .text "product_vendor"
  conditionValue := .text v
  destinationId := none

/-- A return of one item of that vendor. -/
def Context.ofVendor (s : String) : Context where
  items := [{ productVendor := .text s }]

/-- An operand in capitals with a blank before it: it may be stored in normal form, and the vendor
who is written just as it stands does not satisfy the rule. -/
theorem Rule.normalized_operand_blank :
    { onVendor " ΟΔΟΣ" with conditionValue := .text (normalize " ΟΔΟΣ") }.holds
        (.ofVendor "ΟδΟΣ") = (onVendor " ΟΔΟΣ").holds (.ofVendor "ΟδΟΣ") ∧
      (onVendor " ΟΔΟΣ").holds (.ofVendor "ΟδΟΣ") = true ∧
      (onVendor " ΟΔΟΣ").holds (.ofVendor " ΟΔΟΣ") = false := by
  have hkind : (onVendor " ΟΔΟΣ").kind? = some .productVendor := by decide
  have hlaw := normalized_operand.2.2 (onVendor " ΟΔΟΣ") .productVendor hkind rfl
  refine ⟨normalized_operand.2.1 (onVendor " ΟΔΟΣ") " ΟΔΟΣ" rfl ?_ _, (hlaw.1 _).mpr ?_,
    Bool.eq_false_iff.mpr fun h => ?_⟩
  · intro kind h
    cases hkind.symm.trans h
    rfl
  · exact ⟨"ΟδΟΣ", List.mem_cons_self, by decide +kernel, by decide +kernel⟩
  · obtain ⟨s, hmem, htrimmed, -⟩ := (hlaw.1 _).mp h
    cases List.mem_singleton.mp hmem
    exact absurd htrimmed (by decide +kernel)

end Disposition
