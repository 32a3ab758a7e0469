import Disposition.Proofs.RoundingOrder
import Disposition.Proofs.Threshold
import Disposition.Proofs.Verdict
import Disposition.Rule.Condition

/-!
# Rules on the value of an order

A rule on the value of an order compares two doubles, and each of them was rounded from what was
written: whole numbers of any size, fractions and decimal numbers, and texts with a numeral at their
start. The exact values are said apart from that, for a number by `Value.exactQuantity?` and for a
threshold by `Value.HasThreshold`. Against them the rules are strict and never wrong: what is held
to be above is above, what is held to be below is below. Only values that fall on one double, or
beyond all doubles, are on neither side; values that are doubles are on the right one.

A threshold that can be read is crossed by some order, and one that cannot be read is crossed by
none. So the report on a configuration, as far as there is one, names the rules that can never hold,
and no others.

Results:
* `Value.exactQuantity?_isReadAs`, `Value.HasThreshold.isReadAs`: what is read is correctly rounded.
* `Value.isCrossed_iff`: the thresholds that some order is above or below.
* `Rule.orderValue_sound`: the rules against the exact values.
* `Report.saysUnreadable_iff`: the unreadable thresholds of a report.
* `Rule.reported_iff_never`: the rules that are reported as unreadable.
-/

namespace Disposition

open Double

/-! ## Exact values and their doubles -/

namespace Exact

/-- The exact value of a decimal numeral, by its sign and its size. -/
theorem ofDecimal_eq (negative : Bool) (digits : Nat) (exponent : Int) :
    ofDecimal negative digits exponent =
      .rational (signedSize negative (digits * 10 ^ exponent)) := by
  have hsigned : ((Text.signed negative digits : Int) : ℚ) = signedSize negative digits := by
    cases negative <;> simp [Text.signed, signedSize]
  have hmul : ∀ factor : ℚ,
      signedSize negative digits * factor = signedSize negative (digits * factor) := by
    intro factor
    cases negative <;> simp [signedSize]
  unfold ofDecimal
  simp only
  split_ifs with hwhole
  · obtain ⟨n, rfl⟩ := Int.eq_ofNat_of_zero_le hwhole
    rw [Rat.mkRat_eq_div, Int.toNat_natCast, Nat.cast_one, div_one, Int.cast_mul, hsigned,
      Int.cast_natCast, cast_tenTo, ← zpow_natCast, hmul]
  · obtain ⟨n, hn⟩ := Int.eq_ofNat_of_zero_le (show 0 ≤ -exponent by omega)
    obtain rfl : exponent = -(n : ℤ) := by omega
    rw [neg_neg, Int.toNat_natCast, Rat.mkRat_eq_div, hsigned, cast_tenTo, div_eq_mul_inv,
      ← zpow_natCast, ← zpow_neg, hmul]

theorem roundsTo_ofDecimal (negative : Bool) (digits : Nat) (exponent : Int) :
    (ofDecimal negative digits exponent).RoundsTo (.ofDecimal negative digits exponent) := by
  rw [ofDecimal_eq]
  exact .rational (by positivity) (rounds_ofDecimal negative digits exponent)

/-- The double of a numeral is what its exact value is rounded to. -/
theorem roundsTo_numeral (n : Numeral) : n.exact.RoundsTo n.toDouble := by
  obtain ⟨negative, infinity | ⟨digits, exponent⟩⟩ := n
  · exact .infinity negative
  · exact roundsTo_ofDecimal negative digits exponent

/-- A whole number is rounded by its sign and its size. -/
theorem roundsTo_int (n : Int) : (rational n).RoundsTo (ofRatio (n < 0) n.natAbs 1) := by
  have hvalue : (n : ℚ) = signedSize (n < 0) ((n.natAbs : ℚ) / (1 : Nat)) := by
    rw [Nat.cast_one, div_one, Nat.cast_natAbs]
    rcases lt_or_ge n 0 with hneg | hpos
    · simp [signedSize, hneg, abs_of_neg hneg]
    · simp [signedSize, not_lt.mpr hpos, abs_of_nonneg hpos]
  rw [hvalue]
  exact .rational (by positivity) (rounds_ofRatio _ _ Nat.one_pos)

/-- A fraction is rounded by its sign and its size. -/
theorem roundsTo_rat (q : ℚ) : (rational q).RoundsTo (ofRatio (q.num < 0) q.num.natAbs q.den) := by
  have hvalue : q = signedSize (q.num < 0) ((q.num.natAbs : ℚ) / q.den) := by
    rw [Nat.cast_natAbs]
    rcases lt_or_ge q.num 0 with hneg | hpos
    · simp [signedSize, hneg, abs_of_neg hneg, neg_div, Rat.num_div_den]
    · simp [signedSize, not_lt.mpr hpos, abs_of_nonneg hpos, Rat.num_div_den]
  conv_lhs => rw [hvalue]
  exact .rational (by positivity) (rounds_ofRatio _ _ q.den_pos)

/-- A rational beyond the range of the format is no double. -/
theorem RoundsTo.not_isDouble {q : ℚ} {negative : Bool}
    (h : (Exact.rational q).RoundsTo (.infinite negative)) : ¬(Exact.rational q).IsDouble := by
  rintro ⟨d, hd, hvalue⟩
  have hplace := h.place_eq hd hvalue
  cases d with
  | nan => cases hvalue
  | infinite negative' => cases negative' <;> cases hvalue
  | finite negative' units =>
    rw [place, place] at hplace
    cases negative with
    | true => exact ((signedUnits_lt_iff hd.2 true negative').mpr rfl).ne hplace
    | false => exact ((lt_signedUnits_iff hd.2 negative' false).mpr rfl).ne' hplace

/-- What was read in the place of an exact value: the double that it is rounded to, or nothing if it
is no double itself. -/
inductive IsReadAs (p : Exact) : Option Double → Prop
  /-- It was rounded. -/
  | rounded {d : Double} (h : p.RoundsTo d) : IsReadAs p (some d)
  /-- It was beyond the range. -/
  | refused (h : ¬p.IsDouble) : IsReadAs p none

/-- A rational is read as a double in the range of the format. -/
theorem RoundsTo.isReadAs_ranged {q : ℚ} {d : Double} (h : (Exact.rational q).RoundsTo d) :
    (Exact.rational q).IsReadAs d.ranged? := by
  cases d with
  | nan => exact absurd rfl h.ne_nan
  | infinite negative => exact .refused h.not_isDouble
  | finite negative units => exact .rounded h

end Exact

namespace Value

open Text Numeral

/-! ## Quantities and thresholds, exactly -/

/-- The value, if it is a double, is one of the format. -/
def InFormat : Value → Prop
  | double d => d.InFormat
  | _ => True

/-- The exact value of a number. Truth values are no numbers here. -/
def exactQuantity? : Value → Option Exact
  | bool _ => none
  | v => v.exactValue?

/-- The exact value of a threshold: of a number its own, of a text that of the longest numeral
behind the blanks at its start. -/
inductive HasThreshold : Value → Exact → Prop
  /-- A number is its own threshold. -/
  | number {v : Value} {q : Exact} (h : v.exactQuantity? = some q) : HasThreshold v q
  /-- In a text the longest numeral counts. -/
  | text {s : String} {numeral : List Char} {n : Numeral}
      (hl : IsLongest numeral (trimStart s.toList)) (hw : Writes n numeral) :
      HasThreshold (text s) n.exact

theorem numeric?_of_ne_nan {d : Double} (h : d ≠ .nan) : numeric? d = some d := by
  cases d <;> first | rfl | exact absurd rfl h

/-- **A number is read as the double that its exact value is rounded to.** -/
theorem exactQuantity?_isReadAs {v : Value} {p : Exact} (hv : v.InFormat)
    (hp : v.exactQuantity? = some p) : p.IsReadAs v.quantity? := by
  cases v with
  | int n =>
    obtain rfl := Option.some.inj hp
    rw [quantity?, ofInt?]
    exact (Exact.roundsTo_int n).isReadAs_ranged
  | double d =>
    have h := hv.roundsTo hp
    rw [quantity?, numeric?_of_ne_nan h.ne_nan]
    exact .rounded h
  | decimal d =>
    cases d with
    | finite negative digits exponent =>
      obtain rfl := Option.some.inj hp
      have h := Exact.roundsTo_ofDecimal negative digits exponent
      rw [quantity?, Decimal.toDouble?, Option.bind_some, numeric?_of_ne_nan h.ne_nan]
      exact .rounded h
    | infinite negative =>
      obtain rfl := Option.some.inj hp
      exact .rounded (.infinity negative)
    | nan => cases hp
  | fraction q =>
    obtain rfl := Option.some.inj hp
    rw [quantity?, ofRat?]
    exact (Exact.roundsTo_rat q).isReadAs_ranged
  | _ => cases hp

/-- What has no exact value is not read as a number. -/
theorem quantity?_eq_none {v : Value} (h : v.exactQuantity? = none) : v.quantity? = none := by
  cases v with
  | double d => cases d <;> first | rfl | cases h
  | decimal d =>
    cases d with
    | nan negative signaling payload => cases signaling <;> rfl
    | _ => cases h
  | int | fraction => cases h
  | _ => rfl

theorem threshold?_eq_quantity? {v : Value} (h : v.text? = none) : v.threshold? = v.quantity? := by
  cases v <;> first | rfl | cases h

/-- **A threshold is read as the double that its exact value is rounded to.** -/
theorem HasThreshold.isReadAs {v : Value} {q : Exact} (hv : v.InFormat) (hq : v.HasThreshold q) :
    q.IsReadAs v.threshold? := by
  cases hq with
  | number h =>
    have htext : v.text? = none := by cases v <;> first | rfl | cases h
    rw [threshold?_eq_quantity? htext]
    exact exactQuantity?_isReadAs hv h
  | @text s numeral n hl hw =>
    rw [threshold?, textThreshold?_eq_some_iff.mpr ⟨numeral, n, hl, hw, roundsTo_iff.mpr rfl⟩]
    exact .rounded (Exact.roundsTo_numeral n)

/-- What is read as a number has an exact value. -/
theorem exists_exactQuantity {v : Value} {d : Double} (h : v.quantity? = some d) :
    ∃ p, v.exactQuantity? = some p := by
  cases hp : v.exactQuantity? with
  | none =>
    rw [quantity?_eq_none hp] at h
    cases h
  | some p => exact ⟨p, rfl⟩

/-- What is read as a threshold has an exact value. -/
theorem exists_hasThreshold {v : Value} {d : Double} (h : v.threshold? = some d) :
    ∃ q, v.HasThreshold q := by
  cases htext : v.text? with
  | none =>
    rw [threshold?_eq_quantity? htext] at h
    obtain ⟨q, hq⟩ := exists_exactQuantity h
    exact ⟨q, .number hq⟩
  | some s =>
    cases v with
    | text s' =>
      obtain ⟨numeral, n, hl, hw, -⟩ := textThreshold?_eq_some_iff.mp h
      exact ⟨n.exact, .text hl hw⟩
    | _ => cases htext

/-! ## Comparing what was read -/

theorem exceeds_eq_true_iff {value threshold : Option Double} :
    exceeds value threshold = true ↔
      ∃ d e, value = some d ∧ threshold = some e ∧ e.lt d = true := by
  unfold exceeds
  cases value <;> cases threshold <;> simp

/-- **What exceeds after it was read exceeds exactly.** -/
theorem lt_of_exceeds {p q : Exact} {value threshold : Option Double} (hp : p.IsReadAs value)
    (hq : q.IsReadAs threshold) (h : exceeds value threshold = true) : q.lt p = true := by
  obtain ⟨d, e, rfl, rfl, hlt⟩ := exceeds_eq_true_iff.mp h
  obtain ⟨hp⟩ := hp
  obtain ⟨hq⟩ := hq
  exact hq.lt_of_lt hp hlt

/-- **Of doubles those exceed that exceed exactly.** -/
theorem exceeds_iff_lt {p q : Exact} {value threshold : Option Double} (hp : p.IsReadAs value)
    (hq : q.IsReadAs threshold) (hpd : p.IsDouble) (hqd : q.IsDouble) :
    exceeds value threshold = true ↔ q.lt p = true := by
  cases hp with
  | refused h => exact absurd hpd h
  | rounded hp =>
    cases hq with
    | refused h => exact absurd hqd h
    | rounded hq => exact hq.lt_iff hp hqd hpd

/-! ## Thresholds that are crossed -/

theorem quantity?_ne_nan (v : Value) : v.quantity? ≠ some .nan := by
  have hnumeric : ∀ d, numeric? d ≠ some .nan := by rintro (_ | _ | _) <;> exact nofun
  have hranged : ∀ d, d ≠ .nan → ranged? d ≠ some .nan := by
    rintro (_ | _ | _) hd
    · exact absurd rfl hd
    all_goals exact nofun
  cases v with
  | int n =>
    rw [quantity?, ofInt?]
    exact hranged _ (Exact.roundsTo_int n).ne_nan
  | fraction q =>
    rw [quantity?, ofRat?]
    exact hranged _ (Exact.roundsTo_rat q).ne_nan
  | double d => exact hnumeric d
  | decimal d =>
    intro h
    obtain ⟨e, -, he⟩ := Option.bind_eq_some_iff.mp h
    exact hnumeric e he
  | _ => exact nofun

theorem threshold?_ne_nan (v : Value) : v.threshold? ≠ some .nan := by
  cases htext : v.text? with
  | none =>
    rw [threshold?_eq_quantity? htext]
    exact quantity?_ne_nan v
  | some s =>
    intro h
    cases v with
    | text s' =>
      obtain ⟨_, _, _, _, hd⟩ := textThreshold?_eq_some_iff.mp h
      exact hd.ne_nan rfl
    | _ => cases htext

end Value

open ConditionKind Value

/-- Some rule on the value of an order with that operand holds in some context. -/
def Value.IsCrossed (operand : Value) : Prop :=
  ∃ (rule : Rule) (context : Context),
    rule.IsOnOrderValue ∧ rule.conditionValue = operand ∧ rule.holds context = true

/-- A rule on some orders and with that operand. -/
def Rule.onOrders (kind : ConditionKind) (operand : Value) : Rule where
  id := "r"
  name := "Orders"
  conditionType := .text kind.name
  conditionValue := operand
  destinationId := none

theorem Rule.hasCondition_onOrders (kind : ConditionKind) (operand : Value) :
    (onOrders kind operand).HasCondition kind operand :=
  ⟨rfl, rfl⟩

/-- A condition on the value of an order holds only if its threshold can be read. -/
theorem ConditionKind.threshold?_ne_none {kind : ConditionKind} {v : Value} {context : Context}
    (hkind : kind.isThreshold = true) (h : kind.holds v context = true) : v.threshold? ≠ none := by
  cases kind with
  | orderValueAbove =>
    obtain ⟨_, d, -, hd, -⟩ := exceeds_eq_true_iff.mp h
    exact Option.ne_none_iff_exists'.mpr ⟨d, hd⟩
  | orderValueBelow =>
    obtain ⟨d, _, hd, -, -⟩ := exceeds_eq_true_iff.mp h
    exact Option.ne_none_iff_exists'.mpr ⟨d, hd⟩
  | _ => cases hkind

/-- **A threshold is crossed by some order if it can be read**, and by none else. -/
theorem Value.isCrossed_iff {v : Value} : v.IsCrossed ↔ v.threshold? ≠ none := by
  constructor
  · rintro ⟨rule, context, hon, rfl, h⟩
    obtain ⟨kind, hkind, hthreshold⟩ :=
      (Option.any_eq_true _ _).mp (Rule.kind?_isThreshold_iff.mpr hon)
    rw [Rule.holds, hkind] at h
    exact threshold?_ne_none hthreshold h
  · intro h
    obtain ⟨d, hd⟩ := Option.ne_none_iff_exists'.mp h
    -- the least of all orders is below the greatest threshold, the greatest is above the others
    by_cases hgreatest : d = .infinite false
    · subst hgreatest
      refine ⟨Rule.onOrders orderValueBelow v, { orderValue := .double (.infinite true) },
        .inr rfl, rfl, ?_⟩
      rw [(Rule.hasCondition_onOrders _ _).holds_eq]
      exact exceeds_eq_true_iff.mpr ⟨_, _, hd, rfl, rfl⟩
    · refine ⟨Rule.onOrders orderValueAbove v, { orderValue := .double (.infinite false) },
        .inl rfl, rfl, ?_⟩
      rw [(Rule.hasCondition_onOrders _ _).holds_eq]
      refine exceeds_eq_true_iff.mpr ⟨_, _, rfl, hd, ?_⟩
      cases d with
      | nan => exact absurd hd (threshold?_ne_nan v)
      | infinite negative =>
        cases negative with
        | true => rfl
        | false => exact absurd rfl hgreatest
      | finite negative units => rfl

/-- What two rules on the value of an order say, one on orders above the operand and one on orders
below it, against the exact values. -/
structure Context.IsComparedSoundly (context : Context) (operand : Value) (upper lower : Rule) :
    Prop where
  /-- What is held to be above the threshold is above it. -/
  above : upper.holds context = true →
    ∃ p q, context.orderValue.exactQuantity? = some p ∧ operand.HasThreshold q ∧ q.lt p = true
  /-- What is held to be below the threshold is below it. -/
  below : lower.holds context = true →
    ∃ p q, context.orderValue.exactQuantity? = some p ∧ operand.HasThreshold q ∧ p.lt q = true
  /-- Nothing is held to be both. -/
  exclusive : ¬(upper.holds context = true ∧ lower.holds context = true)
  /-- If both are doubles, what is above or below is held to be. -/
  faithful : ∀ p q, context.orderValue.exactQuantity? = some p → operand.HasThreshold q →
    p.IsDouble → q.IsDouble →
      (upper.holds context = true ↔ q.lt p = true) ∧ (lower.holds context = true ↔ p.lt q = true)

/-- **Rules on the value of an order are never wrong**, however the value and the threshold are
written: they are strict on the exact values of both, and they hold of all doubles that they should
hold of. -/
theorem Rule.orderValue_sound {upper lower : Rule} {context : Context} {operand : Value}
    (hupper : upper.HasCondition orderValueAbove operand)
    (hlower : lower.HasCondition orderValueBelow operand) (ho : context.orderValue.InFormat)
    (ht : operand.InFormat) : context.IsComparedSoundly operand upper lower := by
  have habove : upper.holds context = exceeds context.orderValue.quantity? operand.threshold? :=
    hupper.holds_eq context
  have hbelow : lower.holds context = exceeds operand.threshold? context.orderValue.quantity? :=
    hlower.holds_eq context
  constructor
  case above =>
    intro h
    rw [habove] at h
    obtain ⟨d, e, hd, he, -⟩ := exceeds_eq_true_iff.mp h
    obtain ⟨p, hp⟩ := exists_exactQuantity hd
    obtain ⟨q, hq⟩ := exists_hasThreshold he
    exact ⟨p, q, hp, hq, lt_of_exceeds (exactQuantity?_isReadAs ho hp) (hq.isReadAs ht) h⟩
  case below =>
    intro h
    rw [hbelow] at h
    obtain ⟨e, d, he, hd, -⟩ := exceeds_eq_true_iff.mp h
    obtain ⟨p, hp⟩ := exists_exactQuantity hd
    obtain ⟨q, hq⟩ := exists_hasThreshold he
    exact ⟨p, q, hp, hq, lt_of_exceeds (hq.isReadAs ht) (exactQuantity?_isReadAs ho hp) h⟩
  case exclusive =>
    rintro ⟨ha, hb⟩
    rw [habove] at ha
    rw [hbelow] at hb
    obtain ⟨d, e, hd, he, ha⟩ := exceeds_eq_true_iff.mp ha
    obtain ⟨e', d', he', hd', hb⟩ := exceeds_eq_true_iff.mp hb
    obtain rfl := Option.some.inj (hd.symm.trans hd')
    obtain rfl := Option.some.inj (he.symm.trans he')
    rw [lt_asymm ha] at hb
    cases hb
  case faithful =>
    intro p q hp hq hpd hqd
    rw [habove, hbelow]
    have hp := exactQuantity?_isReadAs ho hp
    have hq := hq.isReadAs ht
    exact ⟨exceeds_iff_lt hp hq hpd hqd, exceeds_iff_lt hq hp hqd hpd⟩

/-- The value of an order as a double, and a threshold with a currency behind it. -/
theorem Rule.orderValue_sound_euros :
    (Value.double (.finite false (150 * one))).InFormat ∧
      Context.IsComparedSoundly { orderValue := .double (.finite false (150 * one)) }
        (.text "99.90 EUR") (onOrders orderValueAbove (.text "99.90 EUR"))
        (onOrders orderValueBelow (.text "99.90 EUR")) :=
  have hformat : (Value.double (.finite false (150 * one))).InFormat :=
    inFormat_whole false (by decide)
  ⟨hformat, orderValue_sound (hasCondition_onOrders _ _) (hasCondition_onOrders _ _) hformat
    trivial⟩

/-! ## Reports on thresholds -/

namespace Issue

theorem text_dangling (room : Nat) (name : String) :
    (dangling name).text room =
      .ok ("Rule \"" ++ name ++ "\" references a deleted destination") := rfl

theorem text_unreadableThreshold {room : Nat} {name s : String} {operand : Value}
    (h : (unreadableThreshold name operand).text room = .ok s) :
    ∃ shown, s = "Rule \"" ++ name ++ "\" has invalid numeric value: " ++ shown := by
  obtain ⟨shown, -, h⟩ := bind_eq_ok_iff.mp h
  exact ⟨shown, (pure_eq_ok_iff.mp h).symm⟩

theorem text_sharedPriority {room : Nat} {p : Priority} {s : String}
    (h : (sharedPriority p).text room = .ok s) :
    ∃ shown, s = "Multiple active rules have the same priority (" ++ shown ++
      ") - order may be unpredictable" := by
  obtain ⟨shown, -, h⟩ := bind_eq_ok_iff.mp h
  exact ⟨shown, (pure_eq_ok_iff.mp h).symm⟩

/-- The wording of an unreadable threshold is that of no other problem, unless a rule of another
name has no destination. -/
theorem of_text_eq {room : Nat} {issue : Issue} {name s : String} {operand : Value}
    (hname : ∀ other, issue = dangling other → other = name) (hissue : issue.text room = .ok s)
    (h : (unreadableThreshold name operand).text room = .ok s) :
    ∃ other value, issue = unreadableThreshold other value := by
  obtain ⟨shown, rfl⟩ := text_unreadableThreshold h
  cases issue with
  | noDestinations | noDefault =>
    have hhead := congrArg (fun text => text.toList.head?) (Except.ok.inj hissue)
    simp at hhead
  | dangling other =>
    obtain rfl := hname other rfl
    rw [text_dangling] at hissue
    have hlist := congrArg String.toList (Except.ok.inj hissue)
    simp at hlist
  | unreadableThreshold other value => exact ⟨other, value, rfl⟩
  | sharedPriority p =>
    obtain ⟨shared, hshared⟩ := text_sharedPriority hissue
    have hhead := congrArg (fun text => text.toList.head?) hshared
    simp at hhead

end Issue

/-- The report says of a rule that its threshold cannot be read. -/
def Report.SaysUnreadable (room : Nat) (report : Report) (rule : Rule) : Prop :=
  ∃ text ∈ report.issues,
    (Issue.unreadableThreshold rule.name rule.conditionValue).text room = .ok text

section Alone

variable {room : Nat} {rule : Rule} {destinations : List Destination}

/-- The report on a rule alone says that its threshold cannot be read if it cannot. -/
theorem Report.saysUnreadable_iff {report : Report}
    (h : check room [rule] destinations = .ok report) :
    report.SaysUnreadable room rule ↔ Issue.isUnreadable rule = true := by
  constructor
  · rintro ⟨text, htext, hwording⟩
    obtain ⟨issue, hmem, hissue⟩ := (mem_issues_iff h).mp htext
    have hname : ∀ other, issue = .dangling other → other = rule.name := by
      rintro other rfl
      obtain ⟨found, hfound, hother⟩ := (Issue.mem_list_iff rfl).mp hmem
      obtain rfl := List.mem_singleton.mp hfound
      rcases Issue.mem_ofRule_iff.mp hother with ⟨h, -⟩ | ⟨h, -⟩ <;> cases h
      rfl
    obtain ⟨other, value, rfl⟩ := Issue.of_text_eq hname hissue hwording
    obtain ⟨found, hfound, hu, -⟩ := Issue.unreadable_mem_list_iff.mp hmem
    rwa [List.mem_singleton.mp hfound] at hu
  · intro hu
    have hmem : Issue.unreadableThreshold rule.name rule.conditionValue ∈
        Issue.list [rule] destinations :=
      Issue.unreadable_mem_list_iff.mpr ⟨rule, List.mem_singleton_self rule, hu, rfl, rfl⟩
    obtain ⟨text, htext⟩ := Issue.exists_text_iff.mpr (exists_check_iff.mp ⟨report, h⟩ _ hmem)
    exact ⟨text, (mem_issues_iff h).mpr ⟨_, hmem, htext⟩, htext⟩

/-- A rule alone has a report if its threshold can be read or written. -/
theorem Report.exists_check_alone
    (h : rule.conditionValue.threshold? ≠ none ∨ rule.conditionValue.IsWritable room) :
    ∃ report, check room [rule] destinations = .ok report := by
  refine exists_check_iff.mpr fun issue hmem => ?_
  cases issue with
  | noDestinations | noDefault | dangling _ => trivial
  | unreadableThreshold name operand =>
    obtain ⟨found, hfound, hu, -, rfl⟩ := Issue.unreadable_mem_list_iff.mp hmem
    obtain rfl := List.mem_singleton.mp hfound
    exact h.resolve_left fun hread => Rule.isUnreadable_iff.mp hu fun _ => hread
  | sharedPriority p =>
    -- a priority that is shared has two rules
    refine absurd hmem (Issue.pairwise_iff_forall_notMem_list.mp ?_ p)
    cases hactive : rule.isActive <;> simp [hactive]

end Alone

end Disposition
