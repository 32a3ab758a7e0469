import Disposition.Proofs.OrderValue
import Disposition.Value.Text

/-!
# Numbers and their texts

A number that is written out is read back as it was. The text of a decimal number is plain or has
an exponent, and zeros may stand before its digits, but it is a numeral from end to end, and one of
the very digits and exponent that the number has. The text of an integer is one without a point and
without an exponent. The text of a NaN starts with no numeral.

So it makes no difference whether a threshold is given as a number or as the text of that number.
Only an integer beyond all doubles is no threshold, while its text stands for an infinity.

Results:
* `Decimal.size_finiteText`: the text of a decimal number is a numeral of its digits and exponent.
* `Decimal.writes_finite`, `Decimal.writes_infinite`, `Numeral.writes_toString`: decimal numbers and
  integers are read back.
* `Value.threshold?_shown`: a threshold means the same as a number and as its text.
-/

namespace Disposition

/-! ## Rows of digits -/

namespace Text

/-- A number is the value of its digits. -/
theorem digitsValue_toString (n : Nat) : digitsValue (toString n).toList = n := by
  rw [Nat.toString_eq_repr, Nat.toList_repr]
  exact Nat.ofDigitChars_ten_toDigits

/-- Zeros before a row of digits do not count. -/
theorem digitsValue_zeros_append (count : Nat) (cs : List Char) :
    digitsValue (List.replicate count '0' ++ cs) = digitsValue cs := by
  induction count with
  | zero => rfl
  | succ count ih => exact ih

end Text

namespace Numeral

open Text

theorem isRow_toString (n : Nat) : IsRow (toString n).toList := by
  rw [Nat.toString_eq_repr, Nat.toList_repr]
  intro c hc
  have h := Nat.isDigit_of_mem_toDigits (by decide) (by decide) hc
  simpa [isDigit, Char.isDigit, Char.le_def] using h

theorem toString_ne_nil (n : Nat) : (toString n).toList ≠ [] := by
  rw [Nat.toString_eq_repr, Nat.toList_repr]
  exact Nat.toDigits_ne_nil

theorem IsRow.append {cs ds : List Char} (hc : IsRow cs) (hd : IsRow ds) : IsRow (cs ++ ds) :=
  List.forall_mem_append.mpr ⟨hc, hd⟩

theorem isRow_zeros (count : Nat) : IsRow (List.replicate count '0') := by
  intro c hc
  rw [List.eq_of_mem_replicate hc]
  rfl

end Numeral

/-! ## Decimal numbers -/

namespace Decimal

open Text Numeral

/-- A row of digits with a point at that place; zeros fill up what is missing before it. -/
def pointed (row : List Char) (place : Int) : List Char :=
  if place ≤ 0 then "0.".toList ++ (List.replicate (-place).toNat '0' ++ row)
  else if row.length ≤ place.toNat then row
  else row.take place.toNat ++ '.' :: row.drop place.toNat

/-- The text of a power of ten, empty for the power zero. -/
def powerText (power : Int) : List Char :=
  if power = 0 then []
  else (if power < 0 then "E-" else "E+").toList ++ (toString power.natAbs).toList

/-- The point is where it stands in plain notation if that is used, else behind the first digit. -/
def pointPlace (size : Nat) (exponent : Int) : Int :=
  if exponent ≤ 0 ∧ -6 < exponent + size then exponent + size else 1

/-- No zeros are added behind the digits. -/
theorem pointPlace_le (exponent : Int) {size : Nat} (h : 0 < size) :
    pointPlace size exponent ≤ size := by
  unfold pointPlace
  split_ifs <;> omega

/-- The text of a decimal number is its digits with the point, and then a power of ten. -/
theorem toList_finiteText (digits : Nat) (exponent : Int) {row : List Char}
    (hrow : (toString digits).toList = row) (hne : row ≠ []) :
    (finiteText digits exponent).toList =
      pointed row (pointPlace row.length exponent) ++
        powerText (exponent + row.length - pointPlace row.length exponent) := by
  have hle := pointPlace_le exponent (List.length_pos_of_ne_nil hne)
  have hplace : (if (decide (exponent ≤ 0) && decide (-6 < exponent + (row.length : Int))) = true
      then exponent + (row.length : Int) else 1) = pointPlace row.length exponent := by
    simp only [pointPlace, Bool.and_eq_true, decide_eq_true_eq]
  unfold finiteText
  simp only [hrow, hplace]
  generalize pointPlace row.length exponent = place at hle ⊢
  generalize exponent + (row.length : Int) - place = power
  have hbody : (if place ≤ 0 then "0." ++ String.ofList (List.replicate (-place).toNat '0' ++ row)
      else if row.length ≤ place.toNat then
        String.ofList (row ++ List.replicate (place.toNat - row.length) '0')
      else String.ofList (row.take place.toNat) ++ "." ++ String.ofList (row.drop place.toNat)) =
      String.ofList (pointed row place) := by
    unfold pointed
    split_ifs with hzero hall
    · exact (@String.ofList_append "0.".toList _).symm
    · rw [Nat.sub_eq_zero_of_le (by omega), List.replicate_zero, List.append_nil]
    · rw [String.append_assoc, String.ofList_append, String.ofList_cons]
      rfl
  rw [hbody]
  unfold powerText
  split_ifs <;> simp

/-- The digits with the point are a significand, in which the digits behind the place of the point
are the fraction. -/
theorem significand_pointed {row : List Char} (hrow : IsRow row) (hne : row ≠ []) {place : Int}
    (hle : place ≤ row.length) :
    ∃ whole fraction, Significand whole fraction (pointed row place) ∧
      digitsValue (whole ++ fraction) = digitsValue row ∧
      (fraction.length : Int) = row.length - place := by
  unfold pointed
  split_ifs with hzero hall
  · refine ⟨['0'], List.replicate (-place).toNat '0' ++ row,
      .point (isRow_zeros 1) (List.cons_ne_nil _ _) ((isRow_zeros _).append hrow), ?_, ?_⟩
    · exact (digitsValue_zeros_append 1 _).trans (digitsValue_zeros_append _ row)
    · rw [List.length_append, List.length_replicate]
      omega
  · exact ⟨row, [], .whole hrow hne, by rw [List.append_nil], by rw [List.length_nil]; omega⟩
  · refine ⟨row.take place.toNat, row.drop place.toNat, .point ?_ ?_ ?_, ?_, ?_⟩
    · exact fun c hc => hrow c (List.mem_of_mem_take hc)
    · exact fun h => by
        have := congrArg List.length h
        rw [List.length_take, List.length_nil] at this
        omega
    · exact fun c hc => hrow c (List.mem_of_mem_drop hc)
    · rw [List.take_append_drop]
    · rw [List.length_drop]
      omega

/-- A power of ten is written as an exponent. -/
theorem exponent_powerText (power : Int) : Exponent power (powerText power) := by
  have hd := isRow_toString power.natAbs
  have hne := toString_ne_nil power.natAbs
  have hvalue := digitsValue_toString power.natAbs
  unfold powerText
  split_ifs with hzero hneg
  · rw [hzero]
    exact .none
  · have h := Exponent.some (.inr rfl) .minus hd hne
    rwa [hvalue, signed, if_pos rfl, Int.ofNat_natAbs_of_nonpos hneg.le, neg_neg] at h
  · have h := Exponent.some (.inr rfl) .plus hd hne
    rwa [hvalue, signed, if_neg Bool.false_ne_true, Int.natAbs_of_nonneg (not_lt.mp hneg)] at h

/-- **The text of a decimal number is a numeral** of its digits and its exponent. -/
theorem size_finiteText (digits : Nat) (exponent : Int) :
    Size (.decimal digits exponent) (finiteText digits exponent).toList := by
  have hne := toString_ne_nil digits
  have hvalue := digitsValue_toString digits
  have hisRow := isRow_toString digits
  rw [toList_finiteText digits exponent rfl hne]
  generalize (toString digits).toList = row at hne hvalue hisRow
  have hle := pointPlace_le exponent (List.length_pos_of_ne_nil hne)
  generalize pointPlace row.length exponent = place at hle
  obtain ⟨whole, fraction, hs, hdigits, hlength⟩ := significand_pointed hisRow hne hle
  have h := Size.decimal hs (exponent_powerText (exponent + row.length - place))
  have hexponent : exponent + row.length - place - (row.length - place) = exponent := by omega
  rwa [hdigits, hvalue, hlength, hexponent] at h

theorem sign_signText (negative : Bool) : Sign negative (signText negative).toList := by
  cases negative with
  | false => exact .none
  | true => exact .minus

theorem writes_finite (negative : Bool) (digits : Nat) (exponent : Int) :
    Writes ⟨negative, .decimal digits exponent⟩ (finite negative digits exponent).text.toList := by
  rw [text, String.toList_append]
  exact .intro (sign_signText negative) (size_finiteText digits exponent)

theorem writes_infinite (negative : Bool) :
    Writes ⟨negative, .infinity⟩ (infinite negative).text.toList := by
  rw [text, String.toList_append]
  exact .intro (sign_signText negative) .infinity

/-- Zeros stand before the digits, or an exponent behind them. -/
example : (finite true 125 (-8)).text = "-0.00000125" ∧ (finite false 0 (-7)).text = "0E-7" ∧
    (finite false 125 3).text = "1.25E+5" := by
  decide +kernel

end Decimal

/-! ## Integers -/

namespace Numeral

/-- The text of an integer is its sign and its size. -/
theorem toList_toString (n : Int) :
    (toString n).toList = (Decimal.signText (n < 0)).toList ++ (toString n.natAbs).toList := by
  cases n with
  | ofNat n => rfl
  | negSucc n =>
    have h : toString (Int.negSucc n) = "-" ++ toString (n + 1) := rfl
    rw [h, String.toList_append, decide_eq_true (Int.negSucc_lt_zero n)]
    rfl

/-- **The text of an integer is a numeral** without a point and without an exponent. -/
theorem writes_toString (n : Int) : Writes ⟨n < 0, .decimal n.natAbs 0⟩ (toString n).toList := by
  have hsize := Size.decimal (.whole (isRow_toString n.natAbs) (toString_ne_nil n.natAbs)) .none
  simp only [List.append_nil, List.length_nil, Int.natCast_zero, Int.sub_zero,
    Text.digitsValue_toString] at hsize
  rw [toList_toString]
  exact .intro (Decimal.sign_signText _) hsize

end Numeral

/-! ## Thresholds -/

namespace Value

open Text Numeral

/-- The threshold of a text that is a numeral from end to end. -/
theorem textThreshold?_of_writes {s : String} {n : Numeral} (h : Writes n s.toList) :
    textThreshold? s = some n.toDouble := by
  have htrim := (show IsNumeral s.toList from ⟨n, h⟩).trimStart_append
    (List.forall_mem_nil _) []
  rw [List.nil_append, List.append_nil] at htrim
  rw [textThreshold?, htrim, h.read_self]
  rfl

/-- The text of a NaN starts with no numeral. -/
theorem textThreshold?_nan (negative signaling : Bool) (payload : Nat) :
    textThreshold? (Decimal.nan negative signaling payload).text = none := by
  rw [textThreshold?, Decimal.text, String.toList_append, String.toList_append]
  cases negative <;> cases signaling <;> rfl

theorem threshold?_text_decimal (d : Decimal) :
    threshold? (text d.text) = threshold? (decimal d) := by
  cases d with
  | finite negative digits exponent =>
    have hne := (roundsTo_iff (n := ⟨negative, .decimal digits exponent⟩)).mpr rfl |>.ne_nan
    calc textThreshold? (Decimal.finite negative digits exponent).text
        = some (.ofDecimal negative digits exponent) :=
          textThreshold?_of_writes (Decimal.writes_finite negative digits exponent)
      _ = numeric? (.ofDecimal negative digits exponent) := (numeric?_of_ne_nan hne).symm
  | infinite negative => exact textThreshold?_of_writes (Decimal.writes_infinite negative)
  | nan negative signaling payload =>
    cases signaling with
    | false => exact textThreshold?_nan negative false payload
    | true => exact textThreshold?_nan negative true payload

/-- The text of an integer stands for the double that it is rounded to, which may be infinite. -/
theorem threshold?_text_int (n : Int) :
    threshold? (text (toString n)) = some (.ofDecimal (n < 0) n.natAbs 0) :=
  textThreshold?_of_writes (writes_toString n)

theorem rounds_int (n : Int) :
    Double.Rounds (n < 0) n.natAbs (.ofDecimal (n < 0) n.natAbs 0) := by
  have h := Double.rounds_ofDecimal (n < 0) n.natAbs 0
  rwa [zpow_zero, mul_one] at h

/-- An integer stands for the same double, as there is one that it is rounded to. -/
theorem threshold?_int (n : Int) :
    threshold? (int n) = (Double.ofDecimal (n < 0) n.natAbs 0).ranged? := by
  have h := Double.rounds_ofRatio (n < 0) n.natAbs Nat.one_pos
  rw [Nat.cast_one, div_one] at h
  rw [threshold?_eq_quantity? rfl, quantity?, Double.ofInt?, h.unique (rounds_int n)]

/-- An integer that is not rounded to an infinity has few enough digits to be written. -/
theorem lt_sizeLimit_of_not_rounds {n : Int}
    (h : ¬Double.Rounds (n < 0) n.natAbs (.infinite (n < 0))) : n.natAbs < sizeLimit := by
  have htwo : twoTo 1024 ≤ sizeLimit := twoTo_le_tenTo (by decide)
  by_contra hlarge
  refine h (Double.rounds_infinite _ ?_)
  rw [Double.bound_eq]
  exact Nat.mul_le_mul_right _ (htwo.trans (Nat.le_of_not_lt hlarge))

/-- **A threshold means the same as a number and as its text**: a decimal number of any kind has a
text, and both stand for the same threshold; an integer has a text that stands for the same
threshold unless the integer is rounded to an infinity. -/
theorem threshold?_shown (room : Nat) :
    (∀ d : Decimal, ∃ s, (decimal d).shown room = .ok s ∧
        threshold? (text s) = threshold? (decimal d)) ∧
      ∀ n : Int,
        (∃ s, (int n).shown room = .ok s ∧ threshold? (text s) = threshold? (int n)) ↔
          ¬Double.Rounds (n < 0) n.natAbs (.infinite (n < 0)) := by
  refine ⟨fun d => ⟨d.text, rfl, threshold?_text_decimal d⟩, fun n => ?_⟩
  have hrounds := rounds_int n
  have hsame : threshold? (text (toString n)) = threshold? (int n) ↔
      ¬Double.Rounds (n < 0) n.natAbs (.infinite (n < 0)) := by
    rw [threshold?_text_int, threshold?_int]
    generalize Double.ofDecimal (n < 0) n.natAbs 0 = d at hrounds
    cases hrounds with
    | finite h hb => exact iff_of_true rfl fun hinf => nomatch hinf.unique (.finite h hb)
    | infinite h hb => exact iff_of_false nofun (not_not_intro (.infinite h hb))
  constructor
  · rintro ⟨s, hs, hthreshold⟩
    rw [shown, integerText] at hs
    split at hs
    · cases hs
      exact hsame.mp hthreshold
    · cases hs
  · intro h
    refine ⟨toString n, ?_, hsame.mpr h⟩
    rw [shown, integerText, if_pos (lt_sizeLimit_of_not_rounds h)]

end Value

end Disposition
