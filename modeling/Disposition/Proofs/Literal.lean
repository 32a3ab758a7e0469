import Disposition.Proofs.Numeral
import Disposition.Text.Integer
import Mathlib.Data.Nat.Digits.Defs

/-!
# Integers in texts

`Text.WritesInteger` is the grammar of integers: a sign or none, and then decimal digits of any
script, where a single underscore may stand between two digits. The value is the positional one.

`Text.readInteger` takes the digits and the underscores together, and looks afterwards whether an
underscore stands at an end or behind another one. It does not look at what follows before it has
counted the digits, so of two faults it may name the second.

Results:
* `Text.IsSpaced.digitRow`: the rows of digits, by where their underscores stand.
* `Text.readInteger?_eq_some_iff`: the integer that is read, and which texts are integers.
* `Text.IsLimited.readInteger?_eq_some_iff`: the same for texts without information separators.
-/

namespace Disposition.Text

/-! ## The grammar -/

/-- A row of decimal digits of any script, and their values. A single underscore may stand between
two digits. -/
inductive DigitRow : List Char → List Nat → Prop
  /-- The last digit. -/
  | last {c : Char} {d : Nat} (hc : decimalDigit? c = some d) : DigitRow [c] [d]
  /-- A digit, and more of them. -/
  | digit {c : Char} {d : Nat} {cs : List Char} {ds : List Nat} (hc : decimalDigit? c = some d)
      (h : DigitRow cs ds) : DigitRow (c :: cs) (d :: ds)
  /-- A digit, an underscore, and more digits. -/
  | underscore {c : Char} {d : Nat} {cs : List Char} {ds : List Nat}
      (hc : decimalDigit? c = some d) (h : DigitRow cs ds) : DigitRow (c :: '_' :: cs) (d :: ds)

/-- The text writes the integer: a sign or none, and a row of digits, of which the first is the
highest. -/
inductive WritesInteger : Int → List Char → Prop
  /-- A sign or none, and digits. -/
  | intro {negative : Bool} {sign row : List Char} {digits : List Nat}
      (hs : Numeral.Sign negative sign) (hr : DigitRow row digits) :
      WritesInteger (signed negative (Nat.ofDigits 10 digits.reverse)) (sign ++ row)

/-- The number of decimal digits in a text. -/
def digitCount (cs : List Char) : Nat :=
  cs.countP fun c => (decimalDigit? c).isSome

/-! ## Rows of digits -/

theorem decimalDigit?_underscore : decimalDigit? '_' = none := by
  decide

theorem isInDigitRow_iff {c : Char} :
    isInDigitRow c = true ↔ c = '_' ∨ ∃ d, decimalDigit? c = some d := by
  simp [isInDigitRow, Option.isSome_iff_exists]

/-- The value of a digit. -/
def digitValue (c : Char) : Nat :=
  (decimalDigit? c).getD 0

/-- The value of a row of digits is positional. -/
theorem scriptDigitsValue_eq (cs : List Char) :
    scriptDigitsValue cs = Nat.ofDigits 10 (cs.map digitValue).reverse := by
  rw [Nat.ofDigits_eq_foldr, List.foldr_reverse, List.foldl_map, scriptDigitsValue]
  congr 1
  funext value c
  exact Nat.add_comm _ _

/-- Underscores stand alone, and not at an end. -/
structure IsSpaced (cs : List Char) : Prop where
  /-- There is none at the start. -/
  head : cs.head? ≠ some '_'
  /-- There is none at the end. -/
  last : cs.getLast? ≠ some '_'
  /-- No two stand side by side. -/
  alone : ¬['_', '_'] <:+: cs

theorem withoutUnderscores?_eq_some_iff {cs digits : List Char} :
    withoutUnderscores? cs = some digits ↔ IsSpaced cs ∧ digits = cs.filter (· ≠ '_') := by
  unfold withoutUnderscores?
  split_ifs with h
  · simp only [Bool.or_eq_true, decide_eq_true_eq, occursIn_iff] at h
    refine iff_of_false nofun fun hs => ?_
    rcases h with (h | h) | h
    · exact hs.1.head h
    · exact hs.1.last h
    · exact hs.1.alone h
  · simp only [Bool.or_eq_true, decide_eq_true_eq, occursIn_iff, not_or] at h
    rw [Option.some.injEq, eq_comm]
    exact ⟨fun heq => ⟨⟨h.1.1, h.1.2, h.2⟩, heq⟩, fun h => h.2⟩

theorem ne_underscore {c : Char} {d : Nat} (hc : decimalDigit? c = some d) : c ≠ '_' := by
  rintro rfl
  cases decimalDigit?_underscore.symm.trans hc

/-- What comes first is a digit. -/
theorem IsSpaced.first {c : Char} {cs : List Char} (h : IsSpaced (c :: cs))
    (hc : isInDigitRow c = true) : decimalDigit? c = some (digitValue c) := by
  rcases isInDigitRow_iff.mp hc with rfl | ⟨d, hd⟩
  · exact absurd rfl h.head
  · rw [digitValue, hd, Option.getD_some]

/-- What follows, if it does not start with an underscore, is spaced as well. -/
theorem IsSpaced.tail {c : Char} {cs : List Char} (h : IsSpaced (c :: cs)) (hne : cs ≠ [])
    (hhead : cs.head? ≠ some '_') : IsSpaced cs where
  head := hhead
  last := by
    obtain ⟨c', rest, rfl⟩ := List.exists_cons_of_ne_nil hne
    rw [← List.getLast?_cons_cons (a := c)]
    exact h.last
  alone := fun hi => h.alone (List.infix_cons hi)

/-- Behind an underscore a row goes on, and with a digit. -/
theorem IsSpaced.behind {c : Char} {cs : List Char} (h : IsSpaced (c :: '_' :: cs)) :
    cs ≠ [] ∧ IsSpaced cs := by
  have hne : cs ≠ [] := by
    rintro rfl
    exact h.last rfl
  obtain ⟨c', rest, rfl⟩ := List.exists_cons_of_ne_nil hne
  refine ⟨hne, fun hhead => ?_, ?_, fun hi => h.alone (List.infix_cons (List.infix_cons hi))⟩
  · obtain rfl := Option.some.inj hhead
    exact h.alone ⟨[c], rest, rfl⟩
  · rw [← List.getLast?_cons_cons (a := '_'), ← List.getLast?_cons_cons (a := c)]
    exact h.last

/-- **A row whose underscores stand alone between digits** is a row of digits. -/
theorem IsSpaced.digitRow : ∀ {cs : List Char}, IsSpaced cs → cs ≠ [] →
    (∀ c ∈ cs, isInDigitRow c = true) → DigitRow cs ((cs.filter (· ≠ '_')).map digitValue)
  | [], _, hne, _ => absurd rfl hne
  | [c], h, _, hin => by
    have hc := h.first (hin c List.mem_cons_self)
    rw [List.filter_cons_of_pos (by simp [ne_underscore hc])]
    exact .last hc
  | c :: c' :: cs, h, _, hin => by
    have hc := h.first (hin c List.mem_cons_self)
    have hin' := fun x hx => hin x (List.mem_cons_of_mem c hx)
    rw [List.filter_cons_of_pos (by simp [ne_underscore hc])]
    by_cases hc' : c' = '_'
    · subst hc'
      obtain ⟨hne, hs⟩ := h.behind
      exact .underscore hc (hs.digitRow hne fun x hx => hin' x (List.mem_cons_of_mem _ hx))
    · have hs := h.tail (List.cons_ne_nil c' cs) (by simpa using hc')
      exact .digit hc (hs.digitRow (List.cons_ne_nil c' cs) hin')

theorem DigitRow.isInDigitRow {cs : List Char} {ds : List Nat} (h : DigitRow cs ds) :
    ∀ c ∈ cs, isInDigitRow c = true := by
  induction h with
  | last hc => exact List.forall_mem_singleton.mpr (isInDigitRow_iff.mpr (.inr ⟨_, hc⟩))
  | digit hc _ ih => exact List.forall_mem_cons.mpr ⟨isInDigitRow_iff.mpr (.inr ⟨_, hc⟩), ih⟩
  | underscore hc _ ih =>
    exact List.forall_mem_cons.mpr ⟨isInDigitRow_iff.mpr (.inr ⟨_, hc⟩),
      List.forall_mem_cons.mpr ⟨rfl, ih⟩⟩

/-- A row starts with a digit. -/
theorem DigitRow.exists_cons {cs : List Char} {ds : List Nat} (h : DigitRow cs ds) :
    ∃ c rest d, cs = c :: rest ∧ decimalDigit? c = some d := by
  cases h with
  | last hc => exact ⟨_, _, _, rfl, hc⟩
  | digit hc _ => exact ⟨_, _, _, rfl, hc⟩
  | underscore hc _ => exact ⟨_, _, _, rfl, hc⟩

theorem DigitRow.isSpaced {cs : List Char} {ds : List Nat} (h : DigitRow cs ds) :
    IsSpaced cs := by
  induction h with
  | last hc =>
    have hne := ne_underscore hc
    exact ⟨by simpa using hne, by simpa using hne,
      by simp [List.infix_cons_iff, List.prefix_cons_iff]⟩
  | digit hc h ih =>
    obtain ⟨c', rest, d', rfl, hc'⟩ := h.exists_cons
    have hne := ne_underscore hc
    refine ⟨by simpa using hne, ?_, ?_⟩
    · rw [List.getLast?_cons_cons]
      exact ih.last
    · rw [List.infix_cons_iff]
      rintro (hp | hi)
      · exact hne (List.cons_prefix_cons.mp hp).1.symm
      · exact ih.alone hi
  | underscore hc h ih =>
    obtain ⟨c', rest, d', rfl, hc'⟩ := h.exists_cons
    have hne := ne_underscore hc
    have hne' := ne_underscore hc'
    refine ⟨by simpa using hne, ?_, ?_⟩
    · rw [List.getLast?_cons_cons, List.getLast?_cons_cons]
      exact ih.last
    · rw [List.infix_cons_iff, List.infix_cons_iff]
      rintro (hp | hp | hi)
      · exact hne (List.cons_prefix_cons.mp hp).1.symm
      · exact hne' (List.cons_prefix_cons.mp (List.cons_prefix_cons.mp hp).2).1.symm
      · exact ih.alone hi

/-- The digits of a row are what is not an underscore. -/
theorem DigitRow.digits_eq {cs : List Char} {ds : List Nat} (h : DigitRow cs ds) :
    ds = (cs.filter (· ≠ '_')).map digitValue := by
  induction h with
  | last hc => simp [ne_underscore hc, digitValue, hc]
  | digit hc _ ih => simp [ne_underscore hc, digitValue, hc, ih]
  | underscore hc _ ih => simp [ne_underscore hc, digitValue, hc, ih]

theorem DigitRow.digitCount_eq {cs : List Char} {ds : List Nat} (h : DigitRow cs ds) :
    digitCount cs = ds.length := by
  induction h with
  | last hc => simp [digitCount, hc]
  | digit hc _ ih => simpa [digitCount, hc] using ih
  | underscore hc _ ih => simpa [digitCount, hc, decimalDigit?_underscore] using ih

/-! ## Integers -/

/-- No digit is a sign. -/
theorem ne_sign {c : Char} {d : Nat} (hc : decimalDigit? c = some d) : c ≠ '+' ∧ c ≠ '-' := by
  have hplus : decimalDigit? '+' = none := by decide
  have hminus : decimalDigit? '-' = none := by decide
  constructor
  · rintro rfl
    cases hplus.symm.trans hc
  · rintro rfl
    cases hminus.symm.trans hc

theorem digitCount_append_sign {negative : Bool} {sign : List Char}
    (hs : Numeral.Sign negative sign) (cs : List Char) :
    digitCount (sign ++ cs) = digitCount cs := by
  have hsign : digitCount sign = 0 := by cases hs <;> decide
  rw [digitCount, List.countP_append]
  exact (congrArg (· + digitCount cs) hsign).trans (Nat.zero_add _)

/-- The sign before a row of digits is split off. -/
theorem DigitRow.splitSign {negative : Bool} {sign row : List Char} {digits : List Nat}
    (hr : DigitRow row digits) (hs : Numeral.Sign negative sign) :
    splitSign (sign ++ row) = (negative, row) := by
  obtain ⟨c, rest, d, rfl, hc⟩ := hr.exists_cons
  exact hs.read (ne_sign hc) rest

/-- **What is read is an integer** of not too many digits, spaces around it aside. -/
theorem readInteger_sound {s : String} {n : Int} (h : readInteger s = .ok n) :
    WritesInteger n (trimBy isSpace s.toList) ∧
      digitCount (trimBy isSpace s.toList) ≤ digitLimit := by
  unfold readInteger at h
  generalize trimBy isSpace s.toList = cs at h ⊢
  obtain ⟨sign, hs, hcs⟩ := Numeral.splitSign_sound cs
  generalize splitSign cs = split at h hs hcs
  obtain ⟨negative, row⟩ := split
  simp only at h hs hcs
  split at h
  · cases h
  · rename_i digits hdigits
    split_ifs at h with hlimit hmalformed
    simp only [Bool.or_eq_true, List.isEmpty_iff, Bool.not_eq_true', List.isEmpty_eq_false_iff,
      not_or, ne_eq, not_not] at hmalformed
    obtain ⟨hne, hrest⟩ := hmalformed
    have hin := List.dropWhile_eq_nil_iff.mp hrest
    rw [List.takeWhile_eq_self_iff.mpr hin] at hdigits
    obtain ⟨hspaced, rfl⟩ := withoutUnderscores?_eq_some_iff.mp hdigits
    have hrow := hspaced.digitRow (fun hnil => hne (by rw [hnil, List.filter_nil])) hin
    obtain rfl := Except.ok.inj h
    rw [hcs, digitCount_append_sign hs, hrow.digitCount_eq, List.length_map, scriptDigitsValue_eq]
    exact ⟨.intro hs hrow, Nat.le_of_not_lt hlimit⟩

/-- **An integer of not too many digits is read.** -/
theorem readInteger_complete {s : String} {n : Int}
    (h : WritesInteger n (trimBy isSpace s.toList))
    (hlimit : digitCount (trimBy isSpace s.toList) ≤ digitLimit) : readInteger s = .ok n := by
  unfold readInteger
  generalize trimBy isSpace s.toList = cs at h hlimit ⊢
  obtain ⟨hs, hr⟩ := h
  rename_i negative sign row digits
  have hdigits : withoutUnderscores? row = some (row.filter (· ≠ '_')) :=
    withoutUnderscores?_eq_some_iff.mpr ⟨hr.isSpaced, rfl⟩
  have hin := hr.isInDigitRow
  have heq := hr.digits_eq
  rw [digitCount_append_sign hs, hr.digitCount_eq] at hlimit
  have hlength : (row.filter (· ≠ '_')).length = digits.length := by rw [heq, List.length_map]
  have hne : row.filter (· ≠ '_') ≠ [] := by
    obtain ⟨c, rest, d, rfl, hc⟩ := hr.exists_cons
    rw [List.filter_cons_of_pos (by simp [ne_underscore hc])]
    exact List.cons_ne_nil _ _
  simp only [hr.splitSign hs, List.takeWhile_eq_self_iff.mpr hin, hdigits,
    List.dropWhile_eq_nil_iff.mpr hin]
  rw [if_neg (by omega), if_neg (by simpa using hne), scriptDigitsValue_eq, ← heq]

/-- **The integer that a text writes**: what is left without the spaces around it is the integer,
and it has not too many digits. -/
theorem readInteger?_eq_some_iff {s : String} {n : Int} :
    readInteger? s = some n ↔
      WritesInteger n (trimBy isSpace s.toList) ∧
        digitCount (trimBy isSpace s.toList) ≤ digitLimit := by
  have hok : readInteger? s = some n ↔ readInteger s = .ok n := by
    rw [readInteger?]
    cases readInteger s <;> simp [Except.toOption]
  rw [hok]
  exact ⟨readInteger_sound, fun h => readInteger_complete h.1 h.2⟩

/-! ## Texts without separators -/

/-- The text has none of the information separators, and not too many digits. -/
structure IsLimited (s : String) : Prop where
  /-- The digits are not too many. -/
  digits : digitCount s.toList ≤ digitLimit
  /-- No character is a separator. -/
  separators : ∀ c ∈ s.toList, ¬(0x1C ≤ c.toNat ∧ c.toNat ≤ 0x1F)

theorem isLimited_iff {s : String} :
    IsLimited s ↔ digitCount s.toList ≤ digitLimit ∧
      s.toList.all (fun c => decide ¬(0x1C ≤ c.toNat ∧ c.toNat ≤ 0x1F)) = true := by
  simp only [List.all_eq_true, decide_eq_true_eq]
  exact ⟨fun h => ⟨h.digits, h.separators⟩, fun h => ⟨h.1, h.2⟩⟩

instance (s : String) : Decidable (IsLimited s) :=
  decidable_of_iff _ isLimited_iff.symm

theorem dropWhile_congr {α : Type} {p q : α → Bool} {xs : List α} (h : ∀ x ∈ xs, p x = q x) :
    xs.dropWhile p = xs.dropWhile q := by
  induction xs with
  | nil => rfl
  | cons x xs ih =>
    rw [List.dropWhile_cons, List.dropWhile_cons, h x List.mem_cons_self,
      ih fun y hy => h y (List.mem_cons_of_mem x hy)]

/-- What is trimmed depends on the characters of the text only. -/
theorem trimBy_congr {p q : Char → Bool} {cs : List Char} (h : ∀ c ∈ cs, p c = q c) :
    trimBy p cs = trimBy q cs := by
  rw [trimBy, trimBy, trimEndBy, trimEndBy, dropWhile_congr h]
  congr 1
  refine dropWhile_congr fun c hc => h c ?_
  exact (List.dropWhile_suffix q).subset (List.mem_reverse.mp hc)

theorem trimBy_sublist (p : Char → Bool) (cs : List Char) : (trimBy p cs).Sublist cs := by
  have hend : ∀ ds : List Char, (trimEndBy p ds).Sublist ds := fun ds =>
    List.reverse_sublist.mp (by
      rw [trimEndBy, List.reverse_reverse]
      exact (List.dropWhile_suffix p).sublist)
  exact (hend _).trans (List.dropWhile_suffix p).sublist

/-- **Texts without separators** are integers as they are without the blanks around them. -/
theorem IsLimited.readInteger?_eq_some_iff {s : String} (h : IsLimited s) {n : Int} :
    readInteger? s = some n ↔ WritesInteger n (trim s.toList) := by
  have hblank : ∀ c ∈ s.toList, isSpace c = isBlank c := fun c hc => by
    have hsep : (decide (0x1C ≤ c.toNat) && decide (c.toNat ≤ 0x1F)) = false := by
      simpa using h.separators c hc
    rw [isBlank, hsep, Bool.or_false]
  have htrim : trimBy isSpace s.toList = trim s.toList := trimBy_congr hblank
  have hcount : digitCount (trim s.toList) ≤ digitLimit :=
    (trimBy_sublist isBlank s.toList).countP_le.trans h.digits
  rw [Text.readInteger?_eq_some_iff, htrim]
  exact ⟨fun h => h.1, fun h => ⟨h, hcount⟩⟩

/-- Digits of two scripts, a sign and spaces. -/
example : readInteger? " -1_٢\n" = some (-12) ∧ readInteger? "1__2" = none := by
  decide +kernel

end Disposition.Text
