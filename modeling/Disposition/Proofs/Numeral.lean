import Disposition.Number.Numeral
import Mathlib.Data.List.TakeWhile
import Mathlib.Tactic.SplitIfs

/-!
# The longest numeral at the start of a text

`Numeral.Writes` is the grammar of numerals, with what each of them says: a sign or none, then the
word `Infinity` or digits with a point and an exponent. A numeral may go on where another one could
have ended: `7` is one, so are `7.` and `7.5e3`, but `7.5e+` only goes as far as `7.5`.

`Numeral.read?` does not try them all. It takes each part as far as it goes, and no part that is
left out earlier could have made the whole longer: a part begins with a character that no part
before it can go on with. So the numeral that it reads is the longest of all.

Results:
* `Numeral.Writes.unique`: no text writes two numerals.
* `Numeral.read?_eq_some_iff`: what is read is the longest numeral at the start.
* `Numeral.read?_eq_none_iff`: nothing is read only if no numeral is there.
-/

namespace Disposition.Numeral

open Text

/-! ## The grammar -/

/-- A sign, or none. -/
inductive Sign : Bool → List Char → Prop
  /-- Without a sign. -/
  | none : Sign false []
  /-- A plus. -/
  | plus : Sign false ['+']
  /-- A minus. -/
  | minus : Sign true ['-']

/-- A row of ASCII digits, which may be empty. -/
def IsRow (cs : List Char) : Prop :=
  ∀ c ∈ cs, isDigit c = true

/-- Digits with a point anywhere among or around them, or without one. -/
inductive Significand : (whole fraction text : List Char) → Prop
  /-- Digits alone. -/
  | whole {whole : List Char} (hw : IsRow whole) (h : whole ≠ []) : Significand whole [] whole
  /-- Digits and a point, and maybe more digits. -/
  | point {whole fraction : List Char} (hw : IsRow whole) (h : whole ≠ []) (hf : IsRow fraction) :
      Significand whole fraction (whole ++ '.' :: fraction)
  /-- A point and digits. -/
  | fraction {fraction : List Char} (hf : IsRow fraction) (h : fraction ≠ []) :
      Significand [] fraction ('.' :: fraction)

/-- An exponent, or none. -/
inductive Exponent : Int → List Char → Prop
  /-- Without an exponent. -/
  | none : Exponent 0 []
  /-- A letter, a sign or none, and digits. -/
  | some {letter : Char} {negative : Bool} {sign digits : List Char}
      (hl : letter = 'e' ∨ letter = 'E') (hs : Sign negative sign) (hd : IsRow digits)
      (h : digits ≠ []) :
      Exponent (signed negative (digitsValue digits)) (letter :: (sign ++ digits))

/-- A numeral without its sign. -/
inductive Size : Magnitude → List Char → Prop
  /-- The word. -/
  | infinity : Size .infinity "Infinity".toList
  /-- Digits and an exponent: the digits behind the point count for the exponent. -/
  | decimal {whole fraction significand text : List Char} {exponent : Int}
      (hs : Significand whole fraction significand) (he : Exponent exponent text) :
      Size (.decimal (digitsValue (whole ++ fraction)) (exponent - fraction.length))
        (significand ++ text)

/-- The text writes the numeral. -/
inductive Writes : Numeral → List Char → Prop
  /-- A sign or none, and what it is the sign of. -/
  | intro {negative : Bool} {magnitude : Magnitude} {sign size : List Char}
      (hs : Sign negative sign) (hm : Size magnitude size) :
      Writes ⟨negative, magnitude⟩ (sign ++ size)

/-- The text is a numeral. -/
def IsNumeral (text : List Char) : Prop :=
  ∃ n, Writes n text

/-- It is a numeral at the start of a text, and none there is longer. -/
structure IsLongest (numeral text : List Char) : Prop where
  /-- It is a numeral. -/
  isNumeral : IsNumeral numeral
  /-- The text starts with it. -/
  starts : numeral <+: text
  /-- No numeral that the text starts with is longer. -/
  longest : ∀ other, IsNumeral other → other <+: text → other.length ≤ numeral.length

/-! ## Signs and digits -/

theorem ne_sign_of_isDigit {c : Char} (h : isDigit c = true) : c ≠ '+' ∧ c ≠ '-' := by
  constructor
  · rintro rfl
    exact absurd h (by decide)
  · rintro rfl
    exact absurd h (by decide)

theorem splitSign_sound (cs : List Char) :
    ∃ sign, Sign (splitSign cs).1 sign ∧ cs = sign ++ (splitSign cs).2 := by
  unfold splitSign
  split
  · exact ⟨_, .minus, rfl⟩
  · exact ⟨_, .plus, rfl⟩
  · exact ⟨_, .none, rfl⟩

/-- A sign is read as such if no other one follows. -/
theorem Sign.read {negative : Bool} {sign : List Char} (h : Sign negative sign) {c : Char}
    (hc : c ≠ '+' ∧ c ≠ '-') (cs : List Char) :
    splitSign (sign ++ c :: cs) = (negative, c :: cs) := by
  cases h with
  | plus => rfl
  | minus => rfl
  | none =>
    rw [List.nil_append]
    unfold splitSign
    split
    · exact absurd (List.cons.inj ‹_›).1 hc.2
    · exact absurd (List.cons.inj ‹_›).1 hc.1
    · rfl

theorem IsRow.nil : IsRow [] :=
  fun _ h => absurd h List.not_mem_nil

theorem splitDigits_isRow (cs : List Char) : IsRow (splitDigits cs).1 :=
  fun _ h => List.mem_takeWhile_imp h

theorem splitDigits_append (cs : List Char) : (splitDigits cs).1 ++ (splitDigits cs).2 = cs :=
  List.takeWhile_append_dropWhile

theorem splitDigits_suffix (cs : List Char) : (splitDigits cs).2 <:+ cs :=
  List.dropWhile_suffix isDigit

/-- A row of digits is read as a whole, with the digits that follow it. -/
theorem IsRow.read {digits : List Char} (h : IsRow digits) (cs : List Char) :
    splitDigits (digits ++ cs) = (digits ++ (splitDigits cs).1, (splitDigits cs).2) := by
  unfold splitDigits
  rw [List.takeWhile_append_of_pos h, List.dropWhile_append_of_pos h]

theorem splitDigits_cons {c : Char} (h : isDigit c = false) (cs : List Char) :
    splitDigits (c :: cs) = ([], c :: cs) := by
  unfold splitDigits
  rw [List.takeWhile_cons_of_neg (by simp [h]), List.dropWhile_cons_of_neg (by simp [h])]

/-! ## Significands -/

/-- The digits before and behind the point at the start of a text, and what follows them. -/
def splitSignificand (cs : List Char) : (List Char × List Char) × List Char :=
  let (whole, afterWhole) := splitDigits cs
  let (fraction, rest) := splitFraction afterWhole
  ((whole, fraction), rest)

/-- Neither digits nor a point follow. -/
def Ends (cs : List Char) : Prop :=
  cs = [] ∨ ∃ c rest, cs = c :: rest ∧ isDigit c = false ∧ c ≠ '.'

theorem Ends.splitDigits {cs : List Char} (h : Ends cs) : splitDigits cs = ([], cs) := by
  obtain rfl | ⟨c, rest, rfl, hc, -⟩ := h
  · rfl
  · exact splitDigits_cons hc rest

theorem Ends.splitFraction {cs : List Char} (h : Ends cs) : splitFraction cs = ([], cs) := by
  unfold Numeral.splitFraction
  split
  · obtain h | ⟨c, rest, h, -, hc⟩ := h
    · cases h
    · exact absurd (List.cons.inj h).1.symm hc
  · rfl

/-- A fraction is a point with digits, or there is none. -/
theorem splitFraction_cases (cs : List Char) :
    splitFraction cs = ([], cs) ∨
      IsRow (splitFraction cs).1 ∧ cs = '.' :: ((splitFraction cs).1 ++ (splitFraction cs).2) := by
  unfold splitFraction
  split
  · rename_i rest
    exact .inr ⟨splitDigits_isRow rest, by rw [splitDigits_append]⟩
  · exact .inl rfl

theorem splitFraction_suffix (cs : List Char) : (splitFraction cs).2 <:+ cs := by
  rcases splitFraction_cases cs with h | ⟨-, h⟩
  · exact ⟨[], congrArg Prod.snd h⟩
  · exact ⟨'.' :: (splitFraction cs).1, h.symm⟩

/-- What is read as digits is a significand, unless there is no digit. -/
theorem splitSignificand_sound {cs whole fraction rest : List Char}
    (h : splitSignificand cs = ((whole, fraction), rest)) (hne : ¬(whole = [] ∧ fraction = [])) :
    ∃ significand, Significand whole fraction significand ∧ cs = significand ++ rest := by
  unfold splitSignificand at h
  have hrow := splitDigits_isRow cs
  have hcs := splitDigits_append cs
  generalize splitDigits cs = split at h hrow hcs
  obtain ⟨digits, after⟩ := split
  simp only [Prod.mk.injEq] at h hrow hcs
  obtain ⟨⟨rfl, rfl⟩, rfl⟩ := h
  rcases splitFraction_cases after with hnone | ⟨hfraction, hpoint⟩
  · rw [hnone] at hne ⊢
    exact ⟨digits, .whole hrow fun h => hne ⟨h, rfl⟩, hcs.symm⟩
  · by_cases hwhole : digits = []
    · rw [hwhole] at hcs ⊢
      exact ⟨_, .fraction hfraction fun h => hne ⟨hwhole, h⟩, by rw [← hcs]; exact hpoint⟩
    · refine ⟨_, .point hrow hwhole hfraction, ?_⟩
      rw [← hcs, List.append_assoc, List.cons_append, ← hpoint]

/-- Digits around a point are read on behind the point. -/
theorem splitSignificand_point {whole fraction : List Char} (hw : IsRow whole)
    (hf : IsRow fraction) (cs : List Char) :
    splitSignificand (whole ++ '.' :: fraction ++ cs) =
      ((whole, fraction ++ (splitDigits cs).1), (splitDigits cs).2) := by
  rw [List.append_assoc, List.cons_append]
  unfold splitSignificand
  rw [hw.read, splitDigits_cons (by decide), List.append_nil]
  exact congrArg (fun split => ((whole, split.1), split.2)) (hf.read cs)

/-- **A significand is read exactly** if neither digits nor a point follow. -/
theorem Significand.read_of_ends {whole fraction significand cs : List Char}
    (h : Significand whole fraction significand) (hcs : Ends cs) :
    splitSignificand (significand ++ cs) = ((whole, fraction), cs) := by
  cases h with
  | whole hw _ =>
    unfold splitSignificand
    rw [hw.read, hcs.splitDigits, List.append_nil]
    simp only [hcs.splitFraction]
  | point hw _ hf =>
    rw [splitSignificand_point hw hf, hcs.splitDigits, List.append_nil]
  | fraction hf _ =>
    have h := splitSignificand_point IsRow.nil hf cs
    rw [hcs.splitDigits, List.append_nil] at h
    exact h

/-- **A significand is read at least that far.** -/
theorem Significand.read {whole fraction significand : List Char}
    (h : Significand whole fraction significand) (cs : List Char) :
    ∃ whole' fraction' rest, splitSignificand (significand ++ cs) = ((whole', fraction'), rest) ∧
      ¬(whole' = [] ∧ fraction' = []) ∧ rest <:+ cs := by
  cases h with
  | whole hw hne =>
    unfold splitSignificand
    rw [hw.read]
    exact ⟨_, _, _, rfl, fun h => List.append_ne_nil_of_left_ne_nil hne _ h.1,
      (splitFraction_suffix _).trans (splitDigits_suffix cs)⟩
  | point hw hne hf =>
    exact ⟨_, _, _, splitSignificand_point hw hf cs, fun h => hne h.1, splitDigits_suffix cs⟩
  | fraction hf hne =>
    exact ⟨_, _, _, splitSignificand_point IsRow.nil hf cs,
      fun h => List.append_ne_nil_of_left_ne_nil hne _ h.2, splitDigits_suffix cs⟩

theorem Significand.ne_nil {whole fraction significand : List Char}
    (h : Significand whole fraction significand) : ¬(whole = [] ∧ fraction = []) := by
  cases h with
  | whole _ hne => exact fun h => hne h.1
  | point _ hne _ => exact fun h => hne h.1
  | fraction _ hne => exact fun h => hne h.2

/-- A significand starts with a digit or a point. -/
theorem Significand.exists_cons {whole fraction significand : List Char}
    (h : Significand whole fraction significand) :
    ∃ c rest, significand = c :: rest ∧ (isDigit c = true ∨ c = '.') := by
  cases h with
  | fraction _ _ => exact ⟨_, _, rfl, .inr rfl⟩
  | whole hw hne =>
    obtain ⟨c, rest, rfl⟩ := List.exists_cons_of_ne_nil hne
    exact ⟨c, rest, rfl, .inl (hw c List.mem_cons_self)⟩
  | point hw hne _ =>
    obtain ⟨c, rest, rfl⟩ := List.exists_cons_of_ne_nil hne
    exact ⟨c, _, List.cons_append, .inl (hw c List.mem_cons_self)⟩

/-! ## Exponents -/

theorem splitExponent?_sound {cs rest : List Char} {exponent : Int}
    (h : splitExponent? cs = some (exponent, rest)) :
    ∃ text, Exponent exponent text ∧ cs = text ++ rest := by
  cases cs with
  | nil => exact absurd h (by simp [splitExponent?])
  | cons letter cs =>
    simp only [splitExponent?] at h
    split_ifs at h with hl
    obtain ⟨sign, hs, hsign⟩ := splitSign_sound cs
    generalize splitSign cs = split at h hs hsign
    obtain ⟨negative, after⟩ := split
    simp only at h hs hsign
    have hrow := splitDigits_isRow after
    have hafter := splitDigits_append after
    generalize splitDigits after = split at h hrow hafter
    obtain ⟨digits, rest'⟩ := split
    cases digits with
    | nil => cases h
    | cons c digits =>
      obtain ⟨rfl, rfl⟩ := Prod.mk.inj (Option.some.inj h)
      have hl : letter = 'e' ∨ letter = 'E' := by simpa using hl
      refine ⟨_, .some hl hs hrow (List.cons_ne_nil c digits), ?_⟩
      rw [hsign, ← hafter, List.cons_append, List.cons_append, List.append_assoc,
        List.cons_append]

/-- An exponent is read as a whole, with the digits that follow it. -/
theorem splitExponent_append {letter : Char} {negative : Bool} {sign digits : List Char}
    (hl : letter = 'e' ∨ letter = 'E') (hs : Sign negative sign) (hd : IsRow digits)
    (h : digits ≠ []) (cs : List Char) :
    splitExponent (letter :: (sign ++ digits) ++ cs) =
      (signed negative (digitsValue (digits ++ (splitDigits cs).1)), (splitDigits cs).2) := by
  obtain ⟨c, digits, rfl⟩ := List.exists_cons_of_ne_nil h
  have hc := ne_sign_of_isDigit (hd c List.mem_cons_self)
  have hletter : (decide (letter = 'e') || decide (letter = 'E')) = true := by simpa using hl
  have hsplit := hs.read hc (digits ++ cs)
  have hread := hd.read cs
  rw [List.cons_append] at hread
  unfold splitExponent splitExponent?
  rw [List.cons_append, List.append_assoc, List.cons_append]
  simp only [hletter, if_true, hsplit, hread, List.cons_append, Option.getD_some]

theorem splitExponent_sound (cs : List Char) :
    ∃ text, Exponent (splitExponent cs).1 text ∧ cs = text ++ (splitExponent cs).2 := by
  unfold splitExponent
  cases h : splitExponent? cs with
  | none => exact ⟨[], .none, rfl⟩
  | some split => exact splitExponent?_sound h

theorem splitExponent_suffix (cs : List Char) : (splitExponent cs).2 <:+ cs := by
  obtain ⟨text, -, h⟩ := splitExponent_sound cs
  exact ⟨text, h.symm⟩

/-- An exponent is read at least that far. -/
theorem Exponent.read {exponent : Int} {text : List Char} (h : Exponent exponent text)
    (cs : List Char) : (splitExponent (text ++ cs)).2 <:+ cs := by
  cases h with
  | none => exact splitExponent_suffix cs
  | some hl hs hd hne =>
    rw [splitExponent_append hl hs hd hne]
    exact splitDigits_suffix cs

/-- An exponent is read exactly if nothing follows. -/
theorem Exponent.read_self {exponent : Int} {text : List Char} (h : Exponent exponent text) :
    splitExponent text = (exponent, []) := by
  cases h with
  | none => rfl
  | some hl hs hd hne =>
    have h := splitExponent_append hl hs hd hne []
    rw [List.append_nil] at h
    rw [h, Ends.splitDigits (.inl rfl), List.append_nil]

/-- No significand goes on where there is an exponent. -/
theorem Exponent.ends {exponent : Int} {text : List Char} (h : Exponent exponent text)
    (hne : text ≠ []) (cs : List Char) : Ends (text ++ cs) := by
  cases h with
  | none => exact absurd rfl hne
  | some hl _ _ _ =>
    refine .inr ⟨_, _, List.cons_append, ?_⟩
    rcases hl with rfl | rfl
    · exact ⟨by decide, by decide⟩
    · exact ⟨by decide, by decide⟩

/-! ## Decimal numerals -/

/-- A decimal numeral is read by its digits, then by its exponent. -/
theorem readDecimal?_eq {cs whole fraction rest : List Char}
    (h : splitSignificand cs = ((whole, fraction), rest)) :
    readDecimal? cs =
      if whole = [] ∧ fraction = [] then none
      else some (.decimal (digitsValue (whole ++ fraction))
        ((splitExponent rest).1 - fraction.length), (splitExponent rest).2) := by
  obtain ⟨⟨rfl, rfl⟩, rfl⟩ : (_ = whole ∧ _ = fraction) ∧ _ = rest := by
    simpa only [splitSignificand, Prod.mk.injEq] using h
  unfold readDecimal?
  simp only [Bool.and_eq_true, List.isEmpty_iff]

theorem readDecimal?_sound {cs rest : List Char} {magnitude : Magnitude}
    (h : readDecimal? cs = some (magnitude, rest)) :
    ∃ text, Size magnitude text ∧ cs = text ++ rest := by
  obtain ⟨⟨whole, fraction⟩, after, hsplit⟩ :
      ∃ digits after, splitSignificand cs = (digits, after) := ⟨_, _, rfl⟩
  rw [readDecimal?_eq hsplit] at h
  split_ifs at h with hne
  obtain ⟨rfl, rfl⟩ := Prod.mk.inj (Option.some.inj h)
  obtain ⟨significand, hs, rfl⟩ := splitSignificand_sound hsplit hne
  obtain ⟨text, he, hafter⟩ := splitExponent_sound after
  refine ⟨significand ++ text, .decimal hs he, ?_⟩
  rw [List.append_assoc, ← hafter]

/-- A decimal numeral is read at least that far. -/
theorem readDecimal?_append {whole fraction significand text : List Char} {exponent : Int}
    (hs : Significand whole fraction significand) (he : Exponent exponent text)
    (cs : List Char) :
    ∃ magnitude rest, readDecimal? (significand ++ text ++ cs) = some (magnitude, rest) ∧
      rest <:+ cs := by
  rw [List.append_assoc]
  by_cases htext : text = []
  · -- what follows may go on with the digits, then with an exponent
    obtain ⟨whole', fraction', rest, hsplit, hne, hrest⟩ := hs.read cs
    rw [htext, List.nil_append, readDecimal?_eq hsplit, if_neg hne]
    exact ⟨_, _, rfl, (splitExponent_suffix rest).trans hrest⟩
  · -- the digits end with the letter
    rw [readDecimal?_eq (hs.read_of_ends (he.ends htext cs)), if_neg hs.ne_nil]
    exact ⟨_, _, rfl, he.read cs⟩

/-- A decimal numeral is read exactly if nothing follows. -/
theorem readDecimal?_self {whole fraction significand text : List Char} {exponent : Int}
    (hs : Significand whole fraction significand) (he : Exponent exponent text) :
    readDecimal? (significand ++ text) =
      some (.decimal (digitsValue (whole ++ fraction)) (exponent - fraction.length), []) := by
  have hends : Ends text := by
    by_cases htext : text = []
    · exact .inl htext
    · have h := he.ends htext []
      rw [List.append_nil] at h
      exact h
  rw [readDecimal?_eq (hs.read_of_ends hends), if_neg hs.ne_nil, he.read_self]

/-! ## Numerals -/

theorem dropWord?_append (word cs : List Char) : dropWord? word (word ++ cs) = some cs := by
  induction word with
  | nil => rfl
  | cons w word ih =>
    rw [List.cons_append, dropWord?, if_pos rfl]
    exact ih

theorem dropWord?_sound {word cs rest : List Char} (h : dropWord? word cs = some rest) :
    cs = word ++ rest := by
  induction word generalizing cs with
  | nil => exact Option.some.inj h
  | cons w word ih =>
    cases cs with
    | nil => cases h
    | cons c cs =>
      rw [dropWord?] at h
      split_ifs at h with heq
      rw [heq, ih h, List.cons_append]

/-- Digits and points do not start the word. -/
theorem dropWord?_significand {whole fraction significand : List Char}
    (h : Significand whole fraction significand) (cs : List Char) :
    dropWord? "Infinity".toList (significand ++ cs) = none := by
  obtain ⟨c, rest, rfl, hc⟩ := h.exists_cons
  refine if_neg ?_
  rintro rfl
  rcases hc with hc | hc
  · exact absurd hc (by decide)
  · exact absurd hc (by decide)

/-- A size does not start with a sign. -/
theorem Size.exists_cons {magnitude : Magnitude} {text : List Char} (h : Size magnitude text) :
    ∃ c rest, text = c :: rest ∧ c ≠ '+' ∧ c ≠ '-' := by
  cases h with
  | infinity => exact ⟨'I', "nfinity".toList, rfl, by decide, by decide⟩
  | decimal hs he =>
    obtain ⟨c, rest, rfl, hc⟩ := hs.exists_cons
    refine ⟨c, _, List.cons_append, ?_⟩
    rcases hc with hc | rfl
    · exact ne_sign_of_isDigit hc
    · exact ⟨by decide, by decide⟩

/-- The numeral of a sign and of the size at the start of a text, and what follows it. -/
def readSize? (negative : Bool) (cs : List Char) : Option (Numeral × List Char) :=
  match dropWord? "Infinity".toList cs with
  | some rest => some (⟨negative, .infinity⟩, rest)
  | none => (readDecimal? cs).map fun (magnitude, rest) => (⟨negative, magnitude⟩, rest)

theorem read?_eq (cs : List Char) :
    read? cs = readSize? (splitSign cs).1 (splitSign cs).2 :=
  rfl

/-- A numeral is read by its sign, then by its size. -/
theorem read?_sign {negative : Bool} {sign text : List Char} {magnitude : Magnitude}
    (hs : Sign negative sign) (hm : Size magnitude text) (cs : List Char) :
    read? (sign ++ text ++ cs) = readSize? negative (text ++ cs) := by
  obtain ⟨c, rest, rfl, hc⟩ := hm.exists_cons
  rw [List.append_assoc]
  exact congrArg (fun split => readSize? split.1 split.2) (hs.read hc (rest ++ cs))

theorem readSize?_sound {negative : Bool} {cs rest : List Char} {n : Numeral}
    (h : readSize? negative cs = some (n, rest)) :
    ∃ magnitude text, n = ⟨negative, magnitude⟩ ∧ Size magnitude text ∧ cs = text ++ rest := by
  unfold readSize? at h
  cases hword : dropWord? "Infinity".toList cs with
  | some rest' =>
    rw [hword] at h
    obtain ⟨rfl, rfl⟩ := Prod.mk.inj (Option.some.inj h)
    exact ⟨_, _, rfl, .infinity, dropWord?_sound hword⟩
  | none =>
    rw [hword] at h
    obtain ⟨⟨magnitude, rest'⟩, hread, heq⟩ := Option.map_eq_some_iff.mp h
    obtain ⟨rfl, rfl⟩ := Prod.mk.inj heq
    obtain ⟨text, hm, hcs⟩ := readDecimal?_sound hread
    exact ⟨magnitude, text, rfl, hm, hcs⟩

/-- **What is read is a numeral**, and the rest follows it. -/
theorem read?_sound {cs rest : List Char} {n : Numeral} (h : read? cs = some (n, rest)) :
    ∃ text, Writes n text ∧ cs = text ++ rest := by
  obtain ⟨sign, hs, hsign⟩ := splitSign_sound cs
  rw [read?_eq] at h
  obtain ⟨magnitude, text, rfl, hm, htext⟩ := readSize?_sound h
  refine ⟨sign ++ text, .intro hs hm, ?_⟩
  rw [List.append_assoc, ← htext]
  exact hsign

/-- **Where a numeral is, one is read at least that far.** -/
theorem Writes.read {n : Numeral} {text : List Char} (h : Writes n text) (cs : List Char) :
    ∃ n' rest, read? (text ++ cs) = some (n', rest) ∧ rest <:+ cs := by
  obtain ⟨hs, hm⟩ := h
  rw [read?_sign hs hm cs]
  unfold readSize?
  cases hm with
  | infinity => exact ⟨_, _, by rw [dropWord?_append], List.suffix_rfl⟩
  | decimal hsig he =>
    obtain ⟨magnitude, rest, hread, hrest⟩ := readDecimal?_append hsig he cs
    rw [hread, List.append_assoc, dropWord?_significand hsig]
    exact ⟨_, _, rfl, hrest⟩

/-- **A numeral with nothing behind it is read exactly.** -/
theorem Writes.read_self {n : Numeral} {text : List Char} (h : Writes n text) :
    read? text = some (n, []) := by
  obtain ⟨hs, hm⟩ := h
  have hread := read?_sign hs hm []
  rw [List.append_nil, List.append_nil] at hread
  rw [hread]
  unfold readSize?
  cases hm with
  | infinity =>
    have hword := dropWord?_append "Infinity".toList []
    rw [List.append_nil] at hword
    rw [hword]
  | decimal hsig he =>
    rw [dropWord?_significand hsig, readDecimal?_self hsig he]
    rfl

/-- **No text writes two numerals.** -/
theorem Writes.unique {n n' : Numeral} {text : List Char} (h : Writes n text)
    (h' : Writes n' text) : n = n' := by
  have heq := h.read_self.symm.trans h'.read_self
  exact (Prod.mk.inj (Option.some.inj heq)).1

theorem Writes.ne_nil {n : Numeral} {text : List Char} (h : Writes n text) : text ≠ [] := by
  obtain ⟨_, hm⟩ := h
  obtain ⟨c, rest, rfl, -⟩ := hm.exists_cons
  exact List.append_ne_nil_of_right_ne_nil _ (List.cons_ne_nil c rest)

/-! ## The longest numeral -/

/-- A text has one longest numeral at its start. -/
theorem IsLongest.unique {text other cs : List Char} (h : IsLongest text cs)
    (ho : IsLongest other cs) : text = other := by
  have hlength : text.length = other.length :=
    Nat.le_antisymm (ho.longest text h.isNumeral h.starts)
      (h.longest other ho.isNumeral ho.starts)
  exact (List.prefix_of_prefix_length_le h.starts ho.starts hlength.le).eq_of_length hlength

/-- What is read is the longest numeral. -/
theorem isLongest_of_read {cs rest text : List Char} {n : Numeral}
    (h : read? cs = some (n, rest)) (hw : Writes n text) (hcs : cs = text ++ rest) :
    IsLongest text cs := by
  refine ⟨⟨n, hw⟩, ⟨rest, hcs.symm⟩, ?_⟩
  rintro other ⟨n', ho⟩ ⟨others, rfl⟩
  obtain ⟨n'', rest', hread, hrest⟩ := ho.read others
  rw [h] at hread
  obtain ⟨rfl, rfl⟩ := Prod.mk.inj (Option.some.inj hread)
  have hlength := congrArg List.length hcs
  rw [List.length_append, List.length_append] at hlength
  have hle := hrest.length_le
  omega

/-- **What is read is the longest numeral** at the start of the text. -/
theorem read?_eq_some_iff {cs rest : List Char} {n : Numeral} :
    read? cs = some (n, rest) ↔ ∃ text, IsLongest text cs ∧ Writes n text ∧ cs = text ++ rest := by
  constructor
  · intro h
    obtain ⟨text, hw, hcs⟩ := read?_sound h
    exact ⟨text, isLongest_of_read h hw hcs, hw, hcs⟩
  · rintro ⟨text, hl, hw, hcs⟩
    obtain ⟨n', rest', hread, -⟩ := hw.read rest
    rw [← hcs] at hread
    obtain ⟨text', hw', hcs'⟩ := read?_sound hread
    obtain rfl := hl.unique (isLongest_of_read hread hw' hcs')
    obtain rfl := hw.unique hw'
    rw [hread, List.append_cancel_left (hcs'.symm.trans hcs)]

/-- An exponent without digits is left to what follows. -/
example : read? "+7.5e+ USD".toList = some (⟨false, .decimal 75 (-1)⟩, "e+ USD".toList) := by
  decide

/-- **Nothing is read only if there is no numeral** at the start of the text. -/
theorem read?_eq_none_iff {cs : List Char} :
    read? cs = none ↔ ∀ text, text <+: cs → ¬IsNumeral text := by
  constructor
  · rintro h text ⟨rest, rfl⟩ ⟨n, hw⟩
    obtain ⟨n', rest', hread, -⟩ := hw.read rest
    rw [h] at hread
    cases hread
  · intro h
    cases hread : read? cs with
    | none => rfl
    | some split =>
      obtain ⟨text, hw, hcs⟩ := read?_sound hread
      exact absurd ⟨_, hw⟩ (h text ⟨_, hcs.symm⟩)

end Disposition.Numeral
