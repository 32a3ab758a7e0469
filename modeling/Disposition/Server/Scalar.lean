import Disposition.Server.Problem
import Disposition.Text.Ascii
import Disposition.Text.Fields
import Disposition.Text.Integer

/-!
# Scalars in bodies

Single facts of a body are read leniently: a text or a number may stand for a truth value, a text,
a truth value or a whole double for an integer, and all but lists and objects for a double. Texts
are taken from texts only.

* `Checked.bool`, `Checked.natural`, `Checked.number`: the lenient readings.
* `Checked.boundedText`, `Checked.conditionKind`: texts.
-/

namespace Disposition.Checked

/-! ## Texts -/

/-- A text of any length. -/
def text : Json → Checked String
  | .text s => .ok s
  | v@(.broken _) => problem .notUnicode v
  | v => problem .notText v

/-- A text with a bounded number of characters. -/
def boundedText (least : Nat) (most : Option Nat) (v : Json) : Checked String := do
  let s ← text v
  if s.length < least then problem (.tooShort least) v
  else
    match most with
    | some most => if most < s.length then problem (.tooLong most) v else return s
    | none => return s

/-- What a condition can inspect. -/
def conditionKind (v : Json) : Checked ConditionKind :=
  let kind? :=
    match v with
    | .text s => ConditionKind.ofName? s
    | _ => none
  match kind? with
  | some kind => .ok kind
  | none => problem .unknownCondition v

/-! ## Truth values -/

/-- The words for yes and no. -/
def truthWord? (s : String) : Option Bool :=
  let word := Text.asciiLower s
  if ["1", "on", "t", "true", "y", "yes"].contains word then some true
  else if ["0", "off", "f", "false", "n", "no"].contains word then some false
  else none

/-- An integer that says which truth value it is. -/
def truthOf? (n : Int) : Option Bool :=
  if n = 0 then some false else if n = 1 then some true else none

/-- What a value says about a truth value. -/
def readable (b? : Option Bool) (v : Json) : Checked Bool :=
  match b? with
  | some b => .ok b
  | none => problem .unreadableBool v

/-- The integer that a double is, if it is a whole one of less than 64 bits. -/
def wholeWord? (d : Double) : Option Int :=
  d.whole?.filter fun n => -(twoTo 63 : Int) < n && n < twoTo 63

/-- A truth value, or a number or a word for one. -/
def bool (v : Json) : Checked Bool :=
  match v with
  | .bool b => .ok b
  | .text s => readable (truthWord? s) v
  | .broken _ => problem .notUnicode v
  | .int n => if isWord n then readable (truthOf? n) v else problem .notBool v
  | .double d =>
    match wholeWord? d with
    | some n => readable (truthOf? n) v
    | none => problem .notBool v
  | _ => problem .notBool v

/-! ## Integers -/

/-- A text without a plus at its start, unless a minus follows it. -/
def withoutPlus : List Char → List Char
  | '+' :: '-' :: cs => '+' :: '-' :: cs
  | '+' :: cs => cs
  | cs => cs

/-- The text behind zeros and underscores from the first other character on. A number may start
there, and before a point stands the last of them. -/
def afterZeros? (last : Char) : List Char → Option (List Char)
  | [] => some [last]
  | c :: cs =>
    if c = '0' || c = '_' then afterZeros? c cs
    else if c = '-' || ('1' ≤ c && c ≤ '9') then some (c :: cs)
    else if c = '.' then some (last :: c :: cs)
    else none

/-- The text without the zeros at its start. -/
def withoutZeros? : List Char → Option (List Char)
  | [] => none
  | c :: cs =>
    if c = '0' then afterZeros? c cs
    else if c = '-' || ('1' ≤ c && c ≤ '9') then some (c :: cs)
    else none

/-- A text without a point and the zeros behind it, of which there is at least one. -/
def withoutZeroFraction (cs : List Char) : List Char :=
  match Text.splitFirst? '.' cs with
  | some (whole, '0' :: zeros) => if zeros.all (· = '0') then whole else cs
  | _ => cs

/-- Split off a minus. -/
def splitMinus : List Char → Bool × List Char
  | '-' :: cs => (true, cs)
  | cs => (false, cs)

/-- The digits of an integer at the start of a text: a zero alone, or a row that starts with
another digit. -/
def integerDigits : List Char → List Char
  | '0' :: _ => ['0']
  | cs => cs.takeWhile Text.isDigit

/-- An integer as it is written in data, with a minus or without. -/
def plainInteger (v : Json) (cs : List Char) : Checked Int :=
  let (negative, size) := splitMinus cs
  let digits := integerDigits size
  if Text.digitLimit < digits.length + (if negative then 1 else 0) then problem .integerTooLong v
  else if digits.isEmpty || digits.length < size.length then problem .unreadableInteger v
  else .ok (Text.signed negative (Text.digitsValue digits))

/-- An integer in a text: spaces around it, a plus, zeros before it, single underscores between
its digits, and a fraction of zeros. -/
def integerText (v : Json) (s : String) : Checked Int :=
  let trimmed := Text.trimBy Text.isSpace s.toList
  match (withoutZeros? (withoutPlus trimmed)).map withoutZeroFraction with
  | none => problem .unreadableInteger v
  | some cs => plainInteger v ((Text.withoutUnderscores? cs).getD cs)

/-- An integer, or a truth value, a double or a text that stands for one. -/
def integer (v : Json) : Checked Int :=
  match v with
  | .int n => .ok n
  | .bool b => .ok (if b then 1 else 0)
  | .text s => integerText v s
  | .broken _ => problem .notUnicode v
  | .double d =>
    if d.isFinite then
      match d.whole?, wholeWord? d with
      | _, some n => .ok n
      | some _, none => problem .integerTooLong v
      | none, none => problem .fractional v
    else problem .notFinite v
  | _ => problem .notInteger v

/-- An integer that is not below zero. -/
def natural (v : Json) : Checked Int := do
  let n ← integer v
  if n < 0 then problem .negative v else return n

/-! ## Doubles -/

/-- The double that a text stands for, with spaces around it or with underscores in it. -/
def numberText? (s : String) : Option Double :=
  match Double.ofText? s.toList with
  | some d => some d
  | none => (Text.withoutUnderscores? s.toList).bind Double.ofBareText?

/-- A double, or an integer, a truth value or a text that stands for one. -/
def number (v : Json) : Checked Double :=
  match v with
  | .double d => .ok d
  | .bool b => .ok (.finite false (if b then Double.one else 0))
  | .int n =>
    match Double.ofInt? n with
    | some d => .ok d
    | none => problem .notNumber v
  | .text s =>
    match numberText? s with
    | some d => .ok d
    | none => problem .unreadableNumber v
  | .broken _ => problem .notUnicode v
  | _ => problem .notNumber v

end Disposition.Checked
