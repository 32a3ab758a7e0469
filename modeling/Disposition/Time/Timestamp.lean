import Disposition.Number.Power
import Disposition.Time.Calendar
import Disposition.Text.Quoted
import Disposition.Text.Digit

/-!
# Times in text

A time is a date and a time of day behind any one character. Dates are written by months or by
weeks, with dashes or without; times of day with colons or without, as far as they are known, with
a fraction of the last part behind a point or a comma. The offset of a zone may follow, which is
checked and then passed over.

* `Timestamp.read`: the time that a text writes, or why it writes none.
-/

namespace Disposition

/-- A time, as the number that its digits from the year to the microsecond write. -/
abbrev Timestamp := Nat

/-- Why a text writes no time. -/
inductive TimeFault
  /-- It has no form of a time. -/
  | malformed (text : String)
  /-- It is no text. -/
  | notText
  /-- The offset of the zone takes a day or more: so many microseconds. -/
  | wideOffset (micros : Int)
  /-- There is no such year. -/
  | noYear (year : Nat)
  /-- There is no such month. -/
  | noMonth
  /-- The month has no such day. -/
  | noDay
  /-- There is no such hour. -/
  | noHour
  /-- There is no such minute. -/
  | noMinute
  /-- There is no such second. -/
  | noSecond
  deriving DecidableEq, Repr

namespace TimeFault

/-- The microseconds of a day. -/
def dayLength : Nat := 86400000000

/-- A span of time as days, seconds and microseconds, of which only the days can be negative. What
is zero is left out. -/
def spanText (micros : Int) : String :=
  let rest := micros % dayLength
  let parts := [("days", micros / dayLength), ("seconds", rest / 1000000),
    ("microseconds", rest % 1000000)]
  let shown := (parts.filter fun (_, n) => n ≠ 0).map fun (name, n) => name ++ "=" ++ toString n
  "datetime.timedelta(" ++ String.intercalate ", " shown ++ ")"

/-- The wording of a fault. -/
def message : TimeFault → String
  | malformed text => "Invalid isoformat string: " ++ Text.quote text
  | notText => "fromisoformat: argument must be str"
  | wideOffset micros =>
    "offset must be a timedelta strictly between -timedelta(hours=24) and timedelta(hours=24), " ++
      "not " ++ spanText micros ++ "."
  | noYear year => "year " ++ toString year ++ " is out of range"
  | noMonth => "month must be in 1..12"
  | noDay => "day is out of range for month"
  | noHour => "hour must be in 0..23"
  | noMinute => "minute must be in 0..59"
  | noSecond => "second must be in 0..59"

end TimeFault

/-- A time of day. -/
structure Clock where
  /-- The hour. -/
  hour : Nat := 0
  /-- The minute. -/
  minute : Nat := 0
  /-- The second. -/
  second : Nat := 0
  /-- The microsecond. -/
  micro : Nat := 0
  deriving DecidableEq, Repr, Inhabited

namespace Timestamp

open Text

/-- The start of the year 2024. -/
def start : Timestamp := 20240101000000000000

/-- A number of so many digits, and what follows it. -/
def readNumber? (count : Nat) (cs : List Char) : Option (Nat × List Char) :=
  let row := cs.take count
  if row.length = count && row.all isDigit then some (digitsValue row, cs.drop count) else none

/-! ## Dates -/

/-- How many characters the date takes. A week without a day and digits behind a dash are taken for
a time of day, and digits behind a week for a day if their number is odd. -/
def dateLength (cs : List Char) : Nat :=
  match cs.drop 4 with
  | '-' :: 'W' :: _ :: _ :: '-' :: _ :: c :: _ => if isDigit c then 8 else 10
  | '-' :: 'W' :: _ :: _ :: '-' :: _ => 10
  | '-' :: 'W' :: _ => 8
  | '-' :: _ => 10
  | 'W' :: _ :: _ :: more =>
    let digits := (more.takeWhile isDigit).length
    if digits < 2 then 7 + digits else if digits % 2 = 1 then 7 else 8
  | _ => 8

/-- What follows a dash, which stands there if there are dashes. -/
def afterDash? (dashed : Bool) (cs : List Char) : Option (List Char) :=
  match dashed, cs with
  | false, cs => some cs
  | true, '-' :: cs => some cs
  | true, _ => none

/-- The date that a text writes. A week without a day stands for its Monday. -/
def readDate? (cs : List Char) : Option Date := do
  let (year, cs) ← readNumber? 4 cs
  let dashed := cs.head? = some '-'
  match ← afterDash? dashed cs with
  | 'W' :: cs =>
    let (week, cs) ← readNumber? 2 cs
    if cs.isEmpty then Calendar.ofWeek? year week 1
    else
      let (day, _) ← readNumber? 1 (← afterDash? dashed cs)
      Calendar.ofWeek? year week day
  | cs =>
    let (month, cs) ← readNumber? 2 cs
    let (day, _) ← readNumber? 2 (← afterDash? dashed cs)
    return ⟨year, month, day⟩

/-! ## Times of day -/

/-- The digits of a fraction, as microseconds. All further digits are passed over. The flag tells
whether anything else follows. -/
def readFraction? (cs : List Char) : Option (Nat × Bool) := do
  let count := min 6 cs.length
  let (digits, rest) ← readNumber? count cs
  return (digits * tenTo (6 - count), (rest.dropWhile isDigit).isEmpty)

/-- The character stands before a fraction. -/
def isFractionMark (c : Char) : Bool :=
  c = '.' || c = ','

/-- The parts of a time of day from the next one on, of which `left` are to come, and its fraction.
The flag tells whether the text was used up: one ASCII character may be left over. Only the first
part tells whether there are colons. -/
def readParts? : (left : Nat) → (colons : Option Bool) → List Char →
    Option (List Nat × Nat × Bool)
  | 0, _, cs => do
    let (micro, complete) ← readFraction? cs
    return ([], micro, complete)
  | left + 1, colons?, cs => do
    let (n, cs) ← readNumber? 2 cs
    match cs with
    | [] => return ([n], 0, true)
    | [c] => if c.val < 128 then some ([n], 0, false) else none
    | c :: rest =>
      let colons := colons?.getD (c = ':')
      if colons && c = ':' then
        let (parts, micro, complete) ← readParts? left (some colons) rest
        return (n :: parts, micro, complete)
      else if isFractionMark c then
        let (micro, complete) ← readFraction? rest
        return ([n], micro, complete)
      else if colons then none
      else
        let (parts, micro, complete) ← readParts? left (some colons) (c :: rest)
        return (n :: parts, micro, complete)

/-- A time of day, and whether the text was used up. -/
def readClock? (cs : List Char) : Option (Clock × Bool) := do
  let (parts, micro, complete) ← readParts? 3 none cs
  return ({ hour := parts.headD 0, minute := parts.tail.headD 0, second := parts.tail.tail.headD 0,
            micro }, complete)

/-- The microseconds of a time of day. -/
def microsOf (clock : Clock) : Nat :=
  ((clock.hour * 60 + clock.minute) * 60 + clock.second) * 1000000 + clock.micro

/-- The character starts a zone. -/
def isZoneMark (c : Char) : Bool :=
  c = '+' || c = '-' || c = 'Z'

/-- The offset of a zone, in microseconds. -/
def readZone? : List Char → Option Int
  | ['Z'] => some 0
  | '+' :: cs => do
    let (clock, complete) ← readClock? cs
    if complete then some (microsOf clock) else none
  | '-' :: cs => do
    let (clock, complete) ← readClock? cs
    if complete then some (-(microsOf clock : Int)) else none
  | _ => none

/-- A time of day with the offset of its zone, if it has one. Before a zone anything may stand
behind the time of day. -/
def readTime? (cs : List Char) : Option (Clock × Int) := do
  let (clock, complete) ← readClock? (cs.takeWhile (!isZoneMark ·))
  match cs.dropWhile (!isZoneMark ·) with
  | [] => if complete then some (clock, 0) else none
  | zone => return (clock, ← readZone? zone)

/-! ## Times -/

/-- The date and the time of day that a text writes, and the offset of its zone. -/
def readAll? (cs : List Char) : Option (Date × Clock × Int) := do
  let length := dateLength cs
  let date ← readDate? (cs.take length)
  match cs.drop length with
  | [] => return (date, {}, 0)
  | _ :: time => return (date, ← readTime? time)

/-- What does not exist of a date and a time of day. -/
def fault? (date : Date) (clock : Clock) : Option TimeFault :=
  if date.year < 1 || 9999 < date.year then some (.noYear date.year)
  else if date.month < 1 || 12 < date.month then some .noMonth
  else if date.day < 1 || Calendar.monthLength date.year date.month < date.day then some .noDay
  else if 23 < clock.hour then some .noHour
  else if 59 < clock.minute then some .noMinute
  else if 59 < clock.second then some .noSecond
  else none

/-- The number that the digits of a time write. -/
def ofParts (date : Date) (clock : Clock) : Timestamp :=
  let day := (date.year * 100 + date.month) * 100 + date.day
  let time := ((day * 100 + clock.hour) * 100 + clock.minute) * 100 + clock.second
  time * 1000000 + clock.micro

/-- The time that a text writes. -/
def read (s : String) : Except TimeFault Timestamp :=
  match readAll? s.toList with
  | none => .error (.malformed s)
  | some (date, clock, offset) =>
    if TimeFault.dayLength ≤ offset.natAbs then .error (.wideOffset offset)
    else
      match fault? date clock with
      | some fault => .error fault
      | none => .ok (ofParts date clock)

end Timestamp

end Disposition
