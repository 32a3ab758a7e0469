import Disposition.Json.Data
import Disposition.Text.Halves
import Disposition.Value

/-!
# Reading exchanged data

JSON text as data. Numbers without fraction and exponent are integers of any size, all others
doubles; `NaN`, `Infinity` and `-Infinity` are numbers as well. Of members with the same name the
last one counts.

* `Json.read`: the data that a text is, or the fault that keeps it from being read. The fuel of the
  recursion is never used up: every step reads a character, and there is twice as much of it.
* `Json.readNested`: the same for a text in which only so many brackets may be open at once. It is
  given up where one more is opened, whatever follows.
-/

namespace Disposition.Json

open Text

/-- Why a text is not read. -/
inductive Fault
  /-- The text is not JSON. -/
  | malformed
  /-- An integer has more digits than are read. -/
  | tooManyDigits
  /-- Too many brackets are open at once. -/
  | tooDeep
  deriving DecidableEq, Repr

/-- The blanks of the format. -/
def isBlankChar (c : Char) : Bool :=
  c = ' ' || c = '\t' || c = '\n' || c = '\r'

/-- The text behind the blanks at its start. -/
def skipBlanks (cs : List Char) : List Char :=
  cs.dropWhile isBlankChar

/-- The code that four hexadecimal digits write. -/
def hexCode? (a b c d : Char) : Option Nat := do
  let high := (← hexDigitValue? a) * 16 + (← hexDigitValue? b)
  let low := (← hexDigitValue? c) * 16 + (← hexDigitValue? d)
  return high * 256 + low

/-- The code that a letter behind a backslash stands for. -/
def escapeCode? (c : Char) : Option Nat :=
  if c = doubleQuoteChar || c = backslashChar || c = '/' then some c.toNat
  else if c = 'b' then some 8
  else if c = 'f' then some 12
  else if c = 'n' then some 10
  else if c = 'r' then some 13
  else if c = 't' then some 9
  else none
where
  doubleQuoteChar : Char := Char.ofNat 0x22
  backslashChar : Char := Char.ofNat 0x5C

/-- The codes of a text up to its closing quote, in reverse before `codes`, and what follows. -/
def readCodes (codes : List Nat) : List Char → Except Fault (List Nat × List Char)
  | [] => .error .malformed
  | c :: cs =>
    if c.toNat = 0x22 then .ok (codes.reverse, cs)
    else if c.toNat < 32 then .error .malformed
    else if c.toNat = 0x5C then
      match cs with
      | 'u' :: h₁ :: h₂ :: h₃ :: h₄ :: rest =>
        match hexCode? h₁ h₂ h₃ h₄ with
        | some code => readCodes (code :: codes) rest
        | none => .error .malformed
      | e :: rest =>
        match escapeCode? e with
        | some code => readCodes (code :: codes) rest
        | none => .error .malformed
      | [] => .error .malformed
    else readCodes (c.toNat :: codes) cs

/-- The name of a member behind its opening quote, and what follows it. -/
def readName (cs : List Char) : Except Fault (String × List Char) := do
  let (codes, rest) ← readCodes [] cs
  return (String.ofList (joinHalves codes), rest)

/-- A text behind its opening quote, and what follows it. -/
def readText (cs : List Char) : Except Fault (Json × List Char) := do
  let (codes, rest) ← readCodes [] cs
  let s := String.ofList (joinHalves codes)
  return (if hasLoneHalf codes then .broken s else .text s, rest)

/-- The whole part of a number: a zero, or digits that do not start with one. -/
def readWhole (cs : List Char) : Except Fault (List Char × List Char) :=
  match Numeral.splitDigits cs with
  | ([], _) => .error .malformed
  | ('0' :: more, rest) => .ok (['0'], more ++ rest)
  | (digits, rest) => .ok (digits, rest)

/-- The fraction at the start of a text, and what follows it. A point without digits behind it is
none. -/
def readFraction? : List Char → Option (List Char × List Char)
  | '.' :: cs =>
    match Numeral.splitDigits cs with
    | ([], _) => none
    | (digits, rest) => some (digits, rest)
  | _ => none

/-- A number without its sign, and what follows it. -/
def readNumber (negative : Bool) (cs : List Char) : Except Fault (Json × List Char) := do
  match Numeral.dropWord? "Infinity".toList cs with
  | some rest => return (.double (.infinite negative), rest)
  | none =>
    let (whole, afterWhole) ← readWhole cs
    let fraction? := readFraction? afterWhole
    let (fraction, afterFraction) := fraction?.getD ([], afterWhole)
    match fraction?, Numeral.splitExponent? afterFraction with
    | none, none =>
      if digitLimit < whole.length then .error .tooManyDigits
      else return (.int (signed negative (digitsValue whole)), afterWhole)
    | _, exponent? =>
      let (exponent, rest) := exponent?.getD (0, afterFraction)
      let digits := digitsValue (whole ++ fraction)
      return (.double (.ofDecimal negative digits (exponent - fraction.length)), rest)

/-- The words of the format and their values. -/
def words : List (List Char × Json) :=
  [("null".toList, .null), ("true".toList, .bool true), ("false".toList, .bool false),
    ("NaN".toList, .double .nan)]

/-- A word or a number, and what follows it. -/
def readScalar (cs : List Char) : Except Fault (Json × List Char) :=
  match words.findSome? fun (word, v) => (Numeral.dropWord? word cs).map (v, ·) with
  | some found => .ok found
  | none =>
    match cs with
    | '-' :: rest => readNumber true rest
    | _ => readNumber false cs

mutual

/-- A value at the start of a text without blanks there, and what follows it. At most `room` more
brackets may be open at once. -/
def readJson : (fuel room : Nat) → List Char → Except Fault (Json × List Char)
  | 0, _, _ => .error .malformed
  | fuel + 1, room, cs =>
    match cs with
    | '\x22' :: rest => readText rest
    | '[' :: rest =>
      match room, skipBlanks rest with
      | 0, _ => .error .tooDeep
      | _ + 1, ']' :: rest => .ok (.list [], rest)
      | room + 1, rest => readItems fuel room [] rest
    | '\x7b' :: rest =>
      match room, skipBlanks rest with
      | 0, _ => .error .tooDeep
      | _ + 1, '\x7d' :: rest => .ok (.object [], rest)
      | room + 1, rest => readMembers fuel room [] rest
    | _ => readScalar cs

/-- The elements of a list from the next one on, in reverse before `items`. -/
def readItems : (fuel room : Nat) → List Json → List Char → Except Fault (Json × List Char)
  | 0, _, _, _ => .error .malformed
  | fuel + 1, room, items, cs => do
    let (v, rest) ← readJson fuel room cs
    match skipBlanks rest with
    | ',' :: rest => readItems fuel room (v :: items) (skipBlanks rest)
    | ']' :: rest => .ok (.list (v :: items).reverse, rest)
    | _ => .error .malformed

/-- The members of an object from the next one on, after those read so far. -/
def readMembers : (fuel room : Nat) → List (String × Json) → List Char →
    Except Fault (Json × List Char)
  | 0, _, _, _ => .error .malformed
  | fuel + 1, room, members, cs =>
    match cs with
    | '\x22' :: rest => do
      let (name, rest) ← readName rest
      match skipBlanks rest with
      | ':' :: rest =>
        let (v, rest) ← readJson fuel room (skipBlanks rest)
        let members := Value.setMember name v members
        match skipBlanks rest with
        | ',' :: rest => readMembers fuel room members (skipBlanks rest)
        | '\x7d' :: rest => .ok (.object members, rest)
        | _ => .error .malformed
      | _ => .error .malformed
    | _ => .error .malformed

end

/-- The value of a text in which at most `depth` brackets are open at once. -/
def readNested (depth : Nat) (cs : List Char) : Except Fault Json := do
  let cs := skipBlanks cs
  let (v, rest) ← readJson (2 * cs.length + 1) depth cs
  if (skipBlanks rest).isEmpty then return v else .error .malformed

/-- The value of a text, which opens no more brackets than it has characters. -/
def read (s : String) : Except Fault Json :=
  readNested s.toList.length s.toList

end Disposition.Json
