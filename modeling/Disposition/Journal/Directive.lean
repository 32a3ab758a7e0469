import Disposition.Number.Fixed
import Disposition.Text.Ascii
import Disposition.Value.Text

/-!
# Directives

A directive asks for one argument of a message, and says how its text is laid out: to which side it
is aligned, how wide it is, how its sign is shown and with how many digits.

* `Directive.render`: the text of an argument, or why the argument does not fit the directive.
-/

namespace Disposition

/-- How the text of an argument is laid out. -/
structure Directive where
  /-- The text is aligned to the left. -/
  leftAlign : Bool := false
  /-- A plus is shown. -/
  forceSign : Bool := false
  /-- A blank is shown in place of a plus. -/
  blankSign : Bool := false
  /-- The base of an integer or the point of a number is shown in any case. -/
  alternate : Bool := false
  /-- A number is filled up with zeros. -/
  zeroFill : Bool := false
  /-- The least width. -/
  width : Nat := 0
  /-- The number of digits, or the greatest number of characters. -/
  precision : Option Nat := none
  /-- What is asked for. -/
  conversion : Char := 's'
  deriving DecidableEq, Repr

/-- Why the arguments of a message do not fit it. -/
inductive TemplateFault
  /-- There are fewer arguments than directives. -/
  | tooFew
  /-- There are more arguments than directives. -/
  | tooMany
  /-- The message ends within a directive. -/
  | incomplete
  /-- The message ends within the name of an argument. -/
  | incompleteName
  /-- An argument is asked for by its name, but the arguments have none. -/
  | noNames
  /-- An argument is asked for by its name, but the arguments are in a list. -/
  | notKeyed
  /-- There is no argument of that name. -/
  | missingName (name : String)
  /-- A width or a number of digits is no integer. -/
  | widthNotInteger
  /-- A width is written that is too great. -/
  | widthTooBig
  /-- A width is given that is too great. -/
  | givenWidthTooBig
  /-- A number of digits is written that is too great. -/
  | precisionTooBig
  /-- A number of digits is given that is too great. -/
  | givenPrecisionTooBig
  /-- There is no directive of that letter; it stands at that place of the message. -/
  | unsupported (letter : Char) (place : Nat)
  /-- The directive asks for a number. -/
  | notNumber (letter : Char) (kind : Kind)
  /-- The directive asks for an integer. -/
  | notInteger (letter : Char) (kind : Kind)
  /-- The directive asks for a double. -/
  | notDouble (kind : Kind)
  /-- An integer is too large for a double. -/
  | tooLarge
  /-- An infinity has no integer. -/
  | infinityAsInteger
  /-- A NaN has no integer. -/
  | nanAsInteger
  /-- There is no character of that number. -/
  | noSuchCharacter
  /-- The directive asks for a character. -/
  | notCharacter
  /-- An argument has no text. -/
  | text (fault : TextFault)
  deriving DecidableEq, Repr

/-- The wording of a fault. -/
def TemplateFault.message : TemplateFault → String
  | tooFew => "not enough arguments for format string"
  | tooMany => "not all arguments converted during string formatting"
  | incomplete => "incomplete format"
  | incompleteName => "incomplete format key"
  | noNames => "format requires a mapping"
  | notKeyed => "list indices must be integers or slices, not str"
  | missingName name => Text.quote name
  | widthNotInteger => "* wants int"
  | widthTooBig => "width too big"
  | givenWidthTooBig => "Python int too large to convert to C ssize_t"
  | precisionTooBig => "precision too big"
  | givenPrecisionTooBig => "Python int too large to convert to C int"
  | unsupported letter place =>
    let code := letter.toNat
    let shown := if 31 ≤ code && code < 127 then letter else '?'
    "unsupported format character '" ++ String.singleton shown ++ "' (0x" ++
      String.ofList (Nat.toDigits 16 code) ++ ") at index " ++ toString place
  | notNumber letter kind =>
    "%" ++ String.singleton letter ++ " format: a real number is required, not " ++ kind.name
  | notInteger letter kind =>
    "%" ++ String.singleton letter ++ " format: an integer is required, not " ++ kind.name
  | notDouble kind => "must be real number, not " ++ kind.name
  | tooLarge => "int too large to convert to float"
  | infinityAsInteger => "cannot convert float infinity to integer"
  | nanAsInteger => "cannot convert float NaN to integer"
  | noSuchCharacter => "%c arg not in range(0x110000)"
  | notCharacter => "%c requires int or char"
  | text fault => fault.message

namespace Directive

/-- A text with its sign and the mark of its base, in the width that is asked for. -/
def pad (d : Directive) (zeros : Bool) (sign mark body : String) : String :=
  let missing := d.width - (sign.length + mark.length + body.length)
  let fill := fun c => String.ofList (List.replicate missing c)
  if d.leftAlign then sign ++ mark ++ body ++ fill ' '
  else if zeros then sign ++ mark ++ fill '0' ++ body
  else fill ' ' ++ sign ++ mark ++ body

/-- The sign that is shown. -/
def signOf (d : Directive) (negative : Bool) : String :=
  if negative then "-" else if d.forceSign then "+" else if d.blankSign then " " else ""

/-- The text of a value, cut to the greatest number of characters. -/
def renderText (d : Directive) (s : String) : String :=
  d.pad false "" "" <|
    match d.precision with
    | some count => String.ofList (s.toList.take count)
    | none => s

/-- The letter is written in upper case. -/
def isUpper (d : Directive) : Bool :=
  'A' ≤ d.conversion && d.conversion ≤ 'Z'

/-- The base of an integer. -/
def base (d : Directive) : Nat :=
  if d.conversion = 'o' then 8 else if d.conversion.toLower = 'x' then 16 else 10

/-- The integer that a number stands for, what is behind its point left out. -/
def integerOf (d : Directive) : Value → Except TemplateFault Int
  | .int n => .ok n
  | .bool b => .ok (if b then 1 else 0)
  | v =>
    if d.base ≠ 10 then .error (.notInteger d.conversion v.kind)
    else
      match v with
      | .double .nan => .error .nanAsInteger
      | .double (.infinite _) => .error .infinityAsInteger
      | .double (.finite negative units) =>
        .ok (Double.signedUnits negative (units / Double.one))
      | v => .error (.notNumber d.conversion v.kind)

/-- The mark of the base of an integer. -/
def baseMark (d : Directive) : String :=
  if d.alternate && d.base ≠ 10 then "0" ++ String.singleton d.conversion else ""

/-- The text of an integer. How many digits it may have counts in base ten alone. -/
def renderInteger (d : Directive) (n : Int) : Except TemplateFault String :=
  if d.base = 10 && Value.sizeLimit ≤ n.natAbs then .error (.text .tooManyDigits)
  else
    let row := Nat.toDigits d.base n.natAbs
    let row := List.replicate (d.precision.getD 0 - row.length) '0' ++ row
    let body := String.ofList row
    .ok (d.pad d.zeroFill (d.signOf (n < 0)) d.baseMark
      (if d.isUpper then Text.asciiUpper body else body))

/-- The double that a number stands for. -/
def doubleOf : Value → Except TemplateFault Double
  | .double d => .ok d
  | .int n =>
    match Double.ofInt? n with
    | some d => .ok d
    | none => .error .tooLarge
  | .bool b => .ok (.finite false (if b then Double.one else 0))
  | v => .error (.notDouble v.kind)

/-- The text of the size of a finite double. -/
def sizeText (d : Directive) (units : Nat) : String :=
  let digits := d.precision.getD 6
  let letter := d.conversion.toLower
  if letter = 'f' then Double.fixedText digits d.alternate units
  else if letter = 'e' then Double.scientificText digits d.alternate units
  else Double.generalText digits d.alternate units

/-- The text of a double. -/
def renderDouble (d : Directive) (x : Double) : String :=
  let (negative, body) :=
    match x with
    | .nan => (false, "nan")
    | .infinite negative => (negative, "inf")
    | .finite negative units => (negative, d.sizeText units)
  d.pad d.zeroFill (d.signOf negative) "" (if d.isUpper then Text.asciiUpper body else body)

/-- The character that a value stands for. -/
def characterOf : Value → Except TemplateFault Char
  | .text s =>
    match s.toList with
    | [c] => .ok c
    | _ => .error .notCharacter
  | .int n =>
    if 0 ≤ n && n < 0x110000 then .ok (Char.ofNat n.toNat) else .error .noSuchCharacter
  | .bool b => .ok (Char.ofNat (if b then 1 else 0))
  | _ => .error .notCharacter

/-- A text in ASCII, other characters by their numbers. -/
def asciiText (s : String) : String :=
  String.ofList (s.toList.flatMap fun c => if c.toNat < 128 then [c] else Text.escapeCode c.toNat)

/-- The text of a value alone, with room for so many values inside it. -/
def shownText (room : Nat) (v : Value) : Except TemplateFault String :=
  (v.shown room).mapError .text

/-- The text of a value as it stands in a collection. -/
def quotedText (room : Nat) (v : Value) : Except TemplateFault String :=
  (v.quoted (room + 1)).mapError .text

/-- The text of an argument; the letter of the directive stands at that place of the message. -/
def render (d : Directive) (room place : Nat) (v : Value) : Except TemplateFault String := do
  if d.conversion = 's' then return d.renderText (← shownText room v)
  else if d.conversion = 'r' then return d.renderText (← quotedText room v)
  else if d.conversion = 'a' then return d.renderText (asciiText (← quotedText room v))
  else if "diuoxX".toList.contains d.conversion then d.renderInteger (← d.integerOf v)
  else if "eEfFgG".toList.contains d.conversion then return d.renderDouble (← doubleOf v)
  else if d.conversion = 'c' then
    return d.pad false "" "" (String.singleton (← characterOf v))
  else .error (.unsupported d.conversion place)

end Directive

end Disposition
