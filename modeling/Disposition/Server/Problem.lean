import Disposition.Json.Data
import Disposition.Rule
import Disposition.Text.Quoted

/-!
# Problems of bodies

What is wrong with the body of a request: the kind of each problem, its place, and what stands
there. All problems of a body are found, in the order of its fields.

* `Checked`: a result, or the problems that keep it from being one.
* `Checked.both`, `Checked.all`: two or many checks, with the problems of all of them.
-/

namespace Disposition

/-- What is wrong. -/
inductive ProblemKind
  /-- The body is no data. -/
  | malformed
  /-- Something that is required is missing. -/
  | missing
  /-- It is no object. -/
  | notAnObject
  /-- It is no text. -/
  | notText
  /-- It is a text that is no row of characters. -/
  | notUnicode
  /-- The text is too short. -/
  | tooShort (least : Nat)
  /-- The text is too long. -/
  | tooLong (most : Nat)
  /-- It is no truth value. -/
  | notBool
  /-- It does not say which truth value it is. -/
  | unreadableBool
  /-- It is no integer. -/
  | notInteger
  /-- It has a fraction and should be an integer. -/
  | fractional
  /-- It is no number of the finite ones. -/
  | notFinite
  /-- The text is no integer. -/
  | unreadableInteger
  /-- The integer has too many digits to be read. -/
  | integerTooLong
  /-- It is below zero. -/
  | negative
  /-- It is no number. -/
  | notNumber
  /-- The text is no number. -/
  | unreadableNumber
  /-- It is no list. -/
  | notAList
  /-- It is not the name of something that a condition can inspect. -/
  | unknownCondition
  /-- It is null and may only be left out. -/
  | null
  deriving DecidableEq, Repr

namespace ProblemKind

/-- The code of a problem. -/
def code : ProblemKind → String
  | malformed => "json_invalid"
  | missing => "missing"
  | notAnObject => "model_attributes_type"
  | notText => "string_type"
  | notUnicode => "string_unicode"
  | tooShort _ => "string_too_short"
  | tooLong _ => "string_too_long"
  | notBool => "bool_type"
  | unreadableBool => "bool_parsing"
  | notInteger => "int_type"
  | fractional => "int_from_float"
  | notFinite => "finite_number"
  | unreadableInteger => "int_parsing"
  | integerTooLong => "int_parsing_size"
  | negative => "greater_than_equal"
  | notNumber => "float_type"
  | unreadableNumber => "float_parsing"
  | notAList => "list_type"
  | unknownCondition => "enum"
  | null => "value_error"

/-- A number of characters. -/
def characters (count : Nat) : String :=
  toString count ++ (if count = 1 then " character" else " characters")

/-- Texts in quotes, the last two with a word between them and the others with commas. -/
def alternatives : List String → String
  | [] => ""
  | [s] => Text.quote s
  | [s, t] => Text.quote s ++ " or " ++ Text.quote t
  | s :: rest => Text.quote s ++ ", " ++ alternatives rest

/-- The wording of a problem. -/
def message : ProblemKind → String
  | malformed => "JSON decode error"
  | missing => "Field required"
  | notAnObject => "Input should be a valid dictionary or object to extract fields from"
  | notText => "Input should be a valid string"
  | notUnicode =>
    "Input should be a valid string, unable to parse raw data as a unicode string"
  | tooShort least => "String should have at least " ++ characters least
  | tooLong most => "String should have at most " ++ characters most
  | notBool => "Input should be a valid boolean"
  | unreadableBool => "Input should be a valid boolean, unable to interpret input"
  | notInteger => "Input should be a valid integer"
  | fractional => "Input should be a valid integer, got a number with a fractional part"
  | notFinite => "Input should be a finite number"
  | unreadableInteger => "Input should be a valid integer, unable to parse string as an integer"
  | integerTooLong => "Unable to parse input string as an integer, exceeded maximum size"
  | negative => "Input should be greater than or equal to 0"
  | notNumber => "Input should be a valid number"
  | unreadableNumber => "Input should be a valid number, unable to parse string as a number"
  | notAList => "Input should be a valid list"
  | unknownCondition => "Input should be " ++ alternatives (ConditionKind.all.map (·.name))
  | null => "Value error, may be omitted but not null"

end ProblemKind

/-- A step towards a place in a body. -/
inductive Place
  /-- The member of that name. -/
  | member (name : String)
  /-- The element at that index. -/
  | element (index : Nat)
  deriving DecidableEq, Repr

/-- Something wrong at some place of a body. -/
structure Problem where
  /-- What is wrong. -/
  kind : ProblemKind
  /-- What stands at the place. Where something is missing it is the object that lacks it. -/
  found : Json
  /-- The way to the place. -/
  place : List Place := []
  deriving Repr

/-- The problem one step further inside. -/
def Problem.inside (step : Place) (problem : Problem) : Problem :=
  { problem with place := step :: problem.place }

/-- A problem as data. -/
def Problem.toValue (problem : Problem) : Value :=
  let step : Place → Value
    | .member name => .text name
    | .element index => .int index
  .object [("type", .text problem.kind.code),
    ("loc", .list (.text "body" :: problem.place.map step)),
    ("msg", .text problem.kind.message)]

/-- A result, or the problems that keep it from being one. -/
abbrev Checked (α : Type) := Except (List Problem) α

namespace Checked

/-- A single problem with what was found. -/
def problem {α : Type} (kind : ProblemKind) (found : Json) : Checked α :=
  .error [{ kind, found }]

/-- The problems one step further inside. -/
def inside {α : Type} (step : Place) (checked : Checked α) : Checked α :=
  checked.mapError fun problems => problems.map (Problem.inside step)

/-- Both results, or the problems of both. -/
def both {α β : Type} : Checked α → Checked β → Checked (α × β)
  | .ok a, .ok b => .ok (a, b)
  | .error problems, .ok _ => .error problems
  | .ok _, .error problems => .error problems
  | .error problems, .error more => .error (problems ++ more)

/-- All results, or the problems of all. -/
def all {α : Type} : List (Checked α) → Checked (List α)
  | [] => .ok []
  | checked :: rest => (both checked (all rest)).map fun (a, as) => a :: as

/-- The members of an object. -/
def members : Json → Checked (List (String × Json))
  | .object members => .ok members
  | v => problem .notAnObject v

/-- A member of an object. If it is left out it comes to the fallback, without which it is
required. -/
def member {α : Type} (name : String) (fallback? : Option α) (check : Json → Checked α)
    (members : List (String × Json)) : Checked α :=
  inside (.member name) <|
    match members.lookup name, fallback? with
    | some v, _ => check v
    | none, some fallback => .ok fallback
    | none, none => problem .missing (.object members)

/-- The elements of a list, each checked by itself. -/
def elements {α : Type} (check : Json → Checked α) : Json → Checked (List α)
  | .list items => all (items.mapIdx fun index v => inside (.element index) (check v))
  | v => problem .notAList v

/-- Null, or something checked. -/
def orNull {α : Type} (check : Json → Checked α) : Json → Checked (Option α)
  | .null => .ok none
  | v => (check v).map some

/-- Something checked that is not null. -/
def notNull {α : Type} (check : Json → Checked α) : Json → Checked α
  | .null => problem .null .null
  | v => check v

end Checked

end Disposition
