import Disposition.Journal.Directive

/-!
# Messages with arguments

The directives of a message are replaced by the texts of its arguments, from left to right. A
directive starts with a percent sign; two percent signs stand for one. The arguments have no names,
unless there is only one and it is an object with members: then these may be asked for by name.

* `Arguments.ofList`, `Arguments.ofSingle`: arguments that are given one by one, or as a whole.
* `Template.fill`: the message, or the first fault.
-/

namespace Disposition

/-- How arguments can be asked for by name. -/
inductive ArgumentNames
  /-- They cannot. -/
  | none
  /-- They are the members of an object. -/
  | members (members : List (String × Value))
  /-- They are in a list, which has only places. -/
  | places
  deriving Repr

/-- The arguments that are left for a message. -/
structure Arguments where
  /-- The arguments to come. -/
  left : List Value
  /-- The arguments by name. -/
  names : ArgumentNames := .none
  deriving Repr

namespace Arguments

/-- Arguments that are given one by one. -/
def ofList : List Value → Arguments
  | [.object (member :: members)] =>
    ⟨[.object (member :: members)], .members (member :: members)⟩
  | values => { left := values }

/-- A value that is given for all arguments at once. -/
def ofSingle : Value → Arguments
  | .list [.object (member :: members)] =>
    ⟨[.object (member :: members)], .members (member :: members)⟩
  | .list items => ⟨[.list items], .places⟩
  | .object members => ⟨[.object members], .members members⟩
  | v => { left := [v] }

/-- The next argument, and those after it. -/
def next (arguments : Arguments) : Except TemplateFault (Value × Arguments) :=
  match arguments.left with
  | [] => .error .tooFew
  | v :: left => .ok (v, { arguments with left })

/-- The arguments after one was asked for by name: it comes next. -/
def byName (arguments : Arguments) (name : String) : Except TemplateFault Arguments :=
  match arguments.names with
  | .none => .error .noNames
  | .places => .error .notKeyed
  | .members members =>
    match members.lookup name with
    | some v => .ok { arguments with left := [v] }
    | none => .error (.missingName name)

/-- The arguments have no names. -/
def areNameless (arguments : Arguments) : Bool :=
  match arguments.names with
  | .none => true
  | _ => false

/-- All arguments were used. Only those that have no names need be. -/
def areUsed (arguments : Arguments) : Bool :=
  arguments.left.isEmpty || !arguments.areNameless

end Arguments

namespace Template

/-- The name before a closing bracket, inside `depth` more of them, and what follows. -/
def splitName? (depth : Nat) : List Char → Option (List Char × List Char)
  | [] => none
  | c :: cs =>
    let more := fun depth => (splitName? depth cs).map fun (name, rest) => (c :: name, rest)
    if c = '(' then more (depth + 1)
    else if c = ')' then
      match depth with
      | 0 => some ([], cs)
      | depth + 1 => more depth
    else more depth

/-- The flags of a directive, and what follows them. -/
def readFlags (d : Directive) : List Char → Directive × List Char
  | '-' :: cs => readFlags { d with leftAlign := true } cs
  | '+' :: cs => readFlags { d with forceSign := true } cs
  | ' ' :: cs => readFlags { d with blankSign := true } cs
  | '#' :: cs => readFlags { d with alternate := true } cs
  | '0' :: cs => readFlags { d with zeroFill := true } cs
  | cs => (d, cs)

/-- A number below a power of two, or the fault. -/
def bounded (bits : Nat) (fault : TemplateFault) (n : Int) : Except TemplateFault (Option Int) :=
  if -(twoTo bits : Int) ≤ n && n < twoTo bits then .ok (some n) else .error fault

/-- A number in a directive, and what follows it. A star takes the number from the arguments. The
faults are those of a number that is written and of one that is given. -/
def readAmount (bits : Nat) (written given : TemplateFault) (arguments : Arguments)
    (cs : List Char) : Except TemplateFault (Option Int × Arguments × List Char) := do
  match cs with
  | '*' :: rest =>
    let (v, arguments) ← arguments.next
    match v with
    | .int n => return (← bounded bits given n, arguments, rest)
    | .bool b => return (some (if b then 1 else 0), arguments, rest)
    | _ => .error .widthNotInteger
  | cs =>
    match Numeral.splitDigits cs with
    | ([], _) => return (none, arguments, cs)
    | (row, rest) => return (← bounded bits written (Text.digitsValue row), arguments, rest)

/-- The directive with its width, and what follows. A negative width aligns to the left. -/
def readWidth (d : Directive) (arguments : Arguments) (cs : List Char) :
    Except TemplateFault (Directive × Arguments × List Char) := do
  let (width, arguments, rest) ←
    readAmount 63 .widthTooBig .givenWidthTooBig arguments cs
  let width := width.getD 0
  return ({ d with width := width.natAbs, leftAlign := d.leftAlign || width < 0 }, arguments, rest)

/-- The directive with its number of digits, and what follows. -/
def readPrecision (d : Directive) (arguments : Arguments) (cs : List Char) :
    Except TemplateFault (Directive × Arguments × List Char) := do
  match cs with
  | '.' :: cs =>
    let (count, arguments, rest) ←
      readAmount 31 .precisionTooBig .givenPrecisionTooBig arguments cs
    return ({ d with precision := some (count.getD 0).toNat }, arguments, rest)
  | cs => return (d, arguments, cs)

/-- What follows the mark of a size, which means nothing. -/
def skipSizeMark : List Char → List Char
  | 'h' :: cs | 'l' :: cs | 'L' :: cs => cs
  | cs => cs

/-- The arguments after those asked for by name in a directive, and what follows the name. -/
def readName (arguments : Arguments) (cs : List Char) :
    Except TemplateFault (Arguments × List Char) := do
  match cs with
  | '(' :: cs =>
    if arguments.areNameless then .error .noNames
    else
      match splitName? 0 cs with
      | none => .error .incompleteName
      | some (name, rest) => return (← arguments.byName (String.ofList name), rest)
  | cs => return (arguments, cs)

/-- The directive behind a percent sign, and what follows it. -/
def readDirective (arguments : Arguments) (cs : List Char) :
    Except TemplateFault (Directive × Arguments × List Char) := do
  let (arguments, cs) ← readName arguments cs
  let (d, cs) := readFlags {} cs
  let (d, arguments, cs) ← readWidth d arguments cs
  let (d, arguments, cs) ← readPrecision d arguments cs
  match skipSizeMark cs with
  | [] => .error .incomplete
  | c :: rest => return ({ d with conversion := c }, arguments, rest)

/-- The rest of a message of that length, filled in, and the arguments that are left. The fuel is
at least the number of characters of the rest. -/
def fillFrom (room length : Nat) : (fuel : Nat) → Arguments → List Char →
    Except TemplateFault (String × Arguments)
  | 0, arguments, _ => .ok ("", arguments)
  | _ + 1, arguments, [] => .ok ("", arguments)
  | fuel + 1, arguments, '%' :: '%' :: cs => do
    let (after, arguments) ← fillFrom room length fuel arguments cs
    return ("%" ++ after, arguments)
  | fuel + 1, arguments, '%' :: cs => do
    let (d, arguments, rest) ← readDirective arguments cs
    let (v, arguments) ← arguments.next
    let rendered ← d.render room (length - rest.length - 1) v
    let (after, arguments) ← fillFrom room length fuel arguments rest
    return (rendered ++ after, arguments)
  | fuel + 1, arguments, c :: cs => do
    let (after, arguments) ← fillFrom room length fuel arguments cs
    return (String.singleton c ++ after, arguments)

/-- The message with its arguments, with room for so many values inside one. -/
def fill (room : Nat) (message : String) (arguments : Arguments) :
    Except TemplateFault String := do
  let cs := message.toList
  let (filled, arguments) ← fillFrom room cs.length cs.length arguments cs
  if arguments.areUsed then return filled else .error .tooMany

end Template

end Disposition
