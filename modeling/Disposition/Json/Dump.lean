import Disposition.Json.Printer
import Disposition.Value.Text

/-!
# Data on a line of its own

A value as JSON text of which every character is printable and in ASCII: all others are written by
their codes, those beyond the first 65536 by a pair of codes. A blank follows each comma and each
colon. A value that is no data of this format is written as the text that a message shows of it.

Not every value has a text: an integer may have more digits than are written, and collections may
be nested deeper than the caller leaves room for.

* `Json.dump`: the text of a value, or why it has none.
* `DumpFault.message`: the wording of the fault.
-/

namespace Disposition

/-- Why a value has no text on a line of data. -/
inductive DumpFault
  /-- A value in it has no text at all. -/
  | text (fault : TextFault)
  /-- Collections are nested too deeply. -/
  | tooDeep
  deriving DecidableEq, Repr

/-- The wording of a fault. -/
def DumpFault.message : DumpFault → String
  | text fault => fault.message
  | tooDeep => "maximum recursion depth exceeded while encoding a JSON object"

namespace Json

open Text

/-- A character by its code of four digits. -/
def codeEscape (code : Nat) : List Char :=
  backslash :: 'u' :: hexDigits 4 code

/-- One character of a text in quotes. -/
def escapeAscii (c : Char) : List Char :=
  let code := c.toNat
  if code < 127 then escapeChar c
  else if code < 0x10000 then codeEscape code
  else
    codeEscape (0xD800 + (code - 0x10000) / 0x400) ++
      codeEscape (0xDC00 + (code - 0x10000) % 0x400)

/-- A text in quotes. -/
def asciiLiteral (s : String) : String :=
  String.ofList (doubleQuote :: (s.toList.flatMap escapeAscii ++ [doubleQuote]))

/-- A value that is no data of this format, by the text that a message shows of it. -/
def shownLiteral (room : Nat) (v : Value) : Except DumpFault String :=
  ((v.quoted (room + 1)).mapError .text).map asciiLiteral

mutual

/-- A value as text, with room for so many collections inside each other. -/
def dump : (room : Nat) → Value → Except DumpFault String
  | _, .null => .ok "null"
  | _, .bool b => .ok (if b then "true" else "false")
  | _, .int n => (Value.integerText n).mapError .text
  | _, .double d => .ok (d.textIn Double.dataLayout)
  | _, .text s => .ok (asciiLiteral s)
  | 0, _ => .error .tooDeep
  | room + 1, .list items =>
    return "[" ++ String.intercalate ", " (← dumpItems room items) ++ "]"
  | room + 1, .object members =>
    return "\x7b" ++ String.intercalate ", " (← dumpMembers room members) ++ "\x7d"
  | room + 1, .decimal d => shownLiteral room (.decimal d)
  | room + 1, .fraction q => shownLiteral room (.fraction q)
  | room + 1, .item productType productTags productVendor sku =>
    shownLiteral room (.item productType productTags productVendor sku)

/-- The elements of a list. -/
def dumpItems (room : Nat) : List Value → Except DumpFault (List String)
  | [] => .ok []
  | v :: rest => return (← dump room v) :: (← dumpItems room rest)

/-- The members of an object. -/
def dumpMembers (room : Nat) : List (String × Value) → Except DumpFault (List String)
  | [] => .ok []
  | (name, v) :: rest =>
    return (asciiLiteral name ++ ": " ++ (← dump room v)) :: (← dumpMembers room rest)

end

end Json

end Disposition
