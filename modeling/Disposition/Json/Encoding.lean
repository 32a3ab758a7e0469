import Disposition.Text.Halves

/-!
# The encoding of exchanged data

JSON text starts with two ASCII characters, so the zeros among its first bytes tell its encoding.
A text that comes as UTF-8 is read by that rule too: zeros at its start make it a text of wider
units.

* `Encoding.ofBytes`: the encoding that the first bytes tell.
* `Encoding.decode?`: the text of some bytes, if they are whole units.
-/

namespace Disposition.Json

/-- An encoding of text. -/
inductive Encoding
  /-- One byte or more for a character. -/
  | utf8
  /-- Units of two bytes, with the high byte first or last. -/
  | utf16 (highFirst : Bool)
  /-- Units of four bytes, with the high byte first or last. -/
  | utf32 (highFirst : Bool)
  deriving DecidableEq, Repr

namespace Encoding

/-- The encoding that the first bytes tell. -/
def ofBytes : List Nat → Encoding
  | 0 :: 0 :: _ :: _ :: _ => utf32 true
  | 0 :: _ :: _ :: _ :: _ => utf16 true
  | _ :: 0 :: 0 :: 0 :: _ => utf32 false
  | _ :: 0 :: _ :: _ :: _ => utf16 false
  | [0, _] => utf16 true
  | [_, 0] => utf16 false
  | _ => utf8

/-- The number that some bytes are, the first one the highest or the lowest. -/
def unitOf (highFirst : Bool) (bytes : List Nat) : Nat :=
  (if highFirst then bytes else bytes.reverse).foldl (fun high byte => 0x100 * high + byte) 0

/-- The units of two bytes, if the bytes are whole units. -/
def units16? (highFirst : Bool) : List Nat → Option (List Nat)
  | [] => some []
  | a :: b :: bytes => (units16? highFirst bytes).map (unitOf highFirst [a, b] :: ·)
  | [_] => none

/-- The units of four bytes, if the bytes are whole units and no unit is too great. -/
def units32? (highFirst : Bool) : List Nat → Option (List Nat)
  | [] => some []
  | a :: b :: c :: d :: bytes =>
    let code := unitOf highFirst [a, b, c, d]
    if code ≤ 0x10FFFF then (units32? highFirst bytes).map (code :: ·) else none
  | _ => none

/-- The text of some bytes in an encoding. A mark of the encoding at the start of UTF-8 is no part
of the text. -/
def decode? (bytes : List Nat) : Encoding → Option (List Char)
  | utf8 =>
    match bytes with
    | 0xEF :: 0xBB :: 0xBF :: bytes => some (Text.decodeUtf8 bytes)
    | bytes => some (Text.decodeUtf8 bytes)
  | utf16 highFirst => (units16? highFirst bytes).map Text.joinHalves
  | utf32 highFirst => (units32? highFirst bytes).map fun codes => codes.map Text.singleChar

end Encoding

/-- The text that some bytes are in the encoding that they tell. -/
def decode? (bytes : List Nat) : Option (List Char) :=
  (Encoding.ofBytes bytes).decode? bytes

end Disposition.Json
