/-!
# UTF-8

A character takes one to four bytes, of which the first one says how many. Bytes that encode no
character are replaced: each longest row of them that some character starts with becomes one
replacement character, and so does every byte that no character starts with.

* `utf8Bytes`: the bytes of a text.
* `decodeUtf8`: the text of some bytes.
-/

namespace Disposition.Text

/-- The bytes of a text. -/
def utf8Bytes (s : String) : List Nat :=
  s.toUTF8.toList.map UInt8.toNat

/-- The character that stands for what encodes none. -/
def replacement : Char := Char.ofNat 0xFFFD

/-- A character of which some bytes were read. -/
structure PartialChar where
  /-- How many bytes are missing. -/
  missing : Nat
  /-- The least next byte. -/
  least : Nat := 0x80
  /-- The greatest next byte. -/
  most : Nat := 0xBF
  /-- The bits that were read. -/
  bits : Nat
  deriving DecidableEq, Repr

/-- What a byte comes to. -/
inductive ByteStep
  /-- It completes a character. -/
  | complete (c : Char)
  /-- It leaves a character incomplete. -/
  | incomplete (part : PartialChar)
  /-- No character has it there. -/
  | wrong
  deriving DecidableEq, Repr

/-- What the first byte of a character comes to. Some first bytes narrow the second one, so that
no character has two encodings, none is half of a pair and none is beyond the last one. -/
def ByteStep.first (byte : Nat) : ByteStep :=
  if byte < 0x80 then complete (Char.ofNat byte)
  else if byte < 0xC2 then wrong
  else if byte < 0xE0 then incomplete { missing := 1, bits := byte - 0xC0 }
  else if byte = 0xE0 then incomplete { missing := 2, least := 0xA0, bits := 0 }
  else if byte = 0xED then incomplete { missing := 2, most := 0x9F, bits := 0xD }
  else if byte < 0xF0 then incomplete { missing := 2, bits := byte - 0xE0 }
  else if byte = 0xF0 then incomplete { missing := 3, least := 0x90, bits := 0 }
  else if byte < 0xF4 then incomplete { missing := 3, bits := byte - 0xF0 }
  else if byte = 0xF4 then incomplete { missing := 3, most := 0x8F, bits := 4 }
  else wrong

/-- What the next byte of a character comes to. -/
def PartialChar.next (part : PartialChar) (byte : Nat) : ByteStep :=
  if part.least ≤ byte && byte ≤ part.most then
    let bits := part.bits * 0x40 + (byte - 0x80)
    if part.missing ≤ 1 then .complete (Char.ofNat bits)
    else .incomplete { missing := part.missing - 1, bits }
  else .wrong

/-- What a byte comes to behind a character of which some bytes were read, if it belongs to it. -/
def continued (part? : Option PartialChar) (byte : Nat) : ByteStep :=
  match part? with
  | some part => part.next byte
  | none => .wrong

/-- The replacement of a character that stays incomplete. -/
def cutShort (part? : Option PartialChar) : List Char :=
  if part?.isSome then [replacement] else []

/-- The text of some bytes behind a character of which some bytes were read. -/
def decodeUtf8From (part? : Option PartialChar) : List Nat → List Char
  | [] => cutShort part?
  | byte :: bytes =>
    match continued part? byte with
    | .complete c => c :: decodeUtf8From none bytes
    | .incomplete part => decodeUtf8From (some part) bytes
    | .wrong =>
      cutShort part? ++
        match ByteStep.first byte with
        | .complete c => c :: decodeUtf8From none bytes
        | .incomplete part => decodeUtf8From (some part) bytes
        | .wrong => replacement :: decodeUtf8From none bytes

/-- The text of some bytes. -/
def decodeUtf8 (bytes : List Nat) : List Char :=
  decodeUtf8From none bytes

end Disposition.Text
