import Disposition.Text.Digit
import Disposition.Text.Fields
import Disposition.Text.Utf8

/-!
# Percent-encoded text

A percent sign and two hexadecimal digits stand for a byte, and bytes in a row for the text that
they encode in UTF-8.

* `percentDecode`: the text that a percent-encoded text stands for.
* `queryPairs`: the names and values of a query; in it a plus stands for a blank, and what has no
  value is left out.
-/

namespace Disposition.Text

/-- The byte at the start of a text, if it is written as one, and what follows it. -/
def escapedByte? : List Char → Option (Nat × List Char)
  | '%' :: high :: low :: rest =>
    match hexDigitValue? high, hexDigitValue? low with
    | some h, some l => some (16 * h + l, rest)
    | _, _ => none
  | _ => none

/-- The text that a percent-encoded text stands for, after the bytes read so far, which are in
reverse. -/
def percentDecodeFrom (bytes : List Nat) (cs : List Char) : List Char :=
  match h : escapedByte? cs with
  | some (byte, rest) => percentDecodeFrom (byte :: bytes) rest
  | none =>
    decodeUtf8 bytes.reverse ++
      match cs with
      | [] => []
      | c :: cs => c :: percentDecodeFrom [] cs
termination_by cs.length
decreasing_by
  · unfold escapedByte? at h
    split at h
    · split at h
      · cases h
        simp only [List.length_cons]
        omega
      · cases h
    · cases h
  · simp

/-- The text that a percent-encoded text stands for. -/
def percentDecode (cs : List Char) : List Char :=
  percentDecodeFrom [] cs

/-- The text that a name or value of a query stands for. -/
def queryText (cs : List Char) : String :=
  String.ofList (percentDecode (cs.map fun c => if c = '+' then ' ' else c))

/-- One name and its value. -/
def queryPair? (cs : List Char) : Option (String × String) :=
  match splitFirst? '=' cs with
  | some (_, []) | none => none
  | some (name, value) => some (queryText name, queryText value)

/-- The names and values of a query, in order. -/
def queryPairs (cs : List Char) : List (String × String) :=
  (fields '&' cs).filterMap queryPair?

end Disposition.Text
