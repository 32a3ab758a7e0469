import Disposition.Value
import Disposition.Number.Shortest
import Disposition.Text.Quoted

/-!
# Writing exchanged data

A value as JSON text without blanks. Characters beyond ASCII stay as they are; quotes,
backslashes and controls are escaped. Decimals, fractions and items are no data of this format:
the numbers are written as texts and an item as an object.

* `Json.print`: the text of a value.
-/

namespace Disposition.Json

open Text

/-- One character of a JSON text in quotes. -/
def escapeChar (c : Char) : List Char :=
  if c = doubleQuote || c = backslash then [backslash, c]
  else if c = '\n' then [backslash, 'n']
  else if c = '\r' then [backslash, 'r']
  else if c = '\t' then [backslash, 't']
  else if c.toNat = 8 then [backslash, 'b']
  else if c.toNat = 12 then [backslash, 'f']
  else if c.toNat < 32 then backslash :: 'u' :: hexDigits 4 c.toNat
  else [c]

/-- A JSON text in quotes. -/
def textLiteral (s : String) : String :=
  String.ofList (doubleQuote :: (s.toList.flatMap escapeChar ++ [doubleQuote]))

mutual

/-- A value as JSON text. -/
def print : Value → String
  | .null => "null"
  | .bool b => if b then "true" else "false"
  | .int n => toString n
  | .double d => d.textIn Double.dataLayout
  | .decimal d => textLiteral d.text
  | .fraction q => textLiteral (toString q.num ++ "/" ++ toString q.den)
  | .text s => textLiteral s
  | .list items => "[" ++ String.intercalate "," (printItems items) ++ "]"
  | .object members => "\x7b" ++ String.intercalate "," (printMembers members) ++ "\x7d"
  | .item productType productTags productVendor sku =>
    "\x7b\"product_type\":" ++ print productType ++ ",\"product_tags\":" ++ printTags productTags ++
      ",\"product_vendor\":" ++ print productVendor ++ ",\"sku\":" ++ print sku ++ "\x7d"

/-- The elements of a list. -/
def printItems : List Value → List String
  | [] => []
  | v :: rest => print v :: printItems rest

/-- The members of an object. -/
def printMembers : List (String × Value) → List String
  | [] => []
  | (name, v) :: rest => (textLiteral name ++ ":" ++ print v) :: printMembers rest

/-- The tags of an item. -/
def printTags : Option (List Value) → String
  | none => "null"
  | some tags => "[" ++ String.intercalate "," (printItems tags) ++ "]"

end

end Disposition.Json
