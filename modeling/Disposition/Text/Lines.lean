/-!
# Lines

* `lineCount`: how many lines a text has. A line ends at a line break; a carriage return and the
  line feed behind it are one break. What follows the last break is a line if it is not empty.
-/

namespace Disposition.Text

/-- The characters that end a line. -/
def isLineBreak (c : Char) : Bool :=
  let code := c.toNat
  (0xA ≤ code && code ≤ 0xD) || (0x1C ≤ code && code ≤ 0x1E) || code == 0x85 || code == 0x2028 ||
    code == 0x2029

/-- How many lines a text has. The flag tells whether a line was begun. -/
def lineCountFrom (begun : Bool) : List Char → Nat
  | [] => if begun then 1 else 0
  | '\r' :: '\n' :: cs => 1 + lineCountFrom false cs
  | c :: cs => if isLineBreak c then 1 + lineCountFrom false cs else lineCountFrom true cs

/-- How many lines a text has. -/
def lineCount (s : String) : Nat :=
  lineCountFrom false s.toList

end Disposition.Text
