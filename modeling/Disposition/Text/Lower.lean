import Disposition.Text.Blank
import Disposition.Text.CaseTable

/-!
# Lower case

The full lower-casing of the character standard, which depends on the place of a character in
one case only: a capital sigma that ends a word becomes the final sigma.

* `lower`: the lower case of a text. `İ` gives two characters, every other one gives one.
* `normalize`: the form in which the operand of a rule is compared, trimmed and in lower case. It
  bears the name that it has in the engine.
-/

namespace Disposition.Text

/-- The capital sigma. -/
def capitalSigma : Char := Char.ofNat 0x3A3

/-- The small sigma inside a word. -/
def smallSigma : Char := Char.ofNat 0x3C3

/-- The small sigma at the end of a word. -/
def finalSigma : Char := Char.ofNat 0x3C2

/-- The capital I with a dot above. -/
def dottedCapitalI : Char := Char.ofNat 0x130

/-- The combining dot above. -/
def combiningDot : Char := Char.ofNat 0x307

/-- A cased character that a search for a cased neighbour stops at. -/
def isCased (c : Char) : Bool :=
  inRanges casedRanges c.toNat

/-- A character that a search for a cased neighbour passes over. -/
def isCaseIgnorable (c : Char) : Bool :=
  inRanges caseIgnorableRanges c.toNat

/-- The lower case of a code point, where it is one code point. -/
def lowerCode (code : Nat) : Nat :=
  match lowerRows.find? (·.covers code) with
  | some row => (code + row.shift).toNat
  | none => code

/-- The lower case of a character, wherever it stands. -/
def lowerChar (c : Char) : List Char :=
  if c = dottedCapitalI then ['i', combiningDot] else [Char.ofNat (lowerCode c.toNat)]

/-- A cased character follows, possibly after case-ignorable ones. -/
def casedFollows (cs : List Char) : Bool :=
  (cs.dropWhile isCaseIgnorable).head?.any isCased

/-- The lower case of a text. The flag tells whether a cased character went before, possibly
with case-ignorable ones in between. -/
def lowerFrom (casedBefore : Bool) : List Char → List Char
  | [] => []
  | c :: cs =>
    let lowered :=
      if c = capitalSigma then
        [if casedBefore && !casedFollows cs then finalSigma else smallSigma]
      else lowerChar c
    lowered ++ lowerFrom (if isCaseIgnorable c then casedBefore else isCased c) cs

/-- The lower case of a text. -/
def lower (cs : List Char) : List Char :=
  lowerFrom false cs

/-- The lower case of a string. -/
def lowerString (s : String) : String :=
  String.ofList (lower s.toList)

/-- The operand of a rule as it is compared: trimmed, then in lower case. -/
def normalize (s : String) : String :=
  String.ofList (lower (trim s.toList))

end Disposition.Text
