/-!
# Words in text

* `startsWith`, `endsWith`: a word stands at an end of a text.
* `occursIn`: a word stands somewhere in a text. The empty word stands in every text.
-/

namespace Disposition.Text

/-- A word stands somewhere in a text. -/
def occursIn (word : List Char) : List Char → Bool
  | [] => word.isEmpty
  | c :: cs => word.isPrefixOf (c :: cs) || occursIn word cs

/-- A word that stands in a text is a part of it. -/
theorem occursIn_iff {word cs : List Char} : occursIn word cs = true ↔ word <:+: cs := by
  induction cs with
  | nil => simp [occursIn]
  | cons c cs ih => simp [occursIn, ih, List.infix_cons_iff, List.isPrefixOf_iff_prefix]

/-- The string starts with a word. -/
def startsWith (word s : String) : Bool :=
  word.toList.isPrefixOf s.toList

theorem startsWith_iff {word s : String} :
    startsWith word s = true ↔ word.toList <+: s.toList :=
  List.isPrefixOf_iff_prefix

/-- The string ends with a word. -/
def endsWith (word s : String) : Bool :=
  word.toList.isSuffixOf s.toList

theorem endsWith_iff {word s : String} : endsWith word s = true ↔ word.toList <:+ s.toList :=
  List.isSuffixOf_iff_suffix

/-- The string has a word in it. -/
def contains (word s : String) : Bool :=
  occursIn word.toList s.toList

theorem contains_iff {word s : String} : contains word s = true ↔ word.toList <:+: s.toList :=
  occursIn_iff

end Disposition.Text
