/-!
# The case of ASCII letters

Names of headers, words for truth values and the words in numbers are compared without regard to
the case of ASCII letters; all other characters stay as they are.
-/

namespace Disposition.Text

/-- The text with its ASCII letters in lower case. -/
def asciiLower (s : String) : String :=
  String.ofList (s.toList.map Char.toLower)

/-- The text with its ASCII letters in upper case. -/
def asciiUpper (s : String) : String :=
  String.ofList (s.toList.map Char.toUpper)

end Disposition.Text
