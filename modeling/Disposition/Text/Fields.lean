import Disposition.Text.Blank

/-!
# Fields between separators

* `fields`: the parts of a text between the places of a separator. A text without separator is one
  field, and the empty text is one empty field.
* `splitFirst?`, `splitLast?`: the parts before and behind one place of a separator.
* `entries`: the fields trimmed, without the empty ones.
-/

namespace Disposition.Text

/-- The fields of a text. -/
def fields (separator : Char) : List Char → List (List Char)
  | [] => [[]]
  | c :: cs =>
    if c = separator then [] :: fields separator cs
    else
      match fields separator cs with
      | [] => [[c]]
      | first :: rest => (c :: first) :: rest

/-- Every text has a field. -/
theorem fields_ne_nil (separator : Char) (cs : List Char) : fields separator cs ≠ [] := by
  cases cs with
  | nil => simp [fields]
  | cons c cs =>
    rw [fields]
    split
    · simp
    · split <;> simp

/-- The text before the first separator and the text behind it. -/
def splitFirst? (separator : Char) : List Char → Option (List Char × List Char)
  | [] => none
  | c :: cs =>
    if c = separator then some ([], cs)
    else (splitFirst? separator cs).map fun (before, behind) => (c :: before, behind)

/-- The text before the last separator and the text behind it. -/
def splitLast? (separator : Char) (cs : List Char) : Option (List Char × List Char) :=
  (splitFirst? separator cs.reverse).map fun (behind, before) => (before.reverse, behind.reverse)

/-- The text before the first separator, all of it if there is none. -/
def beforeFirst (separator : Char) (cs : List Char) : List Char :=
  cs.takeWhile (· ≠ separator)

/-- The fields of a text, trimmed, without those that are empty then. -/
def entries (separator : Char) (s : String) : List String :=
  (((fields separator s.toList).map trim).filter fun entry => !entry.isEmpty).map String.ofList

end Disposition.Text
