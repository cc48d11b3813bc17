import ModelStore.Text.Blank
import ModelStore.Text.Digit
import ModelStore.Text.Path

/-!
Integers read from text: blanks around, an optional sign, then digits of any script, in groups
that a single underscore may separate. Numerals beyond a certain length are not read.
-/
namespace ModelStore.Text

def readSign : List Char → Bool × List Char
  | '-' :: rest => (true, rest)
  | '+' :: rest => (false, rest)
  | rest => (false, rest)

/-- The number that groups of digits write together; no group may be empty. -/
def readGroups? (cs : List Char) : Option Nat :=
  let groups := cutAt '_' cs
  if groups.all fun group => !group.isEmpty && group.all isDecimal then some (value groups.flatten)
  else none

def longestNumeral : Nat := 4300

def readInteger? (cs : List Char) : Option Int :=
  let (negative, digits) := readSign (trim cs)
  if longestNumeral < (digits.filter (· ≠ '_')).length then none
  else (readGroups? digits).map fun n => if negative then -(n : Int) else (n : Int)

end ModelStore.Text
