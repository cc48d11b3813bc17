import ModelStore.Failure
import ModelStore.Text.Integer

/-!
Integers in the texts of settings. A plain numeral has a minus sign or none, and digits of which
the first is no zero unless it is the only one. A text that is none may still be one in other
words: spaces around it, a plus sign, zeros in front, a fraction of zeros and single underscores
say nothing.
-/
namespace ModelStore.SettingField

open Text

abbrev Reading := Except SettingProblem

def readMinus : List Char → Bool × List Char
  | '-' :: rest => (true, rest)
  | rest => (false, rest)

/-- Reads a plain numeral. The sign counts in its length, and a long run of digits is too long
whatever follows it. -/
def plainInteger (cs : List Char) : Reading Int :=
  let (negative, unsigned) := readMinus cs
  let digits := unsigned.takeWhile Char.isDigit
  let length := digits.length + if negative then 1 else 0
  if unsigned = ['0'] then .ok 0
  else if digits.isEmpty ∨ digits.head? = some '0' then .error .integerUnreadable
  else if longestNumeral < length then .error .integerTooLong
  else if digits.length < unsigned.length then .error .integerUnreadable
  else .ok (if negative then -(value digits : Int) else value digits)

/-- A plus sign is dropped, unless it stands before a minus sign. -/
def dropPlus? : List Char → Option (List Char)
  | '+' :: '-' :: _ => none
  | '+' :: rest => some rest
  | cs => some cs

/-- What follows zeros and underscores, of which `last` is the last one. It is kept where nothing
or a fraction follows; a minus sign may follow. -/
def afterZeros? (last : Char) : List Char → Option (List Char)
  | [] => some [last]
  | c :: rest =>
      if c = '0' ∨ c = '_' then afterZeros? c rest
      else if c = '-' ∨ c.isDigit then some (c :: rest)
      else if c = '.' then some (last :: c :: rest)
      else none

def dropZeros? : List Char → Option (List Char)
  | [] => none
  | c :: rest =>
      if c = '0' then afterZeros? c rest
      else if c = '-' ∨ c.isDigit then some (c :: rest)
      else none

/-- Drops a fraction, which must hold a zero and nothing but zeros. -/
def dropFraction? (cs : List Char) : Option (List Char) :=
  match cs.dropWhile (· ≠ '.') with
  | [] => some cs
  | _ :: fraction =>
      if !fraction.isEmpty && fraction.all (· = '0') then some (cs.takeWhile (· ≠ '.')) else none

/-- Drops the underscores if each stands alone between two other characters. -/
def dropUnderscores (cs : List Char) : List Char :=
  if (cutAt '_' cs).all fun group => !group.isEmpty then cs.filter (· ≠ '_') else cs

def plainForm? (cs : List Char) : Option (List Char) := do
  let unsigned ← dropPlus? cs
  let digits ← dropZeros? unsigned
  dropUnderscores <$> dropFraction? digits

def integerText (s : String) : Reading Int :=
  let cs := trimWhere isSpace s.toList
  match plainInteger cs, plainForm? cs with
  | .error .integerUnreadable, some plain => plainInteger plain
  | reading, _ => reading

end ModelStore.SettingField
