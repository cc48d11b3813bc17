import ModelStore.Settings.IntegerText
import ModelStore.Number.Nearest

/-!
Readers for the fields of the datasource settings. A text field takes texts, and bytes that encode
one; an integer field also takes booleans, whole fractions and texts that write an integer; a
boolean field also takes zero, one and the usual words.
-/
namespace ModelStore.SettingField

open Number

/-- The text that bytes encode in UTF-8; other bytes are a problem. -/
def decoded (problem : SettingProblem) (bs : List UInt8) : Reading String :=
  match String.fromUTF8? ⟨bs.toArray⟩ with
  | some s => .ok s
  | none => .error problem

def text : Value → Reading String
  | .text s => .ok s
  | .bytes bs => decoded .textUnreadable bs
  | _ => .error .notText

/-- The bound on numbers that are held as fractions, and on integers that may stand for booleans:
half the range of 64 bits. -/
def wordBound : Nat := Nat.pow 2 63

def integer : Value → Reading Int
  | .bool b => .ok (if b then 1 else 0)
  | .int n => .ok n
  | .float x =>
      match x.truncate?, x.toInt? with
      | _, some n => if n.natAbs < wordBound then .ok n else .error .integerTooLong
      | some _, none => .error .fractional
      | none, none => .error .notFinite
  | .decimal d =>
      match d.truncate?, d.toInt? with
      | _, some n => .ok n
      | some _, none => .error .fractional
      | none, none => .error .notFinite
  | .text s => integerText s
  | .bytes bs => do integerText (← decoded .integerUnreadable bs)
  | _ => .error .notInteger

def trueWords : List String := ["1", "on", "t", "true", "y", "yes"]
def falseWords : List String := ["0", "off", "f", "false", "n", "no"]

/-- The case of the letters does not matter. -/
def booleanText (s : String) : Reading Bool :=
  let word := String.ofList (s.toList.map Char.toLower)
  if trueWords.contains word then .ok true
  else if falseWords.contains word then .ok false
  else .error .booleanUnreadable

def booleanInteger (n : Int) : Reading Bool :=
  if n = 1 then .ok true else if n = 0 then .ok false else .error .booleanUnreadable

def booleanFraction (x : Binary64) : Reading Bool :=
  match x.toInt? with
  | some n => if n.natAbs < wordBound then booleanInteger n else .error .notBoolean
  | none => .error .notBoolean

def boolean : Value → Reading Bool
  | .bool b => .ok b
  | .int n => if -wordBound ≤ n ∧ n < wordBound then booleanInteger n else .error .notBoolean
  | .float x => booleanFraction x
  | .decimal d =>
      match d.toBinary64? with
      | some x => booleanFraction x
      | none => .error .notBoolean
  | .text s => booleanText s
  | .bytes bs => do booleanText (← decoded .booleanUnreadable bs)
  | _ => .error .notBoolean

def optional {α : Type} (read : Value → Reading α) (v : Value) : Reading (Option α) :=
  if v.isNull then .ok none else some <$> read v

end ModelStore.SettingField
