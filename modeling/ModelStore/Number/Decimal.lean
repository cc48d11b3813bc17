import ModelStore.Text.Integer
import ModelStore.Number.Rounding

/-!
Decimal floating-point numbers of any length. A finite number keeps the exponent it was written
with, so `1.50` and `1.5` are different members of one value.
-/
namespace ModelStore.Number

inductive Decimal where
  | finite (negative : Bool) (coefficient : Nat) (exponent : Int)
  | infinite (negative : Bool)
  | nan (negative : Bool) (signaling : Bool) (payload : Nat)
  deriving DecidableEq, Inhabited

namespace Decimal

open Text

/-- What follows the digits of a numeral: nothing, or the letter `e` and an integer. -/
def readExponent? : List Char → Option Int
  | [] => some 0
  | c :: rest =>
      if c = 'e' ∨ c = 'E' then
        let (negative, digits) := readSign rest
        if !digits.isEmpty && digits.all isDecimal then
          some (if negative then -(value digits : Int) else value digits)
        else none
      else none

/-- A numeral: an optional sign, digits with at most one point among them, an optional exponent. -/
def ofNumeral? (cs : List Char) : Option Decimal :=
  let (negative, unsigned) := readSign cs
  let whole := unsigned.takeWhile isDecimal
  let (fraction, rest) :=
    match unsigned.dropWhile isDecimal with
    | '.' :: tail => (tail.takeWhile isDecimal, tail.dropWhile isDecimal)
    | tail => ([], tail)
  if whole.isEmpty && fraction.isEmpty then none
  else (readExponent? rest).map fun power =>
    .finite negative (value (whole ++ fraction)) (power - fraction.length)

def ofWord? (negative : Bool) (word : List Char) : Option Decimal :=
  if word = "Infinity".toList then some (.infinite negative)
  else if word.take 3 = "NaN".toList && (word.drop 3).all isDecimal then
    some (.nan negative false (value (word.drop 3)))
  else if word.take 4 = "sNaN".toList && (word.drop 4).all isDecimal then
    some (.nan negative true (value (word.drop 4)))
  else none

def ofText? (s : String) : Option Decimal :=
  match ofNumeral? s.toList with
  | some d => some d
  | none =>
      let (negative, word) := readSign s.toList
      ofWord? negative word

def positional (digits : List Char) (exponent : Int) : List Char :=
  if exponent = 0 then digits
  else
    let point := (digits.length : Int) + exponent
    if 0 < point then digits.take point.toNat ++ '.' :: digits.drop point.toNat
    else '0' :: '.' :: List.replicate (-point).toNat '0' ++ digits

def scientific (digits : List Char) (power : Int) : List Char :=
  let fraction := if digits.length ≤ 1 then [] else '.' :: digits.drop 1
  digits.take 1 ++ fraction ++ 'E' :: (if power < 0 then '-' else '+') ::
    Nat.toDigits 10 power.natAbs

/-- Positional when the exponent is not positive and at most five zeros follow the point before
the first digit; scientific otherwise. -/
def magnitude (coefficient : Nat) (exponent : Int) : List Char :=
  let digits := Nat.toDigits 10 coefficient
  let power := exponent + digits.length - 1
  if exponent ≤ 0 ∧ -6 ≤ power then positional digits exponent else scientific digits power

def text (d : Decimal) : String :=
  let sign := fun negative : Bool => if negative then "-" else ""
  match d with
  | .finite negative coefficient exponent =>
      sign negative ++ String.ofList (magnitude coefficient exponent)
  | .infinite negative => sign negative ++ "Infinity"
  | .nan negative signaling payload =>
      sign negative ++ (if signaling then "sNaN" else "NaN") ++
        (if payload = 0 then "" else String.ofList (Nat.toDigits 10 payload))

def isZero : Decimal → Bool
  | .finite _ 0 _ => true
  | _ => false

def truncate? : Decimal → Option Int
  | .finite negative coefficient exponent =>
      let magnitude :=
        if 0 ≤ exponent then coefficient * Nat.pow 10 exponent.toNat
        else if digitCount coefficient < (-exponent).toNat then 0
        else coefficient / Nat.pow 10 (-exponent).toNat
      some (if negative then -(magnitude : Int) else magnitude)
  | _ => none

def toInt? : Decimal → Option Int
  | .finite negative coefficient exponent =>
      if coefficient = 0 then some 0
      else if 0 ≤ exponent then (finite negative coefficient exponent).truncate?
      else if digitCount coefficient < (-exponent).toNat then none
      else if coefficient % Nat.pow 10 (-exponent).toNat = 0 then
        (finite negative coefficient exponent).truncate?
      else none
  | _ => none

end Decimal

end ModelStore.Number
