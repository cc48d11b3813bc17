import ModelStore.Number.Binary64

/-!
The shortest decimal text of a binary floating-point number. The reals that round to the number
form an interval; among the decimal grids of 1, 2, … 17 digits the first one with a point in the
interval is taken, and on it the point nearest to the number.
-/
namespace ModelStore.Number

/-- A grid point `digits * 10 ^ exponent`. -/
structure GridPoint where
  digits : Nat
  exponent : Int
  deriving DecidableEq

namespace GridPoint

/-- Both sides of a comparison between `d * 10 ^ k` and `n * 2 ^ e`, cleared of fractions. -/
def sides (d : Nat) (k : Int) (n : Nat) (e : Int) : Nat × Nat :=
  (d * Nat.pow 10 k.toNat * Nat.pow 2 (-e).toNat, n * Nat.pow 2 e.toNat * Nat.pow 10 (-k).toNat)

/-- The reals between `low * 2 ^ e` and `high * 2 ^ e` hold the point. -/
def within (p : GridPoint) (low high : Nat) (e : Int) (inclusive : Bool) : Bool :=
  let (x, l) := sides p.digits p.exponent low e
  let (_, h) := sides p.digits p.exponent high e
  if inclusive then l ≤ x && x ≤ h else l < x && x < h

end GridPoint

/-- The power of ten of the leading digit of `n * 2 ^ e`, for a positive number. -/
def leadingPower (n : Nat) (e : Int) : Int :=
  let shift : Nat := 400
  let scaled := n * Nat.pow 2 e.toNat * Nat.pow 10 shift / Nat.pow 2 (-e).toNat
  (digitCount scaled : Int) - 1 - shift

/-- The point of the grid with spacing `10 ^ k` that lies in the rounding interval of `m * 2 ^ q`,
the nearer one if two do and the even one if both are as near. -/
def gridPoint? (m : Nat) (q : Int) (k : Int) : Option GridPoint :=
  let e := q - 2
  let low := 4 * m - (if m = Nat.pow 2 52 ∧ Binary64.leastExponent < q then 1 else 2)
  let high := 4 * m + 2
  let (unit, scaled) := GridPoint.sides 1 k (4 * m) e
  let floor := scaled / unit
  let below : GridPoint := ⟨floor, k⟩
  let above : GridPoint := ⟨floor + 1, k⟩
  let fits := fun p : GridPoint => p.within low high e (m % 2 = 0)
  let rest := scaled % unit
  let belowFirst := 2 * rest < unit || (2 * rest = unit && floor % 2 = 0)
  if fits below && (belowFirst || !fits above) then some below
  else if fits above then some above
  else none

def shortestPoint (m : Nat) (q : Int) : GridPoint :=
  let top := leadingPower m q
  ((List.range 17).findSome? fun n : Nat => gridPoint? m q (top - n)).getD ⟨0, 0⟩

/-- How the digits of a number are laid out: positionally while the point falls from `leastPoint`
to `greatestPoint` places after the first digit's left, with an exponent otherwise. -/
structure FloatLayout where
  leastPoint : Int
  greatestPoint : Int
  exponentWidth : Nat
  nan : String
  infinity : String

/-- Positional from 0.0001 up to sixteen digits before the point, exponents of at least two
digits. -/
def plainLayout : FloatLayout := ⟨-3, 16, 2, "nan", "inf"⟩

def padLeft (width : Nat) (cs : List Char) : List Char :=
  List.replicate (width - cs.length) '0' ++ cs

/-- Digits without the zeros at their end; one digit is always left. -/
def dropFinalZeros (cs : List Char) : List Char :=
  match (cs.reverse.dropWhile (· = '0')).reverse with
  | [] => ['0']
  | kept => kept

def FloatLayout.positional (digits : List Char) (point : Int) : List Char :=
  if point ≤ 0 then '0' :: '.' :: List.replicate (-point).toNat '0' ++ digits
  else if (digits.length : Int) ≤ point then
    digits ++ List.replicate (point.toNat - digits.length) '0' ++ ['.', '0']
  else digits.take point.toNat ++ '.' :: digits.drop point.toNat

def FloatLayout.withExponent (layout : FloatLayout) (digits : List Char) (point : Int) :
    List Char :=
  let power := point - 1
  let fraction := if digits.length ≤ 1 then [] else '.' :: digits.drop 1
  digits.take 1 ++ fraction ++ 'e' :: (if power < 0 then '-' else '+') ::
    padLeft layout.exponentWidth (Nat.toDigits 10 power.natAbs)

def FloatLayout.magnitude (layout : FloatLayout) (m : Nat) (q : Int) : List Char :=
  if m = 0 then ['0', '.', '0']
  else
    let p := shortestPoint m q
    let written := Nat.toDigits 10 p.digits
    let point := p.exponent + written.length
    let digits := dropFinalZeros written
    if layout.leastPoint ≤ point ∧ point ≤ layout.greatestPoint then
      FloatLayout.positional digits point
    else layout.withExponent digits point

def FloatLayout.text (layout : FloatLayout) : Binary64 → String
  | .nan => layout.nan
  | .infinite negative => (if negative then "-" else "") ++ layout.infinity
  | .finite negative m q =>
      String.ofList ((if negative then ['-'] else []) ++ layout.magnitude m q)

end ModelStore.Number
