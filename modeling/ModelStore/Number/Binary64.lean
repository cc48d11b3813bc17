import ModelStore.Number.Rounding

/-!
Binary floating-point numbers with 53 significant bits. A finite number is a significand times a
power of two; its exponent is the smallest one allowed, or its significand has all 53 bits. Every
operation is exact arithmetic followed by one rounding to the nearest such number.
-/
namespace ModelStore.Number

inductive Binary64 where
  | nan
  | infinite (negative : Bool)
  | finite (negative : Bool) (significand : Nat) (exponent : Int)
  deriving DecidableEq, Inhabited

namespace Binary64

def leastExponent : Int := -1074
def greatestExponent : Int := 971

/-- The number nearest to `m * 2 ^ e`, with the given sign. -/
def nearest (negative : Bool) (m : Nat) (e : Int) : Binary64 :=
  if m = 0 then .finite negative 0 leastExponent
  else
    let target := max (e + m.log2 - 52) leastExponent
    let rounded :=
      if target ≤ e then m * Nat.pow 2 (e - target).toNat
      else roundHalfEven m (Nat.pow 2 (target - e).toNat)
    let (significand, exponent) :=
      if rounded = Nat.pow 2 53 then (Nat.pow 2 52, target + 1) else (rounded, target)
    if greatestExponent < exponent then .infinite negative
    else .finite negative significand exponent

def mul : Binary64 → Binary64 → Binary64
  | .nan, _ => .nan
  | _, .nan => .nan
  | .infinite s, .infinite t => .infinite (s != t)
  | .infinite s, .finite t m _ => if m = 0 then .nan else .infinite (s != t)
  | .finite s m _, .infinite t => if m = 0 then .nan else .infinite (s != t)
  | .finite s m d, .finite t n e => nearest (s != t) (m * n) (d + e)

/-- The number nearest to an integer; none when the integer is out of range. -/
def ofInt? (n : Int) : Option Binary64 :=
  match nearest (n < 0) n.natAbs 0 with
  | .infinite _ => none
  | x => some x

def isZero : Binary64 → Bool
  | .finite _ 0 _ => true
  | _ => false

def truncate? : Binary64 → Option Int
  | .finite negative m e =>
      let magnitude := if 0 ≤ e then m * Nat.pow 2 e.toNat else m / Nat.pow 2 (-e).toNat
      some (if negative then -(magnitude : Int) else magnitude)
  | _ => none

def isIntegral : Binary64 → Bool
  | .finite _ m e => 0 ≤ e || m % Nat.pow 2 (-e).toNat = 0
  | _ => false

def toInt? (x : Binary64) : Option Int :=
  if x.isIntegral then x.truncate? else none

def ofBits (bits : Nat) : Binary64 :=
  let negative : Bool := bits / Nat.pow 2 63 % 2 = 1
  let biased : Nat := bits / Nat.pow 2 52 % Nat.pow 2 11
  let fraction := bits % Nat.pow 2 52
  if biased = 2047 then
    if fraction = 0 then .infinite negative else .nan
  else if biased = 0 then .finite negative fraction leastExponent
  else .finite negative (fraction + Nat.pow 2 52) (biased + leastExponent - 1)

def toBits : Binary64 → Nat
  | .nan => 0x7FF8000000000000
  | .infinite negative => signBit negative + 0x7FF0000000000000
  | .finite negative m e =>
      if m < Nat.pow 2 52 then signBit negative + m
      else signBit negative + (e - leastExponent + 1).toNat * Nat.pow 2 52 + (m - Nat.pow 2 52)
where
  signBit (negative : Bool) : Nat := if negative then Nat.pow 2 63 else 0

end Binary64

end ModelStore.Number
