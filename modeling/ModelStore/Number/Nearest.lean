import ModelStore.Number.Binary64
import ModelStore.Number.Decimal

/-!
Decimal numbers as binary ones: the nearest, with a half going to the even neighbour. Numbers out
of range become infinite, and numbers that are too small become zero.
-/
namespace ModelStore.Number

namespace Binary64

/-- The number nearest to `n / d`. The quotient is taken with more bits than a significand has, so
that what is cut off matters only as being there or not. -/
def ofRatio (negative : Bool) (n d : Nat) : Binary64 :=
  let shift := 55 + d.log2 - n.log2
  nearest negative (jam (n * Nat.pow 2 shift) d) (-(shift + 1 : Nat))

def zero (negative : Bool) : Binary64 := .finite negative 0 leastExponent

end Binary64

namespace Decimal

/-- A number below ten to this power is nearest to zero. -/
def vanishingPower : Int := -330

/-- A number not below ten to this power is out of range. -/
def overflowingPower : Int := 310

/-- The nearest binary number. A signaling word has none. -/
def toBinary64? : Decimal → Option Binary64
  | .finite negative coefficient exponent =>
      let power := exponent + digitCount coefficient
      if coefficient = 0 ∨ power ≤ vanishingPower then some (.zero negative)
      else if overflowingPower < power then some (.infinite negative)
      else some (.ofRatio negative (coefficient * Nat.pow 10 exponent.toNat)
          (Nat.pow 10 (-exponent).toNat))
  | .infinite negative => some (.infinite negative)
  | .nan _ signaling _ => if signaling then none else some .nan

end Decimal

end ModelStore.Number
