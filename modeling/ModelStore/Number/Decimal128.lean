import ModelStore.Number.Decimal

/-!
The stored decimal format: up to 34 digits and exponents from -6176 to 6111. A number is stored
only when it can be stored exactly; zeros move to the nearest allowed exponent, and a number whose
exponent is too large is padded with zeros as far as the digits allow.
-/
namespace ModelStore.Number

/-- Why a number cannot be stored exactly. -/
inductive Misfit where
  | inexact
  | overflow
  | longPayload
  | payload
  deriving DecidableEq, Inhabited

namespace Decimal

def leastStored : Int := -6176
def greatestStored : Int := 6111
def storedDigits : Nat := 34

def IsStorable : Decimal → Prop
  | .finite _ coefficient exponent =>
      coefficient < Nat.pow 10 storedDigits ∧ leastStored ≤ exponent ∧ exponent ≤ greatestStored
  | .infinite _ => True
  | .nan _ _ payload => payload = 0

instance (d : Decimal) : Decidable d.IsStorable := by
  cases d <;> simp only [IsStorable] <;> infer_instance

end Decimal

structure Decimal128 where
  value : Decimal
  isStorable : value.IsStorable
  deriving DecidableEq

namespace Decimal128

open Decimal

instance : Inhabited Decimal128 := ⟨⟨.infinite false, trivial⟩⟩

/-- What is not a number is written in one way, whatever its sign and its signal. -/
def text (d : Decimal128) : String :=
  match d.value with
  | .nan _ _ _ => "NaN"
  | value => value.text

def ofDecimal? (d : Decimal) : Option Decimal128 :=
  if h : d.IsStorable then some ⟨d, h⟩ else none

/-- A zero keeps its sign, and its exponent as far as it is allowed. -/
def zero (negative : Bool) (exponent : Int) : Decimal128 :=
  ⟨.finite negative 0 (min (max exponent leastStored) greatestStored), by
    refine ⟨by decide, ?_, ?_⟩ <;> simp only [leastStored, greatestStored] <;> omega⟩

/-- The smallest exponent at which the digits of the number can be kept. -/
def leastExponent (coefficient : Nat) (exponent : Int) : Int :=
  max (exponent + digitCount coefficient - storedDigits) leastStored

/-- Digits are dropped only while they are zeros. When others would be lost the number is inexact,
or beyond all bounds if rounding would carry it there. -/
def dropDigits (negative : Bool) (coefficient : Nat) (exponent least : Int) :
    Except Misfit Decimal :=
  let count := (least - exponent).toNat
  if digitCount coefficient < count then .error .inexact
  else if coefficient % Nat.pow 10 count = 0 then
    .ok (.finite negative (coefficient / Nat.pow 10 count) least)
  else if roundHalfEven coefficient (Nat.pow 10 count) = Nat.pow 10 storedDigits ∧
      least = greatestStored then
    .error .overflow
  else .error .inexact

def storedMember (negative : Bool) (coefficient : Nat) (exponent : Int) :
    Except Misfit Decimal :=
  let least := leastExponent coefficient exponent
  if greatestStored < least then .error .overflow
  else if exponent < least then dropDigits negative coefficient exponent least
  else if greatestStored < exponent then
    .ok (.finite negative (coefficient * Nat.pow 10 (exponent - greatestStored).toNat)
      greatestStored)
  else .ok (.finite negative coefficient exponent)

theorem isStorable_of_dropDigits {negative : Bool} {coefficient : Nat} {exponent : Int}
    {d : Decimal} (hlt : exponent < leastExponent coefficient exponent)
    (hle : leastExponent coefficient exponent ≤ greatestStored)
    (h : dropDigits negative coefficient exponent (leastExponent coefficient exponent) = .ok d) :
    d.IsStorable := by
  simp only [dropDigits] at h
  split at h
  · simp at h
  · split at h
    · injection h with h
      subst h
      refine ⟨?_, Int.le_max_right .., hle⟩
      simp only [Nat.pow_eq]
      rw [Nat.div_lt_iff_lt_mul (Nat.pow_pos (by decide)), ← Nat.pow_add]
      refine Nat.lt_of_lt_of_le (lt_pow_digitCount coefficient)
        (Nat.pow_le_pow_right (by decide) ?_)
      have := Int.le_max_left (exponent + digitCount coefficient - storedDigits) leastStored
      simp only [leastExponent, storedDigits] at *
      omega
    · split at h <;> simp at h

theorem isStorable_of_storedMember {negative : Bool} {coefficient : Nat} {exponent : Int}
    {d : Decimal} (h : storedMember negative coefficient exponent = .ok d) : d.IsStorable := by
  simp only [storedMember] at h
  split at h
  · simp at h
  · rename_i hle
    split at h
    · rename_i hlt
      exact isStorable_of_dropDigits hlt (by omega) h
    · rename_i hge
      have hdigits : exponent + digitCount coefficient - storedDigits ≤ greatestStored := by
        have := Int.le_max_left (exponent + digitCount coefficient - storedDigits) leastStored
        simp only [leastExponent] at *
        omega
      have hkept : digitCount coefficient ≤ storedDigits := by
        have := Int.le_max_left (exponent + digitCount coefficient - storedDigits) leastStored
        simp only [leastExponent, storedDigits] at *
        omega
      have hleast : leastStored ≤ exponent := by
        have := Int.le_max_right (exponent + digitCount coefficient - storedDigits) leastStored
        simp only [leastExponent] at *
        omega
      split at h
      · rename_i hgt
        injection h with h
        subst h
        refine ⟨?_, by decide, Int.le_refl _⟩
        calc coefficient * 10 ^ (exponent - greatestStored).toNat
            < 10 ^ digitCount coefficient * 10 ^ (exponent - greatestStored).toNat :=
              Nat.mul_lt_mul_of_pos_right (lt_pow_digitCount coefficient)
                (Nat.pow_pos (by decide))
          _ = 10 ^ (digitCount coefficient + (exponent - greatestStored).toNat) := by
              rw [Nat.pow_add]
          _ ≤ 10 ^ storedDigits := Nat.pow_le_pow_right (by decide) (by
              simp only [storedDigits, greatestStored] at *
              omega)
      · rename_i hle'
        injection h with h
        subst h
        exact ⟨Nat.lt_of_lt_of_le (lt_pow_digitCount coefficient)
          (Nat.pow_le_pow_right (by decide) hkept), hleast, by omega⟩

def ofMember (negative : Bool) (coefficient : Nat) (exponent : Int) : Except Misfit Decimal128 :=
  match h : storedMember negative coefficient exponent with
  | .ok d => .ok ⟨d, isStorable_of_storedMember h⟩
  | .error misfit => .error misfit

/-- Diagnostic digits of a number that is not a number are refused, and too many of them earlier
than a few. -/
def ofDecimal : Decimal → Except Misfit Decimal128
  | .finite negative coefficient exponent =>
      if coefficient = 0 then .ok (zero negative exponent)
      else ofMember negative coefficient exponent
  | .infinite negative => .ok ⟨.infinite negative, trivial⟩
  | .nan negative signaling payload =>
      if h : payload = 0 then .ok ⟨.nan negative signaling payload, h⟩
      else if storedDigits - 1 < digitCount payload then .error .longPayload
      else .error .payload

end Decimal128

end ModelStore.Number
