import ModelStore.Number.Decimal128
import Mathlib.Algebra.Order.Field.Power
import Mathlib.Algebra.Order.Field.Rat
import Mathlib.Tactic.FieldSimp
import Mathlib.Tactic.Positivity
import Mathlib.Tactic.Ring
import Mathlib.Tactic.SplitIfs

/-!
Decimals stored exactly. A finite decimal is a rational number, and every rational number has many
decimals, which differ in their exponent. A decimal is stored if and only if the stored format has
some decimal of the same number, and then that number is what is stored.
-/
namespace ModelStore.Number

def rational (negative : Bool) (coefficient : Nat) (exponent : Int) : ℚ :=
  (if negative then -1 else 1) * (coefficient * 10 ^ exponent)

/-- The same number. What is not a number equals itself only, with its signal and its digits. -/
inductive Decimal.Equals : Decimal → Decimal → Prop
  | finite {negative negative' : Bool} {coefficient coefficient' : Nat} {exponent exponent' : Int} :
      rational negative coefficient exponent = rational negative' coefficient' exponent' →
      Equals (.finite negative coefficient exponent) (.finite negative' coefficient' exponent')
  | infinite (negative : Bool) : Equals (.infinite negative) (.infinite negative)
  | nan (negative signaling : Bool) (payload : Nat) :
      Equals (.nan negative signaling payload) (.nan negative signaling payload)

section Scale

variable {c c' : Nat} {e e' : Int}

/-- One number over a smaller and a larger exponent: the coefficients differ by a power of ten. -/
theorem scaled_eq_iff (h : e ≤ e') :
    (c : ℚ) * 10 ^ e = c' * 10 ^ e' ↔ c = c' * 10 ^ (e' - e).toNat := by
  have hpos : (10 : ℚ) ^ e ≠ 0 := by positivity
  have hshift : (10 : ℚ) ^ e' = 10 ^ (e' - e).toNat * 10 ^ e := by
    rw [← zpow_natCast, ← zpow_add₀ (by norm_num), Int.toNat_of_nonneg (by omega)]
    congr 1
    omega
  rw [hshift, ← mul_assoc, mul_left_inj' hpos]
  exact_mod_cast Iff.rfl

/-- A number that is not zero has the digits that its coefficient shows, so a coefficient of few
digits needs a large exponent. -/
theorem exponent_le_of_scaled_eq (hc : c ≠ 0) (h : (c : ℚ) * 10 ^ e = c' * 10 ^ e') {digits : Nat}
    (hc' : c' < 10 ^ digits) : e + digitCount c ≤ e' + digits := by
  by_contra hlt
  have hfirst : ((10 ^ (digitCount c - 1) : Nat) : ℚ) ≤ c := by
    exact_mod_cast pow_digitCount_le (Nat.pos_of_ne_zero hc)
  have hsecond : (c' : ℚ) < 10 ^ digits := by exact_mod_cast hc'
  have hpositive : 0 < digitCount c := by
    rw [digitCount]
    split <;> omega
  have hlower : (10 : ℚ) ^ (e + digitCount c - 1) ≤ c * 10 ^ e := by
    have hsplit : (10 : ℚ) ^ (e + digitCount c - 1) =
        ((10 ^ (digitCount c - 1) : Nat) : ℚ) * 10 ^ e := by
      push_cast
      rw [← zpow_natCast, ← zpow_add₀ (by norm_num)]
      congr 1
      omega
    rw [hsplit]
    gcongr
  have hupper : (c' : ℚ) * 10 ^ e' < 10 ^ (e' + digits) := by
    rw [add_comm, zpow_add₀ (by norm_num), zpow_natCast]
    gcongr
  have hpower : (10 : ℚ) ^ (e' + digits) ≤ 10 ^ (e + digitCount c - 1) :=
    zpow_le_zpow_right₀ (by norm_num) (by omega)
  exact absurd h (hupper.trans_le (hpower.trans hlower)).ne'

end Scale

section Rational

variable {negative negative' : Bool} {c c' : Nat} {e e' : Int}

theorem rational_zero (negative : Bool) (e : Int) : rational negative 0 e = 0 := by
  simp [rational]

theorem rational_congr (negative : Bool) (h : (c : ℚ) * 10 ^ e = c' * 10 ^ e') :
    rational negative c e = rational negative c' e' := by
  rw [rational, h, rational]

/-- Equal numbers have equal magnitudes. -/
theorem scaled_eq_of_rational_eq (h : rational negative c e = rational negative' c' e') :
    (c : ℚ) * 10 ^ e = c' * 10 ^ e' := by
  have habs : ∀ (negative : Bool) (c : Nat) (e : Int),
      |rational negative c e| = (c : ℚ) * 10 ^ e := by
    intro negative c e
    have hmagnitude : (0 : ℚ) ≤ c * 10 ^ e := by positivity
    cases negative <;> simp [rational, abs_of_nonneg hmagnitude]
  rw [← habs negative, ← habs negative', h]

theorem Decimal.equals_finite_iff {d : Decimal} :
    d.Equals (.finite negative c e) ↔
      ∃ negative' c' e', d = .finite negative' c' e' ∧
        rational negative' c' e' = rational negative c e := by
  constructor
  · rintro ⟨hrational⟩
    exact ⟨_, _, _, rfl, hrational⟩
  · rintro ⟨negative', c', e', rfl, hrational⟩
    exact .finite hrational

end Rational

namespace Decimal128

open Decimal

variable {negative : Bool} {c : Nat} {e : Int} {d : Decimal}

theorem equals_of_dropDigits {least : Int} (hlt : e < least)
    (h : dropDigits negative c e least = .ok d) : d.Equals (.finite negative c e) := by
  simp only [dropDigits] at h
  split_ifs at h with hfew hzeros
  · obtain rfl := Except.ok.inj h
    refine .finite (rational_congr negative ?_)
    rw [eq_comm, scaled_eq_iff (by omega)]
    exact (Nat.div_mul_cancel (Nat.dvd_of_mod_eq_zero hzeros)).symm

/-- The member of a number that is stored has the same number. -/
theorem equals_of_storedMember (h : storedMember negative c e = .ok d) :
    d.Equals (.finite negative c e) := by
  simp only [storedMember] at h
  split_ifs at h with hover hdrop hpad
  · exact equals_of_dropDigits hdrop h
  · obtain rfl := Except.ok.inj h
    refine .finite (rational_congr negative ?_)
    rw [scaled_eq_iff (by omega)]
    rfl
  · obtain rfl := Except.ok.inj h
    exact .finite rfl

/-- Digits can be dropped up to the exponent of any other decimal of the same number: they are zeros
there. -/
theorem exists_dropDigits {least : Int} {c' : Nat} {e' : Int} (hc : c ≠ 0) (hlt : e < least)
    (hle : least ≤ e') (h : (c : ℚ) * 10 ^ e = c' * 10 ^ e') :
    ∃ d, dropDigits negative c e least = .ok d := by
  have hcoefficient : c = c' * 10 ^ (e' - e).toNat := (scaled_eq_iff (by omega)).mp h
  have hdvd : Nat.pow 10 (least - e).toNat ∣ c := by
    have hpower : 10 ^ (least - e).toNat ∣ 10 ^ (e' - e).toNat := pow_dvd_pow 10 (by omega)
    exact hcoefficient ▸ hpower.mul_left c'
  have hfew : ¬ digitCount c < (least - e).toNat := by
    intro hfew
    have hlarge : c < Nat.pow 10 (least - e).toNat := Nat.lt_of_lt_of_le (lt_pow_digitCount c)
      (Nat.pow_le_pow_right (by decide) (Nat.le_of_lt hfew))
    exact absurd (Nat.le_of_dvd (Nat.pos_of_ne_zero hc) hdvd) (Nat.not_le.mpr hlarge)
  simp only [dropDigits]
  rw [if_neg hfew, if_pos (Nat.mod_eq_zero_of_dvd hdvd)]
  exact ⟨_, rfl⟩

/-- A number that some storable decimal equals has a member that is stored. -/
theorem exists_storedMember {negative' : Bool} {c' : Nat} {e' : Int} (hc : c ≠ 0)
    (hstorable : (Decimal.finite negative' c' e').IsStorable)
    (h : (c : ℚ) * 10 ^ e = c' * 10 ^ e') : ∃ d, storedMember negative c e = .ok d := by
  obtain ⟨hdigits, hleast, hgreatest⟩ := hstorable
  have hexponent : leastExponent c e ≤ e' := by
    have hshown := exponent_le_of_scaled_eq hc h hdigits
    simp only [leastExponent]
    omega
  simp only [storedMember]
  rw [if_neg (by omega)]
  split_ifs with hdrop
  · exact exists_dropDigits hc hdrop hexponent h
  · exact ⟨_, rfl⟩
  · exact ⟨_, rfl⟩

theorem ofMember_eq_ok {stored : Decimal128} :
    ofMember negative c e = .ok stored ↔ storedMember negative c e = .ok stored.value := by
  rw [ofMember]
  split
  · rename_i d hd
    obtain ⟨value, hvalue⟩ := stored
    simp [hd]
  · rename_i misfit hmisfit
    simp [hmisfit]

/-- What is stored has the number of what was given. -/
theorem equals_of_ofDecimal {stored : Decimal128} (h : ofDecimal d = .ok stored) :
    stored.value.Equals d := by
  cases d with
  | finite negative c e =>
    rw [ofDecimal] at h
    split_ifs at h with hc
    · obtain rfl := Except.ok.inj h
      subst hc
      exact .finite (by rw [rational_zero, rational_zero])
    · exact equals_of_storedMember (ofMember_eq_ok.mp h)
  | infinite negative =>
    obtain rfl := Except.ok.inj h
    exact .infinite negative
  | nan negative signaling payload =>
    rw [ofDecimal] at h
    split_ifs at h
    obtain rfl := Except.ok.inj h
    exact .nan negative signaling payload

/-- A decimal is stored if and only if the format has a decimal of its number. -/
theorem exists_ofDecimal_iff :
    (∃ stored, ofDecimal d = .ok stored) ↔ ∃ stored : Decimal128, stored.value.Equals d := by
  constructor
  · rintro ⟨stored, h⟩
    exact ⟨stored, equals_of_ofDecimal h⟩
  · rintro ⟨⟨value, hstorable⟩, hequals⟩
    cases hequals with
    | @finite negative' negative c' c e' e hrational =>
      by_cases hc : c = 0
      · exact ⟨_, if_pos hc⟩
      · have hscaled := (scaled_eq_of_rational_eq hrational).symm
        obtain ⟨member, hmember⟩ : ∃ member, storedMember negative c e = .ok member :=
          exists_storedMember hc hstorable hscaled
        refine ⟨⟨member, isStorable_of_storedMember hmember⟩, ?_⟩
        rw [ofDecimal, if_neg hc, ofMember_eq_ok, hmember]
    | infinite negative => exact ⟨_, rfl⟩
    | nan negative signaling payload => exact ⟨_, dif_pos hstorable⟩

end Decimal128
end ModelStore.Number
