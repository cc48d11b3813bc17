import ModelStore.Proofs.Coercion.Value
import ModelStore.Proofs.Number.Literal

/-!
Decimals are stored exactly or not at all. A text is taken only if it is a decimal literal between
blanks, and what is stored always has the number that was given. Every other text is refused as
badly formed; but a number that the stored format has no decimal of is refused by that format, and
not as badly formed.
-/
namespace ModelStore

def Failure.isFormat : Failure → Bool
  | .notDecimal _ => true
  | .notObjectId _ => true
  | _ => false

namespace Coercion

open Number

/-- The value is a decimal, or a text that is a decimal literal between blanks. -/
inductive IsNumber : Value → Prop
  | decimal (d : Decimal) : IsNumber (.decimal d)
  | written {s : String} {q : ℚ} : Writes (Text.trim s.toList) q → IsNumber (.text s)

/-- The stored decimal is numerically equal to the value. -/
inductive HasNumber (stored : Decimal128) : Value → Prop
  | decimal {d : Decimal} : stored.value.Equals d → HasNumber stored (.decimal d)
  | written {s : String} {negative : Bool} {coefficient : Nat} {exponent : Int} :
      stored.value = .finite negative coefficient exponent →
      Writes (Text.trim s.toList) (rational negative coefficient exponent) →
      HasNumber stored (.text s)

/-- Conversion gives a stored decimal of the same number, or the value is refused as badly
formed. -/
def ExactOrRefused (v : Value) : Prop :=
  (∃ stored, toDecimal128 v = .ok (.decimal128 stored) ∧ HasNumber stored v) ∨
    ∃ failure, toDecimal128 v = .error failure ∧ failure.isFormat = true

/-- A number among the texts and decimals, with the decimal that is read of it. -/
inductive Denotes : Value → Decimal → Prop
  | decimal (d : Decimal) : Denotes (.decimal d) d
  | written {s : String} {d : Decimal} :
      Decimal.ofNumeral? (Text.trim s.toList) = some d → Denotes (.text s) d

section Number

variable {v : Value} {d : Decimal} {stored : Decimal128}

theorem isNumber_iff : IsNumber v ↔ ∃ d, Denotes v d := by
  constructor
  · rintro (d | hwrites)
    · exact ⟨d, .decimal d⟩
    · obtain ⟨negative, c, e, hread, -⟩ := writes_iff.mp hwrites
      exact ⟨_, .written hread⟩
  · rintro ⟨d, hd | hread⟩
    · exact .decimal d
    · obtain ⟨negative, c, e, -, hwrites⟩ := writes_of_ofNumeral? hread
      exact .written hwrites

theorem Denotes.toDecimal128 (h : Denotes v d) : toDecimal128 v = storeDecimal d := by
  cases h with
  | decimal => rfl
  | written hread => rw [Coercion.toDecimal128, readDecimal, hread]

/-- Having the number of a value is having that of the decimal that is read of it. -/
theorem Denotes.hasNumber_iff (h : Denotes v d) : HasNumber stored v ↔ stored.value.Equals d := by
  cases h with
  | decimal =>
    constructor
    · rintro ⟨hequals⟩
      exact hequals
    · exact .decimal
  | written hread =>
    obtain ⟨negative, c, e, rfl, hwrites⟩ := writes_of_ofNumeral? hread
    rw [Decimal.equals_finite_iff]
    constructor
    · rintro (_ | ⟨hstored, hsame⟩)
      obtain ⟨_, _, _, hread', hrational⟩ := writes_iff.mp hsame
      obtain ⟨rfl, rfl, rfl⟩ := Decimal.finite.inj (Option.some.inj (hread.symm.trans hread'))
      exact ⟨_, _, _, hstored, hrational.symm⟩
    · rintro ⟨_, _, _, hstored, hrational⟩
      exact .written hstored (hrational ▸ hwrites)

/-- A number is stored if and only if the format has a stored decimal of it, and otherwise it is
refused by the format. -/
theorem Denotes.cases_toDecimal128 (h : Denotes v d) :
    (∃ stored, Coercion.toDecimal128 v = .ok (.decimal128 stored) ∧ HasNumber stored v) ∨
      (∃ misfit, Coercion.toDecimal128 v = .error (.misfit misfit)) ∧
        ¬ ∃ stored, HasNumber stored v := by
  simp only [h.hasNumber_iff, h.toDecimal128, storeDecimal]
  cases hstored : Decimal128.ofDecimal d with
  | ok stored => exact Or.inl ⟨stored, rfl, Decimal128.equals_of_ofDecimal hstored⟩
  | error misfit =>
    refine Or.inr ⟨⟨misfit, rfl⟩, ?_⟩
    rw [← Decimal128.exists_ofDecimal_iff]
    rintro ⟨stored, hok⟩
    rw [hok] at hstored
    cases hstored

/-- A text that is no decimal literal between blanks is refused as badly formed. -/
theorem toDecimal128_of_not_isNumber {s : String} (h : ¬ IsNumber (.text s)) :
    toDecimal128 (.text s) = .error (.notDecimal s) := by
  rw [toDecimal128, readDecimal]
  cases hread : Decimal.ofNumeral? (Text.trim s.toList) with
  | none => rfl
  | some d => exact absurd (isNumber_iff.mpr ⟨d, .written hread⟩) h

end Number

/-- Of texts and decimals, those are stored exactly or refused as badly formed that are no number,
or a number that some stored decimal has; and whatever is stored has the number of a value that is
one, so a text is taken only if it is a decimal literal between blanks. -/
theorem exactOrRefused_iff {v : Value} (hv : v.isText = true ∨ ∃ d, v = .decimal d) :
    (ExactOrRefused v ↔ (IsNumber v → ∃ stored, HasNumber stored v)) ∧
      ∀ w, toDecimal128 v = .ok w →
        IsNumber v ∧ ∃ stored, w = .decimal128 stored ∧ HasNumber stored v := by
  by_cases hnumber : IsNumber v
  · obtain ⟨d, hd⟩ := isNumber_iff.mp hnumber
    rcases hd.cases_toDecimal128 with ⟨stored, hok, hhas⟩ | ⟨⟨misfit, herror⟩, hnone⟩
    · refine ⟨iff_of_true (Or.inl ⟨stored, hok, hhas⟩) fun _ => ⟨stored, hhas⟩, fun w hw => ?_⟩
      rw [hok] at hw
      exact ⟨hnumber, stored, (Except.ok.inj hw).symm, hhas⟩
    · refine ⟨iff_of_false ?_ fun h => hnone (h hnumber), fun w hw => ?_⟩
      · rintro (⟨stored, hok, -⟩ | ⟨failure, hfailure, hformat⟩)
        · rw [herror] at hok
          cases hok
        · rw [herror] at hfailure
          obtain rfl := Except.error.inj hfailure
          cases hformat
      · rw [herror] at hw
        cases hw
  · have hrefused : ∃ s, toDecimal128 v = .error (.notDecimal s) := by
      rcases hv with htext | ⟨d, rfl⟩
      · cases v with
        | text s => exact ⟨s, toDecimal128_of_not_isNumber hnumber⟩
        | _ => cases htext
      · exact absurd (.decimal d) hnumber
    obtain ⟨s, hs⟩ := hrefused
    refine ⟨iff_of_true (Or.inr ⟨_, hs, rfl⟩) fun h => absurd h hnumber, fun w hw => ?_⟩
    rw [hs] at hw
    cases hw

/-- A literal between blanks, with a point and an exponent. -/
theorem exactOrRefused_iff_literal :
    (Value.text " -1.50e3\n").isText = true ∧
      toDecimal128 (.text " -1.50e3\n") =
        .ok (.decimal128 ⟨.finite true 150 1, by decide⟩) ∧
      IsNumber (.text " -1.50e3\n") ∧ ExactOrRefused (.text " -1.50e3\n") := by
  have htext : (Value.text " -1.50e3\n").isText = true := rfl
  have hread : Denotes (.text " -1.50e3\n") (.finite true 150 1) := .written rfl
  have hstored : Decimal128.ofDecimal (.finite true 150 1) =
      .ok ⟨.finite true 150 1, by decide⟩ := by decide +kernel
  have hok : toDecimal128 (.text " -1.50e3\n") =
      .ok (.decimal128 ⟨.finite true 150 1, by decide⟩) := by
    rw [hread.toDecimal128, storeDecimal, hstored]
  obtain ⟨hexact, htaken⟩ := exactOrRefused_iff (Or.inl htext)
  obtain ⟨hnumber, stored, -, hhas⟩ := htaken _ hok
  exact ⟨htext, hok, hnumber, hexact.mpr fun _ => ⟨stored, hhas⟩⟩

/-- A number of 35 digits is refused, but not as badly formed. -/
theorem not_exactOrRefused_of_many_digits :
    ¬ ∀ v : Value, (v.isText = true ∨ ∃ d, v = .decimal d) → ExactOrRefused v := by
  intro hall
  have hread : Denotes (.text "12345678901234567890123456789012345")
      (.finite false 12345678901234567890123456789012345 0) := .written rfl
  have hmisfit : Decimal128.ofDecimal (.finite false 12345678901234567890123456789012345 0) =
      .error .inexact := by decide +kernel
  have hrefused : toDecimal128 (.text "12345678901234567890123456789012345") =
      .error (.misfit .inexact) := by
    rw [hread.toDecimal128, storeDecimal, hmisfit]
  rcases hall (.text "12345678901234567890123456789012345") (Or.inl rfl) with
    ⟨stored, hok, -⟩ | ⟨failure, hfailure, hformat⟩
  · rw [hrefused] at hok
    cases hok
  · rw [hrefused] at hfailure
    obtain rfl := Except.error.inj hfailure
    cases hformat

end Coercion
end ModelStore
