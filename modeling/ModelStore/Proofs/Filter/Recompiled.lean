import ModelStore.Proofs.Filter.Leaf
import ModelStore.Proofs.Filter.NativeForm

/-!
Native conditions compiled again. Operators that compare keep their operands, and coerced values are
coerced to themselves. A property of identifiers, however, refuses what other operators leave: the
number of a type, a document of bounds, a pattern, a point.
-/
namespace ModelStore.Filter

open Coercion

/-- Operators that leave no value of the property: bounds, a pattern or a point. -/
def Operator.leavesForeign : Operator → Bool
  | .between => true
  | op => op.takesRawOperand

def leavesForeign (nullAsAbsent : Bool) (definition : Option Property) (asked : Value) : Bool :=
  match specOf definition asked with
  | some spec => (Operator.ofTag? spec.tag).any Operator.leavesForeign
  | none => asked.isNull && !nullAsAbsent

section Leaf

variable {target : Target} {definition : Option Property} {asked native : Value}

theorem isForeign_of_isPattern {v : Value} (h : isPattern v = true) : IsForeign v := by
  cases v with
  | pattern source switches => exact ⟨rfl, rfl, rfl, by simp⟩
  | regex source flags => exact ⟨rfl, rfl, rfl, by simp⟩
  | _ => cases h

/-- A document of native names, one of them with a foreign operand or several, is kept exactly if
the property takes other values than identifiers. -/
theorem nativeOf_foreign_iff {entries : Document} (hset : entries ≠ [])
    (hnames : ∀ entry ∈ entries, isNativeName entry.1 = true)
    (hforeign : ∀ entry, entries = [entry] → IsForeign entry.2) :
    nativeOf target definition (.doc entries) = .ok (.doc entries) ↔
      takesOnlyIds definition = false := by
  have hvalue : coerceValue definition target.strict (.doc entries) = .ok (.doc entries) ↔
      takesOnlyIds definition = false := by
    rw [coerceValue_eq_self_iff, isKept_iff_of_foreign (isForeign_doc hset)]
  cases hobject : definition.any Property.isObjectShaped with
  | true => rwa [nativeOf_of_object hobject]
  | false =>
    match entries with
    | [] => exact absurd rfl hset
    | [(name, operand)] =>
      have hoperand : IsForeign operand := hforeign (name, operand) rfl
      have hkept : IsKept definition target.strict operand ↔ takesOnlyIds definition = false :=
        isKept_iff_of_foreign hoperand
      rw [nativeOf_native_iff hobject (hnames _ List.mem_cons_self), ← hkept]
      constructor
      · rintro (⟨-, hsingle⟩ | _)
        · exact hsingle
        · cases hoperand.noSequence
      · exact .single hoperand.noSequence
    | first :: second :: rest =>
      have hspec : specOf definition (.doc (first :: second :: rest)) = none := by
        have hall : (first :: second :: rest).filter (fun entry => !isModifier entry.1) =
            first :: second :: rest := by
          refine List.filter_eq_self.mpr fun entry hentry => ?_
          rw [isModifier_of_isNativeName (hnames entry hentry)]
          rfl
        rw [specOf, if_neg (by simp [hobject]), Spec.ofDocument?, hall]
      rw [← hvalue, nativeOf, hspec]
      rfl

theorem nativeOf_foreign_singleton_iff {name : String} {operand : Value}
    (hname : isNativeName name = true) (hforeign : IsForeign operand) :
    nativeOf target definition (.doc [(name, operand)]) = .ok (.doc [(name, operand)]) ↔
      takesOnlyIds definition = false :=
  nativeOf_foreign_iff (by simp) (by simpa using hname) (by simpa using hforeign)

theorem specOf_coerceValue (hspec : specOf definition asked = none)
    (h : coerceValue definition target.strict asked = .ok native) :
    specOf definition native = none := by
  cases native with
  | doc entries =>
    obtain rfl := eq_doc_of_coerceValue h
    exact hspec
  | _ => rfl

/-- The condition that an operator leaves, compiled again. -/
theorem nativeForm_fixed_iff {spec : Spec} {operand : Value}
    (hobject : definition.any Property.isObjectShaped = false)
    (hprepared : prepareOperand definition target.strict spec = .ok operand)
    (h : NativeForm spec.tag operand native) :
    nativeOf target definition native = .ok native ↔
      (takesOnlyIds definition = true →
        (Operator.ofTag? spec.tag).any Operator.leavesForeign = false) := by
  -- An operator that compares leaves its coerced operand under a native name.
  have hcompared : ∀ {op? : Option Operator}, Operator.ofTag? spec.tag = op? →
      op?.any Operator.takesRawOperand = false → op?.any Operator.leavesForeign = false →
      (IsKeptOperand definition target.strict operand →
        nativeOf target definition native = .ok native) →
      (nativeOf target definition native = .ok native ↔ (takesOnlyIds definition = true →
        (Operator.ofTag? spec.tag).any Operator.leavesForeign = false)) := by
    intro op? htag hcoerced hcompares hkeeps
    rw [prepareOperand, htag, if_neg (by simp [hcoerced])] at hprepared
    refine iff_of_true (hkeeps (isKeptOperand_of_coerceOperand hprepared)) fun _ => ?_
    rw [htag, hcompares]
  have hforeign : ∀ {op : Operator}, Operator.ofTag? spec.tag = some op →
      op.leavesForeign = true →
      (nativeOf target definition native = .ok native ↔ takesOnlyIds definition = false) →
      (nativeOf target definition native = .ok native ↔ (takesOnlyIds definition = true →
        (Operator.ofTag? spec.tag).any Operator.leavesForeign = false)) := by
    intro op htag hop hiff
    simp [hiff, htag, hop]
  cases h with
  | passed htag =>
    exact hcompared htag rfl rfl (nativeOf_native_iff hobject (isNativeName_nativeName _)).mpr
  | unequal htag => exact hcompared htag rfl rfl (nativeOf_native_iff hobject rfl).mpr
  | among htag =>
    refine hcompared htag rfl rfl fun hkept => ?_
    exact (nativeOf_native_iff hobject rfl).mpr (isKeptOperand_candidates hkept)
  | notAmong htag =>
    refine hcompared htag rfl rfl fun hkept => ?_
    exact (nativeOf_native_iff hobject rfl).mpr (isKeptOperand_candidates hkept)
  | range htag =>
    exact hforeign htag rfl (nativeOf_foreign_iff (by simp) (by simp [isNativeName]) (by simp))
  | written htag hop =>
    refine hforeign htag ?_ (nativeOf_foreign_iff (by simp) (by simp [isNativeName]) (by simp))
    rcases hop with rfl | rfl <;> rfl
  | ready htag hpattern =>
    exact hforeign htag rfl (nativeOf_foreign_singleton_iff rfl (isForeign_of_isPattern hpattern))
  | negated htag hpattern =>
    exact hforeign htag rfl (nativeOf_foreign_singleton_iff rfl (isForeign_of_isPattern hpattern))
  | near htag hsearch =>
    exact hforeign htag rfl (nativeOf_foreign_singleton_iff rfl (isForeign_doc hsearch))

/-- A native condition is compiled to itself, unless it is foreign and the property takes nothing
but identifiers. -/
theorem nativeOf_fixed_iff (h : nativeOf target definition asked = .ok native) :
    nativeOf target definition native = .ok native ↔
      (takesOnlyIds definition = true →
        leavesForeign target.nullAsAbsent definition asked = false) := by
  cases hspec : specOf definition asked with
  | some spec =>
    have hleaves : leavesForeign target.nullAsAbsent definition asked =
        (Operator.ofTag? spec.tag).any Operator.leavesForeign := by rw [leavesForeign, hspec]
    rw [nativeOf, hspec] at h
    obtain ⟨operand, hprepared, h⟩ := Result.bind_eq_ok.mp h
    rw [hleaves]
    exact nativeForm_fixed_iff (isObjectShaped_of_specOf hspec) hprepared
      (nativeForm_of_applyOperator h)
  | none =>
    have hleaves : leavesForeign target.nullAsAbsent definition asked =
        (asked.isNull && !target.nullAsAbsent) := by rw [leavesForeign, hspec]
    rw [nativeOf, hspec] at h
    dsimp only at h
    rw [hleaves]
    split at h
    · rename_i hnull
      obtain rfl := Except.ok.inj h
      cases habsent : target.nullAsAbsent with
      | true =>
        refine iff_of_true ?_ (by simp)
        simp [nativeOf, nullCondition, specOf, Value.isNull, habsent]
      | false =>
        have htype : IsForeign (.int nullType) := ⟨rfl, rfl, rfl, by simp⟩
        have hiff : nativeOf target definition (nullCondition false) = .ok (nullCondition false) ↔
            takesOnlyIds definition = false :=
          nativeOf_foreign_singleton_iff rfl htype
        simp [hiff, hnull]
    · rename_i hnull
      have hset : native.isNull = false := by
        rw [← Bool.not_eq_true]
        exact fun hnative => hnull (isNull_of_coerceValue h hnative)
      refine iff_of_true ?_ (by simp [hnull])
      simp [nativeOf, specOf_coerceValue hspec h, hset, coerceValue_fixed h]

end Leaf

end ModelStore.Filter
