import ModelStore.Proofs.Coercion.Kept
import ModelStore.Proofs.Filter.Conditions

/-!
Operators that are passed on. An operator that no family knows is passed on under its native name,
and a native operator under its own name again, each with its operand coerced. So a native operator
is kept exactly if coercion leaves its operand alone.
-/
namespace ModelStore.Filter

open Coercion

variable {target : Target} {definition : Option Property} {tag : String}
  {asked operand : Value}

/-- A document whose one entry is no modifier asks for the operator of that name. -/
theorem specOf_singleton (hobject : definition.any Property.isObjectShaped = false)
    (hmodifier : isModifier tag = false) :
    specOf definition (.doc [(tag, operand)]) = some ⟨tag, operand, []⟩ := by
  simp [specOf, hobject, Spec.ofDocument?, hmodifier]

theorem isObjectShaped_of_specOf {spec : Spec} (h : specOf definition asked = some spec) :
    definition.any Property.isObjectShaped = false := by
  cases asked with
  | doc entries =>
    rw [specOf] at h
    split at h
    · cases h
    · rename_i hobject
      simpa using hobject
  | _ => cases h

theorem applyOperator_of_unknown (h : Operator.ofTag? tag = none) (operand : Value)
    (modifiers : Document) : applyOperator tag operand modifiers = .ok (native tag operand) := by
  simp [applyOperator, comparison?, membership?, search?, searched?, proximity?, h, bind,
    Except.bind]

/-- An operator that no family knows is passed on with its operand coerced. -/
theorem nativeOf_passed (hobject : definition.any Property.isObjectShaped = false)
    (hmodifier : isModifier tag = false) (hunknown : Operator.ofTag? tag = none) :
    nativeOf target definition (.doc [(tag, operand)]) =
      native tag <$> coerceOperand definition target.strict operand := by
  rw [nativeOf, specOf_singleton hobject hmodifier]
  have hprepared : prepareOperand definition target.strict ⟨tag, operand, []⟩ =
      coerceOperand definition target.strict operand := by
    simp [prepareOperand, hunknown]
  simp only [hprepared, applyOperator_of_unknown hunknown]
  rfl

def isNativeName (tag : String) : Bool := tag.toList.head? = some '$'

theorem isNativeName_nativeName (tag : String) : isNativeName (nativeName tag) = true := by
  rw [nativeName]
  split
  · rename_i h
    simpa [isNativeName] using h
  · simp [isNativeName, String.toList_append]

theorem nativeName_of_isNativeName (h : isNativeName tag = true) : nativeName tag = tag := by
  rw [nativeName, if_pos (by simpa [isNativeName] using h)]

theorem isModifier_of_isNativeName (h : isNativeName tag = true) : isModifier tag = false := by
  have hmodifiers : ∀ key ∈ modifierKeys, isNativeName key = false := by decide
  rw [isModifier, ← Bool.not_eq_true, List.contains_iff_mem]
  intro hmem
  rw [hmodifiers tag hmem] at h
  cases h

theorem ofTag?_of_isNativeName (h : isNativeName tag = true) : Operator.ofTag? tag = none := by
  have hoperators : ∀ op ∈ Operator.all, isNativeName op.tag = false := by decide
  refine List.find?_eq_none.mpr fun op hop htag => ?_
  have hname : op.tag = tag := by simpa using htag
  rw [← hname, hoperators op hop] at h
  cases h

/-- A native operator is passed on under its own name. -/
theorem nativeOf_native (hobject : definition.any Property.isObjectShaped = false)
    (hnative : isNativeName tag = true) :
    nativeOf target definition (.doc [(tag, operand)]) =
      (fun w => .doc [(tag, w)]) <$> coerceOperand definition target.strict operand := by
  have hsame : native tag = fun w => .doc [(tag, w)] := by
    funext w
    rw [native, nativeName_of_isNativeName hnative]
  rw [nativeOf_passed hobject (isModifier_of_isNativeName hnative)
    (ofTag?_of_isNativeName hnative), hsame]

/-- A native operator is kept exactly if its operand is. -/
theorem nativeOf_native_iff (hobject : definition.any Property.isObjectShaped = false)
    (hnative : isNativeName tag = true) :
    nativeOf target definition (.doc [(tag, operand)]) = .ok (.doc [(tag, operand)]) ↔
      IsKeptOperand definition target.strict operand := by
  rw [nativeOf_native hobject hnative, ← coerceOperand_eq_self_iff, Result.map_eq_ok]
  simp

/-- What the property of an object is asked for is a value, whatever its keys are. -/
theorem nativeOf_of_object {entries : Document}
    (hobject : definition.any Property.isObjectShaped = true) :
    nativeOf target definition (.doc entries) =
      coerceValue definition target.strict (.doc entries) := by
  simp [nativeOf, specOf, hobject, Value.isNull]

end ModelStore.Filter
