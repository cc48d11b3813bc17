import ModelStore.Proofs.Coercion.Document
import ModelStore.Proofs.Filter.Leaf

/-!
Tests that ask whether a field is there, how many elements it holds or of which type it is. Their
operands are no values of the property, but they are coerced as if they were. Such a test reaches
the database as it was written exactly if coercion leaves its operand alone: a property of
identifiers refuses most operands, a property of decimals takes the name of a type for a decimal,
and without strict coercion a text that looks like an identifier becomes one.
-/
namespace ModelStore.Filter

open Coercion

/-- Native operators with operands that are no values of the property they are asked of. -/
def metaTests : List String := ["exists", "size", "type"]

theorem metaTests_passed {op : String} (hop : op ∈ metaTests) :
    isModifier op = false ∧ Operator.ofTag? op = none ∧ nativeName op = "$" ++ op := by
  have hall : ∀ op ∈ metaTests, isModifier op = false ∧ Operator.ofTag? op = none ∧
      nativeName op = "$" ++ op := by decide
  exact hall op hop

theorem ne_dollar_append {op : String} : op ≠ "$" ++ op := by
  intro h
  have hlength := congrArg String.length h
  rw [String.length_append] at hlength
  have hone : "$".length = 1 := rfl
  omega

section Leaf

variable {target : Target} {definition : Option Property} {op : String} {v : Value}

/-- The test of a property is written as it is asked exactly if its operand is kept. -/
theorem nativeOf_test_iff (hop : op ∈ metaTests) :
    nativeOf target definition (.doc [(op, v)]) = .ok (.doc [("$" ++ op, v)]) ↔
      definition.any Property.isObjectShaped = false ∧
        IsKeptOperand definition target.strict v := by
  obtain ⟨hmodifier, hunknown, hname⟩ := metaTests_passed hop
  cases hobject : definition.any Property.isObjectShaped with
  | true =>
    rw [nativeOf_of_object hobject]
    refine iff_of_false (fun hvalue => ?_) (by simp)
    have hsame := Value.doc.inj (coerceValue_doc hvalue)
    exact ne_dollar_append (congrArg Prod.fst (List.cons.inj hsame).1).symm
  | false =>
    rw [nativeOf_passed hobject hmodifier hunknown, ← coerceOperand_eq_self_iff,
      Result.map_eq_ok]
    simp [native, hname]

end Leaf

variable {model : Model} {settings : Settings} {options : Value} {strict : Bool}

/-- A filter with one test is compiled to that test of the field, with its operand unchanged, if
and only if the property is no object and coercion by it leaves the operand alone. -/
theorem test_untouched_iff (hstrict : isStrict model settings options = .ok strict) {op : String}
    (hop : op ∈ metaTests) (key field : String) (v : Value) :
    build model settings options (.doc [(key, .doc [(op, v)])]) =
        .ok [(field, .doc [("$" ++ op, v)])] ↔
      isForbidden key = false ∧ model.fieldName key = .ok field ∧
        ∃ definition, definitionOf model field key = .ok definition ∧
          definition.any Property.isObjectShaped = false ∧
          IsKeptOperand definition strict v := by
  rw [build_doc hstrict]
  cases hforbidden : isForbidden key with
  | true =>
    refine iff_of_false (fun h => ?_) (by simp)
    have hnil := (compile_eq_nil_iff h).mpr (by simpa using hforbidden)
    cases hnil
  | false =>
    rw [compile_singleton hforbidden]
    have hleaf : branchesOf? (key, .doc [(op, v)]) = none := rfl
    simp only [conditionOf, hleaf, compileLeaf_eq_ok, nativeOf_test_iff hop, true_and]

def author : Property := .plain "author" .reference objectIdMarker

def posts : Model := .ofSchema "Post" [("author", author)] {}

theorem test_untouched_iff_absent :
    isStrict posts {} .null = .ok false ∧ "exists" ∈ metaTests ∧
    build posts {} .null (.doc [("author", .doc [("exists", .bool false)])]) =
      .ok [("author", .doc [("$" ++ "exists", .bool false)])] ∧
    ¬ IsKeptOperand (some author) false (.bool true) := by
  have hstrict : isStrict posts {} .null = .ok false := rfl
  have hop : "exists" ∈ metaTests := by decide
  have hkept : coerceOperand (some author) false (.bool false) = .ok (.bool false) := rfl
  refine ⟨hstrict, hop, (test_untouched_iff hstrict hop "author" "author" (.bool false)).mpr
    ⟨rfl, rfl, some author, rfl, rfl, coerceOperand_eq_self_iff.mp hkept⟩, ?_⟩
  intro hauthor
  have hasked := (test_untouched_iff hstrict hop "author" "author" (.bool true)).mpr
    ⟨rfl, rfl, some author, rfl, rfl, hauthor⟩
  have hrefused : build posts {} .null (.doc [("author", .doc [("exists", .bool true)])]) =
      .error (.notObjectId (.bool true)) := rfl
  cases hrefused.symm.trans hasked

/-- Whether posts have an author cannot be asked: the answer that is asked for is no identifier. -/
theorem test_refused_by_identifier :
    ¬ ∀ (model : Model) (settings : Settings) (options : Value) (strict : Bool)
      (key field op : String) (p : Property) (v : Value),
      isStrict model settings options = .ok strict → op ∈ metaTests →
      isForbidden key = false → model.fieldName key = .ok field →
      definitionOf model field key = .ok (some p) → p.isObjectShaped = false →
      build model settings options (.doc [(key, .doc [(op, v)])]) =
        .ok [(field, .doc [("$" ++ op, v)])] := by
  intro hall
  have hasked := hall posts {} .null false "author" "author" "exists" author (.bool true) rfl (by decide) rfl rfl rfl rfl
  have hrefused : build posts {} .null (.doc [("author", .doc [("exists", .bool true)])]) =
      .error (.notObjectId (.bool true)) := rfl
  rw [hrefused] at hasked
  cases hasked

end ModelStore.Filter
