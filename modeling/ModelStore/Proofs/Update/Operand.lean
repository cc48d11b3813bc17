import ModelStore.Proofs.Storage
import ModelStore.Update

/-!
The operand of an operator that names one field. Operators of elements coerce what is given for the
field as an element; operators of values coerce it as an entry of a document, or at a dotted path by
the property that the path leads to. The field stands under its storage path.
-/
namespace ModelStore

theorem Storage.store_singleton {model : Model} {name column : String} {v : Value}
    (hcolumn : model.columnName name = .text column) :
    Storage.store model [(name, v)] =
      (fun w => [(column, w)]) <$> Storage.storeValue model name v := by
  simp only [Storage.store, Storage.storeInto, Storage.storeValue, hcolumn]
  by_cases hpoint : Storage.isPoint model name = true
  · simp only [if_pos hpoint]
    cases Storage.storePoint v <;> rfl
  · simp only [if_neg hpoint]
    rfl

namespace Update

open Coercion

variable {model : Model} {strict : Bool} {operator name field column : String} {v : Value}
  {definition : Option Property}

theorem store_singleton (operand : Document) :
    store model strict [(operator, .doc operand)] =
      (fun stored => [(operator, .doc stored)]) <$> storeOperand model strict operator operand := by
  simp only [store]
  cases storeOperand model strict operator operand <;> rfl

/-- Coercing one entry of a document is coercing its value by the property under its key. -/
theorem coerceOne_get? (schema : Schema) (key : String) (v : Value) :
    coerceOne (Table.get? schema key) strict v = coerceEntry strict schema (key, v) := rfl

private theorem filter_idName (hname : name ≠ model.idName) :
    [(name, v)].filter (fun entry => entry.1 ≠ model.idName) = [(name, v)] := by
  simp [hname]

theorem storeOperand_element (hkind : operandKind operator = .elements)
    (hname : name ≠ model.idName) (hdefinition : model.propertyAt name = .ok definition)
    (hfield : model.storagePath name = .ok field) :
    storeOperand model strict operator [(name, v)] =
      (fun w => [(field, w)]) <$> coerceElement definition strict v := by
  simp only [storeOperand, filter_idName hname, hkind, mapEntries, List.foldlM_cons,
    List.foldlM_nil, hfield, hdefinition]
  simp only [bind, Except.bind]
  cases coerceElement definition strict v <;> rfl

/-- A whole value under a name without a dot. -/
theorem storeOperand_name (hkind : operandKind operator = .values) (hname : name ≠ model.idName)
    (hdot : Text.hasDot name = false) (hcolumn : model.columnName name = .text column) :
    storeOperand model strict operator [(name, v)] =
      coerceEntry strict model.properties (name, v) >>= fun w =>
        (fun u => [(column, u)]) <$> Storage.storeValue model name w := by
  simp only [storeOperand, filter_idName hname, hkind, storeValues, List.filter_cons, hdot,
    Bool.not_false, if_true, List.filter_nil, Bool.false_eq_true, if_false, List.foldlM_nil,
    coerceEntries_singleton]
  cases coerceEntry strict model.properties (name, v) with
  | error failure => rfl
  | ok w =>
    change (Storage.store model [(name, w)] >>= pure) = _
    rw [bind_pure, Storage.store_singleton hcolumn]
    rfl

/-- A whole value at a dotted path. -/
theorem storeOperand_path (hkind : operandKind operator = .values) (hname : name ≠ model.idName)
    (hdot : Text.hasDot name = true) (hdefinition : model.propertyAt name = .ok definition)
    (hfield : model.storagePath name = .ok field) :
    storeOperand model strict operator [(name, v)] =
      (fun w => [(field, w)]) <$> coerceOne definition strict v := by
  simp only [storeOperand, filter_idName hname, hkind, storeValues, List.filter_cons, hdot,
    Bool.not_true, if_true, List.filter_nil, Bool.false_eq_true, if_false, coerceEntries,
    Storage.store]
  simp only [bind, Except.bind, List.foldlM_cons, List.foldlM_nil, hdefinition, hfield]
  cases coerceOne definition strict v <;> rfl

end Update

end ModelStore
