import ModelStore.Proofs.Coercion.Element
import ModelStore.Proofs.Update.Operand

/-!
Elements of array properties. An element can be written in a whole array or on its own. A whole
array is coerced by the property of the array, an element on its own by the rule of the elements, so
the two leave the same only where these come to the same: where objects are walked either way, or
where what the array asks of its elements is what their rule asks of the element.
-/
namespace ModelStore.Update

open Coercion

variable {model : Model} {strict : Bool} {p : Property} {nested : Schema} {e : Value}
  {definition : Option Property}

/-- The property by which an element is coerced on its own: the array itself if it has a storage
type, its element property otherwise. -/
def elementRule : Option Property → Option Property
  | none => none
  | some p => if p.traits.dataType.isNull then p.items.or (some p) else some p

def coerceWithin (definition : Option Property) (strict : Bool) (e : Value) : Result Value :=
  match definition.bind Property.nestedSchema with
  | some nested => coerceNested strict nested e
  | none =>
      if isDecimalProperty definition then toDecimal128 e
      else if isDeclaredObjectId definition then requireObjectId e
      else .ok e

theorem coerceEntry_list {schema : Schema} {name : String} :
    coerceEntry strict schema (name, .list [e]) =
      (fun w => .list [w]) <$> coerceWithin (Table.get? schema name) strict e := by
  unfold coerceEntry coerceWithin
  dsimp only
  cases (Table.get? schema name).bind Property.nestedSchema with
  | some nested =>
    simp only [coerceMember, coerceItems]
    cases coerceNested strict nested e <;> rfl
  | none =>
    unfold coerceValue coerceReference coerceDecimal
    simp only [Value.truthy, List.isEmpty_cons, Bool.not_false, Bool.not_true, Bool.false_and,
      Bool.false_eq_true, if_false, Value.isText, Bool.or_false]
    split
    · simp only [List.mapM_cons, List.mapM_nil]
      cases toDecimal128 e <;> rfl
    · split
      · simp only [List.mapM_cons, List.mapM_nil]
        cases requireObjectId e <;> rfl
      · rfl

theorem coerceElement_of_array (hkind : p.kind = .array) (hdoc : ∀ entries, e ≠ .doc entries) :
    coerceElement (some p) strict e = coerceItem p strict e := by
  unfold coerceElement
  dsimp only
  rw [if_pos hkind]
  cases e with
  | doc entries => exact absurd rfl (hdoc entries)
  | _ => rfl

/-- An element that is no document is coerced by its rule. -/
theorem coerceElement_eq_coerceValue (hdoc : ∀ entries, e ≠ .doc entries)
    (harray : ∀ p, definition = some p → p.kind = .array)
    (hnested : definition.bind Property.nestedSchema = none) :
    coerceElement definition strict e = coerceValue (elementRule definition) strict e := by
  cases definition with
  | none => rfl
  | some p =>
    have hkind := harray p rfl
    rw [Option.bind_some, Property.nestedSchema_of_array hkind] at hnested
    rw [coerceElement_of_array hkind hdoc, coerceItem, elementRule]
    cases p.traits.dataType.isNull with
    | false => rfl
    | true =>
      cases hitems : p.items with
      | none => rfl
      | some item =>
        have hitem : item.nestedSchema = none := by simpa [hitems] using hnested
        simp [coerceOne, hitem]

/-- An object among the elements is walked, unless the array has a storage type of its own. -/
theorem coerceElement_of_nestedSchema (hdoc : ∀ entries, e ≠ .doc entries)
    (hkind : p.kind = .array) (hnested : p.nestedSchema = some nested) :
    coerceElement (some p) strict e =
      if p.traits.dataType.isNull then coerceNested strict nested e
      else coerceValue (some p) strict e := by
  rw [coerceElement_of_array hkind hdoc, coerceItem]
  cases p.traits.dataType.isNull with
  | false => rfl
  | true =>
    rw [Property.nestedSchema_of_array hkind] at hnested
    obtain ⟨item, hitem, hinner⟩ := Option.bind_eq_some_iff.mp hnested
    simp only [hitem, coerceOne, Option.bind_some, hinner]
    cases e with
    | doc entries => exact absurd rfl (hdoc entries)
    | _ => rfl

/-- An element comes out of a whole array of the property as it does on its own. -/
inductive TakenAlike (strict : Bool) (e : Value) : Option Property → Prop where
  /-- Objects are walked either way. -/
  | objects {p : Property} {nested : Schema} (hnested : p.nestedSchema = some nested)
      (htype : p.traits.dataType.isNull = true) : TakenAlike strict e (some p)
  /-- On its own the element is coerced by the storage type that the array of objects has. -/
  | typedObjects {p : Property} {nested : Schema} (hnested : p.nestedSchema = some nested)
      (htype : p.traits.dataType.isNull = false)
      (h : coerceNested strict nested e = coerceValue (some p) strict e) :
      TakenAlike strict e (some p)
  /-- On its own an empty text is kept, and a list of decimals is taken apart. -/
  | decimals {p : Property} (hnested : p.nestedSchema = none)
      (hdecimal : isDecimalProperty (some p) = true)
      (htext : e ≠ .text "") (htuple : ∀ items, e = .tuple items → items = [])
      (hlist : ∀ items, e = .list items → ∀ v ∈ items, toDecimal128 v = .ok v) :
      TakenAlike strict e (some p)
  | identifiers {p : Property} (hnested : p.nestedSchema = none)
      (hdecimal : isDecimalProperty (some p) = false)
      (hdeclared : isDeclaredObjectId (some p) = true)
      (h : AskedAlike (elementRule (some p)) strict e) : TakenAlike strict e (some p)
  /-- A whole array without a type of its own keeps its elements. -/
  | kept {definition : Option Property} (hnested : definition.bind Property.nestedSchema = none)
      (hdecimal : isDecimalProperty definition = false)
      (hdeclared : isDeclaredObjectId definition = false)
      (h : coerceValue (elementRule definition) strict e = .ok e) : TakenAlike strict e definition

theorem elementRule_of_decimal (h : isDecimalProperty (some p) = true) :
    elementRule (some p) = some p := by
  have hset : p.traits.dataType.isNull = false := by
    rw [isDecimalProperty] at h
    cases htype : p.traits.dataType <;> simp [htype, isMarker, Value.isNull] at h ⊢
  simp [elementRule, hset]

/-- An element is the same within a whole array and on its own exactly where it is taken alike. -/
theorem coerceWithin_eq_coerceElement_iff (hdoc : ∀ entries, e ≠ .doc entries)
    (harray : ∀ p, definition = some p → p.kind = .array) :
    coerceWithin definition strict e = coerceElement definition strict e ↔
      TakenAlike strict e definition := by
  constructor
  · intro h
    unfold coerceWithin at h
    cases hnested : definition.bind Property.nestedSchema with
    | some nested =>
      obtain ⟨p, rfl, hp⟩ := Option.bind_eq_some_iff.mp hnested
      rw [hnested, coerceElement_of_nestedSchema hdoc (harray p rfl) hp] at h
      cases htype : p.traits.dataType.isNull with
      | true => exact .objects hp htype
      | false => exact .typedObjects hp htype (by simpa [htype] using h)
    | none =>
      rw [hnested, coerceElement_eq_coerceValue hdoc harray hnested] at h
      dsimp only at h
      split_ifs at h with hdecimal hdeclared
      · cases definition with
        | none => cases hdecimal
        | some p =>
          rw [elementRule_of_decimal hdecimal, toDecimal128_eq_coerceValue_iff hdecimal] at h
          exact .decimals hnested hdecimal h.1 h.2.1 h.2.2
      · cases definition with
        | none => cases hdeclared
        | some p =>
          rw [requireObjectId_eq_coerceValue_iff] at h
          exact .identifiers hnested (by simpa using hdecimal) hdeclared h
      · exact .kept hnested (by simpa using hdecimal) (by simpa using hdeclared) h.symm
  · intro h
    unfold coerceWithin
    cases h with
    | @objects p nested hp htype =>
      rw [Option.bind_some, hp, coerceElement_of_nestedSchema hdoc (harray p rfl) hp, if_pos htype]
    | @typedObjects p nested hp htype h =>
      rw [Option.bind_some, hp, coerceElement_of_nestedSchema hdoc (harray p rfl) hp]
      simpa [htype] using h
    | @decimals p hp hdecimal htext htuple hlist =>
      rw [coerceElement_eq_coerceValue hdoc harray hp, elementRule_of_decimal hdecimal,
        Option.bind_some, hp]
      dsimp only
      rw [if_pos hdecimal, toDecimal128_eq_coerceValue_iff hdecimal]
      exact ⟨htext, htuple, hlist⟩
    | @identifiers p hp hdecimal hdeclared h =>
      rw [coerceElement_eq_coerceValue hdoc harray hp, Option.bind_some, hp]
      dsimp only
      rw [if_neg (by simp [hdecimal]), if_pos hdeclared, requireObjectId_eq_coerceValue_iff]
      exact h
    | kept hnested hdecimal hdeclared h =>
      rw [coerceElement_eq_coerceValue hdoc harray hnested, hnested]
      dsimp only
      rw [if_neg (by simp [hdecimal]), if_neg (by simp [hdeclared]), h]

/-- The element that each way of writing it puts in storage is this one, or each fails as this
does. -/
structure WritesAlike (model : Model) (strict : Bool) (name field : String) (e : Value)
    (element : Result Value) : Prop where
  /-- In a whole array of a document. -/
  whole : coerceDocument strict model.properties (.doc [(name, .list [e])]) =
    (fun w => .doc [(name, .list [w])]) <$> element
  /-- In a whole array to be pulled. -/
  pulledAll : store model strict [("$pullAll", .doc [(name, .list [e])])] =
    (fun w => [("$pullAll", .doc [(field, .list [w])])]) <$> element
  /-- As the operand of an operator on one element. -/
  alone : ∀ operator ∈ ["$push", "$addToSet", "$pull"],
    store model strict [(operator, .doc [(name, e)])] =
      (fun w => [(operator, .doc [(field, w)])]) <$> element
  /-- As one of several elements to be pushed. -/
  each : store model strict [("$push", .doc [(name, .doc [("$each", .list [e])])])] =
    (fun w => [("$push", .doc [(field, .doc [("$each", .list [w])])])]) <$> element

theorem store_element {operator name column : String} {v : Value}
    (hkind : operandKind operator = .elements) (hdot : Text.hasDot name = false)
    (hname : name ≠ model.idName) (hid : name ≠ idField)
    (hcolumn : model.columnName name = .text column) :
    store model strict [(operator, .doc [(name, v)])] =
      (fun w => [(operator, .doc [(column, w)])]) <$>
        coerceElement (Table.get? model.properties name) strict v := by
  have hat : model.propertyAt name = .ok (Table.get? model.properties name) :=
    Model.propertyAt_of_undotted hdot hid
  have hfield : model.storagePath name = .ok column := Model.storagePath_of_undotted hdot hcolumn
  rw [store_singleton, storeOperand_element hkind hname hat hfield, Functor.map_map]

theorem coerceDocument_list {schema : Schema} {name : String} :
    coerceDocument strict schema (.doc [(name, .list [e])]) =
      (fun w => .doc [(name, .list [w])]) <$> coerceWithin (Table.get? schema name) strict e := by
  simp only [coerceDocument, coerceEntries_singleton, coerceEntry_list]
  cases coerceWithin (Table.get? schema name) strict e <;> rfl

/-- Several elements to be pushed are each coerced as one is on its own, if the name is declared,
and are kept otherwise. -/
theorem coerceElement_each (hdoc : ∀ entries, e ≠ .doc entries)
    (harray : ∀ p, definition = some p → p.kind = .array) :
    coerceElement definition strict (.doc [("$each", .list [e])]) =
      (fun w => .doc [("$each", .list [w])]) <$>
        if definition.isSome then coerceElement definition strict e else .ok e := by
  cases definition with
  | none => rfl
  | some p =>
    have hkind := harray p rfl
    rw [Option.isSome_some, if_pos rfl, coerceElement_of_array hkind hdoc, coerceElement,
      if_pos hkind]
    simp only [Table.get?, Value.elements, if_true, bind, Except.bind, List.mapM_cons,
      List.mapM_nil]
    cases coerceItem p strict e <;> rfl

/-- However an element is written, storage gets the same, if and only if it is taken alike. -/
theorem exists_writesAlike_iff {name column : String} (hdoc : ∀ entries, e ≠ .doc entries)
    (harray : ∀ p, Table.get? model.properties name = some p → p.kind = .array)
    (hdot : Text.hasDot name = false) (hname : name ≠ model.idName) (hid : name ≠ idField)
    (hcolumn : model.columnName name = .text column) :
    (∃ element, WritesAlike model strict name column e element) ↔
      TakenAlike strict e (Table.get? model.properties name) := by
  have halone : ∀ {operator : String} (v : Value), operandKind operator = .elements →
      store model strict [(operator, .doc [(name, v)])] =
        (fun w => [(operator, .doc [(column, w)])]) <$>
          coerceElement (Table.get? model.properties name) strict v :=
    fun v hkind => store_element hkind hdot hname hid hcolumn
  have hplain : Storage.isPoint model name = false := by
    rw [Storage.isPoint, Option.any_eq_false]
    intro p hp
    simp [harray p hp]
  rw [← coerceWithin_eq_coerceElement_iff hdoc harray]
  constructor
  · rintro ⟨element, h⟩
    have hwhole := coerceDocument_list.symm.trans h.whole
    have hpush := (halone e rfl).symm.trans (h.alone "$push" (by simp))
    rw [Result.map_injective (fun v w hvw => by simpa using hvw) hwhole,
      Result.map_injective (fun v w hvw => by simpa using hvw) hpush]
  · intro h
    refine ⟨_, coerceDocument_list, ?_, ?_, ?_⟩
    · have hkept : ∀ w, Storage.storeValue model name w = .ok w := by
        simp [Storage.storeValue, hplain]
      have hkind : operandKind "$pullAll" = .values := rfl
      rw [store_singleton, storeOperand_name hkind hname hdot hcolumn, coerceEntry_list]
      simp only [hkept]
      cases coerceWithin (Table.get? model.properties name) strict e <;> rfl
    · intro operator hoperator
      have hkind : operandKind operator = .elements := by
        simp only [List.mem_cons, List.not_mem_nil, or_false] at hoperator
        rcases hoperator with rfl | rfl | rfl <;> rfl
      rw [halone e hkind, h]
    · rw [halone _ rfl, coerceElement_each hdoc harray, Functor.map_map, h]
      cases hp : Table.get? model.properties name with
      | none =>
        rw [hp] at h
        rw [← h]
        rfl
      | some p => rfl

def signed : Model :=
  .ofSchema "Post" [("authors", .node
    { name := "authors", kind := .array, typeName := "array", fieldName := .text "author_ids" }
    (some (.plain "authors" .reference "objectid")) none)] {}

theorem exists_writesAlike_of_references :
    ∃ element, WritesAlike signed true "authors" "author_ids"
      (.text "0123456789abcdef01234567") element := by
  have harray : ∀ p, Table.get? signed.properties "authors" = some p → p.kind = .array := by
    intro p hp
    rw [← Option.some.inj hp]
    rfl
  refine (exists_writesAlike_iff (by simp) harray rfl (by decide) (by decide) rfl).mpr ?_
  exact .identifiers rfl rfl rfl (.asked rfl rfl (.inl rfl) (by simp))

/-- A model with an array whose element property alone says that decimals are stored. -/
def priced : Model :=
  .ofSchema "Order" [("prices", .arrayOf "prices" (some (.node
    { name := "prices", typeName := "string", dataType := .text "decimal128" } none none)))] {}

/-- A price stays a text in a whole array and becomes a decimal on its own. -/
theorem not_writesAlike_of_typed_elements :
    ¬ ∃ element, WritesAlike priced false "prices" "prices" (.text "1.5") element := by
  rintro ⟨element, h⟩
  have hwhole : store priced false [("$pullAll", .doc [("prices", .list [.text "1.5"])])] =
      (fun w => [("$pullAll", .doc [("prices", .list [w])])]) <$> .ok (.text "1.5") := rfl
  have hpush : store priced false [("$push", .doc [("prices", .text "1.5")])] =
      (fun w => [("$push", .doc [("prices", w)])]) <$> readDecimal "1.5" :=
    store_element rfl rfl (by decide) (by decide) rfl
  have hkept : element = .ok (.text "1.5") :=
    Result.map_injective (fun v w hvw => by simpa using hvw) (h.pulledAll.symm.trans hwhole)
  have hread : element = readDecimal "1.5" :=
    Result.map_injective (fun v w hvw => by simpa using hvw)
      ((h.alone "$push" List.mem_cons_self).symm.trans hpush)
  obtain ⟨stored, hstored⟩ := readDecimal_eq_ok (hread.symm.trans hkept)
  simp at hstored

end ModelStore.Update
