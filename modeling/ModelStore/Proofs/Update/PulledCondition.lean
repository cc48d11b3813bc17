import ModelStore.Proofs.Filter.Leaf
import ModelStore.Proofs.Update.Element

/-!
Conditions that elements are pulled by. A filter that compares the elements of an array coerces what
they are compared with, one by one. Pulling takes the same condition for an element: a document that
is walked where the elements are objects, refused where they are identifiers and kept elsewhere, with
whatever it compares them with. So the two write the same condition only where the filter has nothing
to convert, or where objects are compared with one value, and fail together only where the filter
refuses one of the values as well.
-/
namespace ModelStore.Update

open Coercion

variable {model : Model} {strict : Bool} {p : Property} {nested : Schema} {op path : String}
  {v : Value}

def comparisons : List String := ["$in", "$nin", "$ne", "$gt", "$gte", "$lt", "$lte", "$eq"]

theorem comparisons_native (hop : op ∈ comparisons) :
    Filter.isNativeName op = true ∧ op ≠ "$each" := by
  have hall : ∀ op ∈ comparisons, Filter.isNativeName op = true ∧ op ≠ "$each" := by decide
  exact hall op hop

section Element

/-- The properties by which the documents among the elements are walked. -/
def walkedBy (p : Property) : Option Schema :=
  if p.traits.dataType.isNull && !(p.items.any (·.kind = .array)) then p.nestedSchema else none

/-- Elements are coerced by a property that takes nothing but identifiers. -/
def refusesDocuments (p : Property) : Bool :=
  takesOnlyIds (elementRule (some p)) && (!p.traits.dataType.isNull || p.nestedSchema.isNone)

theorem coerceValue_set_doc (definition : Option Property) {entries : Document}
    (hset : entries ≠ []) :
    coerceValue definition strict (.doc entries) =
      if takesOnlyIds definition then .error (.notObjectId (.doc entries))
      else .ok (.doc entries) := by
  have hunset : isUnset (.doc entries) = false := (isForeign_doc hset).isSet
  rw [coerceValue_eq, hunset, if_neg (by simp)]
  cases hdecimal : isDecimalProperty definition with
  | true => simp [takesOnlyIds, hdecimal, coerceDecimal, toDecimal128]
  | false =>
    cases hdeclared : isDeclaredObjectId definition with
    | true => simp [takesOnlyIds, hdecimal, hdeclared, coerceReference, requireObjectId]
    | false => simp [takesOnlyIds, hdeclared, Value.isText]

/-- A condition is coerced as an element that is a document. -/
theorem coerceElement_condition (hkind : p.kind = .array) (hop : op ≠ "$each") :
    coerceElement (some p) strict (.doc [(op, v)]) =
      match walkedBy p with
      | some nested => (fun w => .doc [(op, w)]) <$> coerceEntry strict nested (op, v)
      | none =>
          if refusesDocuments p then .error (.notObjectId (.doc [(op, v)]))
          else .ok (.doc [(op, v)]) := by
  have hone : Table.get? [(op, v)] "$each" = none := by simp [Table.get?, hop]
  have hitem : coerceElement (some p) strict (.doc [(op, v)]) =
      coerceItem p strict (.doc [(op, v)]) := by
    simp [coerceElement, hkind, hone]
  rw [hitem, coerceItem, walkedBy, refusesDocuments, elementRule,
    Property.nestedSchema_of_array hkind]
  cases p.traits.dataType.isNull with
  | false => simp [coerceValue_set_doc]
  | true =>
    cases p.items with
    | none => simp [coerceValue_set_doc]
    | some item =>
      cases hnested : item.nestedSchema with
      | none => simp [coerceOne, hnested, coerceValue_set_doc]
      | some nested =>
        by_cases harray : item.kind = .array
        · simp [coerceOne, hnested, coerceMember, harray]
        · simp only [coerceOne, hnested, coerceMember, harray, Option.bind_some, Option.any_some,
            coerceEntries_singleton, decide_false, Bool.false_eq_true, if_false, Bool.not_true,
            Bool.not_false, Bool.and_self, if_true]
          cases coerceEntry strict nested (op, v) <;> rfl

end Element

section Operand

variable {definition : Option Property}

/-- An operand is refused for one of the values in it. -/
theorem coerceOperand_refused_iff :
    (∃ failure, Filter.coerceOperand definition strict v = .error failure) ↔
      ∃ u ∈ Filter.candidates v, ∃ failure, coerceValue definition strict u = .error failure := by
  have hlist : ∀ items : List Value,
      (∃ failure, (do .ok (Value.list (← items.mapM (coerceValue definition strict)))) =
        (Except.error failure : Result Value)) ↔
      ∃ u ∈ items, ∃ failure, coerceValue definition strict u = .error failure := by
    intro items
    constructor
    · rintro ⟨failure, h⟩
      rcases Result.bind_eq_error.mp h with h | ⟨coerced, -, h⟩
      · obtain ⟨u, hu, hfails⟩ := Result.exists_of_mapM_eq_error h
        exact ⟨u, hu, failure, hfails⟩
      · cases h
    · rintro ⟨u, hu, failure, hfails⟩
      cases hmapped : items.mapM (coerceValue definition strict) with
      | error other => exact ⟨other, rfl⟩
      | ok coerced =>
        obtain ⟨w, hw⟩ := Result.exists_mapM_eq_ok.mp ⟨coerced, hmapped⟩ u hu
        rw [hfails] at hw
        cases hw
  cases v with
  | list items => exact hlist items
  | tuple items => exact hlist items
  | _ => simp [Filter.coerceOperand, Filter.candidates]

/-- Where nothing is declared, an operand of several values is coerced as a whole by a property of
its own, and value by value as an operand. -/
theorem alike_entry_iff (hop : Table.get? nested op = none)
    (hdecimal : isDecimalProperty definition = false)
    (hdeclared : isDeclaredObjectId definition = false) :
    Result.Alike (coerceEntry strict nested (op, v)) (Filter.coerceOperand definition strict v) ↔
      isSequence v = false ∨ IsKeptOperand definition strict v := by
  have hentry : coerceEntry strict nested (op, v) = coerceValue none strict v := by
    simp [coerceEntry, hop]
  have hvalue : ∀ u, coerceValue none strict u = coerceValue definition strict u := by
    intro u
    have hundecimal : isDecimalProperty none = false := rfl
    have hundeclared : isDeclaredObjectId none = false := rfl
    simp only [coerceValue_eq, coerceReference, isObjectIdProperty, hundecimal, hundeclared,
      hdecimal, hdeclared]
  rw [hentry]
  cases hsequence : isSequence v with
  | true =>
    have hkept : coerceValue none strict v = .ok v := by
      cases v with
      | list items => simp [coerceValue_eq, isDecimalProperty, isDeclaredObjectId, Value.isText]
      | tuple items => simp [coerceValue_eq, isDecimalProperty, isDeclaredObjectId, Value.isText]
      | _ => cases hsequence
    rw [hkept, Result.alike_ok_left, coerceOperand_eq_self_iff]
    simp
  | false =>
    have hone : Filter.coerceOperand definition strict v = coerceValue definition strict v := by
      cases v with
      | list items => cases hsequence
      | tuple items => cases hsequence
      | _ => rfl
    rw [hone, hvalue]
    simp [Result.Alike]

end Operand

/-- A condition comes out of an update as it does out of a filter, or both refuse it. -/
inductive PulledAlike (p : Property) (strict : Bool) (op : String) (v : Value) : Prop where
  /-- The elements keep the condition, and the filter has nothing to convert in it. -/
  | kept (hwalk : walkedBy p = none) (haccepts : refusesDocuments p = false)
      (h : IsKeptOperand (some p) strict v)
  /-- The elements refuse the condition, and the filter one of the values in it. -/
  | refused {u : Value} {failure : Failure} (hwalk : walkedBy p = none)
      (hrefuses : refusesDocuments p = true) (hu : u ∈ Filter.candidates v)
      (h : coerceValue (some p) strict u = .error failure)
  /-- The condition is walked, and holds one value, or nothing that the filter would convert. -/
  | walked {nested : Schema} (hwalk : walkedBy p = some nested)
      (hop : Table.get? nested op = none) (hdeclared : isDeclaredObjectId (some p) = false)
      (h : isSequence v = false ∨ IsKeptOperand (some p) strict v)
  /-- The condition is walked, where a property has the name of the operator, or where the array is
  declared as one of identifiers all the same. -/
  | declared {nested : Schema} (hwalk : walkedBy p = some nested)
      (hdeclared : Table.get? nested op = none → isDeclaredObjectId (some p) = true)
      (h : Result.Alike (coerceEntry strict nested (op, v))
        (Filter.coerceOperand (some p) strict v)) : PulledAlike p strict op v

theorem isDecimalProperty_of_walkedBy (h : walkedBy p = some nested) :
    isDecimalProperty (some p) = false := by
  rw [walkedBy] at h
  split_ifs at h with hwalk
  cases htype : p.traits.dataType with
  | null => simp [isDecimalProperty, htype, isMarker]
  | _ => simp [htype, Value.isNull] at hwalk

theorem pulledAlike_of_walked (hwalk : walkedBy p = some nested) :
    PulledAlike p strict op v ↔
      Result.Alike (coerceEntry strict nested (op, v))
        (Filter.coerceOperand (some p) strict v) := by
  have hdecimal := isDecimalProperty_of_walkedBy hwalk
  constructor
  · intro h
    cases h with
    | kept hnone => cases hnone.symm.trans hwalk
    | refused hnone => cases hnone.symm.trans hwalk
    | walked hwalk' hnone hother h =>
      obtain rfl := Option.some.inj (hwalk.symm.trans hwalk')
      exact (alike_entry_iff hnone hdecimal hother).mpr h
    | declared hwalk' _ h =>
      obtain rfl := Option.some.inj (hwalk.symm.trans hwalk')
      exact h
  · intro h
    by_cases hdeclared : Table.get? nested op = none → isDeclaredObjectId (some p) = true
    · exact .declared hwalk hdeclared h
    · obtain ⟨hnone, hother⟩ := Classical.not_imp.mp hdeclared
      rw [Bool.not_eq_true] at hother
      exact .walked hwalk hnone hother ((alike_entry_iff hnone hdecimal hother).mp h)

theorem pulledAlike_of_refused (hwalk : walkedBy p = none) (hrefuses : refusesDocuments p = true) :
    PulledAlike p strict op v ↔
      ∃ u ∈ Filter.candidates v, ∃ failure, coerceValue (some p) strict u = .error failure := by
  constructor
  · intro h
    cases h with
    | kept _ haccepts => cases haccepts.symm.trans hrefuses
    | refused _ _ hu hfails => exact ⟨_, hu, _, hfails⟩
    | walked hsome => cases hsome.symm.trans hwalk
    | declared hsome => cases hsome.symm.trans hwalk
  · intro h
    obtain ⟨u, hu, failure, hfails⟩ := h
    exact .refused hwalk hrefuses hu hfails

theorem pulledAlike_of_kept (hwalk : walkedBy p = none) (haccepts : refusesDocuments p = false) :
    PulledAlike p strict op v ↔ IsKeptOperand (some p) strict v := by
  constructor
  · intro h
    cases h with
    | kept _ _ h => exact h
    | refused _ hrefuses => cases hrefuses.symm.trans haccepts
    | walked hsome => cases hsome.symm.trans hwalk
    | declared hsome => cases hsome.symm.trans hwalk
  · exact .kept hwalk haccepts

theorem pulledAlike_iff (hkind : p.kind = .array) (hop : op ≠ "$each") :
    Result.Alike (coerceElement (some p) strict (.doc [(op, v)]))
        ((fun w => .doc [(op, w)]) <$> Filter.coerceOperand (some p) strict v) ↔
      PulledAlike p strict op v := by
  have hinjective : Function.Injective fun w => Value.doc [(op, w)] := fun w u h => by simpa using h
  rw [coerceElement_condition hkind hop]
  cases hwalk : walkedBy p with
  | some nested =>
    dsimp only
    rw [Result.alike_map_iff hinjective, pulledAlike_of_walked hwalk]
  | none =>
    dsimp only
    cases hrefuses : refusesDocuments p with
    | true =>
      rw [if_pos rfl, Result.alike_error_left, pulledAlike_of_refused hwalk hrefuses,
        ← coerceOperand_refused_iff]
      simp only [Result.map_eq_error]
    | false =>
      rw [if_neg (by simp), Result.alike_ok_left, pulledAlike_of_kept hwalk hrefuses,
        ← coerceOperand_eq_self_iff]
      exact Result.map_eq_ok_iff_of_injective hinjective

variable {settings : Settings} {options : Value}

/-- Pulling the elements that meet the condition stores the query that a filter for it is compiled
to, or fails as the filter does. -/
def PullsAsFiltered (model : Model) (settings : Settings) (options : Value) (strict : Bool)
    (path : String) (condition : Value) : Prop :=
  Result.Alike (store model strict [("$pull", .doc [(path, condition)])])
    ((fun query => [("$pull", .doc query)]) <$>
      Filter.build model settings options (.doc [(path, condition)]))

/-- What an update writes at the path for one element. -/
def writtenElement (model : Model) (strict : Bool) (path : String) (p : Property)
    (element : Value) : Result (String × Value) := do
  let field ← model.storagePath path
  .ok (field, ← coerceElement (some p) strict element)

theorem writtenElement_eq {field : String} (hpath : model.storagePath path = .ok field)
    (element : Value) :
    writtenElement model strict path p element =
      Prod.mk field <$> coerceElement (some p) strict element := by
  rw [writtenElement, hpath]
  cases coerceElement (some p) strict element <;> rfl

theorem storeOperand_pulled (hid : path ≠ model.idName) (hp : model.propertyAt path = .ok (some p))
    (condition : Value) :
    storeOperand model strict "$pull" [(path, condition)] =
      (fun entry => [entry]) <$> writtenElement model strict path p condition := by
  cases hpath : model.storagePath path with
  | error failure =>
    have hkind : operandKind "$pull" = .elements := rfl
    simp [storeOperand, writtenElement, hid, hkind, mapEntries, hpath, bind, Except.bind,
      Functor.map, Except.map]
  | ok field =>
    rw [storeOperand_element rfl hid hp hpath, writtenElement_eq hpath]
    cases coerceElement (some p) strict condition <;> rfl

theorem build_condition (hstrict : Filter.isStrict model settings options = .ok strict)
    (hforbidden : Filter.isForbidden path = false) (entries : Document)
    (hbranches : Filter.branchesOf? (path, .doc entries) = none) :
    Filter.build model settings options (.doc [(path, .doc entries)]) =
      (fun condition => [condition]) <$>
        Filter.compileLeaf ⟨model, settings.nullAsAbsent, strict⟩ path (.doc entries) := by
  rw [Filter.build_doc hstrict, Filter.compile, Filter.compileInto_cons _ _ _ _ hforbidden]
  simp only [Filter.conditionOf, hbranches]
  cases Filter.compileLeaf ⟨model, settings.nullAsAbsent, strict⟩ path (.doc entries) <;> rfl

/-- A filter asks for the field that an update writes, by the same property. It does so everywhere
but at the field of the identifier. -/
def AsksInPlace (model : Model) (path : String) (p : Property) : Prop :=
  model.fieldName path = model.storagePath path ∧
    ∀ field, model.storagePath path = .ok field →
      Filter.definitionOf model field path = .ok (some p)

theorem asksInPlace_of_unreserved (hid : path ≠ model.idName) (hfield : path ≠ idField)
    (hother : model.storagePath path ≠ .ok idField) (hp : model.propertyAt path = .ok (some p)) :
    AsksInPlace model path p := by
  refine ⟨by simp [Model.fieldName, hid, hfield], ?_⟩
  intro field hpath
  rw [Filter.definitionOf, if_neg (by rintro rfl; exact hother hpath), hp]

theorem compileLeaf_of_asksInPlace {nullAsAbsent : Bool} (hplace : AsksInPlace model path p)
    {field : String} (hpath : model.storagePath path = .ok field) (asked : Value) :
    Filter.compileLeaf ⟨model, nullAsAbsent, strict⟩ path asked =
      Prod.mk field <$> Filter.nativeOf ⟨model, nullAsAbsent, strict⟩ (some p) asked := by
  rw [Filter.compileLeaf_eq]
  simp only [hplace.1, hpath]
  simp only [bind, Except.bind, hplace.2 field hpath]

/-- A condition that is asked in place comes out alike if and only if it is taken alike, or there is
no place for it. -/
theorem alike_of_asksInPlace {nullAsAbsent : Bool} (hplace : AsksInPlace model path p)
    (hop : op ∈ comparisons) (hkind : p.kind = .array) :
    Result.Alike (writtenElement model strict path p (.doc [(op, v)]))
        (Filter.compileLeaf ⟨model, nullAsAbsent, strict⟩ path (.doc [(op, v)])) ↔
      ∀ field, model.storagePath path = .ok field → PulledAlike p strict op v := by
  obtain ⟨hnative, heach⟩ := comparisons_native hop
  have hobject : (some p).any Property.isObjectShaped = false := by
    simp [Property.isObjectShaped, hkind]
  cases hpath : model.storagePath path with
  | error failure =>
    -- Without a storage path both fail, whatever the condition is.
    have hwritten : writtenElement model strict path p (.doc [(op, v)]) = .error failure := by
      rw [writtenElement, hpath]
      rfl
    have hleaf : Filter.compileLeaf ⟨model, nullAsAbsent, strict⟩ path (.doc [(op, v)]) =
        .error failure := by
      rw [Filter.compileLeaf_eq]
      simp only [hplace.1, hpath]
      rfl
    simp [hwritten, hleaf, Result.Alike]
  | ok field =>
    have hentry : Function.Injective (Prod.mk field : Value → String × Value) :=
      fun w u h => (Prod.mk.inj h).2
    rw [writtenElement_eq hpath, compileLeaf_of_asksInPlace hplace hpath,
      Result.alike_map_iff hentry, Filter.nativeOf_native hobject hnative,
      pulledAlike_iff hkind heach]
    simp

/-- A condition on the identifier is not stored, so it agrees with the filter only if that leaves
the identifier out as well. -/
theorem pullsAsFiltered_idName_iff (hstrict : Filter.isStrict model settings options = .ok strict)
    (condition : Value) :
    PullsAsFiltered model settings options strict model.idName condition ↔
      Filter.isForbidden model.idName = true := by
  have hstored : store model strict [("$pull", .doc [(model.idName, condition)])] =
      .ok [("$pull", .doc [])] := by
    rw [store_singleton]
    simp only [storeOperand, List.filter_cons, ne_eq, not_true_eq_false, decide_false,
      Bool.false_eq_true, if_false, List.filter_nil]
    rfl
  rw [PullsAsFiltered, hstored, Result.alike_ok_left, Filter.build_doc hstrict]
  constructor
  · intro h
    obtain ⟨query, hquery, hempty⟩ := Result.map_eq_ok.mp h
    have hnil : query = [] := by simpa using hempty
    exact (Filter.compile_eq_nil_iff hquery).mp hnil _ List.mem_cons_self
  · intro hforbidden
    rw [Filter.compile, Filter.compileInto, if_pos hforbidden]
    rfl

/-- Pulling by a comparison stores the condition that a filter is compiled to, or fails as the
filter does, exactly if the condition is taken alike; where the filter asks by the identifier
instead, exactly if its property makes of the condition what the elements do. -/
theorem pullsAsFiltered_iff (hstrict : Filter.isStrict model settings options = .ok strict)
    (hop : op ∈ comparisons) (hp : model.propertyAt path = .ok (some p)) (hkind : p.kind = .array) :
    PullsAsFiltered model settings options strict path (.doc [(op, v)]) ↔
      (path = model.idName ∧ Filter.isForbidden path = true) ∨
        (path ≠ model.idName ∧ Filter.isForbidden path = false ∧
          (AsksInPlace model path p →
            ∀ field, model.storagePath path = .ok field → PulledAlike p strict op v) ∧
          (¬ AsksInPlace model path p →
            Result.Alike (writtenElement model strict path p (.doc [(op, v)]))
              (Filter.compileLeaf ⟨model, settings.nullAsAbsent, strict⟩ path
                (.doc [(op, v)])))) := by
  by_cases hid : path = model.idName
  · subst hid
    rw [pullsAsFiltered_idName_iff hstrict]
    simp
  have hpull : Function.Injective fun stored : Document => [("$pull", Value.doc stored)] :=
    fun stored query h => by simpa using h
  have hone : Function.Injective fun entry : String × Value => [entry] :=
    fun entry other h => by simpa using h
  rw [PullsAsFiltered, store_singleton, Result.alike_map_iff hpull, storeOperand_pulled hid hp]
  cases hforbidden : Filter.isForbidden path with
  | true =>
    -- The filter leaves the path out, and the update does not.
    have hbuilt : Filter.build model settings options (.doc [(path, .doc [(op, v)])]) = .ok [] := by
      rw [Filter.build_doc hstrict, Filter.compile, Filter.compileInto, if_pos hforbidden]
      rfl
    refine iff_of_false (fun h => ?_) (by simp [hid])
    obtain ⟨entry, -, hstored⟩ := Result.map_eq_ok.mp ((h []).mpr hbuilt)
    cases hstored
  | false =>
    rw [build_condition hstrict hforbidden _ rfl, Result.alike_map_iff hone]
    by_cases hplace : AsksInPlace model path p
    · rw [alike_of_asksInPlace hplace hop hkind]
      simp [hid, hplace]
    · simp [hid, hplace]

def tags : Property :=
  .node { name := "tags", kind := .array, fieldName := .text "labels" }
    (some (.plain "tags" .scalar "any")) none

def tagged : Model := .ofSchema "Post" [("tags", tags)] {}

theorem pullsAsFiltered_iff_tagged :
    Filter.isStrict tagged {} .null = .ok false ∧ "$in" ∈ comparisons ∧
      ∃ p, tagged.propertyAt "tags" = .ok (some p) ∧ p.kind = .array ∧
        PullsAsFiltered tagged {} .null false "tags"
          (.doc [("$in", .list [.int 1, .text "a"])]) := by
  have hstrict : Filter.isStrict tagged {} .null = .ok false := rfl
  refine ⟨hstrict, by decide, _, rfl, rfl, ?_⟩
  refine (pullsAsFiltered_iff hstrict (by decide) rfl rfl).mpr (Or.inr ⟨by decide, rfl, ?_, ?_⟩)
  · intro _ _ _
    have hkept : Filter.coerceOperand (some tags) false (.list [.int 1, .text "a"]) =
        .ok (.list [.int 1, .text "a"]) := rfl
    exact .kept rfl rfl (coerceOperand_eq_self_iff.mp hkept)
  · intro helsewhere
    have hcolumn : tagged.storagePath "tags" = .ok "labels" := rfl
    refine absurd (asksInPlace_of_unreserved (by decide) (by decide) ?_ rfl) helsewhere
    rw [hcolumn]
    simp [idField]

/-- Posts that have one of some authors are found by them, but the authors cannot be pulled. -/
theorem not_pullsAsFiltered_identifiers :
    ¬ ∀ (model : Model) (settings : Settings) (options v : Value) (strict : Bool)
      (path op : String) (p : Property), Filter.isStrict model settings options = .ok strict →
      op ∈ comparisons → model.propertyAt path = .ok (some p) → p.kind = .array →
      PullsAsFiltered model settings options strict path (.doc [(op, v)]) := by
  intro hall
  have hsame := hall signed {} .null (.list [.text "0123456789abcdef01234567"]) false "authors"
    "$in" _ rfl (by decide) rfl rfl
  have hrefused : store signed false [("$pull", .doc [("authors",
      .doc [("$in", .list [.text "0123456789abcdef01234567"])])])] =
        .error (.notObjectId (.doc [("$in", .list [.text "0123456789abcdef01234567"])])) := rfl
  rw [PullsAsFiltered, hrefused, Result.alike_error_left] at hsame
  obtain ⟨failure, hfails⟩ := hsame
  cases hfails

end ModelStore.Update
