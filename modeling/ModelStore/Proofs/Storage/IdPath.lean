import ModelStore.Proofs.Filter.Conditions
import ModelStore.Proofs.Storage
import ModelStore.Proofs.Storage.FieldName

/-!
Paths into the identifier. Only its name alone is put in the place of the storage field. A dotted
path leads to the column of its head, also where the head is the name of the identifier; so filters,
sorts and projections look into what is stored under that column.
-/
namespace ModelStore

variable {model : Model} {path field : String} {settings : Settings} {options v : Value}

/-- Keys with a meaning of their own in filters have no dot. -/
theorem Filter.leaf_of_dotted (hdot : Text.hasDot path = true) (v : Value) :
    isForbidden path = false ∧ branchesOf? (path, v) = none := by
  have hkeys : ∀ key ∈ forbiddenKeys ++ logicalKeys, Text.hasDot key = false := by decide
  have hnone : path ∉ forbiddenKeys ++ logicalKeys := by
    intro hkey
    rw [hkeys path hkey] at hdot
    cases hdot
  obtain ⟨hforbidden, hlogical⟩ := not_or.mp (List.mem_append.not.mp hnone)
  refine ⟨by simpa [isForbidden] using hforbidden, ?_⟩
  cases v <;> simp [branchesOf?, isLogical, hlogical]

/-- The condition of a filter with one key stands under the field of that key. -/
theorem Filter.keys_build {query : Document} (hkept : isForbidden path = false)
    (hleaf : branchesOf? (path, v) = none)
    (h : build model settings options (.doc [(path, v)]) = .ok query) :
    Table.keys query = [field] ↔ model.fieldName path = .ok field := by
  obtain ⟨strict, hstrict⟩ := isStrict_of_build h
  rw [build_doc hstrict] at h
  obtain ⟨condition, hcondition⟩ :=
    exists_conditionOf h (mem_sanitize.mpr ⟨List.mem_cons_self, hkept⟩)
  obtain rfl := Except.ok.inj (h.symm.trans ((compile_singleton hkept).mpr hcondition))
  simp only [conditionOf, hleaf] at hcondition
  rw [fieldName_of_compileLeaf hcondition]
  simp [Table.keys]

/-- Filters, sorts and projections take the path for the field exactly under the condition. -/
structure TakenForIff (model : Model) (path field : String) (condition : Prop) : Prop where
  named : model.fieldName path = .ok field ↔ condition
  entry : ∀ {target v native}, target.model = model →
    Filter.conditionOf target (path, v) = .ok native → (native.1 = field ↔ condition)
  filtered : ∀ {settings options v query},
    Filter.build model settings options (.doc [(path, v)]) = .ok query →
      (Table.keys query = [field] ↔ condition)
  item : ∀ {item sign}, Sort.Names path item sign →
    (Sort.ofItem model item = .ok (some (field, sign)) ↔ condition)
  sorted : ∀ {settings options order item sign}, Sort.items order = .ok [item] →
    Sort.Names path item sign →
      (Sort.build model settings options order = .ok [(field, sign)] ↔ condition)
  listed : ∀ fields ∈ [Value.list [.text path], .tuple [.text path]],
    Projection.build model fields = .ok (some [(field, Projection.wanted true)]) ↔ condition
  tabled : ∀ v, Projection.build model (.doc [(path, v)]) =
    .ok (some [(field, Projection.wanted v.truthy)]) ↔ condition

theorem takenForIff {condition : Prop} (hdot : Text.hasDot path = true)
    (hfield : model.fieldName path = .ok field ↔ condition) :
    TakenForIff model path field condition where
  named := hfield
  entry := by
    rintro target v native rfl h
    rw [Filter.conditionOf, (Filter.leaf_of_dotted hdot v).2] at h
    rw [← hfield, Filter.fieldName_of_compileLeaf h, Except.ok.injEq]
  filtered := by
    intro settings options v query h
    obtain ⟨hkept, hleaf⟩ := Filter.leaf_of_dotted hdot v
    exact (Filter.keys_build hkept hleaf h).trans hfield
  item := by
    intro item sign hitem
    rw [Sort.ofItem_eq hitem, ← hfield]
    exact Result.map_eq_ok_iff_of_injective fun a b h => (Prod.mk.inj (Option.some.inj h)).1
  sorted := by
    intro settings options order item sign hitems hitem
    rw [Sort.build_eq hitems hitem, ← hfield]
    exact Result.map_eq_ok_iff_of_injective fun a b h => (Prod.mk.inj (List.cons.inj h).1).1
  listed := by
    intro fields hfields
    have hbuild : Projection.build model fields =
        (fun field => some [(field, Projection.wanted true)]) <$> model.fieldName path := by
      rcases List.mem_pair.mp hfields with rfl | rfl <;> exact Projection.build_list_eq
    rw [hbuild, ← hfield]
    exact Result.map_eq_ok_iff_of_injective
      fun a b h => (Prod.mk.inj (List.cons.inj (Option.some.inj h)).1).1
  tabled := by
    intro v
    rw [Projection.build_table_eq, ← hfield]
    exact Result.map_eq_ok_iff_of_injective
      fun a b h => (Prod.mk.inj (List.cons.inj (Option.some.inj h)).1).1

/-- A dotted path is not put in the place of the storage field as a whole. -/
theorem Model.fieldName_of_idPath (hdot : Text.hasDot path = true)
    (hhead : Text.pathHead path = model.idName) :
    model.fieldName path = model.storagePath path := by
  have hid : Text.hasDot model.idName = false := hhead ▸ Text.hasDot_pathHead path
  refine if_neg (not_or.mpr ⟨?_, ?_⟩)
  · rintro rfl
    rw [hid] at hdot
    cases hdot
  · rintro rfl
    cases hdot

/-- A dotted path into the identifier leads to what is stored there exactly if the property kept
under the name of the identifier is declared with the storage field as its column. -/
theorem idPath_takenForIff (hdot : Text.hasDot path = true)
    (hhead : Text.pathHead path = model.idName) :
    TakenForIff model path (idField ++ Text.pathRest path)
      (model.columnName model.idName = .text idField) := by
  have hfield : model.fieldName path = .ok (idField ++ Text.pathRest path) ↔
      model.columnName model.idName = .text idField := by
    rw [Model.fieldName_of_idPath hdot hhead, Model.storagePath_eq_ok_iff, hhead]
  exact takenForIff hdot hfield

def keyedOrders : Model :=
  .ofSchema "Order"
    [("key", .node { name := "key", id := .bool true, fieldName := .text "_id" } none none)] {}

theorem idPath_takenForIff_declared :
    (Text.hasDot "key.region" = true ∧ Text.pathHead "key.region" = keyedOrders.idName) ∧
    keyedOrders.columnName keyedOrders.idName = .text idField ∧
    keyedOrders.fieldName "key.region" = .ok "_id.region" := by
  have hcolumn : keyedOrders.columnName keyedOrders.idName = .text idField := rfl
  exact ⟨⟨by decide, by decide⟩, hcolumn,
    (idPath_takenForIff (by decide) (by decide)).named.mpr hcolumn⟩

/-- Under its own name no part of an identifier is found. -/
theorem not_fieldName_of_idPath :
    ¬ ∀ (model : Model) (path : String), Text.hasDot path = true →
      Text.pathHead path = model.idName →
      model.fieldName path = .ok (idField ++ Text.pathRest path) := by
  intro hall
  have hfield := hall (.bare "Post") "id.region" (by decide) (by decide)
  have hown : (Model.bare "Post").fieldName "id.region" = .ok "id.region" := rfl
  rw [hown] at hfield
  exact absurd (Except.ok.inj hfield) (by decide)

end ModelStore
