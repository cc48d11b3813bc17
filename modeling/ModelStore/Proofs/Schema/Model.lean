import ModelStore.Schema.Model
import ModelStore.Proofs.Text.Path

/-!
Paths of a model. A path that does not name the identifier leads through the properties of the
model, and to a field under the column of its head. Properties have others inside them if they are
objects, or arrays of such elements.
-/
namespace ModelStore

namespace Property

theorem nestedSchema_of_geopoint {p : Property} (h : p.kind = .geopoint) :
    p.nestedSchema = none := by
  obtain ⟨traits, items, properties⟩ := p
  have hkind : traits.kind = .geopoint := h
  rw [nestedSchema.eq_def]
  simp only [hkind]

/-- A property with properties inside it is an object, or an array of such elements. -/
theorem nestedSchema_cases {p : Property} {nested : Schema} (h : p.nestedSchema = some nested) :
    (p.kind = .object ∧ p.properties = some nested) ∨
      (p.kind = .array ∧ ∃ item, p.items = some item ∧ item.nestedSchema = some nested) := by
  obtain ⟨traits, items, properties⟩ := p
  rw [nestedSchema.eq_def] at h
  dsimp only at h
  split at h
  · rename_i hkind
    split at h
    · exact Or.inl ⟨hkind, h⟩
    · simp at h
  · rename_i hkind
    split at h
    · rename_i item
      exact Or.inr ⟨hkind, item, rfl, h⟩
    · simp at h
  · simp at h

theorem nestedSchema_of_object {p q : Property} {schema : Schema} {key : String}
    (hkind : p.kind = .object) (h : p.properties = some schema)
    (hq : Table.get? schema key = some q) : p.nestedSchema = some schema := by
  obtain ⟨traits, items, properties⟩ := p
  have hkind : traits.kind = .object := hkind
  have h : properties = some schema := h
  rw [nestedSchema.eq_def]
  simp only [hkind, h]
  cases schema with
  | nil => simp at hq
  | cons entry rest => rfl

theorem nestedSchema_of_array {p : Property} (h : p.kind = .array) :
    p.nestedSchema = p.items.bind nestedSchema := by
  obtain ⟨traits, items, properties⟩ := p
  have hkind : traits.kind = .array := h
  rw [nestedSchema.eq_def]
  simp only [hkind]
  cases items <;> rfl

end Property

namespace Model

variable {m : Model} {path : String}

theorem mem_insertRanked {p q : Property} {ps : List Property} :
    q ∈ insertRanked p ps ↔ q = p ∨ q ∈ ps := by
  induction ps with
  | nil => simp [insertRanked]
  | cons head rest ih =>
    rw [insertRanked]
    split
    · simp
    · rw [List.mem_cons, ih, List.mem_cons]
      exact or_left_comm

/-- Ranking neither makes nor drops an identifier. -/
theorem mem_ids {p : Property} : p ∈ m.ids ↔ p ∈ m.properties.map Prod.snd ∧ p.isId = true := by
  have hranked : ∀ ps : List Property, p ∈ ps.foldr insertRanked [] ↔ p ∈ ps := by
    intro ps
    induction ps with
    | nil => simp
    | cons head rest ih => rw [List.foldr_cons, mem_insertRanked, ih, List.mem_cons]
  rw [ids, hranked, List.mem_filter]

theorem firstId_mem (m : Model) :
    m.firstId ∈ m.properties.map Prod.snd ∧ m.firstId.isId = true :=
  mem_ids.mp (List.head_mem m.ids_ne_nil)

/-- The identifier has the name of a declared property. -/
theorem exists_idName_eq (m : Model) : ∃ entry ∈ m.properties, m.idName = entry.2.name := by
  obtain ⟨entry, hentry, hid⟩ := List.mem_map.mp m.firstId_mem.1
  exact ⟨entry, hentry, by rw [idName, ← hid]⟩

theorem idProperty_eq_ok {p : Property} :
    m.idProperty = .ok p ↔ Table.get? m.properties m.idName = some p := by
  unfold idProperty
  split
  · rename_i q hq
    simp [hq]
  · rename_i hnone
    simp [hnone, missingKey]

theorem properties_ofSchema (name : String) (schema : Schema) (settings : ModelSettings) :
    (ofSchema name schema settings).properties =
      if schema.HasId then schema else Table.insert schema defaultIdName generatedId := by
  unfold ofSchema
  split <;> rfl

theorem storagePath_of_columnName {column : String}
    (hcolumn : m.columnName (Text.pathHead path) = .text column) :
    m.storagePath path = .ok (column ++ Text.pathRest path) := by
  rw [storagePath, hcolumn]
  rfl

theorem fieldName_of_ne {column : String} (hid : path ≠ m.idName) (hfield : path ≠ idField)
    (hcolumn : m.columnName (Text.pathHead path) = .text column) :
    m.fieldName path = .ok (column ++ Text.pathRest path) := by
  rw [fieldName, if_neg (not_or.mpr ⟨hid, hfield⟩), storagePath_of_columnName hcolumn]

theorem propertyAt_of_ne (hfield : path ≠ idField) :
    m.propertyAt path = .ok (follow none (some m.properties) (Text.segments path)) :=
  if_neg hfield

/-- A property that is no array has no part in the way of a path through its properties. -/
theorem follow_of_kind_ne_array {p : Property} {nested : Schema} {path : List String}
    (h : p.kind ≠ .array) (hpath : path ≠ []) :
    follow (some p) (some nested) path = follow none (some nested) path := by
  cases path with
  | nil => exact absurd rfl hpath
  | cons segment rest => simp [follow, advance, Option.filter, h]

theorem follow_singleton (schema : Schema) (key : String) :
    follow none (some schema) [key] = Table.get? schema key := by
  cases hp : Table.get? schema key <;> simp [follow, advance, advance.enter, hp]

/-- A number leads from an array to its element property. -/
theorem follow_index {p : Property} {schema : Option Schema} {segment : String}
    {path : List String} (hkind : p.kind = .array)
    (hdigits : Text.allDigits segment.toList = true) :
    follow (some p) schema (segment :: path) = follow p.items schema path := by
  simp [follow, advance, Option.filter, hkind, hdigits]

theorem follow_inner {schema nested : Schema} {key : String} {p : Property} {path : List String}
    (hp : Table.get? schema key = some p) (hkind : p.kind ≠ .array)
    (hnested : p.nestedSchema = some nested) (hpath : path ≠ []) :
    follow none (some schema) (key :: path) = follow none (some nested) path := by
  rw [← follow_of_kind_ne_array hkind hpath]
  simp [follow, advance, advance.enter, hp, hnested]

theorem storagePath_of_undotted {column : String} (hdot : Text.hasDot path = false)
    (hcolumn : m.columnName path = .text column) : m.storagePath path = .ok column := by
  rw [← Text.pathHead_of_undotted hdot] at hcolumn
  rw [storagePath_of_columnName hcolumn, Text.pathRest_of_undotted hdot, String.append_empty]

theorem propertyAt_of_undotted (hdot : Text.hasDot path = false) (hid : path ≠ idField) :
    m.propertyAt path = .ok (Table.get? m.properties path) := by
  rw [propertyAt_of_ne hid, Text.segments_of_undotted hdot, follow_singleton]

end Model

end ModelStore
