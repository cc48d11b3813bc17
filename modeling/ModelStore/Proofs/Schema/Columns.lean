import ModelStore.Proofs.Schema.Model
import ModelStore.Proofs.Table

/-!
Columns of a model. Where each property has its own name, and no column belongs to two properties,
a column leads back to the property that it was taken from. Only an empty column does not always: an
empty storage name counts as none where the column is chosen, but as a name where it is looked up.
-/
namespace ModelStore.Model

/-- Every property goes by the name it is kept under, no two properties share a column, and only
the identifier can have that of the identifier. -/
structure ColumnsApart (m : Model) : Prop where
  named : ∀ entry ∈ m.properties, entry.2.name = entry.1
  columns : (m.properties.map fun entry => entry.2.column).Nodup
  reserved : ∀ entry ∈ m.properties, entry.1 ≠ m.idName → entry.2.column ≠ .text idField

variable {m : Model} {key other column : String}

def TextColumns (m : Model) : Prop :=
  ∀ entry ∈ m.properties, ∃ column, entry.2.column = .text column

theorem TextColumns.exists_columnName (h : m.TextColumns) (key : String) :
    ∃ column, m.columnName key = .text column := by
  rw [columnName]
  cases hp : Table.get? m.properties key with
  | none => exact ⟨key, rfl⟩
  | some p => exact h (key, p) (Table.mem_of_get? hp)

/-- The property of a declared key, and its column. -/
theorem exists_property (h : key ∈ Table.keys m.properties) :
    ∃ p, (key, p) ∈ m.properties ∧ Table.get? m.properties key = some p ∧
      m.columnName key = p.column := by
  obtain ⟨p, hp⟩ := Table.exists_get? h
  exact ⟨p, Table.mem_of_get? hp, hp, by rw [columnName, hp]⟩

/-- A column leads to the name of a property with this storage name, and to itself if there is no
such property. -/
theorem propertyName_cases (m : Model) (column : String) :
    (∃ entry ∈ m.properties, entry.2.traits.fieldName = .text column ∧
        m.propertyName column = entry.2.name) ∨
      (m.propertyName column = column ∧
        ∀ entry ∈ m.properties, entry.2.traits.fieldName ≠ .text column) := by
  unfold propertyName
  split
  · rename_i p hfound
    obtain ⟨entry, hentry, rfl⟩ := List.mem_map.mp (List.mem_of_find?_eq_some hfound)
    have hmatches := List.find?_some hfound
    split at hmatches
    · rename_i s hs
      exact Or.inl ⟨entry, hentry, by rw [hs, of_decide_eq_true hmatches], rfl⟩
    · cases hmatches
  · rename_i hnone
    refine Or.inr ⟨rfl, fun entry hentry hfield => ?_⟩
    have hunmatched := List.find?_eq_none.mp hnone entry.2 (List.mem_map_of_mem hentry)
    simp [hfield] at hunmatched

/-- Where no two properties share a column, declared keys with one column are one key. -/
theorem columnName_inj (hcolumns : (m.properties.map fun entry => entry.2.column).Nodup)
    (hkey : key ∈ Table.keys m.properties) (hother : other ∈ Table.keys m.properties)
    (hcolumn : m.columnName key = m.columnName other) : key = other := by
  obtain ⟨p, hp, -, hcolumnp⟩ := exists_property hkey
  obtain ⟨q, hq, -, hcolumnq⟩ := exists_property hother
  have hsame : (key, p) = (other, q) :=
    List.inj_on_of_nodup_map hcolumns hp hq (hcolumnp.symm.trans (hcolumn.trans hcolumnq))
  exact (Prod.mk.inj hsame).1

namespace ColumnsApart

variable (h : m.ColumnsApart)
include h

theorem eq_of_column {entry entry' : String × Property} (hentry : entry ∈ m.properties)
    (hentry' : entry' ∈ m.properties) (hcolumn : entry.2.column = entry'.2.column) :
    entry = entry' :=
  List.inj_on_of_nodup_map h.columns hentry hentry' hcolumn

theorem columnName_ne_idField (hkey : key ∈ Table.keys m.properties) (hid : key ≠ m.idName) :
    m.columnName key ≠ .text idField := by
  obtain ⟨p, hp, -, hcolumn⟩ := exists_property hkey
  rw [hcolumn]
  exact h.reserved (key, p) hp hid

/-- Only the property with the empty name has the empty column. -/
theorem eq_empty_of_columnName (hkey : key ∈ Table.keys m.properties)
    (hcolumn : m.columnName key = .text "") : key = "" := by
  obtain ⟨p, hp, -, hcolumnp⟩ := exists_property hkey
  have hpcolumn : p.column = .text "" := hcolumnp.symm.trans hcolumn
  rw [Property.column, Value.orElse] at hpcolumn
  split at hpcolumn
  · rename_i hset
    rw [hpcolumn] at hset
    cases hset
  · rw [← Value.text.inj hpcolumn]
    exact (h.named (key, p) hp).symm

/-- A column that is not empty leads back to the key that it was taken from. -/
theorem propertyName_column (hkey : key ∈ Table.keys m.properties)
    (hcolumn : m.columnName key = .text column) (hset : column ≠ "") :
    m.propertyName column = key := by
  obtain ⟨p, hp, -, hcolumnp⟩ := exists_property hkey
  have hpcolumn : p.column = .text column := hcolumnp.symm.trans hcolumn
  rcases m.propertyName_cases column with ⟨entry, hentry, hfield, hname⟩ | ⟨hself, hnone⟩
  · have hqcolumn : entry.2.column = .text column := by
      rw [Property.column, hfield, Value.orElse, if_pos (by simpa [Value.truthy] using hset)]
    rw [hname, h.eq_of_column hentry hp (hqcolumn.trans hpcolumn.symm)]
    exact h.named (key, p) hp
  · have hname : p.name = column := by
      rw [Property.column, Value.orElse] at hpcolumn
      split at hpcolumn
      · exact absurd hpcolumn (hnone (key, p) hp)
      · exact Value.text.inj hpcolumn
    rw [hself, ← hname]
    exact h.named (key, p) hp

end ColumnsApart

def OwnColumns (m : Model) : Prop := ∀ entry ∈ m.properties, entry.2.column = .text entry.1

namespace OwnColumns

variable {field : String} (h : m.OwnColumns)
include h

theorem columnName (key : String) : m.columnName key = .text key := by
  rw [Model.columnName]
  cases hp : Table.get? m.properties key with
  | none => rfl
  | some p => exact h (key, p) (Table.mem_of_get? hp)

/-- Only the name of the identifier stands for another field than itself. -/
theorem fieldName_eq_ok : m.fieldName key = .ok field ↔
    (key = m.idName ∧ field = idField) ∨ (key ≠ m.idName ∧ field = key) := by
  by_cases hid : key = m.idName
  · rw [fieldName, if_pos (.inl hid)]
    simp [hid, eq_comm]
  · by_cases hfield : key = idField
    · obtain rfl := hfield
      rw [fieldName, if_pos (.inr rfl)]
      simp [hid, eq_comm]
    · rw [fieldName_of_ne hid hfield (h.columnName _), Text.pathHead_append_pathRest]
      simp [hid, eq_comm]

theorem fieldName_fixed (hkey : m.fieldName key = .ok field) : m.fieldName field = .ok field := by
  rcases h.fieldName_eq_ok.mp hkey with ⟨-, rfl⟩ | ⟨-, rfl⟩
  · rw [fieldName, if_pos (.inr rfl)]
  · exact hkey

end OwnColumns
end ModelStore.Model
