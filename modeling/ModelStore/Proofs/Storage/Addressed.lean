import ModelStore.Proofs.Schema.Columns
import ModelStore.Proofs.Storage
import ModelStore.Proofs.Storage.FieldName
import ModelStore.Proofs.Value.Path

/-!
Fields as readers and writers address them. Filters, sorts, projections and updates each turn a path
into a storage field. Where no two properties share a column they all name the field under which the
value of the path was stored, however the columns are exchanged among the properties.
-/
namespace ModelStore

/-- Every property goes by the name it is kept under, names and columns have no dot, and no two
properties share a column. -/
structure Model.PlainColumns (m : Model) : Prop where
  named : ∀ entry ∈ m.properties, entry.2.name = entry.1
  names : ∀ entry ∈ m.properties, Text.hasDot entry.1 = false
  columns : (m.properties.map fun entry => entry.2.column).Nodup
  texts : ∀ entry ∈ m.properties, ∃ column, entry.2.column = .text column ∧
    Text.hasDot column = false

namespace Model.PlainColumns

variable {m : Model} {key path : String} (h : m.PlainColumns)
include h

theorem exists_columnName (hkey : key ∈ Table.keys m.properties) :
    ∃ column, m.columnName key = .text column ∧ Text.hasDot column = false := by
  obtain ⟨p, hp, -, hcolumn⟩ := exists_property hkey
  rw [hcolumn]
  exact h.texts (key, p) hp

theorem hasDot_idName : Text.hasDot m.idName = false := by
  obtain ⟨entry, hentry, hid⟩ := m.exists_idName_eq
  rw [hid, h.named entry hentry]
  exact h.names entry hentry

theorem ne_idName (hid : Text.pathHead path ≠ m.idName) : path ≠ m.idName := by
  rintro rfl
  exact hid (Text.pathHead_of_undotted h.hasDot_idName)

end Model.PlainColumns

namespace Storage

variable {model : Model} {data stored : Document} {path field : String}

/-- Filters, sorts, projections and updates take the path for the storage field, alone or among
other items, and what was stored there is what data holds at the path. -/
structure Addressed (model : Model) (data stored : Document) (path field : String) : Prop where
  filtered : model.fieldName path = .ok field
  item : ∀ direction, Sort.ofItem model (.tuple [.text path, direction]) =
    .ok (some (field, Sort.readDirection direction))
  sorted : ∀ settings options direction,
    Sort.build model settings options (.list [.tuple [.text path, direction]]) =
      .ok [(field, Sort.readDirection direction)]
  added : ∀ projection b, Projection.add model projection (.text path) b =
    .ok (Table.insert projection field (Projection.wanted b))
  listed : Projection.build model (.list [.text path]) =
    .ok (some [(field, Projection.wanted true)])
  tabled : ∀ v, Projection.build model (.doc [(path, v)]) =
    .ok (some [(field, Projection.wanted v.truthy)])
  updated : model.storagePath path = .ok field
  found : (Value.doc stored).found? (Text.segments field) =
    (Value.doc data).found? (Text.segments path)

section Build

variable (hfield : model.fieldName path = .ok field)
include hfield

theorem sort_ofItem_tuple (direction : Value) :
    Sort.ofItem model (.tuple [.text path, direction]) =
      .ok (some (field, Sort.readDirection direction)) := by
  rw [Sort.ofItem_eq (.pair direction []), hfield]
  rfl

theorem sort_build_tuple (settings : Settings) (options direction : Value) :
    Sort.build model settings options (.list [.tuple [.text path, direction]]) =
      .ok [(field, Sort.readDirection direction)] := by
  rw [Sort.build_eq rfl (.pair direction []), hfield]
  rfl

theorem projection_add (projection : Document) (b : Bool) :
    Projection.add model projection (.text path) b =
      .ok (Table.insert projection field (Projection.wanted b)) := by
  rw [Projection.add_eq, hfield]
  rfl

theorem projection_build_list :
    Projection.build model (.list [.text path]) =
      .ok (some [(field, Projection.wanted true)]) := by
  rw [Projection.build_list_eq, hfield]
  rfl

theorem projection_build_table (v : Value) :
    Projection.build model (.doc [(path, v)]) =
      .ok (some [(field, Projection.wanted v.truthy)]) := by
  rw [Projection.build_table_eq, hfield]
  rfl

end Build

/-- A key of data is found under its column, and a key that data does not have is not. -/
theorem get?_store {key column : String} (hcolumns : model.PlainColumns)
    (hkeys : (Table.keys data).Nodup)
    (hdeclared : ∀ key ∈ Table.keys data, key ∈ Table.keys model.properties)
    (hstored : store model data = .ok stored) (hkey : key ∈ Table.keys model.properties)
    (hplain : isPoint model key = false) (hcolumn : model.columnName key = .text column) :
    Table.get? stored column = Table.get? data key := by
  have halone : ∀ other ∈ Table.keys data, other ≠ key →
      model.columnName other ≠ model.columnName key := by
    intro other hother hne hsame
    exact hne (Model.columnName_inj hcolumns.columns (hdeclared other hother) hkey hsame)
  cases hv : Table.get? data key with
  | some v =>
    obtain ⟨w, written, hw, hwritten, hfound⟩ := get?_storeInto hstored hkeys hv halone
    obtain rfl : column = written := Value.text.inj (hcolumn.symm.trans hwritten)
    have hkept : w = v := by
      rw [storeValue, if_neg (by simp [hplain])] at hw
      exact (Except.ok.inj hw).symm
    rw [hfound, hkept]
  | none =>
    have hother : ∀ other ∈ Table.keys data, model.columnName other ≠ .text column := by
      intro other hother hsame
      have hne : other ≠ key := by
        rintro rfl
        obtain ⟨v, hfound⟩ := Table.exists_get? hother
        simp [hv] at hfound
      exact halone other hother hne (hsame.trans hcolumn.symm)
    rw [get?_storeInto_of_ne hstored hother, Table.get?_nil]

theorem exists_addressed (hcolumns : model.PlainColumns) (hkeys : (Table.keys data).Nodup)
    (hdeclared : ∀ key ∈ Table.keys data, key ∈ Table.keys model.properties)
    (hstored : store model data = .ok stored)
    (hhead : Text.pathHead path ∈ Table.keys model.properties)
    (hid : Text.pathHead path ≠ model.idName) (hreserved : Text.pathHead path ≠ idField)
    (hplain : isPoint model (Text.pathHead path) = false) :
    ∃ field, Addressed model data stored path field := by
  obtain ⟨column, hcolumn, hdot⟩ := hcolumns.exists_columnName hhead
  have hfield : path ≠ idField := by
    rintro rfl
    exact hreserved (Text.pathHead_of_undotted (by decide))
  have hname := Model.fieldName_of_ne (hcolumns.ne_idName hid) hfield hcolumn
  obtain ⟨rest, hpath, hsegments⟩ := Text.exists_segments_append path
  refine ⟨column ++ Text.pathRest path, hname, sort_ofItem_tuple hname, sort_build_tuple hname,
    projection_add hname, projection_build_list hname, projection_build_table hname,
    Model.storagePath_of_columnName hcolumn, ?_⟩
  rw [hsegments column hdot, hpath]
  simp only [Value.found?, Value.child?]
  rw [get?_store hcolumns hkeys hdeclared hstored hhead hplain hcolumn]

/-- A model in which two properties have exchanged their columns. -/
def exchanged : Model :=
  .ofSchema "Visit" [("from", .node { name := "from", fieldName := .text "to" } none none),
    ("to", .node { name := "to", fieldName := .text "from" } none none)] {}

theorem plainColumns_exchanged : exchanged.PlainColumns where
  named := by decide
  names := by decide
  columns := by
    change [Value.text "to", .text "from", .text "id"].Nodup
    simp
  texts := by
    intro entry hentry
    rcases List.mem_cons.mp hentry with rfl | hentry
    · exact ⟨"to", rfl, by decide⟩
    · rcases List.mem_cons.mp hentry with rfl | hentry
      · exact ⟨"from", rfl, by decide⟩
      · rw [List.mem_singleton.mp hentry]
        exact ⟨"id", rfl, by decide⟩

theorem exists_addressed_exchanged :
    ∃ field, Addressed exchanged
      [("to", .doc [("city", .text "Bonn")]), ("from", .doc [("city", .text "Trier")])]
      [("from", .doc [("city", .text "Bonn")]), ("to", .doc [("city", .text "Trier")])]
      "to.city" field :=
  exists_addressed plainColumns_exchanged (by decide) (by decide) rfl (by decide) (by decide)
    (by decide) (by decide)

end Storage

end ModelStore
