import ModelStore.Proofs.Coercion.Document
import ModelStore.Storage

/-!
Where data is stored. Each value is written under the column of its key, and it is found there
afterwards if no later key has the same column.
-/
namespace ModelStore

theorem Storage.column_eq_ok {v : Value} {column : String} :
    v.column = .ok column ↔ v = .text column := by
  cases v <;> simp [Value.column, wrongType]

theorem Model.storagePath_eq_ok_iff {m : Model} {path head : String} :
    m.storagePath path = .ok (head ++ Text.pathRest path) ↔
      m.columnName (Text.pathHead path) = .text head := by
  rw [storagePath, Result.bind_eq_ok, ← Storage.column_eq_ok]
  constructor
  · intro hpath
    obtain ⟨column, hcolumn, h⟩ := hpath
    rwa [← (String.append_left_inj (Text.pathRest path)).mp (Except.ok.inj h)]
  · intro hcolumn
    exact ⟨head, hcolumn, rfl⟩

theorem Model.storagePath_undotted_eq_ok_iff {m : Model} {path field : String}
    (hdot : Text.hasDot path = false) :
    m.storagePath path = .ok field ↔ m.columnName path = .text field := by
  have hpath : m.storagePath path = .ok (field ++ Text.pathRest path) ↔
      m.columnName (Text.pathHead path) = .text field := storagePath_eq_ok_iff
  rwa [Text.pathRest_of_undotted hdot, Text.pathHead_of_undotted hdot, String.append_empty] at hpath

namespace Storage

variable {model : Model} {entries stored result : Document} {key column : String} {v : Value}

def storeValue (model : Model) (key : String) (v : Value) : Result Value :=
  if isPoint model key then storePoint v else .ok v

theorem storeInto_cons_eq_ok :
    storeInto model stored ((key, v) :: entries) = .ok result ↔
      ∃ w column, storeValue model key v = .ok w ∧ model.columnName key = .text column ∧
        storeInto model (Table.insert stored column w) entries = .ok result := by
  have hstep : storeInto model stored ((key, v) :: entries) =
      storeValue model key v >>= fun w => (model.columnName key).column >>= fun column =>
        storeInto model (Table.insert stored column w) entries := by
    rw [storeInto, storeValue]
    split <;> rfl
  simp only [hstep, Result.bind_eq_ok, column_eq_ok]
  constructor
  · intro hstored
    obtain ⟨w, hw, column, hcolumn, h⟩ := hstored
    exact ⟨w, column, hw, hcolumn, h⟩
  · intro hstored
    obtain ⟨w, column, hw, hcolumn, h⟩ := hstored
    exact ⟨w, hw, column, hcolumn, h⟩

/-- What is under a column stays there if nothing is stored under it. -/
theorem get?_storeInto_of_ne (h : storeInto model stored entries = .ok result)
    (hother : ∀ key ∈ Table.keys entries, model.columnName key ≠ .text column) :
    Table.get? result column = Table.get? stored column := by
  induction entries generalizing stored with
  | nil => rw [← Except.ok.inj h]
  | cons entry rest ih =>
    obtain ⟨w, written, -, hwritten, h⟩ := storeInto_cons_eq_ok.mp h
    have hne : written ≠ column := by
      rintro rfl
      exact hother entry.1 List.mem_cons_self hwritten
    have hrest : ∀ key ∈ Table.keys rest, model.columnName key ≠ .text column := by
      intro key hkey
      exact hother key (List.mem_cons_of_mem _ hkey)
    rw [ih h hrest, Table.get?_insert_of_ne _ _ hne]

/-- A value is found under the column of its key if no other key has that column. -/
theorem get?_storeInto (h : storeInto model stored entries = .ok result)
    (hkeys : (Table.keys entries).Nodup) (hv : Table.get? entries key = some v)
    (halone : ∀ other ∈ Table.keys entries, other ≠ key →
      model.columnName other ≠ model.columnName key) :
    ∃ w column, storeValue model key v = .ok w ∧ model.columnName key = .text column ∧
      Table.get? result column = some w := by
  induction entries generalizing stored with
  | nil => simp at hv
  | cons entry rest ih =>
    obtain ⟨head, u⟩ := entry
    obtain ⟨w, column, hw, hcolumn, h⟩ := storeInto_cons_eq_ok.mp h
    have hhead : head ∉ Table.keys rest := (List.nodup_cons.mp hkeys).1
    rw [Table.get?_cons] at hv
    by_cases hkey : head = key
    · subst hkey
      rw [if_pos rfl] at hv
      obtain rfl : u = v := Option.some.inj hv
      refine ⟨w, column, hw, hcolumn, ?_⟩
      rw [get?_storeInto_of_ne h, Table.get?_insert_self]
      intro other hother
      have hne : other ≠ head := by
        rintro rfl
        exact hhead hother
      rw [← hcolumn]
      exact halone other (List.mem_cons_of_mem _ hother) hne
    · rw [if_neg hkey] at hv
      apply ih h (List.nodup_cons.mp hkeys).2 hv
      intro other hother
      exact halone other (List.mem_cons_of_mem _ hother)

theorem nestedSchema_of_isPoint (h : isPoint model key = true) :
    (Table.get? model.properties key).bind Property.nestedSchema = none := by
  obtain ⟨p, hp, hkind⟩ := (Option.any_eq_true _ _).mp h
  rw [hp, Option.bind_some, Property.nestedSchema_of_geopoint (of_decide_eq_true hkind)]

/-- Stored points are stored as they are. -/
theorem storeValue_geoPoint {point : Document} (h : isGeoPoint point = true) :
    storeValue model key (.doc point) = .ok (.doc point) := by
  unfold storeValue
  split
  · exact if_pos h
  · rfl

theorem storePoint_scalar (hscalar : v.isScalar = true) (w : Value) : storePoint v ≠ .ok w := by
  intro h
  cases v with
  | null => simp [Value.isScalar] at hscalar
  | doc => simp [Value.isScalar] at hscalar
  | list => simp [Value.isScalar] at hscalar
  | tuple => simp [Value.isScalar] at hscalar
  | point => simp [Value.isScalar] at hscalar
  | record => simp [Value.isScalar] at hscalar
  | _ =>
    obtain ⟨coordinates, hcoordinates, -⟩ := Result.bind_eq_ok.mp h
    simp [Filter.pointCoordinates, Value.member?] at hcoordinates

/-- Any other document is rewritten to the stored form. -/
theorem storePoint_doc {point : Document} {w : Value} (hgeo : isGeoPoint point = false)
    (h : storePoint (.doc point) = .ok w) : ∃ coordinates, w = Filter.geoPoint coordinates := by
  rw [storePoint, if_neg (by simp [hgeo])] at h
  obtain ⟨coordinates, -, h⟩ := Result.bind_eq_ok.mp h
  exact ⟨coordinates, (Except.ok.inj h).symm⟩

/-- The only scalar in a stored point is its type. -/
theorem at?_geoPoint {coordinates : List Value} {path : List String}
    (h : (Filter.geoPoint coordinates).at? path = some v) (hscalar : v.isScalar = true) :
    path = ["type"] ∧ v = .text "Point" := by
  cases path with
  | nil =>
    obtain rfl : Filter.geoPoint coordinates = v := Option.some.inj h
    simp [Filter.geoPoint, Value.isScalar] at hscalar
  | cons key rest =>
    obtain ⟨u, hu, h⟩ := Option.bind_eq_some_iff.mp h
    rw [Table.get?_cons, Table.get?_cons, Table.get?_nil] at hu
    by_cases htype : "type" = key
    · rw [if_pos htype] at hu
      obtain rfl : Value.text "Point" = u := Option.some.inj hu
      cases rest with
      | nil => exact ⟨by rw [htype], (Option.some.inj h).symm⟩
      | cons => simp [Value.at?] at h
    · rw [if_neg htype] at hu
      split_ifs at hu
      obtain rfl : Value.list coordinates = u := Option.some.inj hu
      cases rest with
      | nil =>
        obtain rfl : Value.list coordinates = v := Option.some.inj h
        simp [Value.isScalar] at hscalar
      | cons => simp [Value.at?] at h

end Storage

end ModelStore
