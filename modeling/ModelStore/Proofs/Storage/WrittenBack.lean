import ModelStore.Proofs.Storage.LoadedId
import ModelStore.Proofs.Storage.Readable

/-!
Writing back what was loaded. Where no two properties share a column, each column leads back to its
property and that to the column again, so a loaded document is stored as it was, entry by entry. Only
of a point is less written back than was stored: loading takes its longitude and its latitude, and
whatever else it holds is gone.
-/
namespace ModelStore.Storage

variable {model : Model} {entries stored : Document} {v : Value} {key : String}

section Point

/-- Null, or a document marked as a stored point with a longitude and a latitude at least. -/
def IsStoredPoint (v : Value) : Prop :=
  v = .null ∨ ∃ point given, v = .doc point ∧ isGeoPoint point = true ∧
    Table.get? point "coordinates" = some given ∧ HasPair given

def planar : Value → Value
  | .doc point =>
      match (Table.get? point "coordinates").map (firstElements 2) with
      | some (.ok pair) => Filter.geoPoint pair
      | _ => .doc point
  | v => v

theorem storePoint_latLng (lng lat : Value) :
    storePoint (.doc [("lat", lat), ("lng", lng)]) = .ok (Filter.geoPoint [lng, lat]) := rfl

/-- A stored point is loaded, and its longitude and its latitude are stored again. -/
theorem exists_loadPoint_storePoint (h : IsStoredPoint v) :
    ∃ shown, loadPoint v = .ok shown ∧ storePoint shown = .ok (planar v) := by
  rcases h with rfl | ⟨point, given, rfl, hmarked, hgiven, hpair⟩
  · exact ⟨.null, rfl, rfl⟩
  · obtain ⟨lng, lat, hfirst⟩ := exists_firstElements_iff.mpr hpair
    have hplanar : planar (.doc point) = Filter.geoPoint [lng, lat] := by
      simp only [planar, hgiven, Option.map_some, hfirst]
    refine ⟨.doc [("lat", lat), ("lng", lng)], ?_, ?_⟩
    · rw [loadPoint, if_pos hmarked, hgiven]
      simp only [hfirst]
      rfl
    · rw [hplanar]
      exact storePoint_latLng lng lat

end Point

def writtenBack (model : Model) (entry : String × Value) : String × Value :=
  (entry.1, if isPoint model (model.propertyName entry.1) then planar entry.2 else entry.2)

/-- The entry stands under the column of the property, which is declared and not the identifier;
under the column of a point stands null or a point. -/
structure IsColumnOf (model : Model) (entry : String × Value) (key : String) : Prop where
  declared : key ∈ Table.keys model.properties
  ne_idName : key ≠ model.idName
  column : model.columnName key = .text entry.1
  point : isPoint model key = true → IsStoredPoint entry.2

/-- Besides the identifier the document has entries under the columns of properties alone. -/
structure IsStored (model : Model) (stored : Document) : Prop where
  keys : (Table.keys stored).Nodup
  columns : ∀ entry ∈ stored, entry.1 ≠ idField → ∃ key, IsColumnOf model entry key

/-- A document without its identifier has entries under the same columns. -/
theorem IsStored.erase (h : IsStored model stored) : IsStored model (Table.erase stored idField) where
  keys := (Table.keys_erase_sublist stored idField).nodup h.keys
  columns entry hentry := h.columns entry (List.mem_filter.mp hentry).1

section Entry

variable {entry : String × Value} (hcolumns : model.ColumnsApart)
include hcolumns

theorem IsColumnOf.propertyName_eq (h : IsColumnOf model entry key)
    (hempty : entry.1 = "" → model.propertyName "" = "") : model.propertyName entry.1 = key := by
  by_cases hset : entry.1 = ""
  · have hcolumn : model.columnName key = .text "" := hset ▸ h.column
    rw [hset, hempty hset, hcolumns.eq_empty_of_columnName h.declared hcolumn]
  · exact hcolumns.propertyName_column h.declared h.column hset

/-- An entry is loaded under its property, and what it is loaded as is stored under its column. -/
theorem IsColumnOf.exists_loads (h : IsColumnOf model entry key)
    (hempty : entry.1 = "" → model.propertyName "" = "") (hid : entry.1 ≠ idField) :
    ∃ shown, Loads model entry (key, shown) ∧
      Stores model (key, shown) (writtenBack model entry) := by
  have hname := h.propertyName_eq hcolumns hempty
  have hvalue : ∃ shown, loadValue model key entry.2 = .ok shown ∧
      storeValue model key shown =
        .ok (if isPoint model key then planar entry.2 else entry.2) := by
    unfold loadValue storeValue
    by_cases hpoint : isPoint model key = true
    · simpa only [if_pos hpoint] using exists_loadPoint_storePoint (h.point hpoint)
    · exact ⟨entry.2, by simp [hpoint]⟩
  obtain ⟨shown, hloaded, hstored⟩ := hvalue
  refine ⟨shown, ?_, ?_, h.column⟩
  · rw [Loads, if_neg hid]
    exact ⟨hname.symm, hloaded⟩
  · rw [writtenBack, hname]
    exact hstored

end Entry

section Documents

variable (hcolumns : model.ColumnsApart)
include hcolumns

/-- Entry by entry: all are loaded, and all but the identifier are stored again. -/
theorem exists_loaded (hentries : ∀ entry ∈ entries, entry.1 ≠ idField →
      ∃ key, IsColumnOf model entry key)
    (hempty : ∀ entry ∈ entries, entry.1 = "" → model.propertyName "" = "") :
    ∃ loaded, List.Forall₂ (Loads model) entries loaded ∧
      List.Forall₂ (Stores model) (Table.erase loaded model.idName)
        ((Table.erase entries idField).map (writtenBack model)) := by
  induction entries with
  | nil => exact ⟨[], .nil, .nil⟩
  | cons entry rest ih =>
    obtain ⟨tail, hloads, hstores⟩ := ih (fun e he => hentries e (List.mem_cons_of_mem _ he))
      (fun e he => hempty e (List.mem_cons_of_mem _ he))
    -- The identifier is loaded under its name, and is gone before anything is stored.
    by_cases hid : entry.1 = idField
    · refine ⟨(model.idName, entry.2) :: tail, .cons (by rw [Loads, if_pos hid]) hloads, ?_⟩
      rw [Table.erase_cons_of_eq rest hid, Table.erase_cons_of_eq tail rfl]
      exact hstores
    · obtain ⟨key, hkey⟩ := hentries entry List.mem_cons_self hid
      obtain ⟨shown, hload, hstore⟩ :=
        hkey.exists_loads hcolumns (hempty entry List.mem_cons_self) hid
      refine ⟨(key, shown) :: tail, .cons hload hloads, ?_⟩
      rw [Table.erase_cons_of_ne rest hid, Table.erase_cons_of_ne tail hkey.ne_idName]
      exact .cons hstore hstores

variable (hstored : IsStored model stored)
  (hempty : "" ∈ Table.keys stored → model.propertyName "" = "")
include hstored hempty

/-- No two columns are loaded under one name. -/
theorem IsStored.nodup_loaded {loaded : Document}
    (h : List.Forall₂ (Loads model) stored loaded) : (Table.keys loaded).Nodup := by
  have hname : ∀ entry ∈ stored, entry.1 ≠ idField → loadedName model entry.1 ≠ model.idName ∧
      model.columnName (loadedName model entry.1) = .text entry.1 := by
    intro entry hentry hid
    obtain ⟨key, hkey⟩ := hstored.columns entry hentry hid
    have hback := hkey.propertyName_eq hcolumns fun hname =>
      hempty (hname ▸ List.mem_map_of_mem hentry)
    rw [loadedName_of_ne hid, hback]
    exact ⟨hkey.ne_idName, hkey.column⟩
  have hid : loadedName model idField = model.idName := if_pos rfl
  rw [keys_of_loads h]
  refine hstored.keys.map_on ?_
  intro column hcolumn other hother hsame
  obtain ⟨entry, hentry, rfl⟩ := List.mem_map.mp hcolumn
  obtain ⟨entry', hentry', rfl⟩ := List.mem_map.mp hother
  by_cases h1 : entry.1 = idField <;> by_cases h2 : entry'.1 = idField
  · rw [h1, h2]
  · rw [h1, hid] at hsame
    exact absurd hsame.symm (hname entry' hentry' h2).1
  · rw [h2, hid] at hsame
    exact absurd hsame (hname entry hentry h1).1
  · have hcolumn := (hname entry hentry h1).2
    rw [hsame, (hname entry' hentry' h2).2] at hcolumn
    exact (Value.text.inj hcolumn).symm

theorem IsStored.exists_load_store :
    ∃ data, load model true stored = .ok data ∧
      store model (Table.erase data model.idName) =
        .ok ((Table.erase stored idField).map (writtenBack model)) := by
  obtain ⟨loaded, hloads, hstores⟩ := exists_loaded hcolumns hstored.columns
    fun entry hentry hname => hempty (hname ▸ List.mem_map_of_mem hentry)
  have hloaded : (Table.keys loaded).Nodup := hstored.nodup_loaded hcolumns hempty hloads
  have hwritten : (Table.keys ((Table.erase stored idField).map (writtenBack model))).Nodup := by
    have hsame : Table.keys ((Table.erase stored idField).map (writtenBack model)) =
        Table.keys (Table.erase stored idField) := by
      simp [Table.keys, writtenBack]
    rw [hsame]
    exact hstored.erase.keys
  refine ⟨loaded, loadInto_eq_ok.mpr ⟨loaded, hloads, (Table.ofList_of_nodup hloaded).symm⟩, ?_⟩
  exact storeInto_eq_ok.mpr ⟨_, hstores, (Table.ofList_of_nodup hwritten).symm⟩

/-- A stored document is loaded, with or without its identifier, and what was loaded is stored as it
was: of a point its longitude and its latitude, and everything else as a whole. -/
theorem store_load (includeId : Bool) :
    ∃ data, load model includeId stored = .ok data ∧
      store model (Table.erase data model.idName) =
        .ok ((Table.erase stored idField).map (writtenBack model)) := by
  cases includeId with
  | true => exact hstored.exists_load_store hcolumns hempty
  | false =>
    have hfree : "" ∈ Table.keys (Table.erase stored idField) → model.propertyName "" = "" :=
      fun hmem => hempty (Table.mem_keys_erase.mp hmem).1
    obtain ⟨data, hdata, hback⟩ := hstored.erase.exists_load_store hcolumns hfree
    rw [Table.erase_erase] at hback
    exact ⟨data, (loadInto_hidden [] stored).trans hdata, hback⟩

end Documents

def top : Property :=
  .node { name := "top", kind := .geopoint, fieldName := .text "peak" } none none

def summit : Model := .ofSchema "Summit" [("top", top)] {}

/-- A stored summit, whose point has an altitude as well. -/
def matterhorn : Document :=
  [("peak", Filter.geoPoint [.int 7, .int 46, .int 4478]), (idField, .int 1)]

theorem mem_properties_summit {entry : String × Property} (h : entry ∈ summit.properties) :
    entry = ("top", top) ∨ entry = ("id", Model.generatedId) := by
  have hproperties : summit.properties = [("top", top), ("id", Model.generatedId)] := rfl
  simpa [hproperties] using h

theorem column_ne_idField_summit :
    ∀ entry ∈ summit.properties, entry.2.column ≠ .text idField := by
  intro entry hentry hcolumn
  rcases mem_properties_summit hentry with rfl | rfl <;>
    exact absurd (Value.text.inj hcolumn) (by decide)

theorem columnsApart_summit : summit.ColumnsApart where
  named entry hentry := by rcases mem_properties_summit hentry with rfl | rfl <;> rfl
  columns := by
    have hcolumns : summit.properties.map (fun entry => entry.2.column) =
        [.text "peak", .text "id"] := rfl
    simp [hcolumns]
  reserved entry hentry _ := column_ne_idField_summit entry hentry

theorem isStored_matterhorn : IsStored summit matterhorn := by
  refine ⟨by decide, ?_⟩
  intro entry hentry hid
  simp only [matterhorn, List.mem_cons, List.not_mem_nil, or_false] at hentry
  rcases hentry with rfl | rfl
  · refine ⟨"top", by decide, by decide, rfl, fun _ => .inr ⟨_, _, rfl, rfl, rfl, ?_⟩⟩
    exact ⟨by simp, _, rfl, by decide⟩
  · exact absurd rfl hid

theorem store_load_matterhorn :
    (summit.ColumnsApart ∧ IsStored summit matterhorn ∧
      ("" ∈ Table.keys matterhorn → summit.propertyName "" = "")) ∧
    ∃ data, load summit true matterhorn = .ok data ∧
      store summit (Table.erase data summit.idName) =
        .ok ((Table.erase matterhorn idField).map (writtenBack summit)) := by
  have hempty : "" ∈ Table.keys matterhorn → summit.propertyName "" = "" := fun _ => rfl
  exact ⟨⟨columnsApart_summit, isStored_matterhorn, hempty⟩,
    store_load columnsApart_summit isStored_matterhorn hempty true⟩

/-- The altitude of a summit is not written back. -/
theorem not_keeps_coordinates :
    ¬ ∀ (model : Model) (stored data back point written : Document) (column : String),
      model.ColumnsApart → (∀ entry ∈ model.properties, entry.2.column ≠ .text idField) →
      IsStored model stored → load model true stored = .ok data →
      store model (Table.erase data model.idName) = .ok back →
      Table.get? stored column = some (.doc point) → Table.get? back column = some (.doc written) →
      Table.get? written "coordinates" = Table.get? point "coordinates" := by
  intro hall
  have hkept := hall summit matterhorn
    [("top", .doc [("lat", .int 46), ("lng", .int 7)]), ("id", .int 1)]
    [("peak", Filter.geoPoint [.int 7, .int 46])] _ _ "peak" columnsApart_summit
    column_ne_idField_summit isStored_matterhorn rfl rfl rfl rfl
  simp [Table.get?] at hkept

end ModelStore.Storage
