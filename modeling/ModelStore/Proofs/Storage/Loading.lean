import ModelStore.Proofs.Schema.Columns
import ModelStore.Proofs.Storage
import Mathlib.Data.List.Perm.Basic

/-!
Loading what was stored. Both go entry by entry, so where columns lead back to their properties a
document is loaded with the keys it was stored with. Points come back with their latitude and
longitude, unless a document is only marked as a stored point and has no coordinates that could be
taken apart.
-/
namespace ModelStore.Storage

variable {model : Model} {entries stored data : Document} {v w : Value}

def Stores (model : Model) (entry after : String × Value) : Prop :=
  storeValue model entry.1 entry.2 = .ok after.2 ∧ model.columnName entry.1 = .text after.1

theorem Stores.unique {entry after other : String × Value} (h : Stores model entry after)
    (h' : Stores model entry other) : after = other :=
  Prod.ext (Value.text.inj (h.2.symm.trans h'.2)) (Except.ok.inj (h.1.symm.trans h'.1))

theorem storeInto_eq_ok {into : Document} :
    storeInto model into entries = .ok stored ↔
      ∃ written, List.Forall₂ (Stores model) entries written ∧
        stored = Table.merge into written := by
  induction entries generalizing into with
  | nil =>
    constructor
    · intro h
      exact ⟨[], .nil, (Except.ok.inj h).symm⟩
    · intro h
      obtain ⟨written, hwritten, rfl⟩ := h
      cases hwritten
      rfl
  | cons entry rest ih =>
    rw [storeInto_cons_eq_ok]
    constructor
    · intro h
      obtain ⟨w, column, hw, hcolumn, h⟩ := h
      obtain ⟨written, hwritten, rfl⟩ := ih.mp h
      exact ⟨(column, w) :: written, .cons ⟨hw, hcolumn⟩ hwritten, rfl⟩
    · intro h
      obtain ⟨written, hwritten, rfl⟩ := h
      obtain ⟨after, tail, hafter, htail, rfl⟩ := List.forall₂_cons_left_iff.mp hwritten
      exact ⟨after.2, after.1, hafter.1, hafter.2, ih.mpr ⟨tail, htail, rfl⟩⟩

def loadValue (model : Model) (prop : String) (v : Value) : Result Value :=
  if isPoint model prop then loadPoint v else .ok v

def Loads (model : Model) (entry after : String × Value) : Prop :=
  if entry.1 = idField then after = (model.idName, entry.2)
  else after.1 = model.propertyName entry.1 ∧ loadValue model after.1 entry.2 = .ok after.2

theorem loadInto_cons_of_ne {includeId : Bool} {into : Document} {column : String}
    (h : column ≠ idField) :
    loadInto model includeId into ((column, v) :: entries) =
      loadValue model (model.propertyName column) v >>= fun w =>
        loadInto model includeId (Table.insert into (model.propertyName column) w) entries := by
  rw [loadInto, if_neg h, loadValue]
  dsimp only
  split <;> rfl

theorem loadInto_cons_eq_ok {into : Document} {entry : String × Value} :
    loadInto model true into (entry :: entries) = .ok data ↔
      ∃ after, Loads model entry after ∧
        loadInto model true (Table.insert into after.1 after.2) entries = .ok data := by
  obtain ⟨column, v⟩ := entry
  by_cases hid : column = idField
  · have hstep : loadInto model true into ((column, v) :: entries) =
        loadInto model true (Table.insert into model.idName v) entries := by
      rw [loadInto, if_pos hid]
      rfl
    rw [hstep]
    simp [Loads, hid]
  · rw [loadInto_cons_of_ne hid, Result.bind_eq_ok]
    simp only [Loads, hid, if_false]
    constructor
    · intro h
      obtain ⟨w, hw, h⟩ := h
      exact ⟨(model.propertyName column, w), ⟨rfl, hw⟩, h⟩
    · intro h
      obtain ⟨⟨_, w⟩, ⟨rfl, hw⟩, h⟩ := h
      exact ⟨w, hw, h⟩

theorem loadInto_eq_ok {into : Document} :
    loadInto model true into entries = .ok data ↔
      ∃ loaded, List.Forall₂ (Loads model) entries loaded ∧ data = Table.merge into loaded := by
  induction entries generalizing into with
  | nil =>
    constructor
    · intro h
      exact ⟨[], .nil, (Except.ok.inj h).symm⟩
    · intro h
      obtain ⟨loaded, hloaded, rfl⟩ := h
      cases hloaded
      rfl
  | cons entry rest ih =>
    rw [loadInto_cons_eq_ok]
    constructor
    · intro h
      obtain ⟨after, hafter, h⟩ := h
      obtain ⟨loaded, hloaded, rfl⟩ := ih.mp h
      exact ⟨after :: loaded, .cons hafter hloaded, rfl⟩
    · intro h
      obtain ⟨loaded, hloaded, rfl⟩ := h
      obtain ⟨after, tail, hafter, htail, rfl⟩ := List.forall₂_cons_left_iff.mp hloaded
      exact ⟨after, hafter, ih.mpr ⟨tail, htail, rfl⟩⟩

section Point

/-- Latitude and longitude of a point in any form that is accepted; other values are kept. -/
def latLng (v : Value) : Value :=
  match Filter.pointCoordinates v with
  | .ok [lng, lat] => .doc [("lat", lat), ("lng", lng)]
  | _ => v

def IsPointValue (v : Value) : Prop :=
  v = .null ∨ ∃ lng lat, Filter.pointCoordinates v = .ok [lng, lat]

/-- A document that is marked as a stored point has coordinates, and these are no document. -/
def HasCoordinates (v : Value) : Prop :=
  ∀ point, v = .doc point → isGeoPoint point = true →
    ∃ coordinates, Table.get? point "coordinates" = some coordinates ∧
      ∀ entries, coordinates ≠ .doc entries

theorem loadPoint_geoPoint (lng lat : Value) :
    loadPoint (Filter.geoPoint [lng, lat]) = .ok (.doc [("lat", lat), ("lng", lng)]) := rfl

theorem firstElements_eq (count : Nat) (hv : ∀ entries, v ≠ .doc entries) :
    firstElements count v = v.elements >>= fun items => .ok (items.take count) := by
  cases v with
  | doc entries => exact absurd rfl (hv entries)
  | _ => rfl

theorem firstElements_eq_ok {count : Nat} {items : List Value} (hv : ∀ entries, v ≠ .doc entries)
    (hitems : v.elements = .ok items) : firstElements count v = .ok (items.take count) := by
  rw [firstElements_eq count hv, hitems]
  rfl

theorem loadPoint_marked_eq_ok_iff {point : Document} {lng lat : Value}
    (hmarked : isGeoPoint point = true)
    (hpoint : Filter.pointCoordinates (.doc point) = .ok [lng, lat]) (shown : Value) :
    loadPoint (.doc point) = .ok shown ↔
      HasCoordinates (.doc point) ∧ shown = .doc [("lat", lat), ("lng", lng)] := by
  rw [loadPoint, if_pos hmarked]
  cases hcoordinates : Table.get? point "coordinates" with
  | none =>
    constructor
    · intro h
      cases h
    · intro h
      obtain ⟨coordinates, hsome, -⟩ := h.1 point rfl hmarked
      rw [hcoordinates] at hsome
      cases hsome
  | some coordinates =>
    rw [Filter.pointCoordinates, hcoordinates] at hpoint
    dsimp only at hpoint ⊢
    by_cases hdoc : ∃ entries, coordinates = .doc entries
    · obtain ⟨entries, rfl⟩ := hdoc
      constructor
      · intro h
        cases h
      · intro h
        obtain ⟨_, hsome, hnone⟩ := h.1 point rfl hmarked
        rw [hcoordinates] at hsome
        exact absurd (Option.some.inj hsome).symm (hnone entries)
    · have hsequence : ∀ entries, coordinates ≠ .doc entries := fun entries h => hdoc ⟨entries, h⟩
      rw [firstElements_eq_ok hsequence hpoint]
      constructor
      · intro h
        refine ⟨?_, (Except.ok.inj h).symm⟩
        intro point' hpoint' _
        obtain rfl := Value.doc.inj hpoint'
        exact ⟨coordinates, hcoordinates, hsequence⟩
      · intro h
        rw [h.2]
        rfl

def IsMarked (v : Value) : Prop := ∃ point, v = .doc point ∧ isGeoPoint point = true

/-- What is set and not marked as a stored point is rewritten to the stored form. -/
theorem storePoint_eq (hnull : v ≠ .null) (hmarked : ¬ IsMarked v) :
    storePoint v =
      Filter.pointCoordinates v >>= fun coordinates => .ok (Filter.geoPoint coordinates) := by
  cases v with
  | null => exact absurd rfl hnull
  | doc point => rw [storePoint, if_neg fun hpoint => hmarked ⟨point, rfl, hpoint⟩]
  | _ => rfl

/-- A stored point is loaded as its latitude and longitude, if it has coordinates. -/
theorem loadPoint_eq_ok_iff (hv : IsPointValue v) (hstored : storePoint v = .ok w) (shown : Value) :
    loadPoint w = .ok shown ↔ HasCoordinates v ∧ shown = latLng v := by
  rcases hv with rfl | ⟨lng, lat, hpoint⟩
  · obtain rfl := Except.ok.inj hstored
    have hcoordinates : HasCoordinates .null := by
      intro point hnull
      cases hnull
    simp [loadPoint, latLng, hcoordinates, Filter.pointCoordinates, Value.member?, eq_comm]
  · have hlatLng : latLng v = .doc [("lat", lat), ("lng", lng)] := by rw [latLng, hpoint]
    rw [hlatLng]
    by_cases hmarked : IsMarked v
    · obtain ⟨point, rfl, hmarked⟩ := hmarked
      rw [storePoint, if_pos hmarked] at hstored
      obtain rfl := Except.ok.inj hstored
      exact loadPoint_marked_eq_ok_iff hmarked hpoint shown
    · have hcoordinates : HasCoordinates v := by
        intro point hv hpoint
        exact absurd ⟨point, hv, hpoint⟩ hmarked
      have hnull : v ≠ .null := by
        rintro rfl
        simp [Filter.pointCoordinates, Value.member?] at hpoint
      rw [storePoint_eq hnull hmarked, hpoint] at hstored
      obtain rfl : Filter.geoPoint [lng, lat] = w := Except.ok.inj hstored
      rw [loadPoint_geoPoint]
      simp [hcoordinates, eq_comm]

end Point

section RoundTrip

variable {key column : String}

def shown (model : Model) (entry : String × Value) : String × Value :=
  (entry.1, if isPoint model entry.1 then latLng entry.2 else entry.2)

/-- The entry comes back: its column leads back to its key, and a point has coordinates. -/
structure ReadsBack (model : Model) (entry : String × Value) : Prop where
  column : model.columnName entry.1 = .text "" → model.propertyName "" = entry.1
  point : isPoint model entry.1 = true → HasCoordinates entry.2

variable {entry written loaded : String × Value}

theorem Stores.column_ne_idField (h : Stores model entry written) (hcolumns : model.ColumnsApart)
    (hkey : entry.1 ∈ Table.keys model.properties) (hid : entry.1 ≠ model.idName) :
    written.1 ≠ idField := by
  intro hcolumn
  exact hcolumns.columnName_ne_idField hkey hid (hcolumn ▸ h.2)

/-- A column leads back to the key exactly if it is not empty, or leads back as an empty one. -/
theorem Stores.propertyName_iff (h : Stores model entry written) (hcolumns : model.ColumnsApart)
    (hkey : entry.1 ∈ Table.keys model.properties) :
    model.propertyName written.1 = entry.1 ↔
      (model.columnName entry.1 = .text "" → model.propertyName "" = entry.1) := by
  rw [h.2]
  by_cases hset : written.1 = ""
  · simp [hset]
  · have hback := hcolumns.propertyName_column hkey h.2 hset
    simp [hset, hback]

/-- An entry is loaded under its own key, with the value that the model sees again, exactly if it
comes back. -/
theorem Stores.loads_shown_iff (h : Stores model entry written) (hcolumns : model.ColumnsApart)
    (hkey : entry.1 ∈ Table.keys model.properties) (hid : entry.1 ≠ model.idName)
    (hpoint : isPoint model entry.1 = true → IsPointValue entry.2) :
    Loads model written (shown model entry) ↔ ReadsBack model entry := by
  have hloads : Loads model written (shown model entry) ↔
      entry.1 = model.propertyName written.1 ∧
        loadValue model entry.1 written.2 = .ok (shown model entry).2 := by
    rw [Loads, if_neg (h.column_ne_idField hcolumns hkey hid)]
    exact Iff.rfl
  have hvalue : loadValue model entry.1 written.2 = .ok (shown model entry).2 ↔
      (isPoint model entry.1 = true → HasCoordinates entry.2) := by
    have hstored := h.1
    unfold storeValue at hstored
    unfold loadValue shown
    split_ifs at hstored ⊢ with hkind
    · rw [loadPoint_eq_ok_iff (hpoint hkind) hstored]
      simp [hkind]
    · simp [hkind, (Except.ok.inj hstored).symm]
  rw [hloads, hvalue, eq_comm, h.propertyName_iff hcolumns hkey]
  exact ⟨fun hback => ⟨hback.1, hback.2⟩, fun hback => ⟨hback.1, hback.2⟩⟩

/-- Whatever an entry is loaded as, it comes back if it is loaded under its own key. -/
theorem Stores.readsBack (h : Stores model entry written) (hcolumns : model.ColumnsApart)
    (hkey : entry.1 ∈ Table.keys model.properties) (hid : entry.1 ≠ model.idName)
    (hpoint : isPoint model entry.1 = true → IsPointValue entry.2)
    (hloads : Loads model written loaded) (hback : model.propertyName written.1 = entry.1) :
    ReadsBack model entry := by
  refine ⟨(h.propertyName_iff hcolumns hkey).mp hback, ?_⟩
  intro hkind
  rw [Loads, if_neg (h.column_ne_idField hcolumns hkey hid), hback] at hloads
  have hvalue := hloads.2
  have hstored := h.1
  rw [loadValue, hloads.1, if_pos hkind] at hvalue
  rw [storeValue, if_pos hkind] at hstored
  exact ((loadPoint_eq_ok_iff (hpoint hkind) hstored _).mp hvalue).1

/-- An entry that something stored is loaded under has a column that leads back to its key: that
is its own column, or the empty one. -/
theorem Stores.propertyName_of_loads {other stored : String × Value}
    (h : Stores model entry written) (h' : Stores model other stored)
    (hcolumns : model.ColumnsApart)
    (hkey : entry.1 ∈ Table.keys model.properties) (hkey' : other.1 ∈ Table.keys model.properties)
    (hid' : other.1 ≠ model.idName) (hloads : Loads model stored loaded)
    (hname : loaded.1 = entry.1) : model.propertyName written.1 = entry.1 := by
  have hback : model.propertyName stored.1 = entry.1 := by
    rw [Loads, if_neg (h'.column_ne_idField hcolumns hkey' hid')] at hloads
    rw [← hloads.1, hname]
  by_cases hset : stored.1 = ""
  · rw [hset] at hback
    exact (h.propertyName_iff hcolumns hkey).mpr fun _ => hback
  · have hsame : other.1 = entry.1 :=
      (hcolumns.propertyName_column hkey' h'.2 hset).symm.trans hback
    have hcolumn : written.1 = stored.1 := by
      have hstored := h'.2
      rw [hsame, h.2] at hstored
      exact Value.text.inj hstored
    rw [hcolumn, hback]

end RoundTrip

section Documents

variable (hcolumns : model.ColumnsApart)

/-- Data over declared properties without the identifier, whose points are points. -/
structure IsPayload (model : Model) (entries : Document) : Prop where
  keys : (Table.keys entries).Nodup
  declared : ∀ entry ∈ entries, entry.1 ∈ Table.keys model.properties
  ne_idName : ∀ entry ∈ entries, entry.1 ≠ model.idName
  points : ∀ entry ∈ entries, isPoint model entry.1 = true → IsPointValue entry.2

variable {written : Document}

include hcolumns

theorem nodup_keys_written (hkeys : (Table.keys entries).Nodup)
    (hdeclared : ∀ entry ∈ entries, entry.1 ∈ Table.keys model.properties)
    (h : List.Forall₂ (Stores model) entries written) : (Table.keys written).Nodup := by
  induction h with
  | nil => exact List.nodup_nil
  | @cons entry after rest tail hentry htail ih =>
    have hfresh : entry.1 ∉ Table.keys rest := (List.nodup_cons.mp hkeys).1
    refine List.nodup_cons.mpr ⟨?_, ih (List.nodup_cons.mp hkeys).2 fun e he =>
      hdeclared e (List.mem_cons_of_mem _ he)⟩
    intro hmem
    obtain ⟨other, hother, hcolumn⟩ := List.mem_map.mp hmem
    obtain ⟨e, he, hstores⟩ := Result.exists_of_forall₂ htail.flip hother
    have hsame : entry.1 = e.1 := by
      refine Model.columnName_inj hcolumns.columns (hdeclared entry List.mem_cons_self)
        (hdeclared e (List.mem_cons_of_mem _ he)) ?_
      rw [hentry.2, hstores.2, hcolumn]
    exact hfresh (hsame ▸ List.mem_map_of_mem he)

/-- The stored payload with its identifier: one entry for each of the payload, and one more. -/
theorem insert_store_eq (hpayload : IsPayload model entries)
    (hstored : store model entries = .ok stored) :
    ∃ written, List.Forall₂ (Stores model) entries written ∧
      ∀ id, Table.insert stored idField id = written ++ [(idField, id)] := by
  obtain ⟨written, hwritten, hmerged⟩ := storeInto_eq_ok.mp hstored
  obtain rfl : stored = written := by
    rw [hmerged]
    exact Table.ofList_of_nodup
      (nodup_keys_written hcolumns hpayload.keys hpayload.declared hwritten)
  refine ⟨stored, hwritten, fun id => Table.insert_of_not_mem id ?_⟩
  intro hmem
  obtain ⟨after, hafter, hcolumn⟩ := List.mem_map.mp hmem
  obtain ⟨entry, hentry, hstores⟩ := Result.exists_of_forall₂ hwritten.flip hafter
  have hother : after.1 ≠ idField := Stores.column_ne_idField hstores hcolumns
    (hpayload.declared entry hentry) (hpayload.ne_idName entry hentry)
  exact hother hcolumn

theorem forall₂_loads_iff (hpayload : IsPayload model entries)
    (h : List.Forall₂ (Stores model) entries written) :
    List.Forall₂ (Loads model) written (entries.map (shown model)) ↔
      ∀ entry ∈ entries, ReadsBack model entry := by
  obtain ⟨-, hdeclared, hid, hpoints⟩ := hpayload
  induction h with
  | nil => simp
  | @cons entry after rest tail hentry _ ih =>
    have hhead := hentry.loads_shown_iff hcolumns (hdeclared entry List.mem_cons_self)
      (hid entry List.mem_cons_self) (hpoints entry List.mem_cons_self)
    rw [List.map_cons, List.forall₂_cons, hhead, List.forall_mem_cons, ih]
    · exact fun e he => hdeclared e (List.mem_cons_of_mem _ he)
    · exact fun e he => hid e (List.mem_cons_of_mem _ he)
    · exact fun e he => hpoints e (List.mem_cons_of_mem _ he)

omit hcolumns in
theorem keys_shown (entries : Document) :
    (entries.map (shown model)).map Prod.fst = Table.keys entries := by
  rw [List.map_map]
  rfl

omit hcolumns in
theorem loads_id (id : Value) : Loads model (idField, id) (model.idName, id) := by
  simp [Loads]

/-- A stored payload in which every entry comes back is loaded as it was, with its points as the
model sees them. -/
theorem load_of_readsBack (hpayload : IsPayload model entries)
    (hstored : store model entries = .ok stored) {id : Value} {found : Document}
    (hfound : found.Perm (Table.insert stored idField id))
    (hback : ∀ entry ∈ entries, ReadsBack model entry) :
    ∃ data, load model true found = .ok data ∧
      data.Perm ((model.idName, id) :: entries.map (shown model)) := by
  obtain ⟨written, hwritten, hinsert⟩ := insert_store_eq hcolumns hpayload hstored
  rw [hinsert id] at hfound
  have hloads : List.Forall₂ (Loads model) (written ++ [(idField, id)])
      (entries.map (shown model) ++ [(model.idName, id)]) :=
    List.rel_append ((forall₂_loads_iff hcolumns hpayload hwritten).mpr hback)
      (.cons (loads_id id) .nil)
  obtain ⟨loaded, hloaded, hperm⟩ := List.perm_comp_forall₂ hfound hloads
  have hexpected : (entries.map (shown model) ++ [(model.idName, id)]).Perm
      ((model.idName, id) :: entries.map (shown model)) := List.perm_append_singleton _ _
  have hkeys : (Table.keys loaded).Nodup := by
    refine ((hperm.trans hexpected).map Prod.fst).nodup_iff.mpr ?_
    rw [List.map_cons, keys_shown]
    refine List.nodup_cons.mpr ⟨?_, hpayload.keys⟩
    intro hmem
    obtain ⟨entry, hentry, hname⟩ := List.mem_map.mp hmem
    exact hpayload.ne_idName entry hentry hname
  refine ⟨loaded, loadInto_eq_ok.mpr ⟨loaded, hloaded, ?_⟩, hperm.trans hexpected⟩
  exact (Table.ofList_of_nodup hkeys).symm

/-- If a stored payload is loaded as it was, every entry of it comes back. -/
theorem readsBack_of_load (hpayload : IsPayload model entries)
    (hstored : store model entries = .ok stored) {id : Value} {found : Document}
    (hfound : found.Perm (Table.insert stored idField id)) {data : Document}
    (hload : load model true found = .ok data)
    (hdata : data.Perm ((model.idName, id) :: entries.map (shown model))) :
    ∀ entry ∈ entries, ReadsBack model entry := by
  obtain ⟨written, hwritten, hinsert⟩ := insert_store_eq hcolumns hpayload hstored
  rw [hinsert id] at hfound
  obtain ⟨loaded, hloaded, rfl⟩ := loadInto_eq_ok.mp hload
  intro entry hentry
  obtain ⟨w, hw, hstores⟩ := Result.exists_of_forall₂ hwritten hentry
  obtain ⟨after, -, hafter⟩ :=
    Result.exists_of_forall₂ hloaded (hfound.mem_iff.mpr (List.mem_append_left _ hw))
  have hdeclared := hpayload.declared entry hentry
  have hid := hpayload.ne_idName entry hentry
  refine Stores.readsBack hstores hcolumns hdeclared hid (hpayload.points entry hentry) hafter ?_
  have hkey : entry.1 ∈ Table.keys (Table.ofList loaded) := by
    refine (hdata.map Prod.fst).mem_iff.mpr (List.mem_cons_of_mem _ ?_)
    rw [keys_shown]
    exact List.mem_map_of_mem hentry
  obtain ⟨last, hlast, hname⟩ := List.mem_map.mp (Table.mem_keys_of_ofList hkey)
  obtain ⟨u, hu, hloads⟩ := Result.exists_of_forall₂ hloaded.flip hlast
  rcases List.mem_append.mp (hfound.mem_iff.mp hu) with hu | hu
  · obtain ⟨other, hother, hstores'⟩ := Result.exists_of_forall₂ hwritten.flip hu
    exact Stores.propertyName_of_loads hstores hstores' hcolumns hdeclared
      (hpayload.declared other hother) (hpayload.ne_idName other hother) hloads hname
  · obtain rfl := List.mem_singleton.mp hu
    have hloads' : Loads model (idField, id) last := hloads
    rw [Loads, if_pos rfl] at hloads'
    rw [hloads'] at hname
    exact absurd hname.symm hid

end Documents
end ModelStore.Storage
