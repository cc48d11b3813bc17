import ModelStore.Proofs.Storage.Loading
import ModelStore.Proofs.Table

/-!
Documents that can be loaded. Loading takes a longitude and a latitude out of each document that is
marked as a stored point, under the columns that lead to points. Storing lets two kinds of values
through from which it cannot: documents that were marked beforehand, and coordinates that are too
few. What was stored can be loaded unless one of these is left under such a column.
-/
namespace ModelStore.Storage

section Point

variable {v w : Value} {point : Document} {coordinates : List Value}

def HasPair (v : Value) : Prop :=
  (∀ entries, v ≠ .doc entries) ∧ ∃ items, v.elements = .ok items ∧ 2 ≤ items.length

/-- Marked as a stored point, without coordinates that hold a longitude and a latitude. -/
def IsHollow (v : Value) : Prop :=
  ∃ point, v = .doc point ∧ isGeoPoint point = true ∧
    ∀ given, Table.get? point "coordinates" = some given → ¬ HasPair given

/-- Not marked as a stored point, and given by fewer than two coordinates. -/
def IsShort (v : Value) : Prop :=
  ∃ point given items, v = .doc point ∧ isGeoPoint point = false ∧
    Table.get? point "coordinates" = some given ∧ given.elements = .ok items ∧ items.length < 2

theorem IsHollow.isMarked (h : IsHollow v) : IsMarked v := by
  obtain ⟨point, hv, hpoint, -⟩ := h
  exact ⟨point, hv, hpoint⟩

theorem IsShort.not_isMarked (h : IsShort v) : ¬ IsMarked v := by
  obtain ⟨point, given, items, rfl, hpoint, -⟩ := h
  intro hmarked
  obtain ⟨other, hother, hmarked⟩ := hmarked
  obtain rfl := Value.doc.inj hother
  rw [hpoint] at hmarked
  cases hmarked

theorem exists_firstElements_iff :
    (∃ lng lat, firstElements 2 v = .ok [lng, lat]) ↔ HasPair v := by
  by_cases hdoc : ∃ entries, v = .doc entries
  · obtain ⟨entries, rfl⟩ := hdoc
    constructor
    · intro h
      obtain ⟨lng, lat, h⟩ := h
      cases h
    · intro h
      exact absurd rfl (h.1 entries)
  · have hsequence : ∀ entries, v ≠ .doc entries := fun entries h => hdoc ⟨entries, h⟩
    constructor
    · intro h
      obtain ⟨lng, lat, h⟩ := h
      rw [firstElements_eq 2 hsequence] at h
      obtain ⟨items, hitems, htake⟩ := Result.bind_eq_ok.mp h
      refine ⟨hsequence, items, hitems, ?_⟩
      have hlength := congrArg List.length (Except.ok.inj htake)
      rw [List.length_take, List.length_cons, List.length_singleton] at hlength
      omega
    · intro h
      obtain ⟨-, items, hitems, hlength⟩ := h
      match items, hlength with
      | lng :: lat :: rest, _ => exact ⟨lng, lat, firstElements_eq_ok hsequence hitems⟩

theorem isHollow_marked_iff (hmarked : isGeoPoint point = true) :
    IsHollow (.doc point) ↔
      ∀ given, Table.get? point "coordinates" = some given → ¬ HasPair given := by
  constructor
  · intro h
    obtain ⟨other, hother, -, hgiven⟩ := h
    obtain rfl := Value.doc.inj hother
    exact hgiven
  · intro h
    exact ⟨point, rfl, hmarked, h⟩

theorem loadPoint_of_not_isMarked (h : ¬ IsMarked v) : loadPoint v = .ok v := by
  cases v with
  | doc point => exact if_neg fun hpoint => h ⟨point, rfl, hpoint⟩
  | _ => rfl

/-- A value can be loaded under a point unless it is hollow. -/
theorem exists_loadPoint_iff : (∃ shown, loadPoint v = .ok shown) ↔ ¬ IsHollow v := by
  by_cases hmarked : IsMarked v
  · obtain ⟨point, rfl, hpoint⟩ := hmarked
    rw [isHollow_marked_iff hpoint, loadPoint, if_pos hpoint]
    cases hgiven : Table.get? point "coordinates" with
    | none =>
      constructor
      · intro h
        obtain ⟨shown, h⟩ := h
        cases h
      · intro h
        refine absurd ?_ h
        intro given hnone
        cases hnone
    | some given =>
      have hpair : (∀ other, some given = some other → ¬ HasPair other) ↔ ¬ HasPair given := by
        simp
      rw [hpair, not_not, ← exists_firstElements_iff]
      constructor
      · intro h
        obtain ⟨shown, h⟩ := h
        obtain ⟨items, hitems, h⟩ := Result.bind_eq_ok.mp h
        split at h
        · exact ⟨_, _, hitems⟩
        · cases h
      · intro h
        obtain ⟨lng, lat, h⟩ := h
        refine ⟨.doc [("lat", lat), ("lng", lng)], ?_⟩
        dsimp only
        rw [h]
        rfl
  · exact iff_of_true ⟨v, loadPoint_of_not_isMarked hmarked⟩ fun hhollow => hmarked hhollow.isMarked

theorem isHollow_geoPoint_iff :
    IsHollow (Filter.geoPoint coordinates) ↔ coordinates.length < 2 := by
  have hpair : HasPair (.list coordinates) ↔ 2 ≤ coordinates.length := by
    constructor
    · intro h
      obtain ⟨-, items, hitems, hlength⟩ := h
      rw [Except.ok.inj hitems]
      exact hlength
    · intro h
      refine ⟨fun entries hlist => ?_, coordinates, rfl, h⟩
      cases hlist
  have hgiven : Table.get? [("type", Value.text "Point"), ("coordinates", .list coordinates)]
      "coordinates" = some (.list coordinates) := rfl
  rw [Filter.geoPoint, isHollow_marked_iff rfl, hgiven]
  simp [hpair]

/-- A point that is not given by coordinates has two of them. -/
theorem length_pointCoordinates
    (hv : ∀ point, v = .doc point → Table.get? point "coordinates" = none)
    (h : Filter.pointCoordinates v = .ok coordinates) : coordinates.length = 2 := by
  revert h
  fun_cases Filter.pointCoordinates v
  case case1 point given hgiven =>
    rw [hv point rfl] at hgiven
    cases hgiven
  case case2 | case4 | case6 | case8 =>
    intro h
    rw [← Except.ok.inj h]
    rfl
  case case3 | case5 | case7 | case9 =>
    intro h
    cases h

/-- Of what is not marked as a stored point only short documents have fewer coordinates than two. -/
theorem length_pointCoordinates_lt_iff (hmarked : ¬ IsMarked v)
    (h : Filter.pointCoordinates v = .ok coordinates) : coordinates.length < 2 ↔ IsShort v := by
  by_cases hv : ∃ point given, v = .doc point ∧ Table.get? point "coordinates" = some given
  · obtain ⟨point, given, rfl, hgiven⟩ := hv
    have helements : given.elements = .ok coordinates := by
      rw [Filter.pointCoordinates, hgiven] at h
      exact h
    have hpoint : isGeoPoint point = false :=
      Bool.eq_false_iff.mpr fun hpoint => hmarked ⟨point, rfl, hpoint⟩
    constructor
    · intro hlength
      exact ⟨point, given, coordinates, rfl, hpoint, hgiven, helements, hlength⟩
    · intro hshort
      obtain ⟨other, given', items, hother, -, hgiven', hitems, hlength⟩ := hshort
      obtain rfl := Value.doc.inj hother
      obtain rfl := Option.some.inj (hgiven.symm.trans hgiven')
      rw [Except.ok.inj (helements.symm.trans hitems)]
      exact hlength
  · have hlength : coordinates.length = 2 := by
      refine length_pointCoordinates (fun point hpoint => ?_) h
      rw [Option.eq_none_iff_forall_ne_some]
      exact fun given hgiven => hv ⟨point, given, hpoint, hgiven⟩
    constructor
    · intro hshort
      omega
    · intro hshort
      obtain ⟨point, given, -, hpoint, -, hgiven, -⟩ := hshort
      exact absurd ⟨point, given, hpoint, hgiven⟩ hv

/-- Storing a point leaves it hollow if it was, and makes it so if its coordinates are too few. -/
theorem isHollow_storePoint_iff (h : storePoint v = .ok w) :
    IsHollow w ↔ IsHollow v ∨ IsShort v := by
  by_cases hmarked : IsMarked v
  · rw [or_iff_left fun hshort => hshort.not_isMarked hmarked]
    obtain ⟨point, rfl, hpoint⟩ := hmarked
    rw [storePoint, if_pos hpoint] at h
    rw [Except.ok.inj h]
  · have hfull : ¬ IsHollow v := fun hhollow => hmarked hhollow.isMarked
    rw [or_iff_right hfull]
    by_cases hnull : v = .null
    · subst hnull
      obtain rfl := Except.ok.inj h
      have hlong : ¬ IsShort .null := by
        intro hshort
        obtain ⟨point, given, items, hpoint, -⟩ := hshort
        cases hpoint
      exact iff_of_false hfull hlong
    · rw [storePoint_eq hnull hmarked] at h
      obtain ⟨coordinates, hcoordinates, h⟩ := Result.bind_eq_ok.mp h
      obtain rfl := Except.ok.inj h
      rw [isHollow_geoPoint_iff, length_pointCoordinates_lt_iff hmarked hcoordinates]

end Point

variable {model : Model} {entries stored data : Document} {v w : Value} {key column : String}

theorem isHollow_storeValue_iff (h : storeValue model key v = .ok w) :
    IsHollow w ↔ IsHollow v ∨ (isPoint model key = true ∧ IsShort v) := by
  unfold storeValue at h
  split_ifs at h with hkind
  · simp only [isHollow_storePoint_iff h, hkind, true_and]
  · rw [Except.ok.inj h]
    simp only [hkind, false_and, or_false, Bool.false_eq_true]

theorem exists_loadValue_iff :
    (∃ shown, loadValue model key v = .ok shown) ↔ (isPoint model key = true → ¬ IsHollow v) := by
  unfold loadValue
  split_ifs with hkind
  · simp only [exists_loadPoint_iff, hkind, true_implies]
  · simp [hkind]

theorem exists_loadInto_iff (includeId : Bool) (into : Document) :
    (∃ data, loadInto model includeId into stored = .ok data) ↔
      ∀ entry ∈ stored, entry.1 ≠ idField →
        isPoint model (model.propertyName entry.1) = true → ¬ IsHollow entry.2 := by
  induction stored generalizing into with
  | nil => simp [loadInto]
  | cons entry rest ih =>
    obtain ⟨column, v⟩ := entry
    rw [List.forall_mem_cons]
    by_cases hid : column = idField
    · rw [loadInto, if_pos hid, ih]
      simp [hid]
    · rw [loadInto_cons_of_ne hid, ← exists_loadValue_iff]
      constructor
      · intro h
        obtain ⟨data, h⟩ := h
        obtain ⟨shown, hshown, h⟩ := Result.bind_eq_ok.mp h
        exact ⟨fun _ => ⟨shown, hshown⟩, (ih _).mp ⟨data, h⟩⟩
      · intro h
        obtain ⟨shown, hshown⟩ := h.1 hid
        obtain ⟨data, h⟩ := (ih (Table.insert into (model.propertyName column) shown)).mpr h.2
        exact ⟨data, Result.bind_eq_ok.mpr ⟨shown, hshown, h⟩⟩

/-- The entry decides what is stored under the column: no later one has the same column. -/
def Remains (model : Model) (entries : Document) (entry : String × Value) (column : String) :
    Prop :=
  ∃ before after, entries = before ++ entry :: after ∧ model.columnName entry.1 = .text column ∧
    ∀ later ∈ after, model.columnName later.1 ≠ .text column

theorem Remains.mem {entry : String × Value} (h : Remains model entries entry column) :
    entry ∈ entries := by
  obtain ⟨before, after, rfl, -⟩ := h
  simp

theorem exists_storeValue {entry : String × Value} (h : store model entries = .ok stored)
    (hentry : entry ∈ entries) : ∃ w, storeValue model entry.1 entry.2 = .ok w := by
  obtain ⟨all, hall, -⟩ := storeInto_eq_ok.mp h
  obtain ⟨written, -, hstores⟩ := Result.exists_of_forall₂ hall hentry
  exact ⟨written.2, hstores.1⟩

/-- What is found under a column was stored of the entry that remains there. -/
theorem mem_store_iff (h : store model entries = .ok stored) (written : String × Value) :
    written ∈ stored ↔ ∃ entry, Remains model entries entry written.1 ∧
      storeValue model entry.1 entry.2 = .ok written.2 := by
  obtain ⟨all, hall, rfl⟩ := storeInto_eq_ok.mp h
  have hmem : written ∈ Table.ofList all ↔
      ∃ entry, Table.IsLast (fun entry => model.columnName entry.1) entries entry ∧
        Stores model entry written :=
    Table.mem_ofList_iff_isLast (fun _ _ htext => Value.text.inj htext)
      (fun _ _ hstores => hstores.2) (fun _ _ _ hstores => hstores.unique) hall
  refine hmem.trans (exists_congr fun entry => ?_)
  constructor
  · rintro ⟨⟨before, after, hsplit, hlast⟩, hvalue, hcolumn⟩
    exact ⟨⟨before, after, hsplit, hcolumn, hcolumn ▸ hlast⟩, hvalue⟩
  · rintro ⟨⟨before, after, hsplit, hcolumn, hlast⟩, hvalue⟩
    rw [← hcolumn] at hlast
    exact ⟨⟨before, after, hsplit, hlast⟩, hvalue, hcolumn⟩

/-- Something is left under the column of a point that cannot be loaded there. -/
def IsUnreadable (model : Model) (entries : Document) : Prop :=
  ∃ entry column, Remains model entries entry column ∧ column ≠ idField ∧
    isPoint model (model.propertyName column) = true ∧
    (IsHollow entry.2 ∨ (isPoint model entry.1 = true ∧ IsShort entry.2))

/-- What was stored can be loaded with any identifier, whether that is shown or not, unless it is
unreadable. -/
theorem exists_load_store_iff (hstored : store model entries = .ok stored) {id : Value}
    {found : Document} (hfound : found.Perm (Table.insert stored idField id)) (includeId : Bool) :
    (∃ data, load model includeId found = .ok data) ↔ ¬ IsUnreadable model entries := by
  have hkeys : (Table.keys stored).Nodup := by
    obtain ⟨all, -, rfl⟩ := storeInto_eq_ok.mp hstored
    exact Table.nodup_keys_ofList all
  rw [load, exists_loadInto_iff]
  constructor
  · intro hreadable hunreadable
    -- The identifier takes the place of nothing else, so what remains is still there.
    obtain ⟨entry, column, hremains, hother, hkind, hbad⟩ := hunreadable
    obtain ⟨w, hvalue⟩ := exists_storeValue hstored hremains.mem
    have hwritten : (column, w) ∈ stored := (mem_store_iff hstored _).mpr ⟨entry, hremains, hvalue⟩
    have hleft : (column, w) ∈ found :=
      hfound.mem_iff.mpr ((Table.mem_insert hkeys).mpr (.inr ⟨hwritten, hother⟩))
    exact hreadable (column, w) hleft hother hkind ((isHollow_storeValue_iff hvalue).mpr hbad)
  · intro hunreadable written hwritten hother hkind hhollow
    rw [hfound.mem_iff, Table.mem_insert hkeys] at hwritten
    rcases hwritten with rfl | ⟨hwritten, -⟩
    · exact hother rfl
    · obtain ⟨entry, hremains, hvalue⟩ := (mem_store_iff hstored written).mp hwritten
      exact hunreadable ⟨entry, written.1, hremains, hother, hkind,
        (isHollow_storeValue_iff hvalue).mp hhollow⟩

end ModelStore.Storage
