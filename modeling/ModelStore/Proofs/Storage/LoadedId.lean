import ModelStore.Proofs.Storage.Loading

/-!
The identifier of a loaded document. Loading writes the stored identifier under its name in the same
run that writes every other column under the name of its property, so the last of them that goes by
the name of the identifier is what is found there. Hiding the identifier leaves out its own column,
but not the others that lead back to its name.
-/
namespace ModelStore.Storage

variable {model : Model} {stored data : Document} {id : Value} {includeId : Bool}

def loadedName (model : Model) (column : String) : String :=
  if column = idField then model.idName else model.propertyName column

theorem loadedName_of_ne {column : String} (h : column ≠ idField) :
    loadedName model column = model.propertyName column := if_neg h

section Entries

variable {entry after other : String × Value}

theorem Loads.name (h : Loads model entry after) : loadedName model entry.1 = after.1 := by
  rw [Loads] at h
  unfold loadedName
  split_ifs at h ⊢
  · rw [h]
  · exact h.1.symm

theorem Loads.unique (h : Loads model entry after) (h' : Loads model entry other) :
    after = other := by
  rw [Loads] at h h'
  split_ifs at h h'
  · rw [h, h']
  · have hname : after.1 = other.1 := h.1.trans h'.1.symm
    have hvalue := h.2
    rw [hname, h'.2] at hvalue
    exact Prod.ext hname (Except.ok.inj hvalue).symm

theorem loads_idName_iff (h : entry.1 ≠ idField) :
    Loads model entry (model.idName, id) ↔
      model.propertyName entry.1 = model.idName ∧
        loadValue model model.idName entry.2 = .ok id := by
  rw [Loads, if_neg h, eq_comm]

end Entries

/-- Hiding the identifier is loading the document without its column. -/
theorem loadInto_hidden (into : Document) (entries : List (String × Value)) :
    loadInto model false into entries = loadInto model true into (Table.erase entries idField) := by
  induction entries generalizing into with
  | nil => rfl
  | cons entry rest ih =>
    obtain ⟨column, v⟩ := entry
    by_cases hid : column = idField
    · rw [loadInto, if_pos hid, Table.erase_cons_of_eq rest hid]
      exact ih into
    · rw [Table.erase_cons_of_ne rest hid, loadInto_cons_of_ne hid, loadInto_cons_of_ne hid]
      exact bind_congr fun w => ih _

/-- A loaded document holds what the last columns of their names are loaded as. -/
theorem mem_load_iff (h : load model true stored = .ok data) {entry : String × Value} :
    entry ∈ data ↔ ∃ column, Table.IsLast (fun entry => loadedName model entry.1) stored column ∧
      Loads model column entry := by
  obtain ⟨loaded, hloaded, rfl⟩ := loadInto_eq_ok.mp h
  exact Table.mem_ofList_iff_isLast (fun _ _ hname => hname) (fun _ _ hloads => hloads.name)
    (fun _ _ _ hloads hloads' => hloads.unique hloads') hloaded

theorem nodup_keys_load (h : load model true stored = .ok data) : (Table.keys data).Nodup := by
  obtain ⟨loaded, -, rfl⟩ := loadInto_eq_ok.mp h
  exact Table.nodup_keys_ofList loaded

theorem get?_load_iff (h : load model true stored = .ok data) {key : String} {v : Value} :
    Table.get? data key = some v ↔
      ∃ column, Table.IsLast (fun entry => loadedName model entry.1) stored column ∧
        Loads model column (key, v) := by
  rw [Table.get?_eq_some_iff_mem (nodup_keys_load h), mem_load_iff h]

theorem keys_of_loads {loaded : Document} (h : List.Forall₂ (Loads model) stored loaded) :
    Table.keys loaded = (Table.keys stored).map (loadedName model) := by
  induction h with
  | nil => rfl
  | cons hload _ ih => exact congrArg₂ List.cons hload.name.symm ih

/-- The names of a loaded document are those of its columns. -/
theorem mem_keys_load (h : load model true stored = .ok data) {key : String} :
    key ∈ Table.keys data ↔ ∃ entry ∈ stored, loadedName model entry.1 = key := by
  obtain ⟨loaded, hloaded, rfl⟩ := loadInto_eq_ok.mp h
  rw [Table.mem_keys_merge, keys_of_loads hloaded]
  simp [Table.keys]

/-- Hiding the identifier hides the name of no other column. -/
theorem mem_keys_load_iff (h : load model includeId stored = .ok data) {key : String} :
    key ∈ Table.keys data ↔
      ∃ entry ∈ stored, (includeId = true ∨ entry.1 ≠ idField) ∧ loadedName model entry.1 = key := by
  cases includeId with
  | true =>
    rw [mem_keys_load h]
    simp
  | false =>
    have hload : load model true (Table.erase stored idField) = .ok data :=
      (loadInto_hidden [] stored).symm.trans h
    rw [mem_keys_load hload]
    simp [Table.erase, and_assoc]

/-- Under the name of the identifier nothing else is left. -/
inductive LeavesIdName (model : Model) (stored : Document) (id : Value) : Bool → Prop
  /-- No other column leads back to the name. -/
  | hidden : (∀ entry ∈ stored, entry.1 ≠ idField → model.propertyName entry.1 ≠ model.idName) →
      LeavesIdName model stored id false
  /-- No column that leads back to the name comes after the identifier. -/
  | last {before after : Document} : stored = before ++ (idField, id) :: after →
      (∀ entry ∈ after, model.propertyName entry.1 ≠ model.idName) →
      LeavesIdName model stored id true
  /-- The last column that leads back to the name is loaded as the identifier itself. -/
  | same {before after : Document} {entry : String × Value} :
      stored = before ++ entry :: after → entry.1 ≠ idField →
      model.propertyName entry.1 = model.idName → loadValue model model.idName entry.2 = .ok id →
      (∀ later ∈ after, loadedName model later.1 ≠ model.idName) →
      LeavesIdName model stored id true

theorem get?_shown_iff (hkeys : (Table.keys stored).Nodup)
    (hid : Table.get? stored idField = some id) (h : load model true stored = .ok data) :
    Table.get? data model.idName = some id ↔ LeavesIdName model stored id true := by
  rw [get?_load_iff h]
  constructor
  · intro hfound
    obtain ⟨entry, ⟨before, after, hsplit, hlast⟩, hloads⟩ := hfound
    have hafter : ∀ later ∈ after, loadedName model later.1 ≠ model.idName := by
      intro later hlater hname
      exact hlast later hlater (hname.trans hloads.name.symm)
    -- What is found is either the identifier itself or what another column is loaded as.
    by_cases hcolumn : entry.1 = idField
    · have hmem : (idField, entry.2) ∈ stored := by
        rw [hsplit, ← hcolumn]
        exact List.mem_append_right before List.mem_cons_self
      have hvalue : entry.2 = id :=
        Option.some.inj (((Table.get?_eq_some_iff_mem hkeys).mpr hmem).symm.trans hid)
      obtain rfl : entry = (idField, id) := Prod.ext hcolumn hvalue
      refine .last hsplit fun later hlater => ?_
      have hother : later.1 ≠ idField := Table.ne_key_of_mem_after (hsplit ▸ hkeys) hlater
      rw [← loadedName_of_ne hother]
      exact hafter later hlater
    · obtain ⟨hname, hvalue⟩ := (loads_idName_iff hcolumn).mp hloads
      exact .same hsplit hcolumn hname hvalue hafter
  · intro hleaves
    cases hleaves with
    | @last before after hsplit hafter =>
      refine ⟨(idField, id), ⟨before, after, hsplit, ?_⟩, loads_id id⟩
      intro later hlater
      have hother : later.1 ≠ idField := Table.ne_key_of_mem_after (hsplit ▸ hkeys) hlater
      show loadedName model later.1 ≠ model.idName
      rw [loadedName_of_ne hother]
      exact hafter later hlater
    | @same before after entry hsplit hother hname hvalue hafter =>
      refine ⟨entry, ⟨before, after, hsplit, ?_⟩, (loads_idName_iff hother).mpr ⟨hname, hvalue⟩⟩
      intro later hlater
      show loadedName model later.1 ≠ loadedName model entry.1
      rw [loadedName_of_ne hother, hname]
      exact hafter later hlater

theorem get?_hidden_iff (h : load model false stored = .ok data) :
    Table.get? data model.idName = none ↔ LeavesIdName model stored id false := by
  rw [Table.get?_eq_none_iff, mem_keys_load_iff h]
  constructor
  · intro hfree
    refine .hidden fun entry hentry hother hname => hfree ⟨entry, hentry, Or.inr hother, ?_⟩
    rw [loadedName_of_ne hother, hname]
  · intro hleaves hfound
    obtain ⟨hfree⟩ := hleaves
    obtain ⟨entry, hentry, hshown, hname⟩ := hfound
    have hcolumn : entry.1 ≠ idField := by simpa using hshown
    rw [loadedName_of_ne hcolumn] at hname
    exact hfree entry hentry hcolumn hname

/-- A loaded document has the stored identifier under its name, or nothing if the identifier is not
to be shown, exactly if nothing else is left there. -/
theorem load_idName_iff (hkeys : (Table.keys stored).Nodup)
    (hid : Table.get? stored idField = some id) (h : load model includeId stored = .ok data) :
    (Table.get? data model.idName = if includeId then some id else none) ↔
      LeavesIdName model stored id includeId := by
  cases includeId with
  | true => exact get?_shown_iff hkeys hid h
  | false => exact get?_hidden_iff h

/-- Articles that go by a number of their own, with a price in another column. -/
def numbered : Model :=
  .ofSchema "Article" [("number", .node { name := "number", id := .bool true } none none),
    ("price", .node { name := "price", fieldName := .text "cost" } none none)] {}

def article : Document := [("number", .int 5), (idField, .int 7), ("cost", .int 3)]

theorem load_idName_iff_article :
    (Table.keys article).Nodup ∧ Table.get? article idField = some (.int 7) ∧
    load numbered true article = .ok [("number", .int 7), ("price", .int 3)] ∧
    LeavesIdName numbered article (.int 7) true := by
  have hkeys : (Table.keys article).Nodup := by decide
  have hload : load numbered true article = .ok [("number", .int 7), ("price", .int 3)] := rfl
  exact ⟨hkeys, rfl, hload, (load_idName_iff hkeys rfl hload).mp rfl⟩

/-- Whatever is loaded has the stored identifier under its name, or nothing if that is hidden. -/
def LoadsIdName (includeId : Bool) : Prop :=
  ∀ (model : Model) (stored data : Document) (id : Value), (Table.keys stored).Nodup →
    Table.get? stored idField = some id → load model includeId stored = .ok data →
    Table.get? data model.idName = if includeId then some id else none

theorem not_loadsIdName (includeId : Bool) : ¬ LoadsIdName includeId := by
  intro hall
  have hloaded : load (.bare "Post") includeId [(idField, .int 1), ("id", .int 2)] =
      .ok [("id", .int 2)] := by
    cases includeId <;> rfl
  have hfound := hall (.bare "Post") _ _ (.int 1) (by decide) rfl hloaded
  have hgiven : Table.get? [("id", Value.int 2)] (Model.bare "Post").idName = some (.int 2) := rfl
  rw [hgiven] at hfound
  cases includeId <;> cases hfound

/-- A column named like the identifier is found in its place, shown or hidden. -/
theorem not_loads_idName : ¬ LoadsIdName true ∧ ¬ LoadsIdName false :=
  ⟨not_loadsIdName true, not_loadsIdName false⟩

end ModelStore.Storage
