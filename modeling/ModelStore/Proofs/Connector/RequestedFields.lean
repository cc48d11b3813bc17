import ModelStore.Proofs.Connector.ComesTo
import ModelStore.Proofs.Connector.MadeDocument
import ModelStore.Proofs.Connector.ReadBack
import ModelStore.Proofs.Projection.ShownId
import ModelStore.Proofs.Schema.Columns
import ModelStore.Proofs.Storage.LoadedId

/-!
Requested fields of a document that is found or created. A document that was found comes back with
the fields that were projected, while one that was created is answered with as it was inserted: the
requests only decide whether its identifier is shown. So it keeps to the requested fields exactly if
the data that it was created from does.
-/
namespace ModelStore.Connector

open Act Storage Projection

variable {c : Connector} {model : Model} {name filter data options answer : Value}
  {s between after : Datasource} {names : List String} {reply found document : Document}

/-- What a search that inserts what it does not find has come to: the model, the filter as it was
read, the document to be inserted, and what the database answered. -/
structure Search where
  model : Model
  filter : Document
  inserted : Document
  existing : Value

def Search.stored (search : Search) : Value :=
  if search.existing.isNull then .doc search.inserted else search.existing

def search (c : Connector) (name filter data options : Value) : Act Search :=
  if c.settings.findOrCreateEnabled then do
    let model ← settle (c.models.find name)
    let filter ← settle (filterOf filter)
    let query ← c.queryOf model (part filter "where") options
    let document ← settle (c.documentOf model data options)
    let id ← c.idOf model data options
    let inserted := Table.insert document idField id
    let projection ← settle (Projection.build model (part filter "fields"))
    let sort ← settle (Sort.build model c.settings options (part filter "order"))
    let session ← settle (sessionKeywords options)
    let existing ← c.dispatcher.execute name "find_one_and_update"
      [.doc query, .doc [("$setOnInsert", .doc inserted)]]
      ([("upsert", .bool true), ("return_document", .bool false)] ++
        projectionKeywords projection ++ sortKeywords sort ++ session)
    pure { model, filter, inserted, existing }
  else throw .findOrCreateDisabled

/-- Answers a search with the document as the model sees it, with what is to be included, and
whether it was created. -/
def conclude (c : Connector) (name options : Value) (search : Search) : Act Value := do
  let showsId ← settle (Projection.includesId (part search.filter "fields") search.model.idName)
  let found ← settle (view search.model search.stored showsId)
  let found ←
    if (part search.filter "include").truthy then
      c.includeInOne name found (part search.filter "include") options
    else pure found
  pure (.tuple [.doc found, .bool search.existing.isNull])

theorem findOrCreate_eq_search (c : Connector) (name filter data options : Value) :
    c.findOrCreate name filter data options =
      c.search name filter data options >>= c.conclude name options := by
  rw [findOrCreate_eq, search]
  split
  · unfold findingOrCreating
    simp only [bind_assoc, pure_bind]
    rfl
  · rfl

/-- A search has read the filter and compiled the data. -/
structure Searched (c : Connector) (name filter data options : Value) (search : Search) : Prop where
  model : c.models.find name = .ok search.model
  filter : filterOf filter = .ok search.filter
  inserted : ∃ document id, c.documentOf search.model data options = .ok document ∧
    search.inserted = Table.insert document idField id

theorem searched_of_search {search : Search}
    (h : outcome (c.search name filter data options) s = (.ok search, between)) :
    Searched c name filter data options search := by
  unfold Connector.search at h
  split at h
  · obtain ⟨model, hmodel, h⟩ := outcome_settle_bind_eq_ok.mp h
    obtain ⟨entries, hentries, h⟩ := outcome_settle_bind_eq_ok.mp h
    obtain ⟨query, _, -, h⟩ := outcome_bind_eq_ok.mp h
    obtain ⟨document, hdocument, h⟩ := outcome_settle_bind_eq_ok.mp h
    obtain ⟨id, _, -, h⟩ := outcome_bind_eq_ok.mp h
    obtain ⟨projection, -, h⟩ := outcome_settle_bind_eq_ok.mp h
    obtain ⟨sort, -, h⟩ := outcome_settle_bind_eq_ok.mp h
    obtain ⟨session, -, h⟩ := outcome_settle_bind_eq_ok.mp h
    obtain ⟨existing, _, -, h⟩ := outcome_bind_eq_ok.mp h
    obtain rfl := Except.ok.inj (Prod.mk.inj h).1
    exact ⟨hmodel, hentries, document, id, hdocument, rfl⟩
  · cases (Prod.mk.inj h).1

/-- Without anything to include, a search is answered with its document as it is loaded. -/
theorem conclude_eq_ok {search : Search} (hinclude : (part search.filter "include").truthy = false)
    (h : outcome (c.conclude name options search) s = (.ok answer, after)) :
    ∃ showsId found,
      includesId (part search.filter "fields") search.model.idName = .ok showsId ∧
      view search.model search.stored showsId = .ok found ∧
      answer = .tuple [.doc found, .bool search.existing.isNull] := by
  unfold conclude at h
  obtain ⟨showsId, hshows, h⟩ := outcome_settle_bind_eq_ok.mp h
  obtain ⟨found, hfound, h⟩ := outcome_settle_bind_eq_ok.mp h
  rw [hinclude] at h
  obtain rfl := Except.ok.inj (Prod.mk.inj h).1
  exact ⟨showsId, found, hshows, hfound, rfl⟩

/-- The document has no other keys than these names. -/
def KeepsTo (names : List String) (document : Document) : Prop :=
  ∀ key ∈ Table.keys document, key ∈ names

/-- The column is that of the identifier, or leads back to one of the names. -/
def ColumnOf (model : Model) (names : List String) (column : String) : Prop :=
  column = idField ∨ model.propertyName column ∈ names

/-- A document whose identifier is shown on request keeps to the names exactly if its columns do. -/
theorem keepsTo_load_iff {showsId : Bool} (hshows : showsId = decide (model.idName ∈ names))
    (h : load model showsId document = .ok found) :
    KeepsTo names found ↔ ∀ column ∈ Table.keys document, ColumnOf model names column := by
  constructor
  · intro hkeeps column hcolumn
    obtain ⟨entry, hentry, rfl⟩ := List.mem_map.mp hcolumn
    by_cases hid : entry.1 = idField
    · exact Or.inl hid
    · have hkey := (mem_keys_load_iff h).mpr ⟨entry, hentry, Or.inr hid, loadedName_of_ne hid⟩
      exact Or.inr (hkeeps _ hkey)
  · intro hcolumns key hkey
    obtain ⟨entry, hentry, hshown, rfl⟩ := (mem_keys_load_iff h).mp hkey
    by_cases hid : entry.1 = idField
    · rw [loadedName, if_pos hid]
      rw [hshown.resolve_right (not_not.mpr hid)] at hshows
      exact of_decide_eq_true hshows.symm
    · rw [loadedName_of_ne hid]
      exact (hcolumns entry.1 (List.mem_map_of_mem hentry)).resolve_left hid

/-- Besides the identifier that it names, data is stored in columns of the names alone. -/
def StoresWithin (model : Model) (names : List String) (data : Value) : Prop :=
  ∃ entries, payload model data = .ok entries ∧ ∀ entry ∈ entries,
    ∃ column, model.columnName entry.1 = .text column ∧ ColumnOf model names column

/-- The columns of an inserted document are those of its data. -/
theorem columns_inserted_iff (h : c.documentOf model data options = .ok document) (id : Value) :
    (∀ column ∈ Table.keys (Table.insert document idField id), ColumnOf model names column) ↔
      StoresWithin model names data := by
  obtain ⟨entries, strict, written, hentries, -, hwritten, rfl⟩ := documentOf_eq_ok h
  constructor
  · intro hcolumns
    refine ⟨entries, hentries, fun entry hentry => ?_⟩
    obtain ⟨column, hcolumn, hbecomes⟩ := Result.exists_of_forall₂ hwritten hentry
    refine ⟨column.1, hbecomes.columnName_eq, hcolumns column.1 ?_⟩
    refine Table.mem_keys_insert.mpr (Or.inr (Table.mem_keys_merge.mpr (Or.inr ?_)))
    exact List.mem_map_of_mem hcolumn
  · intro hstores column hcolumn
    obtain ⟨entries', hentries', hwithin⟩ := hstores
    obtain rfl := Except.ok.inj (hentries.symm.trans hentries')
    rcases Table.mem_keys_insert.mp hcolumn with rfl | hkey
    · exact Or.inl rfl
    · obtain ⟨entry, hentry, rfl⟩ := List.mem_map.mp (Table.mem_keys_of_ofList hkey)
      obtain ⟨given, hgiven, (hbecomes : Becomes model strict given entry)⟩ :=
        Result.exists_of_forall₂ hwritten.flip hentry
      obtain ⟨column, hcolumn, hof⟩ := hwithin given hgiven
      obtain rfl := Value.text.inj (hbecomes.columnName_eq.symm.trans hcolumn)
      exact hof

/-- The reply has no fields but the identifier and those that were projected for the names. -/
def OnlyProjected (model : Model) (names : List String) (reply : Document) : Prop :=
  ∀ column ∈ Table.keys reply, column = idField ∨
    ∃ name ∈ names, ∃ field, model.fieldName name = .ok field ∧ column = Text.pathHead field

/-- What is projected for the names leads back to them. -/
def LeadsBack (model : Model) (names : List String) : Prop :=
  ∀ name ∈ names, ∀ field, model.fieldName name = .ok field →
    ColumnOf model names (Text.pathHead field)

theorem OnlyProjected.columnOf (h : OnlyProjected model names reply)
    (hback : LeadsBack model names) :
    ∀ column ∈ Table.keys reply, ColumnOf model names column := by
  intro column hcolumn
  rcases h column hcolumn with hid | ⟨name, hname, field, hfield, rfl⟩
  · exact Or.inl hid
  · exact hback name hname field hfield

/-- The key is declared, and its column has a plain name. -/
structure PlainKey (model : Model) (key : String) : Prop where
  declared : key ∈ Table.keys model.properties
  column : ∃ column, model.columnName key = .text column ∧ column ≠ "" ∧ Text.hasDot column = false

section ColumnsApart

variable (hcolumns : model.ColumnsApart)
include hcolumns

theorem leadsBack_of_plain
    (hplain : ∀ name ∈ names, PlainKey model name ∧ Text.hasDot name = false) :
    LeadsBack model names := by
  intro name hname field hfield
  obtain ⟨⟨hdeclared, column, hcolumn, hset, hundotted⟩, hdot⟩ := hplain name hname
  by_cases hid : name = model.idName ∨ name = idField
  · rw [Model.fieldName, if_pos hid] at hfield
    obtain rfl := Except.ok.inj hfield
    exact Or.inl rfl
  · rw [Model.fieldName, if_neg hid, Model.storagePath_of_undotted hdot hcolumn] at hfield
    obtain rfl := Except.ok.inj hfield
    rw [Text.pathHead_of_undotted hundotted]
    refine Or.inr ?_
    rw [hcolumns.propertyName_column hdeclared hcolumn hset]
    exact hname

end ColumnsApart

/-- Only a document has entries. -/
theorem entries_eq_ok {v : Value} : v.entries = .ok document ↔ v = .doc document := by
  unfold Value.entries
  split
  · simp
  · rename_i hother
    refine iff_of_false ?_ (hother document)
    unfold Value.refuse
    split <;> nofun

/-- An answered search is answered with its document and whether that was created. A created document
keeps to the requested names exactly if its data is stored within them, and one that was found
exactly if its columns are theirs; so it does if only what leads back to the names was projected. -/
theorem findOrCreate_keepsTo_iff {entries : Document} (hmodel : c.models.find name = .ok model)
    (hfilter : filterOf filter = .ok entries)
    (hfields : Requests (part entries "fields") (allWanted names)) (hset : names ≠ [])
    (hinclude : (part entries "include").truthy = false)
    (h : outcome (c.findOrCreate name filter data options) s = (.ok answer, after)) :
    ∃ search between found,
      outcome (c.search name filter data options) s = (.ok search, between) ∧
      answer = .tuple [.doc found, .bool search.existing.isNull] ∧
      (search.existing = .null → (KeepsTo names found ↔ StoresWithin model names data)) ∧
      (search.existing ≠ .null → ∃ reply, search.existing = .doc reply ∧
        (KeepsTo names found ↔ ∀ column ∈ Table.keys reply, ColumnOf model names column) ∧
        (OnlyProjected model names reply → LeadsBack model names → KeepsTo names found)) := by
  rw [findOrCreate_eq_search] at h
  obtain ⟨search, between, hsearch, hanswer⟩ := outcome_bind_eq_ok.mp h
  obtain ⟨hmodel', hfilter', document, id, hdocument, hinserted⟩ := searched_of_search hsearch
  obtain rfl := Except.ok.inj (hmodel.symm.trans hmodel')
  obtain rfl := Except.ok.inj (hfilter.symm.trans hfilter')
  obtain ⟨showsId, found, hshows, hview, rfl⟩ := conclude_eq_ok hinclude hanswer
  obtain rfl : showsId = decide (search.model.idName ∈ names) := by
    rw [includesId_eq hfields, tested_allWanted hset] at hshows
    exact (Except.ok.inj hshows).symm
  refine ⟨search, between, found, hsearch, rfl, ?_, ?_⟩
  · intro hnothing
    rw [Search.stored, hnothing, hinserted] at hview
    exact (keepsTo_load_iff rfl hview).trans (columns_inserted_iff hdocument id)
  · intro hsomething
    have hnull : search.existing.isNull = false := by
      cases hexisting : search.existing with
      | null => exact absurd hexisting hsomething
      | _ => rfl
    rw [Search.stored, hnull] at hview
    obtain ⟨reply, hreply, hload⟩ := Result.bind_eq_ok.mp hview
    have hkeeps := keepsTo_load_iff rfl hload
    exact ⟨reply, entries_eq_ok.mp hreply, hkeeps, fun hprojected hback =>
      hkeeps.mpr (hprojected.columnOf hback)⟩

def searchedPlaces : Connector :=
  { settings := { findOrCreateEnabled := true }, models := [("Place", place)] }

def labels : Document := [("fields", .list [.text "label"])]

theorem requests_labels : Requests (part labels "fields") (allWanted ["label"]) :=
  .list (List.cons_ne_nil "label" [])

def labelOnly : Document := [("spot", .text "a"), (idField, .int 7)]

theorem leadsBack_label : LeadsBack place ["label"] := by
  refine leadsBack_of_plain columnsApart_place fun name hname => ?_
  rw [List.mem_singleton.mp hname]
  exact ⟨⟨by decide, "spot", rfl, by decide, by decide⟩, by decide⟩

theorem onlyProjected_labelOnly : OnlyProjected place ["label"] labelOnly := by
  intro column hcolumn
  have hcolumns : Table.keys labelOnly = ["spot", idField] := rfl
  rw [hcolumns] at hcolumn
  rcases List.mem_pair.mp hcolumn with rfl | rfl
  · exact Or.inr ⟨"label", List.mem_cons_self, "spot", rfl, by decide⟩
  · exact Or.inl rfl

/-- A label that was projected comes back alone. -/
theorem findOrCreate_keepsTo_iff_label :
    Requests (part labels "fields") (allWanted ["label"]) ∧
      OnlyProjected place ["label"] labelOnly ∧ LeadsBack place ["label"] ∧
      (outcome (searchedPlaces.findOrCreate (.text "Place") (.doc labels) (.doc placed) .null)
        (holding labelOnly)).1 = .ok (.tuple [.doc [("label", .text "a")], .bool false]) ∧
      KeepsTo ["label"] [("label", .text "a")] := by
  have hanswer : outcome (searchedPlaces.findOrCreate (.text "Place") (.doc labels) (.doc placed)
      .null) (holding labelOnly) = (.ok (.tuple [.doc [("label", .text "a")], .bool false]),
        (outcome (searchedPlaces.search (.text "Place") (.doc labels) (.doc placed) .null)
          (holding labelOnly)).2) := rfl
  have hsearch : (outcome (searchedPlaces.search (.text "Place") (.doc labels) (.doc placed) .null)
      (holding labelOnly)).1 = .ok ⟨place, labels, _, .doc labelOnly⟩ := rfl
  have hplace : searchedPlaces.models.find (.text "Place") = .ok place := rfl
  have hlabels : filterOf (.doc labels) = .ok labels := rfl
  obtain ⟨search, between, found, hsearch', htuple, -, hexisting⟩ :=
    findOrCreate_keepsTo_iff hplace hlabels requests_labels (List.cons_ne_nil "label" []) rfl hanswer
  obtain rfl := Except.ok.inj (hsearch.symm.trans (Prod.ext_iff.mp hsearch').1)
  obtain rfl := Value.doc.inj (List.cons.inj (Value.tuple.inj htuple)).1
  obtain ⟨reply, hreply, -, hkeeps⟩ := hexisting nofun
  obtain rfl := Value.doc.inj hreply
  exact ⟨requests_labels, onlyProjected_labelOnly, leadsBack_label, rfl,
    hkeeps onlyProjected_labelOnly leadsBack_label⟩

/-- What is created is answered with in full, whatever fields are requested. -/
theorem not_findOrCreate_keepsTo :
    ¬ ∀ (c : Connector) (model : Model) (name filter data options : Value) (entries : Document)
        (names : List String) (s after : Datasource) (found : Document) (created : Bool),
      model.ColumnsApart → c.models.find name = .ok model → filterOf filter = .ok entries →
      Requests (part entries "fields") (allWanted names) → names ≠ [] →
      (∀ name ∈ names, name ∈ Table.keys model.properties) →
      (part entries "include").truthy = false →
      (∀ search between reply, outcome (c.search name filter data options) s = (.ok search, between) →
        search.existing = .doc reply → OnlyProjected model names reply) →
      outcome (c.findOrCreate name filter data options) s =
        (.ok (.tuple [.doc found, .bool created]), after) →
      KeepsTo names found := by
  intro hall
  have hsearch : (outcome (searchedPlaces.search (.text "Place") (.doc labels) (.doc placed) .null)
      .quiet).1 = .ok ⟨place, labels, _, .null⟩ := rfl
  have hkeeps := hall searchedPlaces place (.text "Place") (.doc labels) (.doc placed) .null labels
    ["label"] .quiet _ placed true columnsApart_place rfl rfl requests_labels
    (List.cons_ne_nil "label" []) (by decide) rfl ?_ rfl
  · exact absurd (hkeeps "spot" (by decide)) (by decide)
  · intro search between reply hsearch' hreply
    obtain rfl := Except.ok.inj (hsearch.symm.trans (Prod.ext_iff.mp hsearch').1)
    cases hreply

end ModelStore.Connector
