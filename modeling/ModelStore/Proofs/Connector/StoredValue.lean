import ModelStore.Proofs.Coercion.Document
import ModelStore.Proofs.Connector.Insertion
import ModelStore.Proofs.Filter.Conditions
import ModelStore.Proofs.Storage
import ModelStore.Proofs.Text.Path

/-!
A filter on a stored value finds it. Data is stored key by key under columns, its values coerced
along the schema; a filter turns its path into a storage path and coerces its value by the property
there. The two agree wherever coercion reaches the value in the data, and wherever it has nothing
to change in it.
-/
namespace ModelStore.Connector

open Coercion

/-- The head of the path is not the identifier, and nothing else in the data is stored under its
column. -/
structure InPlace (model : Model) (data : Document) (path : String) : Prop where
  head_ne_idName : Text.pathHead path ≠ model.idName
  head_ne_idField : Text.pathHead path ≠ idField
  ne_idName : path ≠ model.idName
  undotted : ∀ column, model.columnName (Text.pathHead path) = .text column →
    Text.hasDot column = false
  column_ne_idField : model.columnName (Text.pathHead path) ≠ .text idField
  alone : ∀ key ∈ Table.keys data, key ≠ Text.pathHead path → key ≠ model.idName →
    model.columnName key ≠ model.columnName (Text.pathHead path)

theorem InPlace.ne_idField {model : Model} {data : Document} {path : String}
    (h : InPlace model data path) : path ≠ idField := by
  rintro rfl
  exact h.head_ne_idField rfl

/-- Distinct columns without dots keep declared properties apart, so only an undeclared name can be
stored under the column of another one. -/
theorem inPlace_of_columns {model : Model} {data : Document} {path : String}
    (hcolumns : (model.properties.map fun entry => entry.2.column).Nodup)
    (hundotted : ∀ entry ∈ model.properties, ∀ column, entry.2.column = .text column →
      Text.hasDot column = false)
    (hhead : Text.pathHead path ≠ model.idName) (hheadField : Text.pathHead path ≠ idField)
    (hpath : path ≠ model.idName)
    (hcolumn : model.columnName (Text.pathHead path) ≠ .text idField)
    (hundeclared : ∀ key ∈ Table.keys data, key ≠ Text.pathHead path →
      Table.get? model.properties key = none ∨
        Table.get? model.properties (Text.pathHead path) = none →
      model.columnName key ≠ model.columnName (Text.pathHead path)) :
    InPlace model data path where
  head_ne_idName := hhead
  head_ne_idField := hheadField
  ne_idName := hpath
  undotted := by
    intro column hname
    cases hdeclared : Table.get? model.properties (Text.pathHead path) with
    | none =>
      rw [Model.columnName, hdeclared] at hname
      rw [← Value.text.inj hname]
      exact Text.hasDot_pathHead path
    | some p =>
      rw [Model.columnName, hdeclared] at hname
      exact hundotted _ (Table.mem_of_get? hdeclared) column hname
  column_ne_idField := hcolumn
  alone := by
    intro key hkey hne _ hsame
    cases hdeclared : Table.get? model.properties key with
    | none => exact hundeclared key hkey hne (Or.inl hdeclared) hsame
    | some p =>
      cases hheadDeclared : Table.get? model.properties (Text.pathHead path) with
      | none => exact hundeclared key hkey hne (Or.inr hheadDeclared) hsame
      | some q =>
        rw [Model.columnName, Model.columnName, hdeclared, hheadDeclared] at hsame
        have hentries := List.inj_on_of_nodup_map hcolumns (Table.mem_of_get? hdeclared)
          (Table.mem_of_get? hheadDeclared) hsame
        exact hne (Prod.mk.inj hentries).1

theorem undotted_of_columns_eq {model : Model} {columns : List Value}
    (h : (model.properties.map fun entry => entry.2.column) = columns)
    (hundotted : ∀ column, Value.text column ∈ columns → Text.hasDot column = false) :
    ∀ entry ∈ model.properties, ∀ column, entry.2.column = .text column →
      Text.hasDot column = false := by
  intro entry hentry column hcolumn
  apply hundotted
  rw [← h, ← hcolumn]
  exact List.mem_map_of_mem hentry

/-- A point at the head of the path is given in its stored form; any other form is rewritten. -/
def InStoredForm (model : Model) (data : Document) (path : String) : Prop :=
  Storage.isPoint model (Text.pathHead path) = true →
    ∃ point, Table.get? data (Text.pathHead path) = some (.doc point) ∧
      Storage.isGeoPoint point = true

/-- A filter has nothing to coerce in the value at the path. -/
def TakenAsGiven (c : Connector) (model : Model) (options : Value) (path : String) (v : Value) :
    Prop :=
  ∀ strict definition, c.isStrict model options = .ok strict →
    model.propertyAt path = .ok definition → coerceValue definition strict v = .ok v

/-- A filter on the value asks at its storage path for exactly what is stored there. -/
def Finds (c : Connector) (model : Model) (options : Value) (stored : Document) (path : String)
    (v : Value) : Prop :=
  ∃ field w, model.fieldName path = .ok field ∧
    (Value.doc stored).at? (Text.segments field) = some w ∧
    Filter.build model c.settings options (.doc [(path, v)]) = .ok [(field, w)]

/-- How the value under the head of a path came into an inserted document: it was given, coerced,
and kept in the form in which it is stored. -/
structure Insertion (c : Connector) (model : Model) (options : Value) (data stored : Document)
    (path : String) where
  strict : Bool
  rest : List String
  coerced : Document
  given : Value
  after : Value
  kept : Value
  field : String
  isStrict_eq : c.isStrict model options = .ok strict
  segments_eq : Text.segments path = Text.pathHead path :: rest
  coerced_eq : coerceEntries strict model.properties (Table.erase data model.idName) = .ok coerced
  given_eq : Table.get? data (Text.pathHead path) = some given
  payload_eq : Table.get? (Table.erase data model.idName) (Text.pathHead path) = some given
  after_eq : coerceEntry strict model.properties (Text.pathHead path, given) = .ok after
  coerced_get : Table.get? coerced (Text.pathHead path) = some after
  kept_eq : Storage.storeValue model (Text.pathHead path) after = .ok kept
  field_eq : model.fieldName path = .ok field
  field_ne : field ≠ idField
  stored_at : (Value.doc stored).at? (Text.segments field) = kept.at? rest

variable {c : Connector} {model : Model} {options : Value} {data stored : Document}
  {path : String} {v : Value}

theorem exists_insertion (h : c.insertionOf model (.doc data) options = .ok stored)
    (hkeys : (Table.keys data).Nodup) (hplace : InPlace model data path)
    (hv : (Value.doc data).at? (Text.segments path) = some v) :
    Nonempty (Insertion c model options data stored path) := by
  obtain ⟨strict, coerced, document, hstrict, hcoerced, hdocument, hid⟩ := insertionOf_eq_ok h
  obtain ⟨rest, hpath, hsegments⟩ := Text.exists_segments_append path
  rw [hpath] at hv
  obtain ⟨given, hgiven, -⟩ := Option.bind_eq_some_iff.mp hv
  have hpayload : Table.get? (Table.erase data model.idName) (Text.pathHead path) = some given := by
    rw [Table.get?_erase_of_ne data hplace.head_ne_idName, hgiven]
  obtain ⟨after, hafter, hget⟩ := get?_coerceEntries hcoerced hpayload
  have hcoercedKeys := keys_coerceEntries hcoerced
  obtain ⟨kept, column, hkept, hcolumn, hgetDocument⟩ := Storage.get?_storeInto hdocument
    (hcoercedKeys ▸ hkeys.sublist (Table.keys_erase_sublist data model.idName)) hget (by
      intro key hkey hne
      obtain ⟨hmem, hname⟩ := Table.mem_keys_erase.mp (hcoercedKeys ▸ hkey)
      exact hplace.alone key hmem hne hname)
  have hne : column ≠ idField := by
    rintro rfl
    exact hplace.column_ne_idField hcolumn
  have hgetStored : Table.get? stored column = some kept := by
    rcases hid with rfl | ⟨id, rfl⟩
    · exact hgetDocument
    · rw [Table.get?_insert_of_ne document id hne.symm, hgetDocument]
  have hfield := hsegments column (hplace.undotted column hcolumn)
  refine ⟨{
    strict := strict
    rest := rest
    coerced := coerced
    given := given
    after := after
    kept := kept
    field := column ++ Text.pathRest path
    isStrict_eq := hstrict
    segments_eq := hpath
    coerced_eq := hcoerced
    given_eq := hgiven
    payload_eq := hpayload
    after_eq := hafter
    coerced_get := hget
    kept_eq := hkept
    field_eq := Model.fieldName_of_ne hplace.ne_idName hplace.ne_idField hcolumn
    field_ne := ?_
    stored_at := ?_
  }⟩
  · intro heq
    rw [heq] at hfield
    exact hne (List.cons.inj hfield).1.symm
  · rw [hfield, Value.at?, hgetStored, Option.bind_some]

namespace Insertion

variable (i : Insertion c model options data stored path)
include i

theorem given_at (hv : (Value.doc data).at? (Text.segments path) = some v) :
    i.given.at? i.rest = some v := by
  rwa [i.segments_eq, Value.at?, i.given_eq, Option.bind_some] at hv

theorem payload_at (hv : (Value.doc data).at? (Text.segments path) = some v) :
    (Value.doc (Table.erase data model.idName)).at? (Text.segments path) = some v := by
  rw [i.segments_eq, Value.at?, i.payload_eq, Option.bind_some, i.given_at hv]

theorem coerced_at :
    (Value.doc i.coerced).at? (Text.segments path) = i.after.at? i.rest := by
  rw [i.segments_eq, Value.at?, i.coerced_get, Option.bind_some]

/-- What is in stored form is kept as it is coerced. -/
theorem kept_eq_after (hform : InStoredForm model data path) : i.kept = i.after := by
  suffices hstored : Storage.storeValue model (Text.pathHead path) i.after = .ok i.after from
    Except.ok.inj (i.kept_eq.symm.trans hstored)
  cases hpoint : Storage.isPoint model (Text.pathHead path) with
  | false => rw [Storage.storeValue, hpoint, if_neg Bool.false_ne_true]
  | true =>
    obtain ⟨point, hdata, hgeo⟩ := hform hpoint
    have hgiven : i.given = .doc point := Option.some.inj (i.given_eq.symm.trans hdata)
    have hafter := i.after_eq
    simp only [coerceEntry, Storage.nestedSchema_of_isPoint hpoint, hgiven] at hafter
    rw [coerceValue_doc hafter]
    exact Storage.storeValue_geoPoint hgeo

end Insertion

/-- A condition on a scalar asks for the value that its property coerces it to. -/
theorem build_scalar_iff {strict : Bool} {definition : Option Property} {field : String} {w : Value}
    (hstrict : c.isStrict model options = .ok strict) (hkept : Filter.isForbidden path = false)
    (hfield : model.fieldName path = .ok field) (hne : field ≠ idField)
    (hdefinition : model.propertyAt path = .ok definition) (hscalar : v.isScalar = true) :
    Filter.build model c.settings options (.doc [(path, v)]) = .ok [(field, w)] ↔
      coerceValue definition strict v = .ok w := by
  have hcondition : Filter.conditionOf ⟨model, c.settings.nullAsAbsent, strict⟩ (path, v) =
      coerceValue definition strict v >>= fun w => .ok (field, w) := by
    have hdefinition : Filter.definitionOf model field path = .ok definition := by
      rw [Filter.definitionOf, if_neg hne, hdefinition]
    cases v with
    | null => simp [Value.isScalar] at hscalar
    | doc => simp [Value.isScalar] at hscalar
    | list => simp [Value.isScalar] at hscalar
    | tuple => simp [Value.isScalar] at hscalar
    | _ =>
      simp only [Filter.conditionOf, Filter.branchesOf?, Filter.compileLeaf, hfield]
      simp only [bind, Except.bind, hdefinition]
      rfl
  rw [Filter.build_doc hstrict, Filter.compile_singleton hkept, hcondition, Result.bind_eq_ok]
  constructor
  · intro hasked
    obtain ⟨own, hown, heq⟩ := hasked
    obtain ⟨-, rfl⟩ := Prod.mk.inj (Except.ok.inj heq)
    exact hown
  · intro hw
    exact ⟨w, hw, rfl⟩

theorem isForbidden_of_build {strict : Bool} {condition : String × Value}
    (hstrict : c.isStrict model options = .ok strict)
    (hquery : Filter.build model c.settings options (.doc [(path, v)]) = .ok [condition]) :
    Filter.isForbidden path = false := by
  rw [Filter.build_doc hstrict] at hquery
  cases hforbidden : Filter.isForbidden path with
  | false => rfl
  | true =>
    have hempty : [condition] = [] := by
      apply (Filter.compile_eq_nil_iff hquery).mpr
      intro entry hentry
      rw [List.mem_singleton.mp hentry]
      exact hforbidden
    simp at hempty

/-- A filter that finds a scalar inside a point finds it in a point in stored form: the only scalar
that rewriting leaves is the type, and a point with that type is in stored form already. -/
theorem inStoredForm_of_asked (i : Insertion c model options data stored path)
    (hv : (Value.doc data).at? (Text.segments path) = some v) (hscalar : v.isScalar = true)
    {definition : Option Property} {w : Value}
    (hw : coerceValue definition i.strict v = .ok w) (hkept : i.kept.at? i.rest = some w) :
    InStoredForm model data path := by
  intro hpoint
  have hafter := i.after_eq
  simp only [coerceEntry, Storage.nestedSchema_of_isPoint hpoint] at hafter
  have hstored := i.kept_eq
  rw [Storage.storeValue, if_pos hpoint] at hstored
  have hgiven := i.given_at hv
  by_cases hrest : i.rest = []
  · -- A scalar in the place of a point is refused.
    rw [hrest] at hgiven
    rw [Option.some.inj hgiven] at hafter
    exact absurd hstored (Storage.storePoint_scalar (isScalar_coerceValue hscalar hafter) _)
  · obtain ⟨point, hdoc⟩ := Value.eq_doc_of_at? hgiven hrest
    refine ⟨point, by rw [i.given_eq, hdoc], ?_⟩
    cases hgeo : Storage.isGeoPoint point with
    | true => rfl
    | false =>
      rw [hdoc] at hafter hgiven
      rw [coerceValue_doc hafter] at hstored
      obtain ⟨coordinates, hrewritten⟩ := Storage.storePoint_doc hgeo hstored
      rw [hrewritten] at hkept
      obtain ⟨hpath, rfl⟩ := Storage.at?_geoPoint hkept (isScalar_coerceValue hscalar hw)
      obtain rfl : Value.text "Point" = v := by
        rcases coerceValue_scalar hscalar hw with heq | ⟨d, heq⟩ | ⟨id, heq⟩
        · exact heq
        · simp at heq
        · simp at heq
      rw [hpath] at hgiven
      obtain ⟨u, hu, hgiven⟩ := Option.bind_eq_some_iff.mp hgiven
      obtain rfl : u = Value.text "Point" := Option.some.inj hgiven
      simp [Storage.isGeoPoint, hu] at hgeo

/-- A filter on a scalar in its place finds it if and only if the path is not erased from filters,
a point at its head is in stored form, and coercion reaches the scalar in the data or a filter
takes it as given. -/
theorem finds_iff (h : c.insertionOf model (.doc data) options = .ok stored)
    (hkeys : (Table.keys data).Nodup) (hplace : InPlace model data path)
    (hv : (Value.doc data).at? (Text.segments path) = some v) (hscalar : v.isScalar = true) :
    Finds c model options stored path v ↔
      Filter.isForbidden path = false ∧ InStoredForm model data path ∧
        (Reaches model.properties (Text.segments path) ∨ TakenAsGiven c model options path v) := by
  obtain ⟨i⟩ := exists_insertion h hkeys hplace hv
  have hdefinition := Model.propertyAt_of_ne hplace.ne_idField (m := model)
  have hbuild : Filter.isForbidden path = false → ∀ w,
      Filter.build model c.settings options (.doc [(path, v)]) = .ok [(i.field, w)] ↔
        coerceValue (Model.follow none (some model.properties) (Text.segments path)) i.strict v =
          .ok w := by
    intro hkept w
    exact build_scalar_iff i.isStrict_eq hkept i.field_eq i.field_ne hdefinition hscalar
  have hpayload := i.payload_at hv
  constructor
  · intro hfinds
    obtain ⟨field, w, hfield, hat, hquery⟩ := hfinds
    obtain rfl : i.field = field := Except.ok.inj (i.field_eq.symm.trans hfield)
    have hkept := isForbidden_of_build i.isStrict_eq hquery
    have hw := (hbuild hkept w).mp hquery
    have hform := inStoredForm_of_asked i hv hscalar hw (i.stored_at.symm.trans hat)
    refine ⟨hkept, hform, ?_⟩
    by_cases hreaches : Reaches model.properties (Text.segments path)
    · exact Or.inl hreaches
    · have hraw := at?_of_not_reaches hreaches i.coerced_eq hpayload hscalar
      rw [i.coerced_at, ← i.kept_eq_after hform, ← i.stored_at, hat] at hraw
      obtain rfl : w = v := Option.some.inj hraw
      apply Or.inr
      intro strict definition hstrict hdefinition'
      obtain rfl := Except.ok.inj (i.isStrict_eq.symm.trans hstrict)
      obtain rfl := Except.ok.inj (hdefinition.symm.trans hdefinition')
      exact hw
  · intro hconditions
    obtain ⟨hkept, hform, halike⟩ := hconditions
    have hstored : (Value.doc stored).at? (Text.segments i.field) =
        (Value.doc i.coerced).at? (Text.segments path) := by
      rw [i.stored_at, i.kept_eq_after hform, i.coerced_at]
    by_cases hreaches : Reaches model.properties (Text.segments path)
    · obtain ⟨w, hw, hat⟩ := at?_of_reaches hreaches i.coerced_eq hpayload
      exact ⟨i.field, w, i.field_eq, hstored.trans hat, (hbuild hkept w).mpr hw⟩
    · have hgiven := halike.resolve_left hreaches i.strict _ i.isStrict_eq hdefinition
      have hraw := at?_of_not_reaches hreaches i.coerced_eq hpayload hscalar
      exact ⟨i.field, v, i.field_eq, hstored.trans hraw, (hbuild hkept v).mpr hgiven⟩

def author : Property :=
  .node { name := "author", kind := .object, typeName := "object", fieldName := .text "signed" }
    none (some [("person", .plain "person" .reference "objectid")])

def signedPost : Model := .ofSchema "Post" [("author", author)] {}

def signedData : Document :=
  [("id", .int 7), ("author", .doc [("person", .text "0123456789abcdef01234567")])]

def signedStored : Document :=
  [("signed", .doc [("person", .objectId (.ofNumber 0x0123456789abcdef01234567))]), ("_id", .int 7)]

theorem inPlace_person : InPlace signedPost signedData "author.person" := by
  have hcolumns : signedPost.properties.map (fun entry => entry.2.column) =
      [.text "signed", .text "id"] := rfl
  have hkeys : ∀ key ∈ Table.keys signedData, key = "id" ∨ key = "author" := by
    simp [Table.keys, signedData]
  have hundotted : ∀ column, Value.text column ∈ [Value.text "signed", .text "id"] →
      Text.hasDot column = false := by
    intro column hmem
    have hcases : column = "signed" ∨ column = "id" := by simpa using hmem
    rcases hcases with rfl | rfl <;> rfl
  refine inPlace_of_columns ?_ (undotted_of_columns_eq hcolumns hundotted) (by decide) (by decide)
    (by decide) ?_ ?_
  · rw [hcolumns]
    simp
  · intro hcolumn
    exact absurd (Value.text.inj (hcolumn : Value.text "signed" = .text "_id")) (by decide)
  · intro key hkey hne hdeclared
    rcases hkeys key hkey with rfl | rfl
    · rcases hdeclared with hnone | hnone <;> cases hnone
    · exact absurd rfl hne

theorem inStoredForm_person : InStoredForm signedPost signedData "author.person" := by
  intro hpoint
  exact absurd hpoint (by decide)

theorem reaches_person : Reaches signedPost.properties (Text.segments "author.person") :=
  .inner (p := author) rfl (by decide) rfl (.leaf rfl)

def plain : Connector := { settings := {}, models := [("Post", signedPost)] }

theorem finds_iff_person :
    plain.insertionOf signedPost (.doc signedData) .null = .ok signedStored ∧
    (Table.keys signedData).Nodup ∧ InPlace signedPost signedData "author.person" ∧
    (Value.doc signedData).at? (Text.segments "author.person") =
      some (.text "0123456789abcdef01234567") ∧
    Finds plain signedPost .null signedStored "author.person" (.text "0123456789abcdef01234567") :=
  ⟨rfl, by decide, inPlace_person, rfl,
    (finds_iff rfl (by decide) inPlace_person rfl rfl).mpr
      ⟨rfl, inStoredForm_person, Or.inl reaches_person⟩⟩

/-- A document that is not declared is stored as it is given, but a filter that leads into it takes
24 hexadecimal digits for an identifier. -/
theorem not_finds_of_undeclared :
    ¬ ∀ (c : Connector) (model : Model) (options : Value) (data stored : Document) (path : String)
        (v : Value),
      (model.properties.map fun entry => entry.2.column).Nodup →
      (∀ entry ∈ model.properties, ∀ column, entry.2.column = .text column →
        Text.hasDot column = false) →
      c.insertionOf model (.doc data) options = .ok stored → (Table.keys data).Nodup →
      Text.pathHead path ≠ model.idName → Text.pathHead path ≠ idField →
      (Value.doc data).at? (Text.segments path) = some v → v.isScalar = true →
      Finds c model options stored path v := by
  intro hfound
  have hcolumns : (Model.bare "Post").properties.map (fun entry => entry.2.column) =
      [.text "id"] := rfl
  have hundotted : ∀ column, Value.text column ∈ [Value.text "id"] →
      Text.hasDot column = false := by
    intro column hmem
    obtain rfl : column = "id" := by simpa using hmem
    rfl
  let digits : Value := .text "0123456789abcdef01234567"
  have hquery : Filter.build (.bare "Post") plain.settings .null (.doc [("meta.ref", digits)]) =
      .ok [("meta.ref", .objectId (.ofNumber 0x0123456789abcdef01234567))] := rfl
  obtain ⟨field, w, -, hstored, hasked⟩ := hfound plain (.bare "Post") .null
    [("meta", .doc [("ref", digits)])] [("meta", .doc [("ref", digits)])] "meta.ref" digits
    (by rw [hcolumns]; simp)
    (undotted_of_columns_eq hcolumns hundotted) rfl (by decide) (by decide) (by decide) rfl rfl
  obtain ⟨rfl, rfl⟩ : field = "meta.ref" ∧
      w = .objectId (.ofNumber 0x0123456789abcdef01234567) := by
    simpa using (Except.ok.inj (hquery.symm.trans hasked)).symm
  have hkept : (Value.doc [("meta", .doc [("ref", digits)])]).at? (Text.segments "meta.ref") =
      some digits := rfl
  have hsame := Option.some.inj (hkept.symm.trans hstored)
  simp [digits] at hsame

end ModelStore.Connector
