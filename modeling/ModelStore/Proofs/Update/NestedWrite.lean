import ModelStore.Proofs.Schema.Columns
import ModelStore.Proofs.Update.Operand
import ModelStore.Proofs.Value.Path

/-!
Setting a dotted path. The path is followed along the schema to the property of its last key, while
a document is coerced from the outside in. A path that leads through declared objects and arrays of
them arrives at the same property both ways, so the value set at the path is the value that coercing
a document leaves there.
-/
namespace ModelStore.Update

open Coercion Value

variable {model : Model} {strict : Bool} {current : Option Property} {schema : Schema} {key : String}
  {path : List String} {layer layer' : Layer} {layers coerced : List Layer} {v : Value}

/-- The path leads through declared properties with properties inside them: a key to each, and
through each array of an array of objects a position. It ends in a key. -/
inductive Leads : Option Property → Schema → List String → Prop where
  | leaf {current : Option Property} {schema : Schema} {key : String}
      (hcurrent : ∀ p, current = some p → p.kind ≠ .array) : Leads current schema [key]
  | key {current : Option Property} {schema nested : Schema} {key : String} {p : Property}
      {path : List String} (hcurrent : ∀ p, current = some p → p.kind ≠ .array)
      (hp : Table.get? schema key = some p) (hnested : p.nestedSchema = some nested)
      (hpath : Leads (some p) nested path) : Leads current schema (key :: path)
  | position {p : Property} {schema : Schema} {segment : String} {i : Nat} {path : List String}
      (hkind : p.kind = .array) (hindex : Text.index? segment = some i)
      (hpath : Leads p.items schema path) : Leads (some p) schema (segment :: path)

/-- A document with an open place at the key, and what coercing the entries around it leaves. -/
inductive EntryAround (strict : Bool) (schema : Schema) (key : String) : Layer → Layer → Prop where
  | intro {before before' after after' : Document} (hkey : key ∉ Table.keys before)
      (hbefore : coerceEntries strict schema before = .ok before')
      (hafter : coerceEntries strict schema after = .ok after') :
      EntryAround strict schema key (.entry before key after) (.entry before' key after')

/-- A list with an open place at the position, and what coercing the elements around it leaves. -/
inductive ElementAround (strict : Bool) (schema : Schema) (segment : String) :
    Layer → Layer → Prop where
  | intro {before before' after after' : List Value}
      (hindex : Text.index? segment = some before.length)
      (hbefore : coerceItems strict schema before = .ok before')
      (hafter : coerceItems strict schema after = .ok after') :
      ElementAround strict schema segment (.element before after) (.element before' after')

/-- Layers with their open places along a path that leads through the schema, documents for objects
and lists for arrays, and what coercing all around the places leaves. -/
inductive Nests (strict : Bool) :
    Option Property → Schema → List String → List Layer → List Layer → Prop where
  | leaf {current : Option Property} {schema : Schema} {key : String} {layer layer' : Layer}
      (hcurrent : ∀ p, current = some p → p.kind ≠ .array)
      (haround : EntryAround strict schema key layer layer') :
      Nests strict current schema [key] [layer] [layer']
  | key {current : Option Property} {schema nested : Schema} {key : String} {p : Property}
      {path : List String} {layer layer' : Layer} {layers coerced : List Layer}
      (hcurrent : ∀ p, current = some p → p.kind ≠ .array)
      (haround : EntryAround strict schema key layer layer')
      (hp : Table.get? schema key = some p) (hnested : p.nestedSchema = some nested)
      (hrest : Nests strict (some p) nested path layers coerced) :
      Nests strict current schema (key :: path) (layer :: layers) (layer' :: coerced)
  | position {p : Property} {schema : Schema} {segment : String} {path : List String}
      {layer layer' : Layer} {layers coerced : List Layer} (hkind : p.kind = .array)
      (haround : ElementAround strict schema segment layer layer')
      (hrest : Nests strict p.items schema path layers coerced) :
      Nests strict (some p) schema (segment :: path) (layer :: layers) (layer' :: coerced)

namespace EntryAround

variable (h : EntryAround strict schema key layer layer')
include h

theorem openAt : layer.OpenAt key ∧ layer'.OpenAt key := by
  cases h with
  | intro hkey hbefore hafter => exact ⟨⟨rfl, hkey⟩, rfl, by rwa [keys_coerceEntries hbefore]⟩

theorem exists_fill_eq (v : Value) : ∃ entries, layer.fill v = .doc entries := by
  cases h
  exact ⟨_, rfl⟩

theorem coerceNested_fill (v : Value) :
    coerceNested strict schema (layer.fill v) =
      layer'.fill <$> coerceEntry strict schema (key, v) := by
  cases h with
  | intro hkey hbefore hafter =>
    simp only [Layer.fill, coerceNested, coerceEntries_append hbefore, coerceEntries_cons, hafter]
    cases coerceEntry strict schema (key, v) <;> rfl

end EntryAround

namespace ElementAround

variable {segment : String} (h : ElementAround strict schema segment layer layer')
include h

theorem openAt : layer.OpenAt segment ∧ layer'.OpenAt segment := by
  cases h with
  | intro hindex hbefore hafter =>
    have hlength := (coerceItems_eq_ok.mp hbefore).length_eq
    exact ⟨hindex, hindex.trans (congrArg some hlength)⟩

theorem allDigits : Text.allDigits segment.toList = true := by
  cases h with
  | intro hindex => exact Text.allDigits_of_index? hindex

theorem coerceNested_fill (v : Value) :
    coerceNested strict schema (layer.fill v) = layer'.fill <$> coerceNested strict schema v := by
  cases h with
  | intro hindex hbefore hafter =>
    simp only [Layer.fill, coerceNested, coerceItems_append hbefore, coerceItems_cons, hafter]
    cases coerceNested strict schema v <;> rfl

end ElementAround

theorem exists_entryAround (strict : Bool) (schema : Schema) (key : String) :
    ∃ layer layer', EntryAround strict schema key layer layer' :=
  ⟨.entry [] key [], .entry [] key [], .intro (by simp [Table.keys]) rfl rfl⟩

theorem coerceItems_null (strict : Bool) (schema : Schema) (count : Nat) :
    coerceItems strict schema (List.replicate count .null) =
      .ok (List.replicate count .null) := by
  rw [coerceItems_eq_ok, List.forall₂_same]
  intro v hv
  rw [List.eq_of_mem_replicate hv]
  rfl

theorem exists_elementAround (strict : Bool) (schema : Schema) {segment : String} {i : Nat}
    (h : Text.index? segment = some i) :
    ∃ layer layer', ElementAround strict schema segment layer layer' := by
  refine ⟨.element (.replicate i .null) [], .element (.replicate i .null) [], ?_⟩
  exact .intro (by simpa using h) (coerceItems_null strict schema i) rfl

/-- There is a document with an open place at every path that leads through the schema. -/
theorem Leads.exists_nests (strict : Bool) (h : Leads current schema path) :
    ∃ layers coerced, Nests strict current schema path layers coerced := by
  induction h with
  | @leaf current schema key hcurrent =>
    obtain ⟨layer, layer', haround⟩ := exists_entryAround strict schema key
    exact ⟨_, _, .leaf hcurrent haround⟩
  | @key current schema nested key p path hcurrent hp hnested _ ih =>
    obtain ⟨layer, layer', haround⟩ := exists_entryAround strict schema key
    obtain ⟨layers, coerced, hrest⟩ := ih
    exact ⟨_, _, .key hcurrent haround hp hnested hrest⟩
  | @position p schema segment i path hkind hindex _ ih =>
    obtain ⟨layer, layer', haround⟩ := exists_elementAround strict schema hindex
    obtain ⟨layers, coerced, hrest⟩ := ih
    exact ⟨_, _, .position hkind haround hrest⟩

namespace Nests

theorem openAt (h : Nests strict current schema path layers coerced) :
    List.Forall₂ (fun segment layer => layer.OpenAt segment) path layers ∧
      List.Forall₂ (fun segment layer => layer.OpenAt segment) path coerced := by
  induction h with
  | leaf _ haround => exact ⟨.cons haround.openAt.1 .nil, .cons haround.openAt.2 .nil⟩
  | key _ haround _ _ _ ih => exact ⟨.cons haround.openAt.1 ih.1, .cons haround.openAt.2 ih.2⟩
  | position _ haround _ ih => exact ⟨.cons haround.openAt.1 ih.1, .cons haround.openAt.2 ih.2⟩

theorem exists_nest_eq_doc (h : Nests strict current schema path layers coerced)
    (hcurrent : ∀ p, current = some p → p.kind ≠ .array) (v : Value) :
    ∃ entries, nest layers v = .doc entries := by
  cases h with
  | leaf _ haround => exact haround.exists_fill_eq _
  | key _ haround => exact haround.exists_fill_eq _
  | position hkind => exact absurd hkind (hcurrent _ rfl)

theorem nest_ne_doc {p : Property} (h : Nests strict (some p) schema path layers coerced)
    (hkind : p.kind = .array) (entries : Document) : nest layers v ≠ .doc entries := by
  cases h with
  | leaf hcurrent => exact absurd hkind (hcurrent p rfl)
  | key hcurrent => exact absurd hkind (hcurrent p rfl)
  | position _ haround =>
    cases haround
    simp [nest, Layer.fill]

end Nests

theorem follow_of_not_array (hcurrent : ∀ p, current = some p → p.kind ≠ .array)
    (hpath : path ≠ []) :
    Model.follow current (some schema) path = Model.follow none (some schema) path := by
  cases current with
  | none => rfl
  | some p => exact Model.follow_of_kind_ne_array (hcurrent p rfl) hpath

/-- Inside layers a value is coerced by the property that the path to its place leads to. -/
theorem coerceNested_nest (h : Nests strict current schema path layers coerced) (v : Value) :
    coerceNested strict schema (nest layers v) =
      nest coerced <$> coerceOne (Model.follow current (some schema) path) strict v := by
  induction h with
  | @leaf current schema key layer layer' hcurrent haround =>
    rw [follow_of_not_array hcurrent (by simp), Model.follow_singleton, coerceOne_get?]
    exact haround.coerceNested_fill v
  | @key current schema nested key p path layer layer' layers coerced hcurrent haround hp hnested
      hrest ih =>
    have hentry : coerceEntry strict schema (key, nest layers v) =
        coerceNested strict nested (nest layers v) := by
      simp only [coerceEntry, hp, Option.bind_some, hnested]
      exact coerceMember_eq_coerceNested fun hkind => hrest.nest_ne_doc (of_decide_eq_true hkind)
    have hfollow : Model.follow current (some schema) (key :: path) =
        Model.follow (some p) (some nested) path := by
      rw [follow_of_not_array hcurrent (by simp)]
      simp [Model.follow, Model.advance, Model.advance.enter, hp, hnested]
    change coerceNested strict schema (layer.fill (nest layers v)) = _
    rw [haround.coerceNested_fill, hentry, ih, hfollow, Functor.map_map]
    rfl
  | @position p schema segment path layer layer' layers coerced hkind haround _ ih =>
    change coerceNested strict schema (layer.fill (nest layers v)) = _
    rw [haround.coerceNested_fill, ih, Model.follow_index hkind haround.allDigits,
      Functor.map_map]
    rfl

/-- Setting the path to the value stores this, or fails as this does; and so does coercing a
document that holds the value at the path, among others that can be coerced. -/
structure SetsAsNested (model : Model) (strict : Bool) (path : String) (v : Value)
    (element : Result Value) : Prop where
  set : ∃ field, model.storagePath path = .ok field ∧
    store model strict [("$set", .doc [(path, v)])] =
      (fun w => [("$set", .doc [(field, w)])]) <$> element
  nests : ∃ layers coerced,
    Nests strict none model.properties (Text.segments path) layers coerced
  nested : ∀ layers coerced,
    Nests strict none model.properties (Text.segments path) layers coerced →
      (nest layers v).found? (Text.segments path) = some v ∧
        coerceDocument strict model.properties (nest layers v) = nest coerced <$> element ∧
          ∀ w, (nest coerced w).found? (Text.segments path) = some w

theorem exists_setsAsNested {path : String} (hdot : Text.hasDot path = true)
    (hid : Text.hasDot model.idName = false) (hcolumns : model.TextColumns)
    (hleads : Leads none model.properties (Text.segments path)) (v : Value) :
    ∃ element, SetsAsNested model strict path v element := by
  have hname : path ≠ model.idName := by
    rintro rfl
    simp [hdot] at hid
  have hfield : path ≠ idField := by
    rintro rfl
    exact absurd hdot (by decide)
  obtain ⟨column, hcolumn⟩ := hcolumns.exists_columnName (Text.pathHead path)
  have hstorage := Model.storagePath_of_columnName hcolumn
  refine ⟨coerceOne (Model.follow none (some model.properties) (Text.segments path)) strict v,
    ⟨_, hstorage, ?_⟩, hleads.exists_nests strict, ?_⟩
  · rw [store_singleton, storeOperand_path rfl hname hdot (Model.propertyAt_of_ne hfield) hstorage,
      Functor.map_map]
  · intro layers coerced hnests
    obtain ⟨hgiven, hcoerced⟩ := hnests.openAt
    refine ⟨found?_nest hgiven v, ?_, found?_nest hcoerced⟩
    obtain ⟨entries, hentries⟩ := hnests.exists_nest_eq_doc (by simp) v
    rw [← coerceNested_nest hnests, hentries]
    rfl

def groups : Property :=
  .arrayOf "lines" (some (.arrayOf "lines" (some (.objectOf "lines" "object" [("price", .node
    { name := "price", typeName := "string", dataType := .text "decimal128" } none none)]))))

def grouped : Model := .ofSchema "Order" [("lines", groups)] {}

theorem exists_setsAsNested_grouped :
    ∃ element, SetsAsNested grouped true "lines.1.0.price" (.text "0.00") element := by
  have hcolumns : grouped.TextColumns := by
    intro entry hentry
    rcases List.mem_cons.mp hentry with rfl | hentry
    · exact ⟨"lines", rfl⟩
    · rw [List.mem_singleton.mp hentry]
      exact ⟨"id", rfl⟩
  have hsegments : Text.segments "lines.1.0.price" = ["lines", "1", "0", "price"] := by decide
  have hone : Text.index? "1" = some 1 := by decide
  have hzero : Text.index? "0" = some 0 := by decide
  have hleads : Leads none grouped.properties (Text.segments "lines.1.0.price") := by
    rw [hsegments]
    refine .key (by simp) rfl rfl (.position rfl hone (.position rfl hzero (.leaf ?_)))
    intro p hp
    rw [← Option.some.inj hp]
    decide
  exact exists_setsAsNested (by decide) (by decide) hcolumns hleads _

end ModelStore.Update
