import ModelStore.Schema.Property
import ModelStore.Value.Access
import ModelStore.Text.Path
import ModelStore.Text.Digit

/-!
Models: named tables of properties with settings of their own. Every model has an identifier
property, so its identifier has a name; that name and the storage columns connect what a caller
writes with what is stored.
-/
namespace ModelStore

/-- Settings of one model, kept as they were found. -/
structure ModelSettings where
  collection : Value := .null
  strictObjectIds : Value := .null
  extendedOperators : Value := .null
  defaultSortDisabled : Value := .null
  deriving Inhabited

namespace ModelSettings

def ofDocument (settings section_ : Document) : ModelSettings :=
  let get := fun (d : Document) key => (Table.get? d key).getD .null
  let own := get section_ "disableDefaultSort"
  { collection := get section_ "collection"
    strictObjectIds := get settings "strictObjectIDCoercion"
    extendedOperators := get section_ "allowExtendedOperators"
    defaultSortDisabled := if own.isNull then get settings "disableDefaultSort" else own }

def ofValue (v : Value) : Result ModelSettings := do
  let settings ← v.options
  let section_ ← ((Table.get? settings "mongodb").getD .null).options
  .ok (ofDocument settings section_)

end ModelSettings

def idField : String := "_id"

def defaultIdName : String := "id"

def Schema.HasId (schema : Schema) : Prop := schema.any (·.2.isId) = true

instance (schema : Schema) : Decidable schema.HasId := inferInstanceAs (Decidable (_ = true))

structure Model where
  name : String
  properties : Schema
  settings : ModelSettings
  hasId : properties.HasId

namespace Model

def generatedId : Property :=
  .node { name := defaultIdName, id := .bool true, generated := true } none none

theorem any_insert_generatedId (schema : Schema) :
    (Table.insert schema defaultIdName generatedId).any (·.2.isId) = true := by
  induction schema with
  | nil => rfl
  | cons entry rest ih =>
    obtain ⟨k, p⟩ := entry
    by_cases h : k = defaultIdName
    · simp only [Table.insert, if_pos h, List.any_cons, Bool.or_eq_true]
      exact .inl rfl
    · simp [Table.insert, h, ih]

/-- A model over the given properties, with a generated identifier if none of them is one. -/
def ofSchema (name : String) (schema : Schema) (settings : ModelSettings) : Model :=
  if h : schema.HasId then ⟨name, schema, settings, h⟩
  else ⟨name, Table.insert schema defaultIdName generatedId, settings,
    any_insert_generatedId schema⟩

def bare (name : String) : Model := ofSchema name [] {}

/-- Puts a property before the first one of a higher or equal rank. -/
def insertRanked (p : Property) : List Property → List Property
  | [] => [p]
  | q :: rest => if p.rank ≤ q.rank then p :: q :: rest else q :: insertRanked p rest

/-- The identifiers by rank; those of one rank stay in the order of declaration. -/
def ids (m : Model) : List Property :=
  ((m.properties.map Prod.snd).filter Property.isId).foldr insertRanked []

def idNames (m : Model) : List String := m.ids.map Property.name

theorem insertRanked_ne_nil (p : Property) (ps : List Property) : insertRanked p ps ≠ [] := by
  cases ps with
  | nil => simp [insertRanked]
  | cons q rest =>
    simp only [insertRanked]
    split <;> simp

theorem ids_ne_nil (m : Model) : m.ids ≠ [] := by
  have h := m.hasId
  simp only [Schema.HasId, List.any_eq_true] at h
  obtain ⟨entry, hmem, hid⟩ := h
  have hfilter : entry.2 ∈ (m.properties.map Prod.snd).filter Property.isId :=
    List.mem_filter.mpr ⟨List.mem_map_of_mem hmem, hid⟩
  simp only [ids]
  cases hps : (m.properties.map Prod.snd).filter Property.isId with
  | nil => simp [hps] at hfilter
  | cons p rest => exact insertRanked_ne_nil p _

def firstId (m : Model) : Property := m.ids.head m.ids_ne_nil

def idName (m : Model) : String := m.firstId.name

def idProperty (m : Model) : Result Property :=
  match Table.get? m.properties m.idName with
  | some p => .ok p
  | none => missingKey

def collectionName (m : Model) : Value := m.settings.collection.orElse (.text m.name)

/-- The storage column of a property; a name that is not declared stands for itself. -/
def columnName (m : Model) (prop : String) : Value :=
  match Table.get? m.properties prop with
  | some p => p.column
  | none => .text prop

/-- The property declared with the storage name, or the column itself. -/
def propertyName (m : Model) (column : String) : String :=
  match (m.properties.map Prod.snd).find? fun p =>
      match p.traits.fieldName with
      | .text s => s = column
      | _ => false
  with
  | some p => p.name
  | none => column

/-- The storage path of a dotted path: its head becomes a column. -/
def storagePath (m : Model) (path : String) : Result String := do
  .ok ((← (m.columnName (Text.pathHead path)).column) ++ Text.pathRest path)

def fieldName (m : Model) (path : String) : Result String :=
  if path = m.idName ∨ path = idField then .ok idField else m.storagePath path

/-- One segment of a path: the property that it leads to and the properties inside it. Inside an
array a number leads to the element property, and any other segment into the nested properties of
the elements. -/
def advance (current : Option Property) (schema : Option Schema) (segment : String) :
    Option (Option Property × Option Schema) :=
  match current.filter (·.kind = .array) with
  | some p =>
      if Text.allDigits segment.toList then some (p.items, schema) else enter p.nestedSchema
  | none => enter schema
where
  /-- Looks the segment up. -/
  enter : Option Schema → Option (Option Property × Option Schema)
    | none => none
    | some schema => (Table.get? schema segment).map fun p => (some p, p.nestedSchema)

def follow (current : Option Property) (schema : Option Schema) : List String → Option Property
  | [] => current
  | segment :: rest =>
      match advance current schema segment with
      | some (current, schema) => follow current schema rest
      | none => none

def propertyAt (m : Model) (path : String) : Result (Option Property) :=
  if path = idField then some <$> m.idProperty
  else .ok (follow none (some m.properties) (Text.segments path))

end Model

end ModelStore
