import ModelStore.Schema.Model

/-!
Declarations of properties, in the forms a model may be written in: a type by name or by class, a
list around the declaration of its elements, a table with a type and storage traits, a table of
nested properties, another model, or a property that already exists.
-/
namespace ModelStore

/-- Classes that declare the type of a property. Those without a type of their own declare the one
that is called like the class. -/
inductive DataClass where
  | text
  | integer
  | floating
  | boolean
  | mapping
  | list
  | bytes
  | decimal
  | objectId
  | other (name : String)
  deriving DecidableEq, Inhabited

def DataClass.typeName : DataClass → String
  | .text => "string"
  | .integer => "number"
  | .floating => "number"
  | .boolean => "boolean"
  | .mapping => "object"
  | .list => "array"
  | .bytes => "buffer"
  | .decimal => "number"
  | .objectId => objectIdMarker
  | .other name => Text.lower name

inductive Declaration where
  /-- A type name, or any value in the place of one. -/
  | value (v : Value)
  | dataClass (c : DataClass)
  | model (m : Model)
  | property (p : Property)
  | list (items : List Declaration)
  | mapping (entries : List (String × Declaration))

instance : Inhabited Declaration := ⟨.value .null⟩

abbrev Registry := Table Model

namespace Declaration

mutual

/-- A declaration read as a plain value; what is no value counts as something set. -/
def toValue : Declaration → Value
  | .value v => v
  | .list items => .list (toValues items)
  | .mapping entries => .doc (toEntries entries)
  | _ => .record []

def toValues : List Declaration → List Value
  | [] => []
  | d :: rest => toValue d :: toValues rest

def toEntries : List (String × Declaration) → List (String × Value)
  | [] => []
  | (key, d) :: rest => (key, toValue d) :: toEntries rest

end

def kindOfType (typeName : String) : PropertyKind :=
  if typeName = objectIdMarker then .reference
  else if typeName = "geopoint" then .geopoint
  else if typeName = "object" then .object
  else if typeName = "array" then .array
  else .scalar

def unbracket? : List Char → Option (List Char)
  | '[' :: rest => if rest.getLast? = some ']' then some rest.dropLast else none
  | _ => none

theorem length_unbracket? {cs inner : List Char} (h : unbracket? cs = some inner) :
    inner.length < cs.length := by
  unfold unbracket? at h
  split at h
  · split at h
    · injection h with h
      subst h
      simp only [List.length_dropLast, List.length_cons]
      omega
    · simp at h
  · simp at h

/-- The property of a type name in small letters; brackets make an array. -/
def ofTypeName (name : String) (typeName : List Char) : Property :=
  match _h : unbracket? typeName with
  | some inner => .arrayOf name (some (ofTypeName name inner))
  | none =>
      let typeName := String.ofList typeName
      .plain name (kindOfType typeName) typeName
termination_by typeName.length
decreasing_by exact length_unbracket? _h

/-- A model as a nested object. Embedded documents carry no generated identifier of their own. -/
def embed (name : String) (m : Model) : Property :=
  .objectOf name m.name (m.properties.filter fun entry =>
    !(entry.2.isId && entry.2.traits.generated))

/-- The property of a type text: a known model, bare or in brackets, comes before a type name. -/
def ofTypeText (models : Registry) (name text : String) : Property :=
  let lowered := ofTypeName name (Text.lower text).toList
  match unbracket? text.toList with
  | none =>
      match Table.get? models text with
      | some m => embed name m
      | none => lowered
  | some inner =>
      match Table.get? models (String.ofList inner) with
      | some m => .arrayOf name (some (embed name m))
      | none => lowered

def withTraits (name : String) (base : Property) (entries : Document) : Result Property := do
  let get := fun (d : Document) key => (Table.get? d key).getD .null
  let section_ ← (get entries "mongodb").options
  let dataType := get section_ "dataType"
  let kind :=
    if isMarker objectIdMarker dataType && base.kind = .scalar then .reference else base.kind
  .ok (.node
    { name := name
      kind := kind
      typeName := base.traits.typeName
      dataType := dataType
      fieldName := (get section_ "fieldName").orElse (get section_ "column")
      id := (Table.get? entries "id").getD (.bool false)
      generated := (get entries "generated").truthy
      index := (get entries "index").truthy
      unique := (get entries "unique").truthy }
    base.items base.properties)

mutual

def parse (models : Registry) (name : String) : Declaration → Result Property
  | .property p => .ok p
  | .dataClass c => .ok (ofTypeName name c.typeName.toList)
  | .model m => .ok (embed name m)
  | .value (.text s) => .ok (ofTypeText models name s)
  | .value _ => .ok (.plain name .scalar "any")
  | .list [] => .ok (.arrayOf name none)
  | .list (d :: _) => do .ok (.arrayOf name (some (← parse models name d)))
  | .mapping entries => do
      match ← parseType models name entries with
      | some base => withTraits name base (toEntries entries)
      | none => do .ok (.objectOf name "object" (← parseEntries models entries))

/-- The property of the entry named `type`, if there is one. An existing property is no type. -/
def parseType (models : Registry) (name : String) :
    List (String × Declaration) → Result (Option Property)
  | [] => .ok none
  | (key, d) :: rest =>
      if key = "type" then
        match d with
        | .property _ => .ok (some (.plain name .scalar "any"))
        | d => do .ok (some (← parse models name d))
      else parseType models name rest

def parseEntries (models : Registry) : List (String × Declaration) → Result Schema
  | [] => .ok []
  | (key, d) :: rest => do
      let p ← parse models key d
      let schema ← parseEntries models rest
      .ok ((key, p) :: schema)

end

def entries : Declaration → Result (List (String × Declaration))
  | .mapping entries => .ok entries
  | .list [] => .ok []
  | .value v => if v.truthy then noMember else .ok []
  | _ => noMember

end Declaration

/-- Settings of a model to be defined: finished ones, or a declaration of them. -/
inductive SettingsDeclaration where
  | given (settings : ModelSettings)
  | declared (v : Value)

def SettingsDeclaration.settings : SettingsDeclaration → Result ModelSettings
  | .given settings => .ok settings
  | .declared v => ModelSettings.ofValue v

namespace Registry

def parseModel (registry : Registry) (name : String) (properties : Declaration)
    (settings : SettingsDeclaration) : Result Model := do
  let schema ← Declaration.parseEntries registry (← properties.entries)
  .ok (.ofSchema name schema (← settings.settings))

def define (registry : Registry) (name : String) (properties : Declaration)
    (settings : SettingsDeclaration) : Result (Model × Registry) := do
  let model ← parseModel registry name properties settings
  .ok (model, Table.insert registry name model)

/-- The model of a name. Containers cannot be names at all. -/
def find (registry : Registry) (name : Value) : Result Model :=
  match name with
  | .text s =>
      match Table.get? registry s with
      | some model => .ok model
      | none => .error (.unknownModel name)
  | name => if name.isContainer then wrongType else .error (.unknownModel name)

end Registry

end ModelStore
