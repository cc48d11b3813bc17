import ModelStore.Value.Basic
import ModelStore.Text.Lowercase

/-!
Properties of a model: one node of its schema tree. A property has traits of its own and may have
an element property, for arrays, and nested properties, for objects.
-/
namespace ModelStore

inductive PropertyKind where
  | scalar
  | object
  | array
  | reference
  | geopoint
  deriving DecidableEq, Inhabited

/-- What is declared of a property itself. The storage name, the storage type and the identifier
flag are kept as they were found. -/
structure PropertyTraits where
  name : String
  kind : PropertyKind := .scalar
  typeName : String := "any"
  dataType : Value := .null
  fieldName : Value := .null
  id : Value := .bool false
  generated : Bool := false
  index : Bool := false
  unique : Bool := false
  deriving Inhabited

inductive Property where
  | node (traits : PropertyTraits) (items : Option Property)
      (properties : Option (List (String × Property)))
  deriving Inhabited

abbrev Schema := Table Property

/-- A text that is the marker in any mixture of cases. -/
def isMarker (marker : String) : Value → Bool
  | .text s => Text.lower s = marker
  | _ => false

def objectIdMarker : String := "objectid"
def decimalMarker : String := "decimal128"

namespace Property

def traits : Property → PropertyTraits
  | node traits _ _ => traits

def items : Property → Option Property
  | node _ items _ => items

def properties : Property → Option Schema
  | node _ _ properties => properties

def name (p : Property) : String := p.traits.name

def kind (p : Property) : PropertyKind := p.traits.kind

/-- The storage name: the declared one if it is set, the property's own name otherwise. -/
def column (p : Property) : Value := p.traits.fieldName.orElse (.text p.name)

def isId (p : Property) : Bool := p.traits.id.truthy

/-- Where an identifier stands among several: at the number its flag gives, else at one. -/
def rank (p : Property) : Int :=
  match p.traits.id with
  | .int n => n
  | _ => 1

/-- Values of an object property are documents and never operator specifications. -/
def isObjectShaped (p : Property) : Bool := p.kind = .object

/-- The properties inside an object, or inside the objects of an array. -/
def nestedSchema : Property → Option Schema
  | node traits items properties =>
      match traits.kind with
      | .object =>
          match properties with
          | some (entry :: rest) => some (entry :: rest)
          | _ => none
      | .array =>
          match items with
          | some item => nestedSchema item
          | none => none
      | _ => none

def withKind (p : Property) (kind : PropertyKind) : Property :=
  node { p.traits with kind := kind } p.items p.properties

def plain (name : String) (kind : PropertyKind) (typeName : String) : Property :=
  node { name := name, kind := kind, typeName := typeName } none none

def arrayOf (name : String) (items : Option Property) : Property :=
  node { name := name, kind := .array, typeName := "array" } items none

def objectOf (name typeName : String) (properties : Schema) : Property :=
  node { name := name, kind := .object, typeName := typeName } none (some properties)

end Property

end ModelStore
