import ModelStore.Coercion.Reference
import ModelStore.Coercion.Decimal

/-!
Coercion of whole documents along a schema. Keys, their order and the lengths of lists stay as
they are; only the values at the leaves change, each by the rules of its property.
-/
namespace ModelStore.Coercion

def coerceDecimal : Value → Result Value
  | .list items => do .ok (.list (← items.mapM toDecimal128))
  | .tuple items => do .ok (.list (← items.mapM toDecimal128))
  | v => toDecimal128 v

/-- Coerces one value. What is not set stays as it is, except for decimal zeros, which can only be
stored as stored decimals. -/
def coerceValue (definition : Option Property) (strict : Bool) (v : Value) : Result Value :=
  let isDecimal := match v with
    | .decimal _ => true
    | _ => false
  if !v.truthy && !isDecimal then .ok v
  else if isDecimalProperty definition then coerceDecimal v
  else if isDeclaredObjectId definition || v.isText then coerceReference definition v strict
  else .ok v

mutual

def coerceEntries (strict : Bool) (schema : Schema) : List (String × Value) → Result Document
  | [] => .ok []
  | (key, v) :: rest => do
      let definition := Table.get? schema key
      let coerced ←
        match definition.bind Property.nestedSchema with
        | some nested => coerceMember strict definition nested v
        | none => coerceValue definition strict v
      .ok ((key, coerced) :: (← coerceEntries strict schema rest))

/-- A value of a property with nested properties; an array property looks into lists only. -/
def coerceMember (strict : Bool) (definition : Option Property) (nested : Schema) :
    Value → Result Value
  | .doc entries =>
      if definition.any (·.kind = .array) then .ok (.doc entries)
      else do .ok (.doc (← coerceEntries strict nested entries))
  | .list items => do .ok (.list (← coerceItems strict nested items))
  | v => .ok v

/-- Documents, and lists of them to any depth, are coerced by the nested properties. -/
def coerceNested (strict : Bool) (nested : Schema) : Value → Result Value
  | .doc entries => do .ok (.doc (← coerceEntries strict nested entries))
  | .list items => do .ok (.list (← coerceItems strict nested items))
  | v => .ok v

def coerceItems (strict : Bool) (nested : Schema) : List Value → Result (List Value)
  | [] => .ok []
  | v :: rest => do
      let coerced ← coerceNested strict nested v
      .ok (coerced :: (← coerceItems strict nested rest))

end

/-- Coerces what is given as a document. A sequence of pairs can be read as a document but has no
entries of its own to walk. -/
def coerceDocument (strict : Bool) (schema : Schema) (v : Value) : Result Value := do
  match v with
  | .doc entries => .ok (.doc (← coerceEntries strict schema entries))
  | v => do
      let _ ← v.toDocument
      noMember

end ModelStore.Coercion
