import ModelStore.Schema.Model

/-!
Coercion to identifiers. A property declared as an identifier takes identifiers and texts that
write one, and refuses everything else. Elsewhere a text that writes an identifier becomes one,
unless strict coercion leaves texts alone.
-/
namespace ModelStore.Coercion

/-- The identifier a text writes. A text that only looks like one is refused. -/
def readObjectId (s : String) : Result Value :=
  match ObjectId.ofText? s with
  | some id => .ok (.objectId id)
  | none => .error (.invalidObjectId s)

def looksLikeObjectId : Value → Bool
  | .text s => ObjectId.isIdText s
  | _ => false

def toObjectId : Value → Result Value
  | .text s => if ObjectId.isIdText s then readObjectId s else .ok (.text s)
  | v => .ok v

def requireObjectId : Value → Result Value
  | .objectId id => .ok (.objectId id)
  | .text s => if ObjectId.isIdText s then readObjectId s else .error (.notObjectId (.text s))
  | v => .error (.notObjectId v)

def isObjectIdType (v : Value) : Bool :=
  isMarker objectIdMarker v || isMarker ("[" ++ objectIdMarker ++ "]") v

def isDeclaredObjectId (definition : Option Property) : Bool :=
  match definition with
  | none => false
  | some p =>
      isObjectIdType p.traits.dataType || isObjectIdType (.text p.traits.typeName) ||
        p.kind = .reference ||
        (p.kind = .array && p.items.any fun item => item.kind = .reference)

def isObjectIdProperty (definition : Option Property) (v : Value) (strict : Bool) : Bool :=
  isDeclaredObjectId definition ||
    match v with
    | .objectId _ => true
    | .text s => !strict && ObjectId.isIdText s
    | _ => false

/-- Lists and tuples of a declared property are coerced element by element. -/
def coerceReference (definition : Option Property) (v : Value) (strict : Bool) : Result Value :=
  if isDeclaredObjectId definition then
    match v with
    | .list items => do .ok (.list (← items.mapM requireObjectId))
    | .tuple items => do .ok (.list (← items.mapM requireObjectId))
    | v => requireObjectId v
  else if isObjectIdProperty definition v strict then toObjectId v
  else .ok v

end ModelStore.Coercion
