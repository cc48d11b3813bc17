import ModelStore.Coercion.Document
import ModelStore.Settings.Basic
import ModelStore.Storage

/-!
Updates. Plain data is wrapped into `$set`; where extended operators are allowed, data that holds
update operators is taken as an update itself. Before an update is sent, its operands are coerced
and their fields renamed to columns, in the way each operator reads them.
-/
namespace ModelStore.Update

def fieldOperators : List String :=
  ["$currentDate", "$inc", "$max", "$min", "$mul", "$rename", "$setOnInsert", "$set", "$unset"]

def arrayOperators : List String := ["$addToSet", "$pop", "$pullAll", "$pull", "$push"]

def bitOperators : List String := ["$bit"]

def operators : List String := fieldOperators ++ arrayOperators ++ bitOperators

/-- How an operator reads the entries of its operand. -/
inductive OperandKind where
  /-- Names only: the values are flags. -/
  | names
  /-- New names for fields. -/
  | renames
  /-- Elements of arrays. -/
  | elements
  /-- Whole property values. -/
  | values
  deriving DecidableEq

def operandKind (operator : String) : OperandKind :=
  if operator = "$rename" then .renames
  else if ["$currentDate", "$unset", "$pop", "$bit"].contains operator then .names
  else if ["$addToSet", "$pull", "$push"].contains operator then .elements
  else .values

/-- Extended operators as the call, the model and the datasource set them, the first that does;
nothing but true allows them. -/
def operatorsAllowed (model : Model) (settings : Settings) (options : Value) : Result Bool := do
  let call ← options.options
  match Settings.firstSet
    [(Table.get? call "allow_extended_operators").getD .null, model.settings.extendedOperators,
     Settings.ofBool? settings.extendedOperators] (.bool false) with
  | .bool true => .ok true
  | _ => .ok false

def setAll (data : Document) : Document := [("$set", .doc data)]

/-- The operators that data holds, in their fixed order and without empty operands. -/
def heldOperators (data : Document) : Document :=
  operators.filterMap fun operator =>
    match Table.get? data operator with
    | some operand => if operand.truthy then some (operator, operand) else none
    | none => none

def parse (model : Model) (settings : Settings) (options data : Value) : Result Document := do
  if ← operatorsAllowed model settings options then
    let data ← data.lookups
    match heldOperators data with
    | [] => .ok (setAll data)
    | held => .ok held
  else .ok (setAll (← data.toDocument))

def coerceOne (definition : Option Property) (strict : Bool) (v : Value) : Result Value :=
  match definition.bind Property.nestedSchema with
  | some nested => Coercion.coerceMember strict definition nested v
  | none => Coercion.coerceValue definition strict v

/-- Coerces an element: by the storage type of the array if it has one, else by its element
property. -/
def coerceItem (definition : Property) (strict : Bool) (v : Value) : Result Value :=
  if !definition.traits.dataType.isNull then Coercion.coerceValue (some definition) strict v
  else match definition.items with
    | none => Coercion.coerceValue (some definition) strict v
    | some item => coerceOne (some item) strict v

/-- Coerces the operand of an element operator: one element, or several under `$each`. -/
def coerceElement (definition : Option Property) (strict : Bool) (v : Value) : Result Value :=
  match definition with
  | none => coerceOne none strict v
  | some p =>
      if p.kind = .array then
        match v with
        | .doc entries =>
            match Table.get? entries "$each" with
            | some each => do
                let items ← (← each.elements).mapM (coerceItem p strict)
                .ok (.doc (Table.insert entries "$each" (.list items)))
            | none => coerceItem p strict (.doc entries)
        | v => coerceItem p strict v
      else coerceOne (some p) strict v

def mapEntries (model : Model) (convert : String → Value → Result Value) (entries : Document) :
    Result Document :=
  entries.foldlM (fun stored entry => do
    let path ← model.storagePath entry.1
    let v ← convert entry.1 entry.2
    .ok (Table.insert stored path v)) []

def renameTarget (model : Model) : Value → Result Value
  | .text s => do .ok (.text (← model.storagePath s))
  | v => .ok v

/-- Whole values: undotted fields are stored together, dotted ones after them one by one. -/
def storeValues (model : Model) (strict : Bool) (entries : Document) : Result Document := do
  let top := entries.filter fun entry => !Text.hasDot entry.1
  let dotted := entries.filter fun entry => Text.hasDot entry.1
  let stored ← Storage.store model (← Coercion.coerceEntries strict model.properties top)
  dotted.foldlM (fun stored entry => do
    let v ← coerceOne (← model.propertyAt entry.1) strict entry.2
    let path ← model.storagePath entry.1
    .ok (Table.insert stored path v)) stored

def storeOperand (model : Model) (strict : Bool) (operator : String) (operand : Document) :
    Result Document :=
  let entries := operand.filter fun entry => entry.1 ≠ model.idName
  match operandKind operator with
  | .renames => mapEntries model (fun _ v => renameTarget model v) entries
  | .names => mapEntries model (fun _ v => .ok v) entries
  | .elements =>
      mapEntries model (fun key v => do coerceElement (← model.propertyAt key) strict v) entries
  | .values => storeValues model strict entries

/-- An update in storage form. Operands that are no documents are kept. -/
def store (model : Model) (strict : Bool) : Document → Result Document
  | [] => .ok []
  | (operator, operand) :: rest => do
      let operand ←
        match operand with
        | .doc entries => do .ok (.doc (← storeOperand model strict operator entries))
        | v => .ok v
      .ok ((operator, operand) :: (← store model strict rest))

def storeValue (model : Model) (strict : Bool) (update : Value) : Result Document := do
  store model strict (← update.entries)

end ModelStore.Update
