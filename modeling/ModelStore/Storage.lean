import ModelStore.Schema.Model
import ModelStore.Filter.Geometry

/-!
Documents as they are stored and as the model sees them. Storing renames properties to columns and
writes points in the stored form; loading goes back and puts the identifier under its name.
-/
namespace ModelStore.Storage

def isGeoPoint (entries : Document) : Bool :=
  match Table.get? entries "type" with
  | some (.text s) => s = "Point"
  | _ => false

/-- The stored form of a point; null and stored points are kept. -/
def storePoint : Value → Result Value
  | .null => .ok .null
  | .doc entries =>
      if isGeoPoint entries then .ok (.doc entries)
      else do .ok (Filter.geoPoint (← Filter.pointCoordinates (.doc entries)))
  | v => do .ok (Filter.geoPoint (← Filter.pointCoordinates v))

def firstElements (count : Nat) : Value → Result (List Value)
  | .doc _ => wrongType
  | v => do .ok ((← v.elements).take count)

def loadPoint : Value → Result Value
  | .doc entries =>
      if isGeoPoint entries then
        match Table.get? entries "coordinates" with
        | none => missingKey
        | some coordinates => do
            match ← firstElements 2 coordinates with
            | [lng, lat] => .ok (.doc [("lat", lat), ("lng", lng)])
            | _ => badContents
      else .ok (.doc entries)
  | v => .ok v

def isPoint (model : Model) (prop : String) : Bool :=
  (Table.get? model.properties prop).any fun p => p.kind = .geopoint

def storeInto (model : Model) (stored : Document) : List (String × Value) → Result Document
  | [] => .ok stored
  | (key, v) :: rest => do
      let v ← if isPoint model key then storePoint v else .ok v
      let column ← (model.columnName key).column
      storeInto model (Table.insert stored column v) rest

/-- The stored form of model data. The identifier is not touched. -/
def store (model : Model) (data : Document) : Result Document := storeInto model [] data

def loadInto (model : Model) (includeId : Bool) (data : Document) :
    List (String × Value) → Result Document
  | [] => .ok data
  | (column, v) :: rest => do
      if column = idField then
        loadInto model includeId
          (if includeId then Table.insert data model.idName v else data) rest
      else
        let prop := model.propertyName column
        let v ← if isPoint model prop then loadPoint v else .ok v
        loadInto model includeId (Table.insert data prop v) rest

def load (model : Model) (includeId : Bool) (stored : Document) : Result Document :=
  loadInto model includeId [] stored

end ModelStore.Storage
