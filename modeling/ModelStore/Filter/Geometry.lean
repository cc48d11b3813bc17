import ModelStore.Filter.Operator

/-!
Geographic points and the search around one. A point may be given with members for latitude and
longitude, as a stored point, or as a pair with the longitude first; it is stored with the
longitude first. Distances become meters when their unit is known.
-/
namespace ModelStore.Filter

open Number

def pointCoordinates : Value → Result (List Value)
  | .doc entries =>
      match Table.get? entries "coordinates", Table.get? entries "lat",
        Table.get? entries "lng" with
      | some coordinates, _, _ => coordinates.elements
      | none, some lat, some lng => .ok [lng, lat]
      | none, _, _ => .error (.notPoint (.doc entries))
  | .list items =>
      match items with
      | [lng, lat] => .ok [lng, lat]
      | items => .error (.notPoint (.list items))
  | .tuple items =>
      match items with
      | [lng, lat] => .ok [lng, lat]
      | items => .error (.notPoint (.tuple items))
  | v =>
      match v.member? "lat", v.member? "lng" with
      | some lat, some lng => .ok [lng, lat]
      | _, _ => .error (.notPoint v)

def geoPoint (coordinates : List Value) : Value :=
  .doc [("type", .text "Point"), ("coordinates", .list coordinates)]

/-- The meters in one unit of length, as a binary number. -/
def metersPerUnit? : String → Option Binary64
  | "meters" => some (.finite false 0x10000000000000 (-52))
  | "kilometers" => some (.finite false 0x1F400000000000 (-43))
  | "miles" => some (.finite false 0x19255C28F5C28F (-42))
  | "feet" => some (.finite false 0x1381D7DBF487FD (-54))
  | _ => none

def scale (factor : Binary64) : Value → Result Value
  | .bool b => .ok (.float (Binary64.mul (Binary64.nearest false (if b then 1 else 0) 0) factor))
  | .int n =>
      match Binary64.ofInt? n with
      | some x => .ok (.float (x.mul factor))
      | none => tooLarge
  | .float x => .ok (.float (x.mul factor))
  | _ => wrongType

/-- A distance in meters; distances in angles or unnamed units are kept. -/
def distance (unit v : Value) : Result Value :=
  match unit with
  | .text name =>
      match metersPerUnit? name with
      | some factor => scale factor v
      | none => .ok v
  | unit => if unit.isContainer then wrongType else .ok v

def distanceBound (modifiers : Document) (key native : String) : Result Document :=
  match Table.get? modifiers key with
  | none | some .null => .ok []
  | some v => do
      .ok [(native, ← distance ((Table.get? modifiers "unit").getD .null) v)]

def proximity? (tag : String) (operand : Value) (modifiers : Document) : Result (Option Value) :=
  match Operator.ofTag? tag with
  | some .near => do
      let center ← pointCoordinates operand
      let most ← distanceBound modifiers "maxDistance" "$maxDistance"
      let least ← distanceBound modifiers "minDistance" "$minDistance"
      .ok (some (.doc [("$near", .doc ([("$geometry", geoPoint center)] ++ most ++ least))]))
  | _ => .ok none

end ModelStore.Filter
