import ModelStore.Schema.Model

/-!
Projections. The requested fields are a list of paths, or a table that says of each path whether
it is wanted. Whether the identifier belongs to the answer is decided from the same request.
-/
namespace ModelStore.Projection

def wanted (b : Bool) : Value := .int (if b then 1 else 0)

def add (model : Model) (projection : Document) (field : Value) (b : Bool) : Result Document := do
  .ok (Table.insert projection (← model.fieldName (← field.path)) (wanted b))

/-- The native projection; none when nothing is requested. -/
def build (model : Model) (fields : Value) : Result (Option Document) :=
  if !fields.truthy then .ok none
  else match fields with
    | .list paths | .tuple paths => do
        .ok (some (← paths.foldlM (fun projection path => add model projection path true) []))
    | fields => do
        let entries ← fields.entries
        .ok (some (← entries.foldlM
          (fun projection entry => add model projection (.text entry.1) entry.2.truthy) []))

def isName (name : String) : Value → Bool
  | .text s => s = name
  | _ => false

/-- The identifier is part of the answer. A table that names it decides; one that does not keeps
it only when its first entry excludes something. -/
def includesId (fields : Value) (idName : String) : Result Bool :=
  if !fields.truthy then .ok true
  else match fields with
    | .list paths | .tuple paths => .ok (paths.any (isName idName))
    | fields => do
        let entries ← fields.lookups
        match Table.get? entries idName with
        | some v => .ok v.truthy
        | none =>
            match entries with
            | [] => .ok true
            | (_, v) :: _ => .ok !v.truthy

end ModelStore.Projection
