import ModelStore.Coercion.Document
import ModelStore.Filter.Geometry
import ModelStore.Filter.Pattern
import ModelStore.Settings.Basic

/-!
Filters compiled to native queries. A filter is a table of conditions, some of them lists of
filters under a logical key; keys that would run code on the server are erased at every such level
before anything is compiled.
-/
namespace ModelStore.Filter

def forbiddenKeys : List String := ["$where", "mapReduce", "$mapReduce"]

def isForbidden (key : String) : Bool := forbiddenKeys.contains key

def logicalKeys : List String := ["and", "or", "nor"]

def isLogical (key : String) : Bool := logicalKeys.contains key

/-- A document without its forbidden keys; documents inside it are not looked at. -/
def sanitize (entries : Document) : Document := entries.filter fun entry => !isForbidden entry.1

def sanitizeValue : Value → Result Value
  | .doc entries => .ok (.doc (sanitize entries))
  | v => do
      let elements ← v.elements
      if elements.any Value.isContainer then wrongType
      else if elements.any fun
          | .text s => isForbidden s
          | _ => false
      then wrongType
      else .ok v

/-- What a filter is compiled for. -/
structure Target where
  model : Model
  nullAsAbsent : Bool
  strict : Bool

/-- The operator specification of a condition. Documents of object properties are none. -/
def specOf (definition : Option Property) : Value → Option Spec
  | .doc entries =>
      if definition.any Property.isObjectShaped then none else Spec.ofDocument? entries
  | _ => none

/-- Lists and tuples are coerced element by element. -/
def coerceOperand (definition : Option Property) (strict : Bool) : Value → Result Value
  | .list items => do .ok (.list (← items.mapM (Coercion.coerceValue definition strict)))
  | .tuple items => do .ok (.list (← items.mapM (Coercion.coerceValue definition strict)))
  | v => Coercion.coerceValue definition strict v

/-- The native condition of an operator; the first family that knows the tag compiles it. -/
def applyOperator (tag : String) (operand : Value) (modifiers : Document) : Result Value := do
  match ← comparison? tag operand with
  | some condition => .ok condition
  | none =>
    match membership? tag operand with
    | some condition => .ok condition
    | none =>
      match ← search? tag operand modifiers with
      | some condition => .ok condition
      | none =>
        match ← proximity? tag operand modifiers with
        | some condition => .ok condition
        | none => .ok (native tag operand)

def prepareOperand (definition : Option Property) (strict : Bool) (spec : Spec) : Result Value :=
  if (Operator.ofTag? spec.tag).any Operator.takesRawOperand then .ok spec.operand
  else coerceOperand definition strict spec.operand

def definitionOf (model : Model) (field key : String) : Result (Option Property) :=
  if field = idField then some <$> model.idProperty else model.propertyAt key

def nullType : Int := 10

/-- A condition on null: the field is null or absent, or it is there and null. -/
def nullCondition (nullAsAbsent : Bool) : Value :=
  if nullAsAbsent then .null else .doc [("$type", .int nullType)]

def compileLeaf (target : Target) (key : String) (condition : Value) :
    Result (String × Value) := do
  let field ← target.model.fieldName key
  let definition ← definitionOf target.model field key
  match specOf definition condition with
  | some spec => do
      let operand ← prepareOperand definition target.strict spec
      .ok (field, ← applyOperator spec.tag operand spec.modifiers)
  | none =>
      if condition.isNull then .ok (field, nullCondition target.nullAsAbsent)
      else .ok (field, ← Coercion.coerceValue definition target.strict condition)

mutual

/-- Compiles the conditions one by one, each written into the query under its native key. -/
def compileInto (target : Target) (query : Document) :
    List (String × Value) → Result Document
  | [] => .ok query
  | (key, condition) :: rest => do
      if isForbidden key then compileInto target query rest
      else
        match ← compileBranches? target key condition with
        | some branches =>
            compileInto target (Table.insert query ("$" ++ key) (.list branches)) rest
        | none => do
            let (field, native) ← compileLeaf target key condition
            compileInto target (Table.insert query field native) rest

def compileBranches? (target : Target) (key : String) : Value → Result (Option (List Value))
  | .list branches =>
      if isLogical key then some <$> compileEach target branches else .ok none
  | .tuple branches =>
      if isLogical key then some <$> compileEach target branches else .ok none
  | _ => .ok none

/-- A branch that is no document compiles to the empty query. -/
def compileEach (target : Target) : List Value → Result (List Value)
  | [] => .ok []
  | branch :: rest => do
      let query ← compileBranch target branch
      .ok (.doc query :: (← compileEach target rest))

def compileBranch (target : Target) : Value → Result Document
  | .doc entries => compileInto target [] entries
  | _ => .ok []

end

def compile (target : Target) (filter : Document) : Result Document := compileInto target [] filter

def isStrict (model : Model) (settings : Settings) (options : Value) : Result Bool := do
  let call ← options.options
  .ok (Settings.firstSet
    [model.settings.strictObjectIds, Settings.ofBool? settings.strictObjectIds,
     (Table.get? call "strict_object_id_coercion").getD .null] (.bool false)).truthy

/-- The native query of a filter; what is no document filters nothing. -/
def build (model : Model) (settings : Settings) (options filter : Value) : Result Document :=
  match filter with
  | .doc entries => do
      let strict ← isStrict model settings options
      compile ⟨model, settings.nullAsAbsent, strict⟩ entries
  | _ => .ok []

end ModelStore.Filter
