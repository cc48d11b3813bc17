import ModelStore.Connector.Read
import ModelStore.Connector.Write

/-!
Operations of a connector as they are called: by name, with positional and keyword arguments. An
argument is taken from its position or from its keyword but not from both, and an optional one that
is not given is null.
-/
namespace ModelStore

/-- The parameters of an operation in order; the optional ones come last. -/
structure Parameters where
  required : List String
  optional : List String := []

namespace Parameters

def names (p : Parameters) : List String := p.required ++ p.optional

def argument (p : Parameters) (keywords : Document) (name : String) (positional : Option Value) :
    Result Value :=
  match positional, Table.get? keywords name with
  | some _, some _ => wrongType
  | some v, none => .ok v
  | none, some v => .ok v
  | none, none => if p.optional.contains name then .ok .null else wrongType

def collect (p : Parameters) (keywords : Document) : List String → List Value → Result (List Value)
  | [], _ => .ok []
  | name :: names, arguments => do
      let v ← p.argument keywords name arguments.head?
      .ok (v :: (← collect p keywords names (arguments.drop 1)))

def bind (p : Parameters) (arguments : List Value) (keywords : Document) : Result (List Value) :=
  if p.names.length < arguments.length then wrongType
  else if keywords.any fun entry => !p.names.contains entry.1 then wrongType
  else p.collect keywords p.names arguments

end Parameters

inductive Operation where
  | connect
  | disconnect
  | ping
  | collectionName (model : Value)
  | collection (model : Value)
  /-- Any method of the model's collection. -/
  | execute (model : Value) (command : String) (arguments : List Value) (keywords : Document)
  | create (model data options : Value)
  | save (model data options : Value)
  | updateOrCreate (model data options : Value)
  | replaceOrCreate (model data options : Value)
  | replaceById (model id data options : Value)
  | updateAttributes (model id data options : Value)
  | updateAll (model filter data options : Value)
  | destroy (model id options : Value)
  | destroyAll (model filter options : Value)
  | findOrCreate (model filter data options : Value)
  | contains (model id options : Value)
  | find (model id options : Value)
  | all (model filter options : Value)
  | count (model filter options : Value)
  deriving Inhabited

namespace Operation

open Act

def parameters? : String → Option Parameters
  | "connect" => some ⟨[], []⟩
  | "disconnect" => some ⟨[], []⟩
  | "ping" => some ⟨[], []⟩
  | "collection_name" => some ⟨["model_name"], []⟩
  | "collection" => some ⟨["model_name"], []⟩
  | "create" => some ⟨["model_name", "data"], ["options"]⟩
  | "save" => some ⟨["model_name", "data"], ["options"]⟩
  | "update_or_create" => some ⟨["model_name", "data"], ["options"]⟩
  | "replace_or_create" => some ⟨["model_name", "data"], ["options"]⟩
  | "replace_by_id" => some ⟨["model_name", "id_value", "data"], ["options"]⟩
  | "update_attributes" => some ⟨["model_name", "id_value", "data"], ["options"]⟩
  | "update_all" => some ⟨["model_name", "where", "data"], ["options"]⟩
  | "destroy" => some ⟨["model_name", "id_value"], ["options"]⟩
  | "destroy_all" => some ⟨["model_name"], ["where", "options"]⟩
  | "optimized_find_or_create" => some ⟨["model_name", "filter", "data"], ["options"]⟩
  | "exists" => some ⟨["model_name", "id_value"], ["options"]⟩
  | "find" => some ⟨["model_name", "id_value"], ["options"]⟩
  | "all" => some ⟨["model_name"], ["filter", "options"]⟩
  | "count" => some ⟨["model_name"], ["where", "options"]⟩
  | _ => none

def ofArguments? : String → List Value → Option Operation
  | "connect", [] => some .connect
  | "disconnect", [] => some .disconnect
  | "ping", [] => some .ping
  | "collection_name", [model] => some (.collectionName model)
  | "collection", [model] => some (.collection model)
  | "create", [model, data, options] => some (.create model data options)
  | "save", [model, data, options] => some (.save model data options)
  | "update_or_create", [model, data, options] => some (.updateOrCreate model data options)
  | "replace_or_create", [model, data, options] => some (.replaceOrCreate model data options)
  | "replace_by_id", [model, id, data, options] => some (.replaceById model id data options)
  | "update_attributes", [model, id, data, options] =>
      some (.updateAttributes model id data options)
  | "update_all", [model, filter, data, options] => some (.updateAll model filter data options)
  | "destroy", [model, id, options] => some (.destroy model id options)
  | "destroy_all", [model, filter, options] => some (.destroyAll model filter options)
  | "optimized_find_or_create", [model, filter, data, options] =>
      some (.findOrCreate model filter data options)
  | "exists", [model, id, options] => some (.contains model id options)
  | "find", [model, id, options] => some (.find model id options)
  | "all", [model, filter, options] => some (.all model filter options)
  | "count", [model, filter, options] => some (.count model filter options)
  | _, _ => none

def leading : Parameters := ⟨["model_name", "command"], []⟩

/-- A native command: model and command first, everything else is passed on. -/
def ofNativeCall (arguments : List Value) (keywords : Document) : Result Operation := do
  let leadingKeywords := keywords.filter fun entry => leading.names.contains entry.1
  let ownKeywords := keywords.filter fun entry => !leading.names.contains entry.1
  match ← leading.bind (arguments.take 2) leadingKeywords with
  | [model, .text command] => .ok (.execute model command (arguments.drop 2) ownKeywords)
  | _ => wrongType

def ofCall (name : String) (arguments : List Value) (keywords : Document) : Result Operation := do
  if name = "execute" then ofNativeCall arguments keywords
  else
    match parameters? name with
    | none => noMember
    | some parameters =>
        match ofArguments? name (← parameters.bind arguments keywords) with
        | some operation => .ok operation
        | none => wrongType

def run (c : Connector) : Operation → Act Value
  | connect => Value.client <$> Connection.connect c.settings
  | disconnect => do
      Connection.disconnect
      pure .null
  | ping => do
      Connection.ping c.settings
      pure (.bool true)
  | collectionName model => settle (c.dispatcher.collectionName model)
  | collection model => Value.collection <$> c.dispatcher.resolve model
  | execute model command arguments keywords =>
      c.dispatcher.execute model command arguments keywords
  | create model data options => c.create model data options
  | save model data options => c.save model data options
  | updateOrCreate model data options => c.updateOrCreate model data options
  | replaceOrCreate model data options => c.replaceOrCreate model data options
  | replaceById model id data options => c.replaceById model id data options
  | updateAttributes model id data options => c.updateAttributes model id data options
  | updateAll model filter data options => c.updateAll model filter data options
  | destroy model id options => c.destroy model id options
  | destroyAll model filter options => c.destroyAll model filter options
  | findOrCreate model filter data options => c.findOrCreate model filter data options
  | contains model id options => c.contains model id options
  | find model id options => c.find model id options
  | all model filter options => c.all model filter options
  | count model filter options => c.count model filter options

def call (c : Connector) (name : String) (arguments : List Value) (keywords : Document) :
    Act Value := do
  run c (← settle (ofCall name arguments keywords))

end Operation

end ModelStore
