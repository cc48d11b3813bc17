import ModelStore.Command
import ModelStore.Filter.IgnoredFlags
import ModelStore.Inclusion
import ModelStore.Projection
import ModelStore.Sort
import ModelStore.Storage
import ModelStore.Update

/-!
A connector: settings of a datasource, the models that live there, perhaps a resolver of inclusions,
and what its observers do. Here stands what its operations share: how identifiers and data become
what is stored, and how a call carries its session.
-/
namespace ModelStore

open Act

structure Connector where
  settings : Settings
  models : Registry
  inclusions : Option InclusionResolver := none
  observing : Behaviour := .idle

namespace Connector

def dispatcher (c : Connector) : Dispatcher := ⟨c.settings, c.models, c.observing⟩

/-- The session that call options carry: that of a transaction, which must have begun, or a session
itself. -/
def sessionOf (options : Value) : Result (Option Value) := do
  let options ← options.options
  let get := fun key => (Table.get? options key).getD .null
  match get "transaction" with
  | .transaction .null => .error .sessionMissing
  | .transaction session => .ok (some session)
  | .null =>
      match get "session" with
      | .null => .ok none
      | session => .ok (some session)
  | session => .ok (some session)

def sessionKeywords (options : Value) : Result Document := do
  match ← sessionOf options with
  | some session => .ok [(Context.sessionKey, session)]
  | none => .ok []

def isStrict (c : Connector) (model : Model) (options : Value) : Result Bool :=
  Filter.isStrict model c.settings options

def coerceId (c : Connector) (model : Model) (id options : Value) : Result Value := do
  let strict ← c.isStrict model options
  Coercion.coerceValue (some (← model.idProperty)) strict id

def payload (model : Model) (data : Value) : Result Document := do
  .ok ((← data.entries).filter fun entry => entry.1 ≠ model.idName)

def documentOf (c : Connector) (model : Model) (data options : Value) : Result Document := do
  let payload ← payload model data
  let strict ← c.isStrict model options
  Storage.store model (← Coercion.coerceEntries strict model.properties payload)

def updateOf (c : Connector) (model : Model) (data options : Value) : Result Document := do
  let payload ← payload model data
  let update ← Update.parse model c.settings options (.doc payload)
  let strict ← c.isStrict model options
  Update.store model strict update

def namedId (model : Model) (data : Value) : Result Value := do
  .ok ((Table.get? (← data.lookups) model.idName).getD .null)

/-- The document that inserting data stores: its stored form, with the identifier if data names
one. -/
def insertionOf (c : Connector) (model : Model) (data options : Value) : Result Document := do
  let document ← c.documentOf model data options
  match ← namedId model data with
  | .null => .ok document
  | id => do .ok (Table.insert document idField (← c.coerceId model id options))

/-- The identifier of data as it is stored; a new one if data names none. -/
def idOf (c : Connector) (model : Model) (data options : Value) : Act Value := do
  match ← settle (namedId model data) with
  | .null => newObjectId
  | id => settle (c.coerceId model id options)

def byId (id : Value) : Document := [(idField, id)]

def queryOf (c : Connector) (model : Model) (filter options : Value) : Act Document := do
  noteAll (Filter.notices model c.settings options filter)
  settle (Filter.build model c.settings options filter)

def filterOf (v : Value) : Result Document := (v.orElse (.doc [])).toDocument

def countOf (count : Value) : Value := .doc [("count", count)]

/-- Whether an upsert made a new document, as its result tells; null if it does not. -/
def isNewInstance (result : Value) : Act Value := do
  let has := fun name => !((result.member? name).getD .null).isNull
  match result.member? "acknowledged" with
  | some (.bool true) =>
      if has "upserted_id" then pure (.bool true)
      else if has "matched_count" then pure (.bool false)
      else do
        note (.unrecognisedResult result)
        pure .null
  | _ => do
      note (.unrecognisedResult result)
      pure .null

def upserted (document : Document) (isNew : Value) : Value :=
  .tuple [.doc document, .doc [("isNewInstance", isNew)]]

def view (model : Model) (stored : Value) (includeId : Bool) : Result Document := do
  Storage.load model includeId (← stored.entries)

end Connector

end ModelStore
