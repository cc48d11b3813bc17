import ModelStore.Connector.Basic

/-!
Operations that write: insertions, upserts, replacements, updates and deletions. Each one compiles
its arguments, sends one command with the session of the call, and turns the native result into
its answer.
-/
namespace ModelStore.Connector

open Act

def create (c : Connector) (name data options : Value) : Act Value := do
  let model ← settle (c.models.find name)
  let document ← settle (c.insertionOf model data options)
  let session ← settle (sessionKeywords options)
  let result ← c.dispatcher.execute name "insert_one" [.doc document] session
  settle (result.member "inserted_id")

/-- The update that stores a document under an identifier. Without anything to set, the identifier
alone is inserted. -/
def upsertOf (document : Document) (id : Value) : Document :=
  if document.isEmpty then [("$setOnInsert", .doc (byId id))] else [("$set", .doc document)]

def save (c : Connector) (name data options : Value) : Act Value := do
  let model ← settle (c.models.find name)
  let id ← c.idOf model data options
  let document ← settle (c.documentOf model data options)
  let session ← settle (sessionKeywords options)
  let result ← c.dispatcher.execute name "update_one"
    [.doc (byId id), .doc (upsertOf document id)] ([("upsert", .bool true)] ++ session)
  let data ← settle data.toDocument
  pure (upserted (Table.insert data model.idName id) (← isNewInstance result))

def isNewByReply (reply : Document) : Result Bool := do
  let last := ((Table.get? reply "lastErrorObject").getD .null).orElse (.doc [])
  .ok (!((Table.get? (← last.lookups) "updatedExisting").getD (.bool false)).truthy)

/-- Upserts data by its identifier; the answer is the stored document and whether it is new, both
taken from the reply to one command. -/
def updateOrCreate (c : Connector) (name data options : Value) : Act Value := do
  let model ← settle (c.models.find name)
  let id ← c.idOf model data options
  let update ← settle (c.updateOf model data options)
  let session ← settle (sessionKeywords options)
  let reply ← c.dispatcher.runCommand name "findAndModify"
    ([("query", .doc (byId id)), ("update", .doc update), ("upsert", .bool true),
      ("new", .bool true)] ++ session)
  let reply ← settle reply.lookups
  match (Table.get? reply "value").getD .null with
  | .null => throw (.missingDocument name.plain id)
  | stored => do
      let isNew ← settle (isNewByReply reply)
      pure (upserted (← settle (view model stored true)) (.bool isNew))

def replacedNothing (result : Value) : Result Bool := do
  if (← result.member "matched_count").equalsInt 0 then
    .ok (← result.member "upserted_id").isNull
  else .ok false

def replace (c : Connector) (model : Model) (name id data options : Value) (upsert : Bool) :
    Act Value := do
  let document ← settle (c.documentOf model data options)
  let session ← settle (sessionKeywords options)
  let result ← c.dispatcher.execute name "replace_one" [.doc (byId id), .doc document]
    ([("upsert", .bool upsert)] ++ session)
  if ← settle (replacedNothing result) then throw (.missingDocument name.plain id)
  pure (.doc (← settle (Storage.load model true (Table.insert document idField id))))

def replaceOrCreate (c : Connector) (name data options : Value) : Act Value := do
  let model ← settle (c.models.find name)
  let id ← c.idOf model data options
  c.replace model name id data options true

def replaceById (c : Connector) (name id data options : Value) : Act Value := do
  let model ← settle (c.models.find name)
  let id ← settle (c.coerceId model id options)
  c.replace model name id data options false

/-- Updates some properties of the document of an identifier; the answer is the document after
it. -/
def updateAttributes (c : Connector) (name id data options : Value) : Act Value := do
  let model ← settle (c.models.find name)
  let storedId ← settle (c.coerceId model id options)
  let update ← settle (c.updateOf model data options)
  let session ← settle (sessionKeywords options)
  let result ← c.dispatcher.execute name "find_one_and_update"
    [.doc (byId storedId), .doc update]
    ([("upsert", .bool false), ("return_document", .bool true)] ++ session)
  if result.isNull then throw (.missingDocument name.plain id)
  pure (.doc (← settle (view model result true)))

def updateAll (c : Connector) (name filter data options : Value) : Act Value := do
  let model ← settle (c.models.find name)
  let filter ← settle (filterOf filter)
  let query ← c.queryOf model (.doc filter) options
  let update ← settle (c.updateOf model data options)
  let session ← settle (sessionKeywords options)
  let result ← c.dispatcher.execute name "update_many" [.doc query, .doc update] session
  countOf <$> settle (result.member "matched_count")

def destroy (c : Connector) (name id options : Value) : Act Value := do
  let model ← settle (c.models.find name)
  let id ← settle (c.coerceId model id options)
  let session ← settle (sessionKeywords options)
  let result ← c.dispatcher.execute name "delete_one" [.doc (byId id)] session
  countOf <$> settle (result.member "deleted_count")

def destroyAll (c : Connector) (name filter options : Value) : Act Value := do
  let model ← settle (c.models.find name)
  let filter ← settle (filterOf filter)
  let query ← c.queryOf model (.doc filter) options
  let session ← settle (sessionKeywords options)
  let result ← c.dispatcher.execute name "delete_many" [.doc query] session
  countOf <$> settle (result.member "deleted_count")

def includeInOne (c : Connector) (name : Value) (document : Document) (inclusion options : Value) :
    Act Document := do
  match ← resolveInclusion c.inclusions name [document] inclusion options with
  | [document] => pure document
  | _ => settle badContents

/-- Finds a document that a filter matches or inserts data, in one command; the answer is the
document and whether it was inserted. -/
def findOrCreate (c : Connector) (name filter data options : Value) : Act Value := do
  if !c.settings.findOrCreateEnabled then throw .findOrCreateDisabled
  let model ← settle (c.models.find name)
  let filter ← settle (filterOf filter)
  let get := fun key => (Table.get? filter key).getD .null
  let query ← c.queryOf model (get "where") options
  let document ← settle (c.documentOf model data options)
  let document := Table.insert document idField (← c.idOf model data options)
  let projection ← settle (Projection.build model (get "fields"))
  let sort ← settle (Sort.build model c.settings options (get "order"))
  let session ← settle (sessionKeywords options)
  let existing ← c.dispatcher.execute name "find_one_and_update"
    [.doc query, .doc [("$setOnInsert", .doc document)]]
    ([("upsert", .bool true), ("return_document", .bool false)] ++
      (match projection with
        | some projection => [("projection", .doc projection)]
        | none => []) ++
      (if sort.isEmpty then [] else [("sort", Sort.toValue sort)]) ++ session)
  let created := existing.isNull
  let includeId ← settle (Projection.includesId (get "fields") model.idName)
  let found ← settle (view model (if created then .doc document else existing) includeId)
  let found ←
    if (get "include").truthy then c.includeInOne name found (get "include") options
    else pure found
  pure (.tuple [.doc found, .bool created])

end ModelStore.Connector
