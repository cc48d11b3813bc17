import ModelStore.Connector.Basic

/-!
Operations that read: by identifier, by filter, and counting. A cursor is asked for its order, its
bounds and its collation before it is iterated.
-/
namespace ModelStore.Connector

open Act

def contains (c : Connector) (name id options : Value) : Act Value := do
  let model ← settle (c.models.find name)
  let id ← settle (c.coerceId model id options)
  let session ← settle (sessionKeywords options)
  let found ← c.dispatcher.execute name "find_one"
    [.doc (byId id), .doc [(idField, .int 1)]] session
  pure (.bool !found.isNull)

def find (c : Connector) (name id options : Value) : Act Value := do
  let model ← settle (c.models.find name)
  let id ← settle (c.coerceId model id options)
  let session ← settle (sessionKeywords options)
  match ← c.dispatcher.execute name "find_one" [.doc (byId id)] session with
  | .null => pure .null
  | found => do pure (.doc (← settle (view model found true)))

/-- Asks a cursor for something. Other values do not have what is asked for; a list can be sorted,
but not by keys. -/
def askCursor (cursor : Value) (name : String) (step : Result CursorStep) : Act Unit := do
  match cursor with
  | .cursor _ => do log (.cursor (← settle step))
  | .list items =>
      if name = "sort" then settle wrongType else settle ((Value.list items).refuse name)
  | v => do
      if (v.member? name).isSome then
        let _ ← settle step
      settle (v.refuse name)

def iterate (cursor : Value) : Act (List Value) := do
  match cursor with
  | .cursor _ => do
      log (.cursor .iterate)
      match ← reply with
      | .null => pure []
      | documents => settle documents.elements
  | _ => settle wrongType

def all (c : Connector) (name filter options : Value) : Act Value := do
  let model ← settle (c.models.find name)
  let filter ← settle (filterOf filter)
  let get := fun key => (Table.get? filter key).getD .null
  let query ← c.queryOf model (get "where") options
  let projection ← settle (Projection.build model (get "fields"))
  let session ← settle (sessionKeywords options)
  let cursor ← c.dispatcher.execute name "find"
    [.doc query, (projection.map Value.doc).getD .null] session
  let sort ← settle (Sort.build model c.settings options (get "order"))
  if !sort.isEmpty then askCursor cursor "sort" (.ok (.sort sort))
  if (get "limit").truthy then
    askCursor cursor "limit" (CursorStep.limit <$> (get "limit").toInteger)
  let skip := (get "skip").orElse (get "offset")
  if skip.truthy then askCursor cursor "skip" (CursorStep.skip <$> skip.toInteger)
  if (get "collation").truthy then
    askCursor cursor "collation" (.ok (.collation (get "collation")))
  let found ← iterate cursor
  let includeId ← settle (Projection.includesId (get "fields") model.idName)
  let documents ← settle (found.mapM fun document => view model document includeId)
  let documents ←
    if (get "include").truthy then
      resolveInclusion c.inclusions name documents (get "include") options
    else pure documents
  pure (.list (documents.map Value.doc))

/-- The number of documents that a filter matches. Without a filter and a session an estimate will
do. -/
def count (c : Connector) (name filter options : Value) : Act Value := do
  let model ← settle (c.models.find name)
  let filter ← settle (filterOf filter)
  let query ← c.queryOf model (.doc filter) options
  let session ← settle (sessionKeywords options)
  if query.isEmpty && session.isEmpty then
    c.dispatcher.execute name "estimated_document_count" [] []
  else c.dispatcher.execute name "count_documents" [.doc query] session

end ModelStore.Connector
