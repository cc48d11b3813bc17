import ModelStore.Proofs.Connector.Sends
import ModelStore.Proofs.Result

/-!
What an operation on one document comes to. Once its identifier is known, everything that it
compiles is compiled without an effect, then it sends one command, and what it does with the answer
calls nothing. So such an operation is as good as the result of its compilation: a failure, or the
command that is sent.
-/
namespace ModelStore.Connector

open Act

variable {c : Connector} {model : Model} {name id data given options v : Value} {α : Type}

/-- The act fails as the compilation does, or sends what is compiled and makes no other call. -/
def ComesTo (c : Connector) (name : Value) (compiled : Result Sending) (act : Act Value) : Prop :=
  match compiled with
  | .error f => ∀ s, outcome act s = (.error f, s)
  | .ok sending => ∃ finish : Value → Act Value,
      (∀ answer, Adds (fun e => e.isCall = false) (finish answer) fun _ => True) ∧
        ∀ s, outcome act s = outcome (c.dispatcher.dispatch name sending >>= finish) s

theorem comesTo_settle {x : Result α} {compile : α → Result Sending} {next : α → Act Value}
    (h : ∀ a, x = .ok a → ComesTo c name (compile a) (next a)) :
    ComesTo c name (x >>= compile) (settle x >>= next) := by
  cases x with
  | error f =>
    intro s
    exact outcome_bind_error next (outcome_settle (.error f) s)
  | ok a =>
    have hnext (s : Datasource) :
        outcome (settle (.ok a) >>= next) s = outcome (next a) s :=
      outcome_bind_ok next (outcome_settle (.ok a) s)
    have ha := h a rfl
    show ComesTo c name (compile a) (settle (.ok a) >>= next)
    unfold ComesTo at ha ⊢
    simpa only [hnext] using ha

theorem comesTo_dispatch {sending : Sending} {finish : Value → Act Value}
    (hfinish : ∀ answer, Adds (fun e => e.isCall = false) (finish answer) fun _ => True) :
    ComesTo c name (.ok sending) (c.dispatcher.dispatch name sending >>= finish) :=
  ⟨finish, hfinish, fun _ => rfl⟩

theorem comesTo_create :
    ComesTo c name
      (do
        let model ← c.models.find name
        let document ← c.insertionOf model data options
        let session ← sessionKeywords options
        .ok { command := "insert_one", arguments := [.doc document], keywords := session })
      (c.create name data options) := by
  refine comesTo_settle fun model _ => comesTo_settle fun document _ => ?_
  refine comesTo_settle fun session _ => comesTo_dispatch fun result => ?_
  exact adds_settle_any _

theorem comesTo_find :
    ComesTo c name
      (do
        let model ← c.models.find name
        let id ← c.coerceId model given options
        let session ← sessionKeywords options
        .ok { command := "find_one", arguments := [.doc (byId id)], keywords := session })
      (c.find name given options) := by
  refine comesTo_settle fun model _ => comesTo_settle fun id _ => ?_
  refine comesTo_settle fun session _ => comesTo_dispatch fun found => ?_
  split
  · exact adds_pure trivial
  · exact (adds_settle_any _).bind fun _ _ => adds_pure trivial

theorem comesTo_contains :
    ComesTo c name
      (do
        let model ← c.models.find name
        let id ← c.coerceId model given options
        let session ← sessionKeywords options
        .ok { command := "find_one", arguments := [.doc (byId id), .doc [(idField, .int 1)]]
              keywords := session })
      (c.contains name given options) := by
  refine comesTo_settle fun model _ => comesTo_settle fun id _ => ?_
  refine comesTo_settle fun session _ => comesTo_dispatch fun found => ?_
  exact adds_pure trivial

theorem comesTo_destroy :
    ComesTo c name
      (do
        let model ← c.models.find name
        let id ← c.coerceId model given options
        let session ← sessionKeywords options
        .ok { command := "delete_one", arguments := [.doc (byId id)], keywords := session })
      (c.destroy name given options) := by
  refine comesTo_settle fun model _ => comesTo_settle fun id _ => ?_
  refine comesTo_settle fun session _ => comesTo_dispatch fun result => ?_
  exact (adds_settle_any _).map fun _ _ => trivial

theorem comesTo_updateAttributes :
    ComesTo c name
      (do
        let model ← c.models.find name
        let id ← c.coerceId model given options
        let update ← c.updateOf model data options
        let session ← sessionKeywords options
        .ok { command := "find_one_and_update", arguments := [.doc (byId id), .doc update]
              keywords := [("upsert", .bool false), ("return_document", .bool true)] ++ session })
      (c.updateAttributes name given data options) := by
  refine comesTo_settle fun model _ => comesTo_settle fun id _ => comesTo_settle fun update _ => ?_
  refine comesTo_settle fun session _ => comesTo_dispatch fun result => ?_
  dsimp only
  split
  · exact (adds_throw _).bind fun _ => False.elim
  · exact (adds_settle_any _).bind fun _ _ => adds_pure trivial

/-- A replacement once the identifier is known. -/
theorem comesTo_replace (upsert : Bool) :
    ComesTo c name
      (do
        let document ← c.documentOf model data options
        let session ← sessionKeywords options
        .ok { command := "replace_one", arguments := [.doc (byId id), .doc document]
              keywords := [("upsert", .bool upsert)] ++ session })
      (c.replace model name id data options upsert) := by
  refine comesTo_settle fun document _ => ?_
  refine comesTo_settle fun session _ => comesTo_dispatch fun result => ?_
  refine (adds_settle_any _).bind fun nothing _ => ?_
  dsimp only
  split
  · exact (adds_throw _).bind fun _ => False.elim
  · exact (adds_settle_any _).bind fun _ _ => adds_pure trivial

theorem comesTo_replaceById :
    ComesTo c name
      (do
        let model ← c.models.find name
        let id ← c.coerceId model given options
        let document ← c.documentOf model data options
        let session ← sessionKeywords options
        .ok { command := "replace_one", arguments := [.doc (byId id), .doc document]
              keywords := [("upsert", .bool false)] ++ session })
      (c.replaceById name given data options) := by
  refine comesTo_settle fun model _ => comesTo_settle fun id _ => ?_
  exact comesTo_replace false

/-- The identifier that data names is coerced like any other. -/
theorem idOf_eq_settle (hdata : namedId model data = .ok v) (hv : v ≠ .null) :
    c.idOf model data options = settle (c.coerceId model v options) := by
  unfold idOf
  rw [hdata]
  cases v with
  | null => exact absurd rfl hv
  | _ => rfl

def saving (c : Connector) (model : Model) (name data options id : Value) : Act Value := do
  let document ← settle (c.documentOf model data options)
  let session ← settle (sessionKeywords options)
  let result ← c.dispatcher.execute name "update_one"
    [.doc (byId id), .doc (upsertOf document id)] ([("upsert", .bool true)] ++ session)
  let data ← settle data.toDocument
  pure (upserted (Table.insert data model.idName id) (← isNewInstance result))

theorem save_eq (c : Connector) (name data options : Value) :
    c.save name data options = (do
      let model ← settle (c.models.find name)
      let id ← c.idOf model data options
      c.saving model name data options id) := rfl

theorem comesTo_saving :
    ComesTo c name
      (do
        let document ← c.documentOf model data options
        let session ← sessionKeywords options
        .ok { command := "update_one", arguments := [.doc (byId id), .doc (upsertOf document id)]
              keywords := [("upsert", .bool true)] ++ session })
      (c.saving model name data options id) := by
  refine comesTo_settle fun document _ => ?_
  refine comesTo_settle fun session _ => comesTo_dispatch fun result => ?_
  refine (adds_settle_any _).bind fun _ _ => ?_
  exact (adds_isNewInstance result).bind fun _ _ => adds_pure trivial

def updatingOrCreating (c : Connector) (model : Model) (name data options id : Value) :
    Act Value := do
  let update ← settle (c.updateOf model data options)
  let session ← settle (sessionKeywords options)
  let reply ← c.dispatcher.runCommand name "findAndModify"
    ([("query", .doc (byId id)), ("update", .doc update), ("upsert", .bool true),
      ("new", .bool true)] ++ session)
  let reply ← settle reply.lookups
  match (Table.get? reply "value").getD .null with
  | .null => throw (.missingDocument name.plain id)
  | stored => do
      let isNew ← settle (isNewByReply reply)
      pure (upserted (← settle (view model stored true)) (.bool isNew))

theorem updateOrCreate_eq (c : Connector) (name data options : Value) :
    c.updateOrCreate name data options = (do
      let model ← settle (c.models.find name)
      let id ← c.idOf model data options
      c.updatingOrCreating model name data options id) := rfl

theorem comesTo_updatingOrCreating :
    ComesTo c name
      (do
        let update ← c.updateOf model data options
        let session ← sessionKeywords options
        .ok { route := .database, command := "findAndModify", arguments := []
              keywords := [("query", .doc (byId id)), ("update", .doc update),
                ("upsert", .bool true), ("new", .bool true)] ++ session })
      (c.updatingOrCreating model name data options id) := by
  refine comesTo_settle fun update _ => ?_
  refine comesTo_settle fun session _ => comesTo_dispatch fun reply => ?_
  refine (adds_settle_any _).bind fun entries _ => ?_
  split
  · exact adds_throw _
  · refine (adds_settle_any _).bind fun _ _ => (adds_settle_any _).bind fun _ _ => ?_
    exact adds_pure trivial

def updatingAll (c : Connector) (model : Model) (name data options : Value) (query : Document) :
    Act Value := do
  let update ← settle (c.updateOf model data options)
  let session ← settle (sessionKeywords options)
  let result ← c.dispatcher.execute name "update_many" [.doc query, .doc update] session
  countOf <$> settle (result.member "matched_count")

theorem updateAll_eq (c : Connector) (name filter data options : Value) :
    c.updateAll name filter data options = (do
      let model ← settle (c.models.find name)
      let filter ← settle (filterOf filter)
      let query ← c.queryOf model (.doc filter) options
      c.updatingAll model name data options query) := rfl

theorem comesTo_updatingAll {query : Document} :
    ComesTo c name
      (do
        let update ← c.updateOf model data options
        let session ← sessionKeywords options
        .ok { command := "update_many", arguments := [.doc query, .doc update], keywords := session })
      (c.updatingAll model name data options query) := by
  refine comesTo_settle fun update _ => ?_
  refine comesTo_settle fun session _ => comesTo_dispatch fun result => ?_
  exact (adds_settle_any _).map fun _ _ => trivial

def findingOrCreating (c : Connector) (model : Model) (name options : Value)
    (filter query document : Document) : Act Value := do
  let projection ← settle (Projection.build model (part filter "fields"))
  let sort ← settle (Sort.build model c.settings options (part filter "order"))
  let session ← settle (sessionKeywords options)
  let existing ← c.dispatcher.execute name "find_one_and_update"
    [.doc query, .doc [("$setOnInsert", .doc document)]]
    ([("upsert", .bool true), ("return_document", .bool false)] ++
      projectionKeywords projection ++ sortKeywords sort ++ session)
  let created := existing.isNull
  let includeId ← settle (Projection.includesId (part filter "fields") model.idName)
  let found ← settle (view model (if created then .doc document else existing) includeId)
  let found ←
    if (part filter "include").truthy then
      c.includeInOne name found (part filter "include") options
    else pure found
  pure (.tuple [.doc found, .bool created])

theorem findOrCreate_eq (c : Connector) (name filter data options : Value) :
    c.findOrCreate name filter data options =
      if c.settings.findOrCreateEnabled then (do
        let model ← settle (c.models.find name)
        let filter ← settle (filterOf filter)
        let query ← c.queryOf model (part filter "where") options
        let document ← settle (c.documentOf model data options)
        let id ← c.idOf model data options
        c.findingOrCreating model name options filter query (Table.insert document idField id))
      else throw .findOrCreateDisabled := by
  unfold findOrCreate
  cases c.settings.findOrCreateEnabled <;> rfl

theorem comesTo_findingOrCreating {filter query document : Document} :
    ComesTo c name
      (do
        let projection ← Projection.build model (part filter "fields")
        let sort ← Sort.build model c.settings options (part filter "order")
        let session ← sessionKeywords options
        .ok { command := "find_one_and_update"
              arguments := [.doc query, .doc [("$setOnInsert", .doc document)]]
              keywords := [("upsert", .bool true), ("return_document", .bool false)] ++
                projectionKeywords projection ++ sortKeywords sort ++ session })
      (c.findingOrCreating model name options filter query document) := by
  refine comesTo_settle fun projection _ => comesTo_settle fun sort _ => ?_
  refine comesTo_settle fun session _ => comesTo_dispatch fun existing => ?_
  refine (adds_settle_any _).bind fun includeId _ => (adds_settle_any _).bind fun found _ => ?_
  dsimp only
  split
  · exact (adds_includeInOne (fun _ _ _ _ => rfl) _ _).bind fun _ _ => adds_pure trivial
  · exact adds_pure trivial

end ModelStore.Connector
