import ModelStore.Connector.Call
import ModelStore.Proofs.Command.Calls

/-!
What operations send. An operation on a model compiles its arguments, looks up the session of the
call and sends one command; whatever else it does comes before that or after it and calls nothing.
`Sends` says for each operation what that command is and what had to succeed before it, so that a
property of the calls of all operations is proved of what they send.
-/
namespace ModelStore

open Act

/-- The name of the model that an operation is about, and the call options, of the operations that
take both. -/
def Operation.target? : Operation → Option (Value × Value)
  | .create name _ options => some (name, options)
  | .save name _ options => some (name, options)
  | .updateOrCreate name _ options => some (name, options)
  | .replaceOrCreate name _ options => some (name, options)
  | .replaceById name _ _ options => some (name, options)
  | .updateAttributes name _ _ options => some (name, options)
  | .updateAll name _ _ options => some (name, options)
  | .destroy name _ options => some (name, options)
  | .destroyAll name _ options => some (name, options)
  | .findOrCreate name _ _ options => some (name, options)
  | .contains name _ options => some (name, options)
  | .find name _ options => some (name, options)
  | .all name _ options => some (name, options)
  | .count name _ options => some (name, options)
  | _ => none

namespace Connector

def part (entries : Document) (key : String) : Value := (Table.get? entries key).getD .null

/-- The identifier under which data is stored: the one that data names in its stored form, or any
if it names none. -/
def Identifies (c : Connector) (model : Model) (data options id : Value) : Prop :=
  ∃ given, namedId model data = .ok given ∧
    (given = .null ∨ c.coerceId model given options = .ok id)

def projectionKeywords : Option Document → Document
  | some projection => [("projection", .doc projection)]
  | none => []

def sortKeywords (sort : List Sort.Key) : Document :=
  if sort.isEmpty then [] else [("sort", Sort.toValue sort)]

/-- A call has no keywords outside of sessions, and in a session only that of the session. -/
theorem sessionKeywords_eq_ok {options : Value} {session : Document} :
    sessionKeywords options = .ok session ↔
      (sessionOf options = .ok none ∧ session = []) ∨
        ∃ v, sessionOf options = .ok (some v) ∧ session = [(Context.sessionKey, v)] := by
  unfold sessionKeywords
  cases hsession : sessionOf options with
  | error f => simp [bind, Except.bind]
  | ok found => cases found <;> simp [bind, Except.bind, eq_comm]

theorem checked_of_sessionKeywords {options : Value} {session : Document}
    (h : sessionKeywords options = .ok session) :
    Dispatcher.parameterNames.any (Table.contains session) = false := by
  rcases sessionKeywords_eq_ok.mp h with ⟨-, rfl⟩ | ⟨v, -, rfl⟩
  · rfl
  · rfl

/-- What an operation on the model sends in a session, once all that it compiles is compiled. -/
inductive Sends (c : Connector) (model : Model) (session : Document) : Operation → Sending → Prop
  | create {name data options : Value} {document : Document} :
      c.insertionOf model data options = .ok document →
      Sends c model session (.create name data options)
        { command := "insert_one", arguments := [.doc document], keywords := session }
  | save {name data options id : Value} {document : Document} :
      c.Identifies model data options id → c.documentOf model data options = .ok document →
      Sends c model session (.save name data options)
        { command := "update_one"
          arguments := [.doc (byId id), .doc (upsertOf document id)]
          keywords := [("upsert", .bool true)] ++ session }
  | updateOrCreate {name data options id : Value} {update : Document} :
      c.Identifies model data options id → c.updateOf model data options = .ok update →
      Sends c model session (.updateOrCreate name data options)
        { route := .database
          command := "findAndModify"
          arguments := []
          keywords := [("query", .doc (byId id)), ("update", .doc update),
            ("upsert", .bool true), ("new", .bool true)] ++ session }
  | replaceOrCreate {name data options id : Value} {document : Document} :
      c.Identifies model data options id → c.documentOf model data options = .ok document →
      Sends c model session (.replaceOrCreate name data options)
        { command := "replace_one"
          arguments := [.doc (byId id), .doc document]
          keywords := [("upsert", .bool true)] ++ session }
  | replaceById {name given data options id : Value} {document : Document} :
      c.coerceId model given options = .ok id → c.documentOf model data options = .ok document →
      Sends c model session (.replaceById name given data options)
        { command := "replace_one"
          arguments := [.doc (byId id), .doc document]
          keywords := [("upsert", .bool false)] ++ session }
  | updateAttributes {name given data options id : Value} {update : Document} :
      c.coerceId model given options = .ok id → c.updateOf model data options = .ok update →
      Sends c model session (.updateAttributes name given data options)
        { command := "find_one_and_update"
          arguments := [.doc (byId id), .doc update]
          keywords := [("upsert", .bool false), ("return_document", .bool true)] ++ session }
  | updateAll {name filter data options : Value} {entries query update : Document} :
      filterOf filter = .ok entries →
      Filter.build model c.settings options (.doc entries) = .ok query →
      c.updateOf model data options = .ok update →
      Sends c model session (.updateAll name filter data options)
        { command := "update_many", arguments := [.doc query, .doc update], keywords := session }
  | destroy {name given options id : Value} :
      c.coerceId model given options = .ok id →
      Sends c model session (.destroy name given options)
        { command := "delete_one", arguments := [.doc (byId id)], keywords := session }
  | destroyAll {name filter options : Value} {entries query : Document} :
      filterOf filter = .ok entries →
      Filter.build model c.settings options (.doc entries) = .ok query →
      Sends c model session (.destroyAll name filter options)
        { command := "delete_many", arguments := [.doc query], keywords := session }
  | findOrCreate {name filter data options id : Value} {entries query document : Document}
      {projection : Option Document} {sort : List Sort.Key} :
      filterOf filter = .ok entries →
      Filter.build model c.settings options (part entries "where") = .ok query →
      c.documentOf model data options = .ok document → c.Identifies model data options id →
      Projection.build model (part entries "fields") = .ok projection →
      Sort.build model c.settings options (part entries "order") = .ok sort →
      Sends c model session (.findOrCreate name filter data options)
        { command := "find_one_and_update"
          arguments :=
            [.doc query, .doc [("$setOnInsert", .doc (Table.insert document idField id))]]
          keywords := [("upsert", .bool true), ("return_document", .bool false)] ++
            projectionKeywords projection ++ sortKeywords sort ++ session }
  | contains {name given options id : Value} :
      c.coerceId model given options = .ok id →
      Sends c model session (.contains name given options)
        { command := "find_one"
          arguments := [.doc (byId id), .doc [(idField, .int 1)]]
          keywords := session }
  | find {name given options id : Value} :
      c.coerceId model given options = .ok id →
      Sends c model session (.find name given options)
        { command := "find_one", arguments := [.doc (byId id)], keywords := session }
  /-- The order is compiled after the command was sent. -/
  | all {name filter options : Value} {entries query : Document} {projection : Option Document} :
      filterOf filter = .ok entries →
      Filter.build model c.settings options (part entries "where") = .ok query →
      Projection.build model (part entries "fields") = .ok projection →
      Sends c model session (.all name filter options)
        { command := "find"
          arguments := [.doc query, (projection.map Value.doc).getD .null]
          keywords := session }
  | estimate {name filter options : Value} {entries : Document} :
      filterOf filter = .ok entries →
      Filter.build model c.settings options (.doc entries) = .ok [] → session = [] →
      Sends c model session (.count name filter options)
        { command := "estimated_document_count", arguments := [], keywords := [] }
  | count {name filter options : Value} {entries query : Document} :
      filterOf filter = .ok entries →
      Filter.build model c.settings options (.doc entries) = .ok query →
      (query = [] → session ≠ []) →
      Sends c model session (.count name filter options)
        { command := "count_documents", arguments := [.doc query], keywords := session }

/-- Wherever the operation sends a command, that adds what has the property, and it can only be
answered if the condition holds. -/
def SendsOnly (P : Event → Prop) (S : Prop) (c : Connector) (name options : Value)
    (op : Operation) : Prop :=
  ∀ model session sending, c.models.find name = .ok model →
    sessionKeywords options = .ok session → Sends c model session op sending →
      Adds P (c.dispatcher.dispatch name sending) fun _ => S

section Run

variable {P : Event → Prop} {S : Prop} {c : Connector} {model : Model}

theorem adds_query (filter options : Value) :
    Adds P (c.queryOf model filter options) fun query =>
      Filter.build model c.settings options filter = .ok query :=
  (adds_noteAll _).bind fun _ _ => adds_settle_eq _

theorem adds_idOf (data options : Value) :
    Adds P (c.idOf model data options) fun id => c.Identifies model data options id := by
  refine (adds_settle_eq _).bind fun given hgiven => ?_
  split
  · refine Adds.mono adds_newObjectId ?_
    intro id _
    exact ⟨.null, hgiven, Or.inl rfl⟩
  · apply adds_settle
    intro id hid
    exact ⟨given, hgiven, Or.inr hid⟩

theorem adds_isNewInstance (result : Value) : Adds P (isNewInstance result) fun _ => True := by
  unfold isNewInstance
  dsimp only
  split
  · split
    · exact adds_pure trivial
    · split
      · exact adds_pure trivial
      · exact (adds_note _).bind fun _ _ => adds_pure trivial
  · exact (adds_note _).bind fun _ _ => adds_pure trivial

variable {name data filter given options : Value}

theorem SendsOnly.create (hsend : SendsOnly P S c name options (.create name data options)) :
    Adds P (c.create name data options) fun _ => S := by
  refine (adds_settle_eq _).bind fun model hmodel => ?_
  refine (adds_settle_eq _).bind fun document hdocument => ?_
  refine (adds_settle_eq _).bind fun session hsession => ?_
  refine (hsend model session _ hmodel hsession (.create hdocument)).bind fun _ hS => ?_
  exact adds_settle fun _ _ => hS

theorem SendsOnly.save (hsend : SendsOnly P S c name options (.save name data options)) :
    Adds P (c.save name data options) fun _ => S := by
  refine (adds_settle_eq _).bind fun model hmodel => ?_
  refine (adds_idOf data options).bind fun id hid => ?_
  refine (adds_settle_eq _).bind fun document hdocument => ?_
  refine (adds_settle_eq _).bind fun session hsession => ?_
  refine (hsend model session _ hmodel hsession (.save hid hdocument)).bind fun result hS => ?_
  refine (adds_settle_any _).bind fun _ _ => ?_
  exact (adds_isNewInstance result).bind fun _ _ => adds_pure hS

theorem SendsOnly.updateOrCreate
    (hsend : SendsOnly P S c name options (.updateOrCreate name data options)) :
    Adds P (c.updateOrCreate name data options) fun _ => S := by
  refine (adds_settle_eq _).bind fun model hmodel => ?_
  refine (adds_idOf data options).bind fun id hid => ?_
  refine (adds_settle_eq _).bind fun update hupdate => ?_
  refine (adds_settle_eq _).bind fun session hsession => ?_
  refine (hsend model session _ hmodel hsession (.updateOrCreate hid hupdate)).bind fun _ hS => ?_
  refine (adds_settle_any _).bind fun reply _ => ?_
  split
  · exact adds_throw _
  · refine (adds_settle_any _).bind fun _ _ => (adds_settle_any _).bind fun _ _ => ?_
    exact adds_pure hS

theorem adds_replace {id : Value} {upsert : Bool}
    (hsend : ∀ session document, sessionKeywords options = .ok session →
      c.documentOf model data options = .ok document →
      Adds P (c.dispatcher.dispatch name
        { command := "replace_one"
          arguments := [.doc (byId id), .doc document]
          keywords := [("upsert", .bool upsert)] ++ session }) fun _ => S) :
    Adds P (c.replace model name id data options upsert) fun _ => S := by
  refine (adds_settle_eq _).bind fun document hdocument => ?_
  refine (adds_settle_eq _).bind fun session hsession => ?_
  refine (hsend session document hsession hdocument).bind fun _ hS => ?_
  refine (adds_settle_any _).bind fun nothing _ => ?_
  dsimp only
  split
  · exact (adds_throw _).bind fun _ => False.elim
  · exact (adds_settle_any _).bind fun _ _ => adds_pure hS

theorem SendsOnly.replaceOrCreate
    (hsend : SendsOnly P S c name options (.replaceOrCreate name data options)) :
    Adds P (c.replaceOrCreate name data options) fun _ => S := by
  refine (adds_settle_eq _).bind fun model hmodel => ?_
  refine (adds_idOf data options).bind fun id hid => ?_
  exact adds_replace fun session document hsession hdocument =>
    hsend model session _ hmodel hsession (.replaceOrCreate hid hdocument)

theorem SendsOnly.replaceById
    (hsend : SendsOnly P S c name options (.replaceById name given data options)) :
    Adds P (c.replaceById name given data options) fun _ => S := by
  refine (adds_settle_eq _).bind fun model hmodel => ?_
  refine (adds_settle_eq _).bind fun id hid => ?_
  exact adds_replace fun session document hsession hdocument =>
    hsend model session _ hmodel hsession (.replaceById hid hdocument)

theorem SendsOnly.updateAttributes
    (hsend : SendsOnly P S c name options (.updateAttributes name given data options)) :
    Adds P (c.updateAttributes name given data options) fun _ => S := by
  refine (adds_settle_eq _).bind fun model hmodel => ?_
  refine (adds_settle_eq _).bind fun id hid => ?_
  refine (adds_settle_eq _).bind fun update hupdate => ?_
  refine (adds_settle_eq _).bind fun session hsession => ?_
  refine (hsend model session _ hmodel hsession (.updateAttributes hid hupdate)).bind
    fun result hS => ?_
  dsimp only
  split
  · exact (adds_throw _).bind fun _ => False.elim
  · exact (adds_settle_any _).bind fun _ _ => adds_pure hS

theorem SendsOnly.updateAll
    (hsend : SendsOnly P S c name options (.updateAll name filter data options)) :
    Adds P (c.updateAll name filter data options) fun _ => S := by
  refine (adds_settle_eq _).bind fun model hmodel => ?_
  refine (adds_settle_eq _).bind fun entries hentries => ?_
  refine (adds_query _ options).bind fun query hquery => ?_
  refine (adds_settle_eq _).bind fun update hupdate => ?_
  refine (adds_settle_eq _).bind fun session hsession => ?_
  refine (hsend model session _ hmodel hsession (.updateAll hentries hquery hupdate)).bind
    fun _ hS => ?_
  exact (adds_settle_any _).map fun _ _ => hS

theorem SendsOnly.destroy (hsend : SendsOnly P S c name options (.destroy name given options)) :
    Adds P (c.destroy name given options) fun _ => S := by
  refine (adds_settle_eq _).bind fun model hmodel => ?_
  refine (adds_settle_eq _).bind fun id hid => ?_
  refine (adds_settle_eq _).bind fun session hsession => ?_
  refine (hsend model session _ hmodel hsession (.destroy hid)).bind fun _ hS => ?_
  exact (adds_settle_any _).map fun _ _ => hS

theorem SendsOnly.destroyAll
    (hsend : SendsOnly P S c name options (.destroyAll name filter options)) :
    Adds P (c.destroyAll name filter options) fun _ => S := by
  refine (adds_settle_eq _).bind fun model hmodel => ?_
  refine (adds_settle_eq _).bind fun entries hentries => ?_
  refine (adds_query _ options).bind fun query hquery => ?_
  refine (adds_settle_eq _).bind fun session hsession => ?_
  refine (hsend model session _ hmodel hsession (.destroyAll hentries hquery)).bind fun _ hS => ?_
  exact (adds_settle_any _).map fun _ _ => hS

theorem SendsOnly.contains (hsend : SendsOnly P S c name options (.contains name given options)) :
    Adds P (c.contains name given options) fun _ => S := by
  refine (adds_settle_eq _).bind fun model hmodel => ?_
  refine (adds_settle_eq _).bind fun id hid => ?_
  refine (adds_settle_eq _).bind fun session hsession => ?_
  refine (hsend model session _ hmodel hsession (.contains hid)).bind fun _ hS => ?_
  exact adds_pure hS

theorem SendsOnly.find (hsend : SendsOnly P S c name options (.find name given options)) :
    Adds P (c.find name given options) fun _ => S := by
  refine (adds_settle_eq _).bind fun model hmodel => ?_
  refine (adds_settle_eq _).bind fun id hid => ?_
  refine (adds_settle_eq _).bind fun session hsession => ?_
  refine (hsend model session _ hmodel hsession (.find hid)).bind fun found hS => ?_
  split
  · exact adds_pure hS
  · exact (adds_settle_any _).bind fun _ _ => adds_pure hS

theorem SendsOnly.count (hsend : SendsOnly P S c name options (.count name filter options)) :
    Adds P (c.count name filter options) fun _ => S := by
  refine (adds_settle_eq _).bind fun model hmodel => ?_
  refine (adds_settle_eq _).bind fun entries hentries => ?_
  refine (adds_query _ options).bind fun query hquery => ?_
  refine (adds_settle_eq _).bind fun session hsession => ?_
  split
  · rename_i hempty
    have hnone : query = [] ∧ session = [] := by simpa using hempty
    obtain ⟨rfl, rfl⟩ := hnone
    -- The command is taken from the rule; the goal only has its parts.
    have hestimate := hsend model [] _ hmodel hsession (.estimate hentries hquery rfl)
    exact hestimate
  · rename_i hsome
    have hcount := hsend model session _ hmodel hsession
      (.count hentries hquery (by simpa using hsome))
    exact hcount

section Inclusion

variable (hinclusion : ∀ name documents inclusion options,
  P (.inclusion name documents inclusion options))
include hinclusion

theorem adds_resolveInclusion (resolver : Option InclusionResolver) (documents : List Document)
    (inclusion : Value) :
    Adds P (resolveInclusion resolver name documents inclusion options) fun _ => True := by
  unfold resolveInclusion
  split
  · exact (adds_note _).bind fun _ _ => adds_pure trivial
  · exact (adds_log (hinclusion _ _ _ _)).bind fun _ _ => adds_settle_any _

theorem adds_includeInOne (document : Document) (inclusion : Value) :
    Adds P (c.includeInOne name document inclusion options) fun _ => True := by
  refine (adds_resolveInclusion hinclusion _ _ _).bind fun documents _ => ?_
  split
  · exact adds_pure trivial
  · exact adds_settle_any _

theorem SendsOnly.findOrCreate
    (hsend : SendsOnly P S c name options (.findOrCreate name filter data options)) :
    Adds P (c.findOrCreate name filter data options) fun _ => S := by
  unfold Connector.findOrCreate
  dsimp only
  split
  · exact (adds_throw _).bind fun _ => False.elim
  refine (adds_settle_eq _).bind fun model hmodel => ?_
  refine (adds_settle_eq _).bind fun entries hentries => ?_
  refine (adds_query _ options).bind fun query hquery => ?_
  refine (adds_settle_eq _).bind fun document hdocument => ?_
  refine (adds_idOf data options).bind fun id hid => ?_
  refine (adds_settle_eq _).bind fun projection hprojection => ?_
  refine (adds_settle_eq _).bind fun sort hsort => ?_
  refine (adds_settle_eq _).bind fun session hsession => ?_
  refine (hsend model session _ hmodel hsession
    (.findOrCreate hentries hquery hdocument hid hprojection hsort)).bind fun existing hS => ?_
  refine (adds_settle_any _).bind fun includeId _ => (adds_settle_any _).bind fun found _ => ?_
  split
  · exact (adds_includeInOne hinclusion _ _).bind fun _ _ => adds_pure hS
  · exact adds_pure hS

variable (hcursor : ∀ step, P (.cursor step))
include hcursor

omit hinclusion in
theorem adds_askCursor (cursor : Value) (name : String) (step : Result CursorStep) :
    Adds P (askCursor cursor name step) fun _ => True := by
  unfold askCursor
  split
  · exact (adds_settle_any _).bind fun _ _ => adds_log (hcursor _)
  · split <;> exact adds_settle_any _
  · dsimp only
    split
    · exact (adds_settle_any _).bind fun _ _ => adds_settle_any _
    · exact adds_settle_any _

omit hinclusion in
theorem adds_iterate (cursor : Value) : Adds P (iterate cursor) fun _ => True := by
  unfold iterate
  split
  · refine (adds_log (hcursor _)).bind fun _ _ => adds_reply.bind fun documents _ => ?_
    split
    · exact adds_pure trivial
    · exact adds_settle_any _
  · exact adds_settle_any _

theorem SendsOnly.all (hsend : SendsOnly P S c name options (.all name filter options)) :
    Adds P (c.all name filter options) fun _ => S := by
  refine (adds_settle_eq _).bind fun model hmodel => ?_
  refine (adds_settle_eq _).bind fun entries hentries => ?_
  refine (adds_query _ options).bind fun query hquery => ?_
  refine (adds_settle_eq _).bind fun projection hprojection => ?_
  refine (adds_settle_eq _).bind fun session hsession => ?_
  refine (hsend model session _ hmodel hsession (.all hentries hquery hprojection)).bind
    fun cursor hS => ?_
  refine (adds_settle_any _).bind fun sort _ => ?_
  refine adds_optionally (adds_askCursor hcursor cursor _ _) ?_
  refine adds_optionally (adds_askCursor hcursor cursor _ _) ?_
  refine adds_optionally (adds_askCursor hcursor cursor _ _) ?_
  refine adds_optionally (adds_askCursor hcursor cursor _ _) ?_
  refine (adds_iterate hcursor cursor).bind fun found _ => ?_
  refine (adds_settle_any _).bind fun includeId _ => ?_
  refine (adds_settle_any _).bind fun documents _ => ?_
  dsimp only
  split
  · exact (adds_resolveInclusion hinclusion _ _ _).bind fun _ _ => adds_pure hS
  · exact adds_pure hS

/-- An operation on a model adds what its command adds, and it is only answered if the command
can be. -/
theorem SendsOnly.run {op : Operation} (hsend : SendsOnly P S c name options op)
    (htarget : op.target? = some (name, options)) : Adds P (op.run c) fun _ => S := by
  cases op <;>
    simp only [Operation.target?, Option.some.injEq, Prod.mk.injEq, reduceCtorEq] at htarget
  all_goals obtain ⟨rfl, rfl⟩ := htarget
  case create => exact hsend.create
  case save => exact hsend.save
  case updateOrCreate => exact hsend.updateOrCreate
  case replaceOrCreate => exact hsend.replaceOrCreate
  case replaceById => exact hsend.replaceById
  case updateAttributes => exact hsend.updateAttributes
  case updateAll => exact hsend.updateAll
  case destroy => exact hsend.destroy
  case destroyAll => exact hsend.destroyAll
  case findOrCreate => exact hsend.findOrCreate hinclusion
  case contains => exact hsend.contains
  case find => exact hsend.find
  case all => exact hsend.all hinclusion hcursor
  case count => exact hsend.count

end Inclusion
end Run

def bareConnector : Connector := { settings := {}, models := [("Post", .bare "Post")] }

end Connector
end ModelStore
