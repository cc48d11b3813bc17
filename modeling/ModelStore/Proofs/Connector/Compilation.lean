import ModelStore.Proofs.Command.Unobserved
import ModelStore.Proofs.Connector.Sends
import ModelStore.Proofs.Result

/-!
Compilation before everything else. An operation whose arguments do not compile fails before it
calls the database or notifies an observer, with one exception: the order of `all` is compiled when
its command was sent already, so an order that does not compile is only refused afterwards.
-/
namespace ModelStore

open Act Datasource

def Event.isDispatched : Event → Bool
  | .native .. => true
  | .command .. => true
  | .observer .. => true
  | _ => false

namespace Connector

/-- What an operation is given to compile. -/
inductive Argument where
  /-- A filter that consists of conditions. -/
  | conditions (filter : Value)
  /-- The conditions, the fields and the order of a filter that has more parts. -/
  | query (filter : Value)
  | fields (filter : Value)
  | order (filter : Value)
  | id (given : Value)
  /-- The identifier that data names, if it names one. -/
  | namedId (data : Value)
  | document (data : Value)
  | update (data : Value)

def Argument.Compiles (c : Connector) (model : Model) (options : Value) : Argument → Prop
  | .conditions filter => ∃ entries query, filterOf filter = .ok entries ∧
      Filter.build model c.settings options (.doc entries) = .ok query
  | .query filter => ∃ entries query, filterOf filter = .ok entries ∧
      Filter.build model c.settings options (part entries "where") = .ok query
  | .fields filter => ∃ entries projection, filterOf filter = .ok entries ∧
      Projection.build model (part entries "fields") = .ok projection
  | .order filter => ∃ entries sort, filterOf filter = .ok entries ∧
      Sort.build model c.settings options (part entries "order") = .ok sort
  | .id given => ∃ id, c.coerceId model given options = .ok id
  | .namedId data => ∃ id, c.Identifies model data options id
  | .document data => ∃ document, c.documentOf model data options = .ok document
  | .update data => ∃ update, c.updateOf model data options = .ok update

/-- What an operation compiles before it sends its command. -/
def earlyArguments : Operation → List Argument
  | .create _ data _ => [.document data, .namedId data]
  | .save _ data _ => [.namedId data, .document data]
  | .updateOrCreate _ data _ => [.namedId data, .update data]
  | .replaceOrCreate _ data _ => [.namedId data, .document data]
  | .replaceById _ given data _ => [.id given, .document data]
  | .updateAttributes _ given data _ => [.id given, .update data]
  | .updateAll _ filter data _ => [.conditions filter, .update data]
  | .destroy _ given _ => [.id given]
  | .destroyAll _ filter _ => [.conditions filter]
  | .findOrCreate _ filter data _ =>
      [.query filter, .document data, .namedId data, .fields filter, .order filter]
  | .contains _ given _ => [.id given]
  | .find _ given _ => [.id given]
  | .all _ filter _ => [.query filter, .fields filter]
  | .count _ filter _ => [.conditions filter]
  | _ => []

/-- What an operation compiles when it has sent its command. -/
def lateArguments : Operation → List Argument
  | .all _ filter _ => [.order filter]
  | _ => []

def arguments (op : Operation) : List Argument := earlyArguments op ++ lateArguments op

variable {c : Connector} {model : Model} {session : Document} {op : Operation} {sending : Sending}
  {name options : Value}

theorem compiles_of_insertionOf {data : Value} {document : Document}
    (h : c.insertionOf model data options = .ok document) :
    (Argument.document data).Compiles c model options ∧
      (Argument.namedId data).Compiles c model options := by
  obtain ⟨stored, hstored, h⟩ := Result.bind_eq_ok.mp h
  obtain ⟨given, hgiven, h⟩ := Result.bind_eq_ok.mp h
  refine ⟨⟨stored, hstored⟩, ?_⟩
  split at h
  · exact ⟨.null, .null, hgiven, Or.inl rfl⟩
  · obtain ⟨id, hid, -⟩ := Result.bind_eq_ok.mp h
    exact ⟨id, given, hgiven, Or.inr hid⟩

/-- A command is only sent when everything has been compiled that is compiled before. -/
theorem Sends.compiles (h : Sends c model session op sending)
    (htarget : op.target? = some (name, options)) :
    ∀ argument ∈ earlyArguments op, argument.Compiles c model options := by
  cases h <;> obtain ⟨rfl, rfl⟩ := Prod.mk.inj (Option.some.inj htarget) <;>
    simp only [earlyArguments, List.forall_mem_cons, List.not_mem_nil, false_imp_iff,
      implies_true, and_true]
  case create hdocument => exact compiles_of_insertionOf hdocument
  case save hid hdocument => exact ⟨⟨_, hid⟩, ⟨_, hdocument⟩⟩
  case updateOrCreate hid hupdate => exact ⟨⟨_, hid⟩, ⟨_, hupdate⟩⟩
  case replaceOrCreate hid hdocument => exact ⟨⟨_, hid⟩, ⟨_, hdocument⟩⟩
  case replaceById hid hdocument => exact ⟨⟨_, hid⟩, ⟨_, hdocument⟩⟩
  case updateAttributes hid hupdate => exact ⟨⟨_, hid⟩, ⟨_, hupdate⟩⟩
  case updateAll hentries hquery hupdate => exact ⟨⟨_, _, hentries, hquery⟩, ⟨_, hupdate⟩⟩
  case destroy hid => exact ⟨_, hid⟩
  case destroyAll hentries hquery => exact ⟨_, _, hentries, hquery⟩
  case findOrCreate hentries hquery hdocument hid hfields hsort =>
    exact ⟨⟨_, _, hentries, hquery⟩, ⟨_, hdocument⟩, ⟨_, hid⟩, ⟨_, _, hentries, hfields⟩,
      ⟨_, _, hentries, hsort⟩⟩
  case contains hid => exact ⟨_, hid⟩
  case find hid => exact ⟨_, hid⟩
  case all hentries hquery hfields =>
    exact ⟨⟨_, _, hentries, hquery⟩, ⟨_, _, hentries, hfields⟩⟩
  case estimate hentries hquery _ => exact ⟨_, _, hentries, hquery⟩
  case count hentries hquery _ => exact ⟨_, _, hentries, hquery⟩

/-- The operation fails wherever it begins, and dispatches nothing on the way. -/
def FailsFirst (c : Connector) (op : Operation) : Prop :=
  ∀ s, ∃ added, (outcome (op.run c) s).2.events = s.events ++ added ∧
    (∀ e ∈ added, e.isDispatched = false) ∧ ∃ f, (outcome (op.run c) s).1 = .error f

theorem failsFirst_of_not_sends (hmodel : c.models.find name = .ok model)
    (htarget : op.target? = some (name, options))
    (h : ∀ session sending, sessionKeywords options = .ok session →
      ¬ Sends c model session op sending) : FailsFirst c op := by
  have hsend : SendsOnly (fun e => e.isDispatched = false) False c name options op := by
    intro model' session sending hmodel' hsession hsends
    obtain rfl : model = model' := Except.ok.inj (hmodel.symm.trans hmodel')
    exact absurd hsends (h session sending hsession)
  intro s
  obtain ⟨added, hevents, hadded, hfails⟩ :=
    hsend.run (fun _ _ _ _ => rfl) (fun _ => rfl) htarget s
  refine ⟨added, hevents, hadded, ?_⟩
  cases hended : (outcome (op.run c) s).1 with
  | ok v => exact absurd hended (fun h => hfails v h)
  | error f => exact ⟨f, rfl⟩

/-- Everything but the order of the operation compiles, and its session can be used: so the command
is sent before the order is looked at. -/
def SendsBeforeOrder (c : Connector) (model : Model) : Operation → Prop
  | .all _ filter options =>
      (Argument.query filter).Compiles c model options ∧
        (Argument.fields filter).Compiles c model options ∧
        ∃ session, sessionKeywords options = .ok session
  | _ => False

def compiled (c : Connector) (model : Model) (options filter : Value) (s : Datasource) :
    Datasource :=
  { s with notices := s.notices ++ Filter.notices model c.settings options filter }

def searched (model : Model) (arguments : List Value) (session : Document) (s : Datasource) :
    Datasource :=
  { s with
    cursors := s.cursors + 1
    events := s.events ++ [.native model.collectionName "find" arguments session] }

theorem outcome_queryOf {filter : Value} {query : Document} (s : Datasource)
    (h : Filter.build model c.settings options filter = .ok query) :
    outcome (c.queryOf model filter options) s =
      (.ok query, c.compiled model options filter s) := by
  have hnoted : outcome (noteAll (Filter.notices model c.settings options filter)) s =
      (.ok (), c.compiled model options filter s) := rfl
  rw [queryOf, outcome_bind_ok _ hnoted, h, outcome_settle]

theorem outcome_search {arguments : List Value} {s : Datasource}
    (hmodel : c.models.find name = .ok model) (hsession : sessionKeywords options = .ok session)
    (h : s.Unobserved) (hfind : s.members "find" = .cursor) :
    outcome (c.dispatcher.dispatch name { command := "find", arguments, keywords := session }) s =
      (.ok (.cursor (s.cursors + 1)), searched model arguments session s) := by
  refine Dispatcher.outcome_dispatch_unobserved h hmodel (checked_of_sessionKeywords hsession) ?_
    h.after
  refine (outcome_bind_ok _ (outcome_log _ s)).trans ?_
  refine (outcome_bind_ok _ (outcome_get _)).trans ?_
  simp only [hfind]
  rfl

/-- The command is sent although its order does not compile. -/
theorem outcome_all_of_not_sort {filter : Value} {entries query : Document}
    {projection : Option Document} {f : Failure} (hmodel : c.models.find name = .ok model)
    (hentries : filterOf filter = .ok entries)
    (hquery : Filter.build model c.settings options (part entries "where") = .ok query)
    (hprojection : Projection.build model (part entries "fields") = .ok projection)
    (hsession : sessionKeywords options = .ok session)
    (hsort : Sort.build model c.settings options (part entries "order") = .error f) :
    outcome (c.all name filter options) quiet =
      (.error f, searched model [.doc query, (projection.map Value.doc).getD .null] session
        (c.compiled model options (part entries "where") quiet)) := by
  have hrefused (s : Datasource) :
      outcome (settle (Sort.build model c.settings options (part entries "order"))) s =
        (.error f, s) := by rw [hsort, outcome_settle]
  refine (outcome_bind_ok _ (outcome_settle_ok _ hmodel)).trans ?_
  refine (outcome_bind_ok _ (outcome_settle_ok _ hentries)).trans ?_
  refine (outcome_bind_ok _ (outcome_queryOf _ hquery)).trans ?_
  refine (outcome_bind_ok _ (outcome_settle_ok _ hprojection)).trans ?_
  refine (outcome_bind_ok _ (outcome_settle_ok _ hsession)).trans ?_
  refine (outcome_bind_ok _ (outcome_search hmodel hsession (unobserved_quiet _) rfl)).trans ?_
  exact outcome_bind_error _ (hrefused _)

theorem order_not_compiles {filter : Value} {entries : Document}
    (hearly : ∀ argument ∈ earlyArguments (.all name filter options),
      argument.Compiles c model options)
    (hentries : filterOf filter = .ok entries)
    (hfails : ∃ argument ∈ arguments (.all name filter options),
      ¬ argument.Compiles c model options) :
    ∃ f, Sort.build model c.settings options (part entries "order") = .error f := by
  cases hsort : Sort.build model c.settings options (part entries "order") with
  | error f => exact ⟨f, rfl⟩
  | ok sort =>
    obtain ⟨argument, hmem, hargument⟩ := hfails
    rcases List.mem_append.mp hmem with hmem | hmem
    · exact absurd (hearly argument hmem) hargument
    · obtain rfl := List.mem_singleton.mp hmem
      exact absurd ⟨entries, sort, hentries, hsort⟩ hargument

/-- An operation whose arguments do not all compile fails before it dispatches anything, unless
only its order does not compile and the command is sent before the order is looked at. -/
theorem failsFirst_iff_not_sendsBeforeOrder (hmodel : c.models.find name = .ok model)
    (htarget : op.target? = some (name, options))
    (hfails : ∃ argument ∈ arguments op, ¬ argument.Compiles c model options) :
    FailsFirst c op ↔ ¬ SendsBeforeOrder c model op := by
  constructor
  · intro hfirst hsends
    cases op with
    | all asked filter callOptions =>
      obtain ⟨rfl, rfl⟩ := Prod.mk.inj (Option.some.inj htarget)
      obtain ⟨hquery, hfields, session, hsession⟩ := hsends
      have hearly : ∀ argument ∈ earlyArguments (.all asked filter callOptions),
          argument.Compiles c model callOptions := by
        simpa only [earlyArguments, List.forall_mem_cons, List.not_mem_nil, false_imp_iff,
          implies_true, and_true] using ⟨hquery, hfields⟩
      obtain ⟨entries, query, hentries, hquery⟩ := hquery
      obtain ⟨entries', projection, hentries', hprojection⟩ := hfields
      obtain rfl := Except.ok.inj (hentries.symm.trans hentries')
      obtain ⟨f, hsort⟩ := order_not_compiles hearly hentries hfails
      obtain ⟨added, hevents, hadded, -⟩ := hfirst quiet
      have hcall := outcome_all_of_not_sort hmodel hentries hquery hprojection hsession hsort
      have hsent : added = [.native model.collectionName "find"
          [.doc query, (projection.map Value.doc).getD .null] session] :=
        hevents.symm.trans (congrArg (fun ended => ended.2.events) hcall)
      have hnothing := hadded _ (hsent ▸ List.mem_singleton_self _)
      cases hnothing
    | _ => exact hsends
  · intro hsends
    apply failsFirst_of_not_sends hmodel htarget
    intro session sending hsession hsent
    have hearly := hsent.compiles htarget
    obtain ⟨argument, hmem, hargument⟩ := hfails
    rcases List.mem_append.mp hmem with hmem | hmem
    · exact hargument (hearly argument hmem)
    · cases op with
      | all asked filter callOptions =>
        obtain ⟨rfl, rfl⟩ := Prod.mk.inj (Option.some.inj htarget)
        refine hsends ⟨?_, ?_, session, hsession⟩
        · exact hearly (.query filter) List.mem_cons_self
        · exact hearly (.fields filter) (List.mem_cons_of_mem _ List.mem_cons_self)
      | _ => simp [lateArguments] at hmem

def misordered : Value := .doc [("order", .int 5)]

theorem not_compiles_misordered :
    ¬ (Argument.order misordered).Compiles bareConnector (.bare "Post") .null := by
  intro hcompiles
  obtain ⟨entries, sort, hentries, hsort⟩ := hcompiles
  obtain rfl := Except.ok.inj hentries
  cases hsort

theorem failsFirst_findOrCreate_misordered :
    bareConnector.models.find (.text "Post") = .ok (.bare "Post") ∧
    ¬ (Argument.order misordered).Compiles bareConnector (.bare "Post") .null ∧
    FailsFirst bareConnector (.findOrCreate (.text "Post") misordered (.doc []) .null) :=
  ⟨rfl, not_compiles_misordered,
    (failsFirst_iff_not_sendsBeforeOrder rfl rfl
      ⟨_, List.mem_append_left _ (by simp [earlyArguments]), not_compiles_misordered⟩).mpr id⟩

/-- The order of `all` is only refused when the command was sent. -/
theorem not_failsFirst_of_misordered_all :
    ¬ ∀ (c : Connector) (model : Model) (name options : Value) (op : Operation),
      c.models.find name = .ok model → op.target? = some (name, options) →
      (∃ argument ∈ arguments op, ¬ argument.Compiles c model options) → FailsFirst c op := by
  intro hfirst
  have hmisordered : Argument.order misordered ∈
      arguments (.all (.text "Post") misordered .null) :=
    List.mem_append_right _ List.mem_cons_self
  obtain ⟨added, hevents, hadded, -⟩ := hfirst bareConnector (.bare "Post") _ _
    (.all (.text "Post") misordered .null) rfl rfl
    ⟨_, hmisordered, not_compiles_misordered⟩ quiet
  have hsent : added = [.native (.text "Post") "find" [.doc [], .null] []] := hevents.symm
  have hnothing := hadded _ (hsent ▸ List.mem_singleton_self _)
  cases hnothing

end Connector
end ModelStore
