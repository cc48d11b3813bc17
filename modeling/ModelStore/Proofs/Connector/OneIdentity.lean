import ModelStore.Proofs.Connector.Issued
import ModelStore.Proofs.Connector.MadeDocument
import ModelStore.Proofs.Connector.SameAddress

/-!
One identity for one document. A write asks for a document by an identifier and may write an
identifier into it as well. The two agree unless data brings along an identifier besides the one
that it names, under a key with the column of identifiers, or a filter asks for an identifier that
the data does not name.
-/
namespace ModelStore

open Act

def isOperatorKey (key : String) : Bool := key.toList.head? = some '$'

/-- The value that a condition asks for by equality. Patterns ask for none, and operators only
where one of them is equality itself. -/
def Value.equality? : Value → Option Value
  | .regex .. => none
  | .pattern .. => none
  | .doc entries =>
      if (entries.head?.map Prod.fst).any isOperatorKey then Table.get? entries "$eq"
      else some (.doc entries)
  | v => some v

/-- The identifiers that a command writes: that of a replacement, or those that an update sets. -/
def writtenIds (command : String) (change : Document) : List Value :=
  if command = "replace_one" then (Table.get? change idField).toList
  else ["$set", "$setOnInsert"].filterMap fun operator =>
    match Table.get? change operator with
    | some (.doc operand) => Table.get? operand idField
    | _ => none

/-- Every identifier that the call writes is the one that it asks for, if it asks for one. -/
def Event.CarriesOne : Event → Prop
  | .native _ method (.doc query :: .doc change :: _) _ =>
      ∀ v u, Table.get? query idField = some v → v.equality? = some u →
        ∀ w ∈ writtenIds method change, w = u
  | _ => True

/-- The identifier is the one that is asked for, if one is. -/
def Confirms (asked : Value → Prop) (w : Value) : Prop :=
  ∀ v u, asked v → v.equality? = some u → w = u

/-- The command has a query and a change, and it carries one identity under the condition. -/
def Sending.OneIff (C : Prop) (sending : Sending) : Prop :=
  ∃ query change rest, sending.route = .collection ∧
    sending.arguments = .doc query :: .doc change :: rest ∧
    ((∀ w ∈ writtenIds sending.command change,
      Confirms (fun v => Table.get? query idField = some v) w) ↔ C)

theorem Sending.OneIff.carriesOne {C : Prop} {sending : Sending} (h : sending.OneIff C)
    (model name : Value) : (Dispatcher.attempt name (sending.given model name)).CarriesOne ↔ C := by
  obtain ⟨query, change, rest, hroute, harguments, hC⟩ := h
  have hattempt : Dispatcher.attempt name (sending.given model name) =
      .native name sending.command (.doc query :: .doc change :: rest) sending.keywords := by
    simp only [Dispatcher.attempt, Sending.given, hroute, harguments]
  rw [hattempt, ← hC]
  constructor
  · intro hone w hw v u hv hu
    exact hone v u hv hu w hw
  · intro hone v u hv hu w hw
    exact hone w hw v u hv hu

theorem Act.Issues.eachCall_carriesOne {act : Act Value} {s : Datasource} {C : Prop}
    {model : Value} {behaves : Behaviour}
    (h : Issues (Sending.OneIff C) model behaves act s) :
    EachCall behaves act s fun e => e.CarriesOne ↔ C :=
  h.eachCall fun _ name hone => hone.carriesOne _ name

namespace Connector

variable {c : Connector} {model : Model} {name filter data options w : Value} {s : Datasource}

def Requires (c : Connector) (model : Model) (options filter condition : Value) : Prop :=
  ∃ entries level strict entry, filterOf filter = .ok entries ∧
    part entries "where" = .doc level ∧ c.isStrict model options = .ok strict ∧
    Filter.Stands model level entry ∧
    Filter.conditionOf ⟨model, c.settings.nullAsAbsent, strict⟩ entry = .ok (idField, condition)

theorem get?_build_iff {entries query : Document} (hentries : filterOf filter = .ok entries)
    (hquery : Filter.build model c.settings options (part entries "where") = .ok query)
    (condition : Value) :
    Table.get? query idField = some condition ↔ c.Requires model options filter condition := by
  by_cases hdoc : ∃ level, part entries "where" = .doc level
  · obtain ⟨level, hlevel⟩ := hdoc
    rw [hlevel] at hquery
    obtain ⟨strict, hstrict⟩ := Filter.isStrict_of_build hquery
    rw [Filter.build_doc hstrict] at hquery
    have hkeys : (Table.keys query).Nodup := by
      obtain ⟨conditions, -, rfl⟩ := Filter.compile_eq_ok.mp hquery
      exact Table.nodup_keys_ofList conditions
    rw [Table.get?_eq_some_iff_mem hkeys, Filter.mem_compile hquery]
    constructor
    · intro hstands
      obtain ⟨entry, hentry, hcondition⟩ := hstands
      exact ⟨entries, level, strict, entry, hentries, hlevel, hstrict, hentry, hcondition⟩
    · intro hrequires
      obtain ⟨entries', level', strict', entry, hentries', hlevel', hstrict', hentry, hcondition⟩ :=
        hrequires
      obtain rfl := Except.ok.inj (hentries.symm.trans hentries')
      obtain rfl := Value.doc.inj (hlevel.symm.trans hlevel')
      obtain rfl := Except.ok.inj (hstrict.symm.trans hstrict')
      exact ⟨entry, hentry, hcondition⟩
  · have hnothing : query = [] := by
      cases hpart : part entries "where" with
      | doc level => exact absurd ⟨level, hpart⟩ hdoc
      | _ =>
        rw [hpart] at hquery
        exact (Except.ok.inj hquery).symm
    constructor
    · intro hfound
      rw [hnothing] at hfound
      cases hfound
    · intro hrequires
      obtain ⟨entries', level, -, -, hentries', hlevel, -⟩ := hrequires
      obtain rfl := Except.ok.inj (hentries.symm.trans hentries')
      exact absurd ⟨level, hlevel⟩ hdoc

/-- What data writes by its identifier agrees with it: everything it brings along, and the
identifier itself where nothing else can be written. -/
def SavesOne (c : Connector) (model : Model) (data options id : Value) : Prop :=
  (∀ w, c.Brings model data options w → Confirms (id = ·) w) ∧
    (payload model data = .ok [] → Confirms (id = ·) id)

def ReplacesOne (c : Connector) (model : Model) (data options id : Value) : Prop :=
  ∀ w, c.Brings model data options w → Confirms (id = ·) w

theorem byId_asks (id : Value) : (fun v => Table.get? (byId id) idField = some v) = (id = ·) := by
  funext v
  rw [byId, Table.get?_cons, if_pos rfl, Option.some.injEq]

theorem mem_writtenIds_replace {document : Document} :
    w ∈ writtenIds "replace_one" document ↔ Table.get? document idField = some w := by
  rw [writtenIds, if_pos rfl, Option.mem_toList]

theorem writtenIds_upsertOf (document : Document) (id : Value) :
    writtenIds "update_one" (upsertOf document id) =
      if document = [] then [id] else (Table.get? document idField).toList := by
  cases document with
  | nil => rfl
  | cons entry rest =>
    rw [if_neg (List.cons_ne_nil entry rest)]
    cases hid : Table.get? (entry :: rest) idField <;>
      simp [writtenIds, upsertOf, Table.get?_cons, hid]

theorem saves_one_iff {document : Document} {id : Value}
    (h : c.documentOf model data options = .ok document) :
    (∀ w ∈ writtenIds "update_one" (upsertOf document id),
        Confirms (fun v => Table.get? (byId id) idField = some v) w) ↔
      c.SavesOne model data options id := by
  rw [byId_asks, writtenIds_upsertOf, SavesOne, ← documentOf_eq_nil_iff h]
  simp only [← get?_documentOf_iff h]
  split
  · rename_i hempty
    simp [hempty]
  · rename_i hfilled
    simp [hfilled]

theorem replaces_one_iff {document : Document} {id : Value}
    (h : c.documentOf model data options = .ok document) :
    (∀ w ∈ writtenIds "replace_one" document,
        Confirms (fun v => Table.get? (byId id) idField = some v) w) ↔
      c.ReplacesOne model data options id := by
  rw [byId_asks]
  simp only [mem_writtenIds_replace, get?_documentOf_iff h]
  rfl

def WhenFound (c : Connector) (name : Value) (id : Model → Result Value)
    (Q : Model → Value → Prop) : Prop :=
  ∀ model found, c.models.find name = .ok model → id model = .ok found → Q model found

theorem whenFound_iff (find : Model → Result Value) (Q : Model → Value → Prop) {id : Value}
    (hmodel : c.models.find name = .ok model) (hid : find model = .ok id) :
    c.WhenFound name find Q ↔ Q model id := by
  constructor
  · intro h
    exact h model id hmodel hid
  · intro h model' id' hmodel' hid'
    obtain rfl := Except.ok.inj (hmodel.symm.trans hmodel')
    obtain rfl := Except.ok.inj (hid.symm.trans hid')
    exact h

def SaveAgrees (c : Connector) (name data options : Value) (s : Datasource) : Prop :=
  c.WhenFound name (fun model => c.idAt model data options s) fun model id =>
    c.SavesOne model data options id

def ReplacementAgrees (c : Connector) (name data options : Value) (find : Model → Result Value) :
    Prop :=
  c.WhenFound name find fun model id => c.ReplacesOne model data options id

def SearchAgrees (c : Connector) (name filter data options : Value) (s : Datasource) : Prop :=
  c.WhenFound name (fun model => c.idAt model data options s) fun model id =>
    Confirms (c.Requires model options filter) id

section Found

variable {id : Value} (hmodel : c.models.find name = .ok model)
include hmodel

theorem saveAgrees_iff (hid : c.idAt model data options s = .ok id) :
    c.SaveAgrees name data options s ↔ c.SavesOne model data options id :=
  whenFound_iff (fun model => c.idAt model data options s)
    (fun model id => c.SavesOne model data options id) hmodel hid

theorem replacementAgrees_iff {find : Model → Result Value} (hid : find model = .ok id) :
    c.ReplacementAgrees name data options find ↔ c.ReplacesOne model data options id :=
  whenFound_iff find (fun model id => c.ReplacesOne model data options id) hmodel hid

theorem searchAgrees_iff (hid : c.idAt model data options s = .ok id) :
    c.SearchAgrees name filter data options s ↔
      Confirms (c.Requires model options filter) id :=
  whenFound_iff (fun model => c.idAt model data options s)
    (fun model id => Confirms (c.Requires model options filter) id) hmodel hid

end Found

theorem issues_save (c : Connector) (name data options : Value) (s : Datasource) :
    Issues (Sending.OneIff (c.SaveAgrees name data options s)) name c.observing
      (c.save name data options) s := by
  rw [save_eq]
  refine issues_settle fun model hmodel => issues_idOf fun id after hid => ?_
  refine comesTo_saving.issues ?_ after
  intro sending hsending
  obtain ⟨document, hdocument, hsending⟩ := Result.bind_eq_ok.mp hsending
  obtain ⟨session, -, hsending⟩ := Result.bind_eq_ok.mp hsending
  obtain rfl := Except.ok.inj hsending
  refine ⟨byId id, upsertOf document id, [], rfl, rfl, (saves_one_iff hdocument).trans ?_⟩
  exact (saveAgrees_iff hmodel hid).symm

theorem issues_replace {find : Model → Result Value} {id : Value} {upsert : Bool}
    (hmodel : c.models.find name = .ok model) (hid : find model = .ok id) (after : Datasource) :
    Issues (Sending.OneIff (c.ReplacementAgrees name data options find)) name c.observing
      (c.replace model name id data options upsert) after := by
  refine (comesTo_replace upsert).issues ?_ after
  intro sending hsending
  obtain ⟨document, hdocument, hsending⟩ := Result.bind_eq_ok.mp hsending
  obtain ⟨session, -, hsending⟩ := Result.bind_eq_ok.mp hsending
  obtain rfl := Except.ok.inj hsending
  refine ⟨byId id, document, [], rfl, rfl, (replaces_one_iff hdocument).trans ?_⟩
  exact (replacementAgrees_iff hmodel hid).symm

theorem issues_replaceOrCreate (c : Connector) (name data options : Value) (s : Datasource) :
    Issues (Sending.OneIff (c.ReplacementAgrees name data options fun model =>
      c.idAt model data options s)) name c.observing (c.replaceOrCreate name data options) s := by
  refine issues_settle fun model hmodel => issues_idOf fun id after hid => ?_
  exact issues_replace hmodel hid after

theorem issues_replaceById (c : Connector) (name given data options : Value) (s : Datasource) :
    Issues (Sending.OneIff (c.ReplacementAgrees name data options fun model =>
      c.coerceId model given options)) name c.observing (c.replaceById name given data options)
      s := by
  refine issues_settle fun model hmodel => issues_settle fun id hid => ?_
  exact issues_replace hmodel hid s

theorem issues_findOrCreate (c : Connector) (name filter data options : Value) (s : Datasource) :
    Issues (Sending.OneIff (c.SearchAgrees name filter data options s)) name c.observing
      (c.findOrCreate name filter data options) s := by
  rw [findOrCreate_eq]
  split
  · refine issues_settle fun model hmodel => issues_settle fun entries hentries => ?_
    refine issues_queryOf fun query hquery => issues_settle fun document _ => ?_
    refine issues_idOf fun id after hid => ?_
    refine comesTo_findingOrCreating.issues ?_ after
    intro sending hsending
    obtain ⟨projection, -, hsending⟩ := Result.bind_eq_ok.mp hsending
    obtain ⟨sort, -, hsending⟩ := Result.bind_eq_ok.mp hsending
    obtain ⟨session, -, hsending⟩ := Result.bind_eq_ok.mp hsending
    obtain rfl := Except.ok.inj hsending
    have hwritten : writtenIds "find_one_and_update"
        [("$setOnInsert", .doc (Table.insert document idField id))] = [id] := by
      simp [writtenIds, Table.get?_cons]
    have hasks : (fun v => Table.get? query idField = some v) =
        c.Requires model options filter := by
      funext v
      exact propext (get?_build_iff hentries hquery v)
    refine ⟨query, _, [], rfl, rfl, ?_⟩
    rw [hwritten, hasks, List.forall_mem_singleton]
    exact (searchAgrees_iff hmodel hid).symm
  · exact issues_throw _

/-- When the calls of the operations that write whole documents carry one identity, before observers
change them. -/
structure OneIdentity (c : Connector) (name options : Value) (s : Datasource) : Prop where
  save : ∀ data, EachCall c.observing (c.save name data options) s fun e =>
    e.CarriesOne ↔ c.SaveAgrees name data options s
  replaceOrCreate : ∀ data, EachCall c.observing (c.replaceOrCreate name data options) s fun e =>
    e.CarriesOne ↔
      c.ReplacementAgrees name data options fun model => c.idAt model data options s
  replaceById : ∀ given data,
    EachCall c.observing (c.replaceById name given data options) s fun e =>
      e.CarriesOne ↔
        c.ReplacementAgrees name data options fun model => c.coerceId model given options
  findOrCreate : ∀ filter data,
    EachCall c.observing (c.findOrCreate name filter data options) s fun e =>
      e.CarriesOne ↔ c.SearchAgrees name filter data options s

theorem oneIdentity (c : Connector) (name options : Value) (s : Datasource) :
    OneIdentity c name options s where
  save data := (issues_save c name data options s).eachCall_carriesOne
  replaceOrCreate data := (issues_replaceOrCreate c name data options s).eachCall_carriesOne
  replaceById given data := (issues_replaceById c name given data options s).eachCall_carriesOne
  findOrCreate filter data := (issues_findOrCreate c name filter data options s).eachCall_carriesOne

/-- Where data names no identifier, a document that is not found is inserted under a new one. -/
theorem outcome_findOrCreate_unnamed {entries query document : Document}
    (henabled : c.settings.findOrCreateEnabled = true) (hmodel : c.models.find name = .ok model)
    (hentries : filterOf filter = .ok entries)
    (hquery : Filter.build model c.settings options (part entries "where") = .ok query)
    (hdocument : c.documentOf model data options = .ok document)
    (hdata : namedId model data = .ok .null) (s : Datasource) :
    outcome (c.findOrCreate name filter data options) s =
      outcome (c.findingOrCreating model name options entries query
        (Table.insert document idField (.objectId (.ofNumber (s.identifiers + 1)))))
        { c.compiled model options (part entries "where") s with
          identifiers := s.identifiers + 1 } := by
  have hid (s : Datasource) : outcome (c.idOf model data options) s =
      (.ok (.objectId (.ofNumber (s.identifiers + 1))),
        { s with identifiers := s.identifiers + 1 }) := by
    unfold idOf
    rw [hdata]
    rfl
  rw [findOrCreate_eq, if_pos henabled]
  refine (outcome_bind_ok _ (outcome_settle_ok _ hmodel)).trans ?_
  refine (outcome_bind_ok _ (outcome_settle_ok _ hentries)).trans ?_
  refine (outcome_bind_ok _ (outcome_queryOf s hquery)).trans ?_
  refine (outcome_bind_ok _ (outcome_settle_ok _ hdocument)).trans ?_
  exact outcome_bind_ok _ (hid _)

def searching : Connector :=
  { bareConnector with settings := { findOrCreateEnabled := true, defaultSortDisabled := true } }

def sought : Document := [("where", .doc [("id", .int 5)])]

def seeking : Event :=
  .native (.text "Post") "find_one_and_update"
    [.doc (byId (.int 5)), .doc [("$setOnInsert", .doc (byId (.objectId (.ofNumber 1))))]]
    [("upsert", .bool true), ("return_document", .bool false)]

theorem calls_sought (notices : List Notice) :
    seeking ∈ Datasource.quiet.since
      (outcome (searching.findingOrCreating (.bare "Post") (.text "Post") .null sought
        (byId (.int 5)) (byId (.objectId (.ofNumber 1))))
        { Datasource.quiet with notices, identifiers := 1 }).2 :=
  List.mem_cons_self

/-- A key of data under the column of identifiers is written beside the identifier that data names,
and what a filter asks for is not the new identifier of data that names none. -/
theorem carries_two_identities :
    (¬ ∀ (c : Connector) (name data options : Value) (s : Datasource),
      EachCall c.observing (c.save name data options) s Event.CarriesOne) ∧
    ¬ ∀ (c : Connector) (name filter data options : Value) (s : Datasource),
      EachCall c.observing (c.findOrCreate name filter data options) s Event.CarriesOne := by
  constructor
  · intro hone
    have hsaved := (hone bareConnector (.text "Post") (.doc [("id", .int 1), ("_id", .int 2)])
      .null .quiet).of_nobody rfl
      (e := .native (.text "Post") "update_one"
        [.doc [("_id", .int 1)], .doc [("$set", .doc [("_id", .int 2)])]]
        [("upsert", .bool true)])
      List.mem_cons_self rfl (.int 1) (.int 1) rfl rfl (.int 2) List.mem_cons_self
    cases hsaved
  · intro hone
    have hquery : Filter.build (.bare "Post") searching.settings .null (part sought "where") =
        .ok (byId (.int 5)) :=
      build_id (if_pos (Or.inl rfl)) rfl rfl (by simp) fun _ _ => rfl
    have hrun : outcome (searching.findOrCreate (.text "Post") (.doc sought) (.doc []) .null)
        .quiet = _ := outcome_findOrCreate_unnamed rfl rfl rfl hquery rfl rfl .quiet
    have hfound := hone searching (.text "Post") (.doc sought) (.doc []) .null .quiet
    have hcalled : seeking ∈ Datasource.quiet.since
        (outcome (searching.findOrCreate (.text "Post") (.doc sought) (.doc []) .null) .quiet).2 := by
      rw [hrun]
      exact calls_sought _
    have htwo := hfound.of_nobody rfl hcalled rfl (.int 5) (.int 5) rfl rfl (.objectId (.ofNumber 1)) List.mem_cons_self
    cases htwo

end Connector
end ModelStore
