import ModelStore.Proofs.Connector.OneIdentity
import ModelStore.Proofs.Update.EmptyOperand

/-!
Updates that operate on nothing. Saving data inserts its identifier where there is nothing to set, so
it never hands over an operator with an empty operand. The other operations that update do: where data
has nothing besides its identifier, or, where it may hold operators, where one of them has nothing
besides an identifier.
-/
namespace ModelStore

open Act

def Value.document? : Value → Option Document
  | .doc entries => some entries
  | _ => none

/-- The update that a call hands to the database: the second argument of a native call, or a keyword
of a command. -/
def Event.update? : Event → Option Document
  | .native _ _ arguments _ => arguments[1]?.bind Value.document?
  | .command _ keywords => (Table.get? keywords "update").bind Value.document?
  | _ => none

/-- The call hands over an update, and that has an empty operand exactly under the condition. -/
def Event.EmptyIff (C : Prop) (e : Event) : Prop :=
  ∃ update, e.update? = some update ∧ (Update.HasEmptyOperand update ↔ C)

/-- The call hands over no update with an empty operand. -/
def Event.IsFilled (e : Event) : Prop :=
  ∀ update, e.update? = some update → ¬ Update.HasEmptyOperand update

def Sending.HandsOver (update : Document) (sending : Sending) : Prop :=
  ∀ model name, (Dispatcher.attempt name (sending.given model name)).update? = some update

def Sending.EmptyIff (C : Prop) (sending : Sending) : Prop :=
  ∃ update, sending.HandsOver update ∧ (Update.HasEmptyOperand update ↔ C)

theorem Act.Issues.eachCall_emptyIff {act : Act Value} {s : Datasource} {C : Prop} {model : Value}
    {behaves : Behaviour} (h : Issues (Sending.EmptyIff C) model behaves act s) :
    EachCall behaves act s (Event.EmptyIff C) := by
  refine h.eachCall ?_
  rintro sending name ⟨update, hhands, hempty⟩
  exact ⟨update, hhands _ name, hempty⟩

namespace Connector

variable {c : Connector} {model : Model} {name filter data options : Value} {s : Datasource}
  {update : Document}

/-- Data asks for an update with an operator that operates on nothing. -/
inductive AsksForNothing (c : Connector) (model : Model) (data options : Value) : Prop
  /-- It has nothing besides the identifier. -/
  | nothing (hpayload : payload model data = .ok []) : AsksForNothing c model data options
  /-- It is taken as an update, and an operator in it has nothing besides an identifier. -/
  | operand {entries operand : Document} {operator : String}
      (hallowed : Update.operatorsAllowed model c.settings options = .ok true)
      (hpayload : payload model data = .ok entries) (hoperator : operator ∈ Update.operators)
      (hoperand : Table.get? entries operator = some (.doc operand)) (hset : operand ≠ [])
      (hid : Update.withoutId model operand = []) : AsksForNothing c model data options

theorem withoutId_payload {entries : Document} (h : payload model data = .ok entries) :
    Update.withoutId model entries = entries := by
  obtain ⟨given, -, hpayload⟩ := Result.bind_eq_ok.mp h
  obtain rfl := Except.ok.inj hpayload
  simp [Update.withoutId]

theorem hasEmptyOperand_updateOf_iff (h : c.updateOf model data options = .ok update) :
    Update.HasEmptyOperand update ↔ c.AsksForNothing model data options := by
  obtain ⟨entries, hentries, h⟩ := Result.bind_eq_ok.mp h
  obtain ⟨parsed, hparsed, h⟩ := Result.bind_eq_ok.mp h
  obtain ⟨strict, -, hstored⟩ := Result.bind_eq_ok.mp h
  rcases Update.parse_eq_ok hparsed with ⟨hallowed, rfl, hsome⟩ | ⟨rfl, hnone⟩
  · rw [Update.hasEmptyOperand_store_iff hstored]
    simp only [Update.doc_mem_heldOperators]
    constructor
    · intro hempty
      obtain ⟨operator, operand, ⟨hoperator, hoperand, hset⟩, hid⟩ := hempty
      exact .operand hallowed hentries hoperator hoperand hset hid
    · intro hasks
      cases hasks with
      | nothing hpayload =>
        obtain rfl := Except.ok.inj (hentries.symm.trans hpayload)
        exact absurd rfl hsome
      | @operand entries' operand operator _ hpayload hoperator hoperand hset hid =>
        obtain rfl := Except.ok.inj (hentries.symm.trans hpayload)
        exact ⟨operator, operand, ⟨hoperator, hoperand, hset⟩, hid⟩
  · rw [Update.hasEmptyOperand_setAll_iff hstored, withoutId_payload hentries]
    constructor
    · rintro rfl
      exact .nothing hentries
    · intro hasks
      cases hasks with
      | nothing hpayload => exact Except.ok.inj (hentries.symm.trans hpayload)
      | @operand entries' operand operator hallowed hpayload hoperator hoperand hset hid =>
        -- An operator with an operand would have been taken for an update.
        obtain rfl := Except.ok.inj (hentries.symm.trans hpayload)
        have hheld := Update.doc_mem_heldOperators.mpr ⟨hoperator, hoperand, hset⟩
        rw [hnone hallowed] at hheld
        cases hheld

theorem not_hasEmptyOperand_upsertOf (document : Document) (id : Value) :
    ¬ Update.HasEmptyOperand (upsertOf document id) := by
  rintro ⟨operator, hmem⟩
  cases document with
  | nil => simp [upsertOf, byId] at hmem
  | cons entry rest => simp [upsertOf] at hmem

def UpdatesNothing (c : Connector) (name data options : Value) : Prop :=
  ∃ model, c.models.find name = .ok model ∧ c.AsksForNothing model data options

theorem updatesNothing_iff (hmodel : c.models.find name = .ok model) :
    c.UpdatesNothing name data options ↔ c.AsksForNothing model data options := by
  simp [UpdatesNothing, hmodel]

theorem issues_save_filled (c : Connector) (name data options : Value) (s : Datasource) :
    Issues (Sending.EmptyIff False) name c.observing (c.save name data options) s := by
  rw [save_eq]
  refine issues_settle fun model _ => issues_idOf fun id after _ => ?_
  refine comesTo_saving.issues ?_ after
  intro sending hsending
  obtain ⟨document, -, hsending⟩ := Result.bind_eq_ok.mp hsending
  obtain ⟨session, -, hsending⟩ := Result.bind_eq_ok.mp hsending
  obtain rfl := Except.ok.inj hsending
  refine ⟨upsertOf document id, fun _ _ => rfl, ?_⟩
  exact iff_false_intro (not_hasEmptyOperand_upsertOf document id)

/-- The update of a command that hands over what data asks for. -/
theorem emptyIff_of_updateOf {sending : Sending} (hmodel : c.models.find name = .ok model)
    (hupdate : c.updateOf model data options = .ok update)
    (hhands : sending.HandsOver update) :
    Sending.EmptyIff (c.UpdatesNothing name data options) sending :=
  ⟨update, hhands, (hasEmptyOperand_updateOf_iff hupdate).trans (updatesNothing_iff hmodel).symm⟩

theorem issues_updateOrCreate (c : Connector) (name data options : Value) (s : Datasource) :
    Issues (Sending.EmptyIff (c.UpdatesNothing name data options)) name c.observing
      (c.updateOrCreate name data options) s := by
  rw [updateOrCreate_eq]
  refine issues_settle fun model hmodel => issues_idOf fun id after _ => ?_
  refine comesTo_updatingOrCreating.issues ?_ after
  intro sending hsending
  obtain ⟨update, hupdate, hsending⟩ := Result.bind_eq_ok.mp hsending
  obtain ⟨session, -, hsending⟩ := Result.bind_eq_ok.mp hsending
  obtain rfl := Except.ok.inj hsending
  exact emptyIff_of_updateOf hmodel hupdate fun _ _ => rfl

theorem issues_updateAttributes (c : Connector) (name given data options : Value)
    (s : Datasource) :
    Issues (Sending.EmptyIff (c.UpdatesNothing name data options)) name c.observing
      (c.updateAttributes name given data options) s := by
  refine comesTo_updateAttributes.issues ?_ s
  intro sending hsending
  obtain ⟨model, hmodel, hsending⟩ := Result.bind_eq_ok.mp hsending
  obtain ⟨id, -, hsending⟩ := Result.bind_eq_ok.mp hsending
  obtain ⟨update, hupdate, hsending⟩ := Result.bind_eq_ok.mp hsending
  obtain ⟨session, -, hsending⟩ := Result.bind_eq_ok.mp hsending
  obtain rfl := Except.ok.inj hsending
  exact emptyIff_of_updateOf hmodel hupdate fun _ _ => rfl

theorem issues_updateAll (c : Connector) (name filter data options : Value) (s : Datasource) :
    Issues (Sending.EmptyIff (c.UpdatesNothing name data options)) name c.observing
      (c.updateAll name filter data options) s := by
  rw [updateAll_eq]
  refine issues_settle fun model hmodel => issues_settle fun entries _ => ?_
  refine issues_queryOf fun query _ => comesTo_updatingAll.issues ?_ _
  intro sending hsending
  obtain ⟨update, hupdate, hsending⟩ := Result.bind_eq_ok.mp hsending
  obtain ⟨session, -, hsending⟩ := Result.bind_eq_ok.mp hsending
  obtain rfl := Except.ok.inj hsending
  exact emptyIff_of_updateOf hmodel hupdate fun _ _ => rfl

/-- When the calls of the operations that update hand over an empty operand, before observers change
them: those of a save never, the others exactly if data asks for nothing. -/
structure EmptyUpdates (c : Connector) (name options : Value) (s : Datasource) : Prop where
  save : ∀ data, EachCall c.observing (c.save name data options) s (Event.EmptyIff False)
  updateOrCreate : ∀ data, EachCall c.observing (c.updateOrCreate name data options) s
    (Event.EmptyIff (c.UpdatesNothing name data options))
  updateAttributes : ∀ given data,
    EachCall c.observing (c.updateAttributes name given data options) s
      (Event.EmptyIff (c.UpdatesNothing name data options))
  updateAll : ∀ filter data, EachCall c.observing (c.updateAll name filter data options) s
    (Event.EmptyIff (c.UpdatesNothing name data options))

theorem emptyUpdates (c : Connector) (name options : Value) (s : Datasource) :
    EmptyUpdates c name options s where
  save data := (issues_save_filled c name data options s).eachCall_emptyIff
  updateOrCreate data := (issues_updateOrCreate c name data options s).eachCall_emptyIff
  updateAttributes given data :=
    (issues_updateAttributes c name given data options s).eachCall_emptyIff
  updateAll filter data := (issues_updateAll c name filter data options s).eachCall_emptyIff

/-- Data with nothing but an identifier, or without even that, is set as a whole. -/
theorem hands_over_nothing :
    (¬ ∀ (c : Connector) (name data options : Value) (s : Datasource),
      EachCall c.observing (c.updateOrCreate name data options) s Event.IsFilled) ∧
    (¬ ∀ (c : Connector) (name given data options : Value) (s : Datasource),
      EachCall c.observing (c.updateAttributes name given data options) s Event.IsFilled) ∧
    ¬ ∀ (c : Connector) (name filter data options : Value) (s : Datasource),
      EachCall c.observing (c.updateAll name filter data options) s Event.IsFilled := by
  refine ⟨fun hfilled => ?_, fun hfilled => ?_, fun hfilled => ?_⟩
  · exact (hfilled bareConnector (.text "Post") (.doc [("id", .int 1)]) .null .quiet).of_nobody rfl
      (e := .command [.text "findAndModify", .text "Post"]
        [("query", .doc [("_id", .int 1)]), ("update", .doc [("$set", .doc [])]),
          ("upsert", .bool true), ("new", .bool true)])
      List.mem_cons_self rfl _ rfl ⟨"$set", List.mem_cons_self⟩
  · exact (hfilled bareConnector (.text "Post") (.int 1) (.doc []) .null .quiet).of_nobody rfl
      (e := .native (.text "Post") "find_one_and_update"
        [.doc [("_id", .int 1)], .doc [("$set", .doc [])]]
        [("upsert", .bool false), ("return_document", .bool true)])
      List.mem_cons_self rfl _ rfl ⟨"$set", List.mem_cons_self⟩
  · exact (hfilled bareConnector (.text "Post") (.doc []) (.doc []) .null .quiet).of_nobody rfl
      (e := .native (.text "Post") "update_many" [.doc [], .doc [("$set", .doc [])]] [])
      List.mem_cons_self rfl _ rfl ⟨"$set", List.mem_cons_self⟩

end Connector
end ModelStore
