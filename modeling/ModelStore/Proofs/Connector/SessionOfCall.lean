import ModelStore.Proofs.Command.Unobserved
import ModelStore.Proofs.Connector.Sends

/-!
The session of an operation. Every call of the database that an operation on a model makes carries
the session of the call options as a keyword, or no such keyword if the options have no session.
Observers see the call before it is made and can change its objects, but never its session. An
estimate cannot be made in a session, and an operation whose session cannot be used calls nothing.
-/
namespace ModelStore

open Act

def Event.callKeywords? : Event → Option Document
  | .native _ _ _ keywords => some keywords
  | .command _ keywords => some keywords
  | _ => none

def Event.isEstimate : Event → Bool
  | .native _ method _ _ => method == "estimated_document_count"
  | _ => false

/-- The event, if it calls the database, does so in the session, or outside of all sessions if
there is none. -/
structure Event.CarriesSession (session : Option Value) (e : Event) : Prop where
  keyword : ∀ keywords, e.callKeywords? = some keywords →
    Table.get? keywords Context.sessionKey = session
  counted : session.isSome → e.isEstimate = false

/-- Observers leave the command and the session of a call as they are. -/
theorem Context.CallOf.carriesSession {given last : Context} {session : Option Value} {name : Value}
    (h : given.CallOf last) (hkeyword : Table.get? given.keywords sessionKey = session)
    (hcounted : session.isSome → given.command ≠ "estimated_document_count") :
    (Dispatcher.attempt name last).CarriesSession session := by
  have hsession : Table.get? last.keywords sessionKey = session := h.session.trans hkeyword
  unfold Dispatcher.attempt
  cases last.route with
  | database =>
    refine ⟨fun keywords hkeywords => ?_, fun _ => rfl⟩
    obtain rfl := Option.some.inj hkeywords
    exact hsession
  | collection =>
    refine ⟨fun keywords hkeywords => ?_, fun hsome => ?_⟩
    · obtain rfl := Option.some.inj hkeywords
      exact hsession
    · simpa [Event.isEstimate, h.command] using hcounted hsome

namespace Connector

variable {c : Connector} {model : Model} {op : Operation} {sending : Sending}
  {name options : Value} {session : Document}

/-- A command is sent with the session that the operation looked up. -/
theorem Sends.keyword (h : Sends c model session op sending) :
    Table.get? sending.keywords Context.sessionKey = Table.get? session Context.sessionKey := by
  cases h with
  | @findOrCreate _ _ _ _ _ _ _ _ projection sort =>
    cases projection <;> cases sort <;> rfl
  | estimate _ _ hsession => rw [hsession]
  | _ => rfl

theorem Sends.counted (h : Sends c model session op sending) (hsession : session ≠ []) :
    sending.command ≠ "estimated_document_count" := by
  cases h with
  | estimate _ _ hnone => exact absurd hnone hsession
  | _ => simp

/-- The keywords of a call say which session it is made in. -/
theorem get?_of_sessionKeywords (h : sessionKeywords options = .ok session) :
    sessionOf options = .ok (Table.get? session Context.sessionKey) := by
  rcases sessionKeywords_eq_ok.mp h with ⟨hnone, rfl⟩ | ⟨v, hsome, rfl⟩
  · exact hnone
  · exact hsome

/-- What an operation sends calls the database in the session of its options only, and only if
they have one that can be used or none at all. -/
theorem sendsOnly_inSession (c : Connector) (name options : Value) (op : Operation) :
    SendsOnly
      (fun e => e.isCall = true →
        ∃ session, sessionOf options = .ok session ∧ e.CarriesSession session)
      (∃ session, sessionOf options = .ok session) c name options op := by
  intro model session sending _ hsession hsends
  have hfound := get?_of_sessionKeywords hsession
  have hcounted : (Table.get? session Context.sessionKey).isSome →
      sending.command ≠ "estimated_document_count" := by
    intro hsome
    apply hsends.counted
    rintro rfl
    simp at hsome
  refine Adds.mono (Q := fun _ => True) ?_ fun _ _ => ⟨_, hfound⟩
  refine Dispatcher.adds_dispatch fun e he hcall => ?_
  obtain ⟨collection, last, hmakes, rfl⟩ := he hcall
  exact ⟨_, hfound, hmakes.callOf.carriesSession hsends.keyword hcounted⟩

def NotBegun (options : Value) : Prop :=
  ∃ entries, options.options = .ok entries ∧
    Table.get? entries "transaction" = some (.transaction .null)

theorem sessionOf_of_notBegun (h : NotBegun options) :
    sessionOf options = .error .sessionMissing := by
  obtain ⟨entries, hoptions, htransaction⟩ := h
  simp only [sessionOf, hoptions, bind, Except.bind, htransaction, Option.getD_some]

theorem carriesSession_of_not_call {e : Event} {session : Option Value} (h : e.isCall = false) :
    e.CarriesSession session := by
  have hnone : e.callKeywords? = none ∧ e.isEstimate = false := by
    cases e <;> first | exact ⟨rfl, rfl⟩ | cases h
  refine ⟨?_, fun _ => hnone.2⟩
  intro keywords hkeywords
  rw [hnone.1] at hkeywords
  cases hkeywords

/-- Whatever the datasource is in and the observers do, the calls of an operation on a model are
made in the session of its options, in none if they have none, and not made at all if they carry a
transaction that has not begun. -/
theorem calls_carry_session (htarget : op.target? = some (name, options)) (s : Datasource) :
    ∃ added, (outcome (op.run c) s).2.events = s.events ++ added ∧
      (∀ session, sessionOf options = .ok session → ∀ e ∈ added, e.CarriesSession session) ∧
      (NotBegun options → (∀ e ∈ added, e.isCall = false) ∧
        ∃ f, (outcome (op.run c) s).1 = .error f) := by
  obtain ⟨added, hevents, hadded, hanswered⟩ :=
    (sendsOnly_inSession c name options op).run (fun _ _ _ _ h => by cases h)
      (fun _ h => by cases h) htarget s
  refine ⟨added, hevents, ?_, ?_⟩
  · intro session hsession e he
    cases hcall : e.isCall with
    | false => exact carriesSession_of_not_call hcall
    | true =>
      obtain ⟨session', hsession', hcarried⟩ := hadded e he hcall
      obtain rfl := Except.ok.inj (hsession.symm.trans hsession')
      exact hcarried
  · intro hnotBegun
    have hunusable := sessionOf_of_notBegun hnotBegun
    refine ⟨?_, ?_⟩
    · intro e he
      cases hcall : e.isCall with
      | false => rfl
      | true =>
        obtain ⟨session, hsession, -⟩ := hadded e he hcall
        rw [hunusable] at hsession
        cases hsession
    · cases hended : (outcome (op.run c) s).1 with
      | error f => exact ⟨f, rfl⟩
      | ok v =>
        obtain ⟨session, hsession⟩ := hanswered v hended
        rw [hunusable] at hsession
        cases hsession

def inTransaction (session : Value) : Value := .doc [("transaction", .transaction session)]

def upsertIn (session : Value) : Operation :=
  .updateOrCreate (.text "Post") (.doc [("id", .int 7)]) (inTransaction session)

theorem calls_carry_session_upsertIn :
    (outcome ((upsertIn (.text "s")).run bareConnector) Datasource.quiet).2.events =
      [.command [.text "findAndModify", .text "Post"]
        [("query", .doc [("_id", .int 7)]), ("update", .doc [("$set", .doc [])]),
          ("upsert", .bool true), ("new", .bool true), ("session", .text "s")]] ∧
    (upsertIn .null).target? = some (.text "Post", inTransaction .null) ∧
    NotBegun (inTransaction .null) ∧
    ∃ added, (outcome ((upsertIn .null).run bareConnector) Datasource.quiet).2.events =
        Datasource.quiet.events ++ added ∧
      (∀ e ∈ added, e.isCall = false) ∧
      ∃ f, (outcome ((upsertIn .null).run bareConnector) Datasource.quiet).1 = .error f := by
  have hnotBegun : NotBegun (inTransaction .null) := ⟨_, rfl, rfl⟩
  have htarget : (upsertIn .null).target? = some (.text "Post", inTransaction .null) := rfl
  obtain ⟨added, hevents, -, hnothing⟩ :=
    calls_carry_session (c := bareConnector) htarget Datasource.quiet
  exact ⟨rfl, htarget, hnotBegun, added, hevents, hnothing hnotBegun⟩

end Connector
end ModelStore
