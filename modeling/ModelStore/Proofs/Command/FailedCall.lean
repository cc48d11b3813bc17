import ModelStore.Proofs.Command.InOrder

/-!
Calls that fail. The observers after a call are told of its error, and then the error goes on to
the caller as it is. One of them can get in the way: if it fails itself, its own failure is what
the caller receives. An interruption goes to the caller at once.
-/
namespace ModelStore.Dispatcher

open Act

/-- A command comes to its call: its collection is found, and the observers before the call
pass. -/
structure ComesToCall (behaves : Behaviour) (settings : Settings) (resolver : Resolver)
    (model : Value) (sending : Sending) (s : Datasource) (name : Value) (last : Context)
    (reached : Datasource) : Prop where
  exists_found : ∃ found, outcome (prepare settings resolver model sending) s = (.ok name, found) ∧
    outcome (notifyOf behaves "before execute" (sending.given model name)) found =
      (.ok (none, last), reached)

variable {behaves : Behaviour} {settings : Settings} {resolver : Resolver} {model name : Value}
  {sending : Sending} {s reached replied : Datasource} {last : Context} {done : Result Value}
  {e : Failure}

/-- A command that comes to its call hands on what the call ends with. -/
theorem ComesToCall.outcome_eq
    (h : ComesToCall behaves settings resolver model sending s name last reached)
    (hcall : outcome (work name last) reached = (done, replied)) :
    outcome (sendBy behaves settings resolver model sending) s =
      outcome (handOn behaves "execute" last done) replied := by
  obtain ⟨found, hprepared, hpassed⟩ := h.exists_found
  rw [← before_execute] at hpassed
  have hsent : outcome (sendBy behaves settings resolver model sending) s =
      outcome (delivered (around behaves "execute" (sending.given model name) (work name)))
        found := outcome_bind_ok _ hprepared
  rw [hsent, outcome_around_passed hpassed hcall]

/-- After a call that fails with an error the observers are told of it, and the caller receives
that error exactly if none of those who were notified fails with another, and otherwise the one
with which an observer fails. After a call that is interrupted nobody is notified. -/
theorem failure_delivered_iff
    (h : ComesToCall behaves settings resolver model sending s name last reached)
    (hcall : outcome (work name last) reached = (.error e, replied)) :
    let ended := outcome (sendBy behaves settings resolver model sending) s
    (e.isError = true → ∃ told round,
        IsRound (notifyOne behaves "after execute") (replied.observers.of "after execute")
            (last.reporting (.error e)) replied told round ∧
          ended.2 = replied.notified behaves "after execute" told ∧
          (ended.1 = .error e ↔ ∀ n ∈ told, ∀ f, n.response = .error f → f = e) ∧
          ∀ n ∈ told, ∀ f, n.response = .error f → ended.1 = .error f) ∧
      (e.isError = false → ended = (.error e, replied)) := by
  intro ended
  have hended : ended = outcome (handOn behaves "execute" last (.error e)) replied :=
    h.outcome_eq hcall
  constructor
  · intro he
    obtain ⟨told, round, hround, htold⟩ :=
      exists_isRound_notifyOf behaves "after execute" (last.reporting (.error e)) replied
    rw [handOn_of_uninterrupted (Result.uninterrupted_error_iff.mpr he), outcome_concluded,
      after_execute, htold] at hended
    have hfailed (n : Notification Context) (hn : n ∈ told) (f : Failure)
        (hf : n.response = .error f) : ended.1 = .error f := by
      rw [hended, hround.failed_iff.mpr ⟨n, hn, hf⟩]
      rfl
    refine ⟨told, round, hround, congrArg Prod.snd hended, ?_, hfailed⟩
    constructor
    · intro hdelivered n hn f hf
      exact Except.error.inj ((hfailed n hn f hf).symm.trans hdelivered)
    · intro hnone
      rw [hended]
      cases hfails : round with
      | ok left => rfl
      | error f =>
        obtain ⟨n, hn, hf⟩ := hround.failed_iff.mp hfails
        rw [hnone n hn f hf]
        rfl
  · intro he
    rw [hended, handOn_of_interrupted he]
    rfl

def refusing : Datasource :=
  { Datasource.quiet with
    observers := [("after execute", [⟨"ended", 0⟩])]
    replies := [.failure (.raised "DuplicateKeyError" "duplicate")] }

def inserting : Sending :=
  { command := "insert_one", arguments := [.doc [("a", .int 1)]], keywords := [] }

def refused : Datasource :=
  { refusing with
    replies := []
    events := [.native (.text "Post") "insert_one" [.doc [("a", .int 1)]] []] }

def failing : Behaviour := fun _ _ _ => ([], .error (.raised "ValueError" "broken"))

theorem comesToCall_refusing (behaves : Behaviour) :
    ComesToCall behaves {} plainResolver (.text "Post") inserting refusing (.text "Post")
      (inserting.given (.text "Post") (.text "Post")) refusing where
  exists_found := ⟨refusing, rfl, rfl⟩

theorem outcome_work_refusing :
    outcome (work (.text "Post") (inserting.given (.text "Post") (.text "Post"))) refusing =
      (.error (.raised "DuplicateKeyError" "duplicate"), refused) := rfl

theorem failure_delivered_iff_refusing :
    ComesToCall .idle {} plainResolver (.text "Post") inserting refusing (.text "Post")
        (inserting.given (.text "Post") (.text "Post")) refusing ∧
      outcome (work (.text "Post") (inserting.given (.text "Post") (.text "Post"))) refusing =
        (.error (.raised "DuplicateKeyError" "duplicate"), refused) ∧
      (outcome (sendBy .idle {} plainResolver (.text "Post") inserting) refusing).1 =
        .error (.raised "DuplicateKeyError" "duplicate") := by
  have hcomes := comesToCall_refusing .idle
  obtain ⟨htold, -⟩ := failure_delivered_iff hcomes outcome_work_refusing
  obtain ⟨told, round, hround, -, hdelivered, -⟩ := htold rfl
  refine ⟨hcomes, outcome_work_refusing, hdelivered.mpr ?_⟩
  intro n hn f hf
  -- An idle observer answers.
  obtain ⟨before, later, rfl⟩ := List.append_of_mem hn
  obtain ⟨-, -, hresponse⟩ := hround.each before n later rfl
  rw [hf] at hresponse
  cases congrArg Prod.fst hresponse

/-- An observer that fails after a call keeps the failure of the call from the caller. -/
theorem not_failure_delivered :
    ¬ ∀ (behaves : Behaviour) (settings : Settings) (resolver : Resolver) (model name : Value)
        (sending : Sending) (s reached replied : Datasource) (last : Context) (e : Failure),
      ComesToCall behaves settings resolver model sending s name last reached →
      outcome (work name last) reached = (.error e, replied) →
      (outcome (sendBy behaves settings resolver model sending) s).1 = .error e := by
  intro hdelivers
  have hdelivered := hdelivers failing {} plainResolver (.text "Post") (.text "Post") inserting
    refusing refusing refused _ (.raised "DuplicateKeyError" "duplicate")
    (comesToCall_refusing failing) outcome_work_refusing
  have hreceived :
      (outcome (sendBy failing {} plainResolver (.text "Post") inserting) refusing).1 =
        .error (.raised "ValueError" "broken") := rfl
  have hsame := Failure.raised.inj (Except.error.inj (hreceived.symm.trans hdelivered))
  exact absurd hsame.1 (by decide)

end ModelStore.Dispatcher
