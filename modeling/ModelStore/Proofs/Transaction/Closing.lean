import ModelStore.Proofs.Datasource.Kept
import ModelStore.Proofs.Observer.Notification
import ModelStore.Transaction

/-!
How transactions begin and end. Beginning and ending add what a session and its client do; closing
is a round of observers, a method of the session unless that is in no transaction, and a second
round. Observers can do anything meanwhile; of those that leave the sessions alone it is known what
closing does.
-/
namespace ModelStore

def Event.isOfBegin : Event → Bool
  | .construct .. => true
  | .close .. => true
  | .admin .. => true
  | .startSession .. => true
  | .session _ _ method _ => method == .start
  | _ => false

def Event.isOfEnd : Event → Bool
  | .session _ _ method _ => method == .end_
  | .sessionEnded .. => true
  | _ => false

def Event.isOfSessions : Event → Bool
  | .session .. => true
  | .sessionEnded .. => true
  | .observer _ _ none => true
  | _ => false

namespace Transaction

open Act

/-- The act leaves the sessions alone: the one that is held stays held, none comes or changes, no
method of one is called, and nobody is notified of a transaction. -/
structure LeavesSessions {α : Type} (act : Act α) : Prop where
  holding : Keeps Datasource.holding act
  extends_ : Within (Datasource.Extends fun e => e.isOfSessions = false) act

/-- The observers of the transaction leave the sessions alone. What else they do, and how they end,
is up to them. -/
def Unmeddled (t : Transaction) : Prop := ∀ observer, LeavesSessions (t.observing observer)

theorem leavesSessions_settle {α : Type} (r : Result α) : LeavesSessions (settle r) :=
  ⟨within_settle r, within_settle r⟩

variable {P : Event → Prop} {t : Transaction}

section Within

variable {R : Datasource → Datasource → Prop} [IsPreorder Datasource R]

theorem within_isActive (number : Nat) : Within R (isActive number) :=
  within_get.bind fun _ => within_pure _

def accept : Result Value → Act Unit
  | .error _ => throw .replicaSetRequired
  | .ok status => do
      if !(← settle (isInOrder status)) then throw .replicaSetRequired

theorem within_accept (status : Result Value) : Within R (accept status) := by
  cases status with
  | error f => exact within_throw _
  | ok answer =>
    refine (within_settle _).bind fun inOrder => ?_
    split
    · exact within_throw _
    · exact within_pure _

theorem checkReplicaSet_eq (t : Transaction) (number : Nat) :
    t.checkReplicaSet number = (do
      match ← t.statusClient number with
      | none => pure ()
      | some client => rescue (admin client "replSetGetStatus") >>= accept) := rfl

/-- The check of the replica set asks the deployment, and does nothing else. -/
theorem within_checkReplicaSet (hadmin : ∀ client command, Within R (admin client command))
    (number : Nat) : Within R (t.checkReplicaSet number) := by
  have hasked : Within R (t.statusClient number) := by
    refine within_get.bind fun s => ?_
    split
    · exact within_pure _
    · exact within_client.map
    · exact within_pure _
  rw [checkReplicaSet_eq]
  refine hasked.bind fun client => ?_
  split
  · exact within_pure _
  · exact (within_rescue (hadmin _ _)).bind within_accept

section Observed

variable (hobserving : ∀ observer, Within R (t.observing observer))
include hobserving

/-- A round is what its observers do, and the record of them. -/
theorem within_notify {event : String}
    (hlog : ∀ name, Within R (log (.observer event name none))) : Within R (t.notify event) := by
  refine Within.bind (Act.within_notify ?_ event ()) fun _ => within_pure _
  exact fun observer _ => (hlog _).bind fun _ => (hobserving observer).bind fun _ => within_pure _

/-- Closing is two rounds, and a method of a session at most. -/
theorem within_close {operation : String} {method : SessionMethod}
    (hlog : ∀ event name, Within R (log (.observer event name none)))
    (hmethod : ∀ number, Within R (callSession number method)) :
    Within R (t.close operation method) := by
  have hactive : Within R (closeActive method) := by
    refine within_get.bind fun s => ?_
    split
    · exact within_pure _
    · refine (within_isActive _).bind fun active => ?_
      split
      · exact hmethod _
      · exact within_pure _
  refine within_get.bind fun s => ?_
  split
  · exact within_pure _
  · refine (within_notify hobserving (hlog _)).bind fun _ => ?_
    exact hactive.bind fun _ => within_notify hobserving (hlog _)

end Observed
end Within

theorem continues_isActive (number : Nat) : Continues P (isActive number) := within_isActive number

section Begin

variable (hP : ∀ e, e.isOfBegin = true → P e)
include hP

theorem continues_acquire : Continues P t.acquire := by
  have hclient (e : Event) (he : e.isOfClient = true) : P e := by
    apply hP
    cases e <;> first | rfl | cases he
  refine continues_get.bind fun s => ?_
  split
  · exact continues_pure _
  · split
    · refine (continues_connect hclient).bind fun client => ?_
      have hopened : Continues P (openSession client) := by
        refine (continues_log (hP _ rfl)).bind fun _ => continues_get.bind fun s' => ?_
        split
        · exact continues_throw _
        · exact continues_get.bind fun _ => continues_newSession (hP _ rfl) _ _
      refine hopened.bind fun number => ?_
      exact continues_modify_bind (fun _ => rfl) (fun _ => rfl) (continues_pure _)
    · exact continues_throw _

theorem continues_checkReplicaSet (number : Nat) : Continues P (t.checkReplicaSet number) :=
  within_checkReplicaSet (fun _ _ => continues_admin (hP _ rfl)) number

theorem continues_begin : Continues P t.begin_ := by
  refine (continues_acquire hP).bind fun number => ?_
  split
  · refine (continues_checkReplicaSet hP number).bind fun _ => ?_
    refine (continues_isActive number).bind fun active => ?_
    split
    · exact continues_callSession fun _ _ => hP _ rfl
    · exact continues_pure _
  · exact continues_pure _

end Begin

theorem continues_end (hP : ∀ e, e.isOfEnd = true → P e) : Continues P t.end_ := by
  refine continues_get.bind fun s => ?_
  split
  · exact continues_pure _
  · split
    · refine (continues_callSession fun _ _ => hP _ rfl).bind fun _ => ?_
      refine continues_get.bind fun s' => ?_
      dsimp only
      split
      · refine (continues_log (hP _ rfl)).bind fun _ => ?_
        exact continues_modify (fun _ => rfl) (fun _ => rfl)
      · exact continues_modify (fun _ => rfl) (fun _ => rfl)
    · exact continues_pure _

section Rounds

variable (ht : t.Unmeddled)
include ht

theorem keeps_notify (event : String) : Keeps Datasource.holding (t.notify event) :=
  within_notify (fun observer => (ht observer).holding) fun _ _ => rfl

/-- Of sessions and transactions nothing is recorded in a round but that its observers are
notified. -/
theorem extends_notify (event : String) :
    Within (Datasource.Extends fun e =>
      e.isOfSessions = true → ∃ name, e = .observer event name none) (t.notify event) := by
  refine within_notify (fun observer s => ((ht observer).extends_ s).mono ?_) fun name s => ?_
  · intro e he hof
    rw [he] at hof
    cases hof
  · exact (continues_log (P := fun e =>
      e.isOfSessions = true → ∃ name, e = .observer event name none) (fun _ => ⟨name, rfl⟩) s).extends_

theorem keeps_close (operation : String) (method : SessionMethod) :
    Keeps Datasource.tally (t.close operation method) :=
  within_close (fun observer => (ht observer).holding.tally) (fun _ _ _ => rfl)
    fun number => keeps_callSession number method

/-- Closing calls no method but one. -/
theorem extends_close (operation : String) (method : SessionMethod) :
    Within (Datasource.Extends fun e => e.isOfSessions = true →
      (∃ event name, e = .observer event name none) ∨
        ∃ number origin failure, e = .session number origin method failure)
      (t.close operation method) := by
  refine within_close (fun observer s => ((ht observer).extends_ s).mono ?_) ?_ ?_
  · intro e he hof
    rw [he] at hof
    cases hof
  · intro event name s
    refine ⟨[_], rfl, fun e he _ => .inl ⟨event, name, List.mem_singleton.mp he⟩⟩
  · intro number s
    have hcalled : Continues (fun e => e.isOfSessions = true →
        (∃ event name, e = .observer event name none) ∨
          ∃ number origin failure, e = .session number origin method failure)
        (callSession number method) :=
      continues_callSession fun origin failure _ => .inr ⟨number, origin, failure, rfl⟩
    exact (hcalled s).extends_

end Rounds

theorem outcome_session (s : Datasource) :
    outcome session s = (s.held.elim (.error .sessionMissing) .ok, s) := by
  rw [session, outcome_bind_ok _ (outcome_get s)]
  cases s.held <;> rfl

section Close

variable {s : Datasource} {number : Nat} {operation : String} {method : SessionMethod}

/-- The datasource after a method of a session was called: the session changes if it accepts. -/
def called (s : Datasource) (number : Nat) (method : SessionMethod) : Datasource :=
  let session := s.session number
  let failure := session.plan.failure? method
  { s with
    events := s.events ++ [.session number session.origin method failure]
    sessions :=
      if failure.isSome then s.sessions
      else s.sessions.set number { session with inTransaction := .bool method.leavesOpen } }

theorem outcome_callSession_refused {f : Failure}
    (h : (s.session number).plan.failure? method = some f) :
    outcome (callSession number method) s = (.error f, called s number method) := by
  refine (outcome_bind_ok _ (outcome_get s)).trans ?_
  refine (outcome_bind_ok _ (outcome_log _ s)).trans ?_
  simp only [called, h]
  rfl

theorem outcome_callSession_accepted (h : (s.session number).plan.failure? method = none) :
    outcome (callSession number method) s = (.ok (), called s number method) := by
  refine (outcome_bind_ok _ (outcome_get s)).trans ?_
  refine (outcome_bind_ok _ (outcome_log _ s)).trans ?_
  simp only [called, h]
  rfl

theorem outcome_isActive {active : Bool}
    (h : (s.session number).transactionState.truthy = active) :
    outcome (isActive number) s = (.ok active, s) := by
  rw [isActive, outcome_bind_ok _ (outcome_get s), h]
  rfl

/-- A session that accepted a method that ends a transaction is in none. -/
theorem inactive_called (haccepted : (s.session number).plan.failure? method = none)
    (hmethod : method.leavesOpen = false) :
    ((called s number method).session number).transactionState.truthy = false := by
  by_cases hnumber : number < s.sessions.length
  · have hsession : (called s number method).session number =
        { s.session number with inTransaction := .bool false } := by
      simp only [called, haccepted, hmethod, Option.isSome_none, Bool.false_eq_true, if_false]
      rw [Datasource.session, List.getElem?_set_self hnumber, Option.getD_some]
    rw [hsession, Session.transactionState]
    split <;> rfl
  · -- A session that there is not counts as inactive.
    have hlength : (called s number method).sessions.length = s.sessions.length := by
      simp [called, haccepted]
    rw [Datasource.session, List.getElem?_eq_none (by omega), Option.getD_none]
    rfl

end Close
end Transaction
end ModelStore
