import ModelStore.Proofs.Transaction.Block

/-!
Release of a session that a block opens. Leaving a block ends the session that the transaction
holds of its own, once and whatever fails before. A block that opens a session and then cannot be
entered is never left, so that its session is not ended at all.
-/
namespace ModelStore.Transaction

open Act

def endings (number : Nat) (s : Datasource) : Nat := s.events.countP (Event.calls number .end_)

/-- How often it was or is to be: once more for a session that is still held. -/
def endingsDue (number : Nat) (s : Datasource) : Nat :=
  endings number s + if s.held = some number then 1 else 0

/-- None of the sessions vanishes, and each is ended as often as it is let go of. -/
def Balanced (s after : Datasource) : Prop :=
  s.sessions.length ≤ after.sessions.length ∧
    ∀ number < s.sessions.length, endingsDue number after = endingsDue number s

instance : IsPreorder Datasource Balanced where
  refl _ := ⟨Nat.le_refl _, fun _ _ => rfl⟩
  trans _ _ _ h h' := by
    refine ⟨Nat.le_trans h.1 h'.1, fun number hnumber => ?_⟩
    rw [h'.2 number (Nat.lt_of_lt_of_le hnumber h.1), h.2 number hnumber]

/-- What the body does to the session that is held is accounted for: the session is still held and
was not ended, or it was ended once and let go of. -/
structure Accounts {α : Type} (body : Act α) : Prop where
  sessions : ∀ s : Datasource, s.sessions.length ≤ (outcome body s).2.sessions.length
  endings : ∀ (s : Datasource) (number : Nat), s.held = some number →
    endingsDue number (outcome body s).2 = endings number s + 1

variable {α : Type} {t : Transaction} {body : Act α} {s after : Datasource} {number : Nat}

theorem endings_of_extends (h : s.Extends (fun e => e.calls number .end_ = false) after) :
    endings number after = endings number s := by
  obtain ⟨added, hevents, hadded⟩ := h
  have hnone : added.countP (Event.calls number .end_) = 0 :=
    List.countP_eq_zero.mpr fun e he => by simp [hadded e he]
  rw [endings, endings, hevents, List.countP_append, hnone, Nat.add_zero]

theorem not_end_of_not_isOfEnd (e : Event) (h : e.isOfEnd = false) :
    e.calls number .end_ = false := by
  cases e with
  | session called origin method failure =>
    have hmethod : method ≠ .end_ := by simpa [Event.isOfEnd] using h
    simp [Event.calls, hmethod]
  | _ => rfl

/-- Whatever keeps the session that is held and ends none is balanced. -/
theorem balanced_of_tally (htally : after.tally = s.tally)
    (hextends : s.Extends (fun e => e.isOfEnd = false) after) : Balanced s after := by
  refine ⟨Nat.le_of_eq (Datasource.length_of_tally htally).symm, fun number _ => ?_⟩
  rw [endingsDue, endings_of_extends (hextends.mono not_end_of_not_isOfEnd),
    Datasource.held_of_tally htally]
  rfl

/-- Observers that leave the sessions alone are balanced. -/
theorem LeavesSessions.balanced {act : Act α} (h : LeavesSessions act) : Within Balanced act := by
  intro s
  refine balanced_of_tally (h.holding.tally s) ((h.extends_ s).mono ?_)
  intro e he
  cases e with
  | session | sessionEnded => cases he
  | _ => rfl

theorem balanced_callSession {method : SessionMethod} (hmethod : method ≠ .end_) (number : Nat) :
    Within Balanced (callSession number method) := by
  intro s
  have hcalled : Continues (fun e => e.isOfEnd = false) (callSession number method) :=
    continues_callSession fun _ _ => by simp [Event.isOfEnd, hmethod]
  exact balanced_of_tally (keeps_callSession number method s) (hcalled s).extends_

/-- Resolving a block ends no session of itself. -/
theorem balanced_resolve (hobserving : ∀ observer, Within Balanced (t.observing observer))
    (succeeded : Bool) : Within Balanced (t.resolve succeeded) := by
  have hlog (event name : String) : Within Balanced (log (.observer event name none)) :=
    fun s => balanced_of_tally rfl ⟨[_], rfl, by simp [Event.isOfEnd]⟩
  exact within_resolve (within_close hobserving hlog (balanced_callSession (by decide)))
    (within_close hobserving hlog (balanced_callSession (by decide))) succeeded

theorem endings_begin (t : Transaction) (s : Datasource) (number : Nat) :
    endings number (outcome t.begin_ s).2 = endings number s :=
  endings_of_extends ((extends_begin t s).mono not_end_of_not_isOfEnd)

theorem endings_called (s : Datasource) (called number : Nat) :
    endings number (Transaction.called s called .end_) =
      endings number s + if called = number then 1 else 0 := by
  simp only [endings, Transaction.called, List.countP_append, List.countP_singleton, Event.calls]
  simp

theorem endings_released (s : Datasource) (called number : Nat) :
    endings number (released s called) = endings number (Transaction.called s called .end_) := by
  have hawaited (awaited : Bool) (e : Event) (he : e.calls number .end_ = false) :
      (if awaited then [e] else []).countP (Event.calls number .end_) = 0 := by
    cases awaited <;> simp [he]
  simp only [released, endings, List.countP_append]
  rw [hawaited _ _ rfl, Nat.add_zero]

/-- A transaction ends the session that it holds, if that is its own. -/
theorem endings_end (howns : t.ownsSession = true) (s : Datasource) (number : Nat) :
    endings number (outcome t.end_ s).2 = endingsDue number s := by
  cases hheld : s.held with
  | none =>
    rw [outcome_end_nothing hheld]
    simp [endingsDue, hheld]
  | some held =>
    have hcalled := endings_called s held number
    cases hrefused : (s.session held).plan.failure? .end_ with
    | some f =>
      rw [outcome_end_refused hheld howns hrefused]
      simpa [endingsDue, hheld] using hcalled
    | none =>
      rw [outcome_end_accepted hheld howns hrefused, endings_released]
      simpa [endingsDue, hheld] using hcalled

/-- Whatever fails on leaving a block, the session that is held is ended. -/
theorem endings_leave (hobserving : ∀ observer, Within Balanced (t.observing observer))
    (howns : t.ownsSession = true) (succeeded : Bool) (hnumber : number < s.sessions.length) :
    endings number (outcome (t.leave succeeded) s).2 = endingsDue number s := by
  cases hheld : s.held with
  | none =>
    rw [outcome_leave_nothing hheld]
    simp [endingsDue, hheld]
  | some held =>
    rw [outcome_leave hheld, outcome_andFinally]
    calc endings number (outcome t.end_ (outcome (t.resolve succeeded) s).2).2
        = endingsDue number (outcome (t.resolve succeeded) s).2 := endings_end howns _ _
      _ = endingsDue number s := (balanced_resolve hobserving succeeded s).2 number hnumber

/-- The end of a session that a block opens is called for exactly once if the block is entered,
and never otherwise. -/
theorem endings_of_opened (hobserving : ∀ observer, Within Balanced (t.observing observer))
    (hbody : Accounts body)
    (hopened : s.sessions.length < (outcome t.begin_ s).2.sessions.length) :
    endings s.sessions.length (outcome (t.block body) s).2 =
      endings s.sessions.length s + if (outcome t.begin_ s).1.isOk then 1 else 0 := by
  have hbegin := endings_begin t s s.sessions.length
  rcases tally_begin t s with htally | ⟨-, howns, htally⟩
  · -- Nothing was opened.
    have hsame := Datasource.length_of_tally htally
    omega
  · have hheld : (outcome t.begin_ s).2.held = some s.sessions.length :=
      congrArg Prod.fst htally
    cases hentered : (outcome t.begin_ s).1 with
    | error f =>
      rw [outcome_block_refused hentered, hbegin]
      rfl
    | ok u =>
      have hkept := Nat.lt_of_lt_of_le hopened (hbody.sessions (outcome t.begin_ s).2)
      rw [outcome_block_entered hentered]
      dsimp only
      rw [endings_leave hobserving howns _ hkept, hbody.endings _ _ hheld, hbegin]
      rfl

theorem accounts_bodyOf (r : Result Unit) : Accounts (bodyOf r) := by
  constructor
  · intro s
    have hsame : (outcome (bodyOf r) s).2.sessions = s.sessions := by
      cases hheld : s.held with
      | none => rw [outcome_bodyOf_nothing r hheld]
      | some number => rw [outcome_bodyOf r hheld]
    exact Nat.le_of_eq (congrArg List.length hsame.symm)
  · intro s number hheld
    rw [outcome_bodyOf r hheld]
    simp [endingsDue, endings, hheld, Event.calls]

def connected (reply : Reply) : Datasource :=
  { client := some 1, clients := [.bool false], replies := [reply] }

def ofConnection : Transaction := { source := .connection {} }

theorem balanced_ofConnection (observer : Observer) :
    Within Balanced (ofConnection.observing observer) :=
  (leavesSessions_settle (.ok Value.null)).balanced

def inOrder : Datasource := connected (.value (.doc [("ok", .int 1)]))

theorem endings_of_opened_inOrder :
    (∀ observer, Within Balanced (ofConnection.observing observer)) ∧
    Accounts (bodyOf (.error (.raised "ValueError" "broken"))) ∧
    inOrder.sessions.length < (outcome ofConnection.begin_ inOrder).2.sessions.length ∧
    endings 0 (outcome (ofConnection.block (bodyOf (.error (.raised "ValueError" "broken"))))
      inOrder).2 = 1 :=
  ⟨balanced_ofConnection, accounts_bodyOf _, by decide,
    endings_of_opened (t := ofConnection) (s := inOrder) balanced_ofConnection (accounts_bodyOf _)
      (by decide)⟩

/-- A session that a block opens need not be ended: a deployment that is no replica set leaves it
open. -/
theorem not_ended_of_standalone :
    ¬ ∀ (t : Transaction) (body : Act Unit) (s : Datasource),
      (∀ observer, Within Balanced (t.observing observer)) → Accounts body →
      s.sessions.length < (outcome t.begin_ s).2.sessions.length →
      endings s.sessions.length (outcome (t.block body) s).2 = endings s.sessions.length s + 1 := by
  intro hends
  have hended := hends ofConnection (bodyOf (.ok ()))
    (connected (.failure (.raised "OperationFailure" "no replica set")))
    balanced_ofConnection (accounts_bodyOf _) (by decide)
  have hnone : endings 0 (outcome (ofConnection.block (bodyOf (.ok ())))
      (connected (.failure (.raised "OperationFailure" "no replica set")))).2 = 0 := rfl
  exact absurd (hnone.symm.trans hended) (by decide)

end ModelStore.Transaction
