import ModelStore.Proofs.Datasource.Kept
import ModelStore.Proofs.Transaction.Closing

/-!
What a transaction holds once it has begun. It keeps the session that it holds, or opens one that
comes after all others; whatever fails after that leaves the session held. A transaction that has
begun with a replica set has its session in a transaction.
-/
namespace ModelStore.Transaction

open Act

variable {t : Transaction} {s : Datasource} {number : Nat}

/-- A new session comes after the sessions there are. -/
theorem exists_newSession (origin : SessionOrigin) (plan : SessionPlan) (s : Datasource) :
    (outcome (newSession origin plan) s).1 = .ok s.sessions.length ∧
      ∃ x, (outcome (newSession origin plan) s).2.holding = (s.held, s.sessions ++ [x]) := by
  unfold newSession
  dsimp only
  split
  · exact ⟨rfl, _, rfl⟩
  · exact ⟨rfl, _, rfl⟩

/-- How a session is acquired: it is the one that is held, or a new one of the transaction's own. -/
inductive Acquired (t : Transaction) (s after : Datasource) : Result Nat → Prop where
  | held {number : Nat} (hheld : s.held = some number) (hafter : after.holding = s.holding) :
      Acquired t s after (.ok number)
  | failed {f : Failure} (hheld : s.held = none) (hafter : after.holding = s.holding) :
      Acquired t s after (.error f)
  | opened {x : Session} (hheld : s.held = none) (howns : t.ownsSession = true)
      (hafter : after.holding = (some s.sessions.length, s.sessions ++ [x])) :
      Acquired t s after (.ok s.sessions.length)

def open_ (client : Nat) : Act Nat := do
  let number ← openSession client
  modify fun s => { s with held := some number }
  pure number

theorem outcome_openSession_refused {f : Failure} (client : Nat)
    (hrefusal : s.sessionRefusal = some f) :
    outcome (openSession client) s =
      (.error f, { s with events := s.events ++ [.startSession client] }) := by
  refine (outcome_bind_ok _ (outcome_log _ s)).trans ?_
  refine (outcome_bind_ok _ (outcome_get _)).trans ?_
  simp only [hrefusal]
  rfl

theorem outcome_openSession_accepted (client : Nat) (hrefusal : s.sessionRefusal = none) :
    outcome (openSession client) s =
      outcome (newSession .opened s.sessionPlan)
        { s with events := s.events ++ [.startSession client] } := by
  refine (outcome_bind_ok _ (outcome_log _ s)).trans ?_
  refine (outcome_bind_ok _ (outcome_get _)).trans ?_
  simp only [hrefusal]
  rfl

theorem outcome_open_refused {f : Failure} (client : Nat) (hrefusal : s.sessionRefusal = some f) :
    (outcome (open_ client) s).1 = .error f ∧ (outcome (open_ client) s).2.holding = s.holding := by
  rw [open_, outcome_bind_error _ (outcome_openSession_refused client hrefusal)]
  exact ⟨rfl, rfl⟩

theorem outcome_open_accepted (client : Nat) (hrefusal : s.sessionRefusal = none) :
    (outcome (open_ client) s).1 = .ok s.sessions.length ∧
      ∃ x, (outcome (open_ client) s).2.holding =
        (some s.sessions.length, s.sessions ++ [x]) := by
  obtain ⟨hnumber, x, hx⟩ := exists_newSession .opened s.sessionPlan
    { s with events := s.events ++ [.startSession client] }
  rw [← outcome_openSession_accepted client hrefusal] at hnumber hx
  rcases hafter : outcome (openSession client) s with ⟨r, after⟩
  rw [hafter] at hnumber hx
  obtain rfl : r = .ok s.sessions.length := hnumber
  rw [open_, outcome_bind_ok _ hafter]
  exact ⟨rfl, x, congrArg (fun held => (some s.sessions.length, held.2)) hx⟩

theorem acquired (t : Transaction) (s : Datasource) :
    Acquired t s (outcome t.acquire s).2 (outcome t.acquire s).1 := by
  cases hheld : s.held with
  | some number =>
    rw [acquire, outcome_bind_ok _ (outcome_get s), hheld]
    exact .held hheld rfl
  | none =>
    cases hsource : t.source with
    | given | nowhere =>
      rw [acquire, outcome_bind_ok _ (outcome_get s), hheld, hsource]
      exact .failed hheld rfl
    | connection settings =>
      have howns : t.ownsSession = true := by rw [ownsSession, hsource]
      have hacquire : outcome t.acquire s = outcome (Connection.connect settings >>= open_) s := by
        rw [acquire, outcome_bind_ok _ (outcome_get s), hheld, hsource]
        rfl
      have hkeeps : Keeps Datasource.holding (Connection.connect settings) :=
        within_connect allowsClients_holding
      have hconnected : (outcome (Connection.connect settings) s).2.holding = s.holding := hkeeps s
      rw [hacquire]
      rcases hconnect : outcome (Connection.connect settings) s with ⟨r, after⟩
      rw [hconnect] at hconnected
      cases r with
      | error f =>
        rw [outcome_bind_error _ hconnect]
        exact .failed hheld hconnected
      | ok client =>
        rw [outcome_bind_ok _ hconnect]
        have hsessions : after.sessions = s.sessions := congrArg Prod.snd hconnected
        cases hrefusal : after.sessionRefusal with
        | some f =>
          obtain ⟨hresult, hafter⟩ := outcome_open_refused client hrefusal
          rw [hresult]
          exact .failed hheld (hafter.trans hconnected)
        | none =>
          obtain ⟨hresult, x, hafter⟩ := outcome_open_accepted client hrefusal
          rw [hsessions] at hresult hafter
          rw [hresult]
          exact .opened hheld howns hafter

theorem held_of_acquired {after : Datasource} (h : Acquired t s after (.ok number)) :
    after.held = some number := by
  cases h with
  | held hheld hafter => exact (congrArg Prod.fst hafter).trans hheld
  | opened _ _ hafter => exact congrArg Prod.fst hafter

def starting (t : Transaction) (number : Nat) : Act Unit := do
  if t.replicaSetRequired then
    t.checkReplicaSet number
    if !(← isActive number) then callSession number .start

theorem keeps_checkReplicaSet (number : Nat) :
    Keeps Datasource.holding (t.checkReplicaSet number) :=
  within_checkReplicaSet keeps_admin number

section Within

variable {R : Datasource → Datasource → Prop} [IsPreorder Datasource R]

/-- What beginning does once the replica set is checked. -/
theorem within_started (hstart : Within R (callSession number .start)) :
    Within R (do if !(← isActive number) then callSession number .start) := by
  refine (within_isActive number).bind fun active => ?_
  split
  · exact hstart
  · exact within_pure _

theorem within_starting (hadmin : ∀ client command, Within R (admin client command))
    (hstart : Within R (callSession number .start)) : Within R (t.starting number) := by
  unfold starting
  split
  · exact (within_checkReplicaSet hadmin number).bind fun _ => within_started hstart
  · exact within_pure _

end Within

theorem keeps_starting (number : Nat) : Keeps Datasource.tally (t.starting number) :=
  within_starting (fun client command => (keeps_admin client command).tally)
    (keeps_callSession number .start)

/-- Beginning leaves the session that is held, or none, or holds a new one of its own. -/
theorem tally_begin (t : Transaction) (s : Datasource) :
    (outcome t.begin_ s).2.tally = s.tally ∨
      (s.held = none ∧ t.ownsSession = true ∧
        (outcome t.begin_ s).2.tally = (some s.sessions.length, s.sessions.length + 1)) := by
  have hbegin : outcome t.begin_ s = outcome (t.acquire >>= t.starting) s := rfl
  have hacquired := acquired t s
  rw [hbegin]
  rcases hacquire : outcome t.acquire s with ⟨r, after⟩
  rw [hacquire] at hacquired
  have hkept (hafter : after.holding = s.holding) : after.tally = s.tally :=
    congrArg (fun held => (held.1, held.2.length)) hafter
  cases hacquired with
  | failed _ hafter =>
    rw [outcome_bind_error _ hacquire]
    exact .inl (hkept hafter)
  | held _ hafter =>
    rw [outcome_bind_ok _ hacquire]
    exact .inl ((keeps_starting _ after).trans (hkept hafter))
  | opened hheld howns hafter =>
    rw [outcome_bind_ok _ hacquire]
    refine .inr ⟨hheld, howns, (keeps_starting _ after).trans ?_⟩
    refine (congrArg (fun held => (held.1, held.2.length)) hafter).trans ?_
    simp

def HoldsKnown (s : Datasource) : Prop :=
  ∀ number, s.held = some number → number < s.sessions.length

theorem HoldsKnown.begin (hknown : HoldsKnown s) : HoldsKnown (outcome t.begin_ s).2 := by
  intro number hheld
  rcases tally_begin t s with htally | ⟨-, -, htally⟩
  · rw [Datasource.length_of_tally htally]
    exact hknown number (Datasource.held_of_tally htally ▸ hheld)
  · have hnumber : (outcome t.begin_ s).2.held = some s.sessions.length :=
      congrArg Prod.fst htally
    have hlength : (outcome t.begin_ s).2.sessions.length = s.sessions.length + 1 :=
      congrArg Prod.snd htally
    obtain rfl : s.sessions.length = number := Option.some.inj (hnumber.symm.trans hheld)
    omega

/-- A session that accepts the start of a transaction is in one. -/
theorem active_called_start (hnumber : number < s.sessions.length)
    (haccepted : (s.session number).plan.failure? .start = none) :
    ((called s number .start).session number).transactionState.truthy = true := by
  have hsession : (called s number .start).session number =
      { s.session number with inTransaction := .bool true } := by
    simp only [called, haccepted, Option.isSome_none, Bool.false_eq_true, if_false]
    rw [Datasource.session, List.getElem?_set_self hnumber, Option.getD_some]
    rfl
  rw [hsession, Session.transactionState]
  split <;> rfl

theorem active_starting (hrequired : t.replicaSetRequired = true)
    (hnumber : number < s.sessions.length) (hstarted : (outcome (t.starting number) s).1 = .ok ()) :
    ((outcome (t.starting number) s).2.session number).transactionState.truthy = true := by
  have hstarting : outcome (t.starting number) s = outcome (do
      t.checkReplicaSet number
      if !(← isActive number) then callSession number .start) s := by
    rw [starting, if_pos hrequired]
  rw [hstarting] at hstarted ⊢
  obtain ⟨u, -, hchecked⟩ := exists_of_bind_ok hstarted
  rw [hchecked] at hstarted ⊢
  have hkept := keeps_checkReplicaSet (t := t) number s
  generalize (outcome (t.checkReplicaSet number) s).2 = after at hkept hstarted ⊢
  have hlength : number < after.sessions.length := by
    rw [show after.sessions = s.sessions from congrArg Prod.snd hkept]
    exact hnumber
  cases hactive : (after.session number).transactionState.truthy with
  | true =>
    rw [outcome_bind_ok _ (outcome_isActive hactive)]
    exact hactive
  | false =>
    rw [outcome_bind_ok _ (outcome_isActive hactive)] at hstarted ⊢
    rw [if_pos (by rfl)] at hstarted ⊢
    cases haccepted : (after.session number).plan.failure? .start with
    | none =>
      rw [outcome_callSession_accepted haccepted]
      exact active_called_start hlength haccepted
    | some f =>
      rw [outcome_callSession_refused haccepted] at hstarted
      cases hstarted

/-- A transaction that has begun with a replica set has its session in a transaction. -/
theorem active_begin (hrequired : t.replicaSetRequired = true) (hknown : HoldsKnown s)
    (hbegun : (outcome t.begin_ s).1 = .ok ()) (hheld : (outcome t.begin_ s).2.held = some number) :
    ((outcome t.begin_ s).2.session number).transactionState.truthy = true := by
  have hbegin : outcome t.begin_ s = outcome (t.acquire >>= t.starting) s := rfl
  have hlength := hknown.begin (t := t) number hheld
  rw [hbegin] at hbegun hheld hlength ⊢
  obtain ⟨number', hacquire, hstarted⟩ := exists_of_bind_ok hbegun
  rw [hstarted] at hbegun hheld hlength ⊢
  have hkept := keeps_starting (t := t) number' (outcome t.acquire s).2
  rw [Datasource.held_of_tally hkept] at hheld
  rw [Datasource.length_of_tally hkept] at hlength
  have hacquired : (outcome t.acquire s).2.held = some number' :=
    held_of_acquired (hacquire ▸ acquired t s)
  obtain rfl : number' = number := Option.some.inj (hacquired.symm.trans hheld)
  exact active_starting hrequired hlength hbegun

end ModelStore.Transaction
