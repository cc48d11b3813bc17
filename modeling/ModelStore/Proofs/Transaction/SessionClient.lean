import ModelStore.Proofs.Command.EnsuredClient
import ModelStore.Proofs.Transaction.Beginning

/-!
The client of a session. Beginning a transaction opens a session on the client that was found, and
asks the deployment of that client, or of a new one that the session has.
-/
namespace ModelStore

namespace Transaction

open Act Datasource

variable {t : Transaction} {s : Datasource} {settings : Settings} {number client : Nat}

theorem steady_admin (client : Nat) (command : String) : Within Steady (admin client command) :=
  within_admin (fun _ => .of_eq rfl rfl) fun _ _ => .of_eq rfl rfl

theorem steady_open (client : Nat) : Within Steady (open_ client) := by
  have hopened : Within Steady (openSession client) := by
    refine Within.bind (fun _ => .of_eq rfl rfl) fun _ => within_get.bind fun s => ?_
    split
    · exact within_throw _
    · refine within_get.bind fun s' => ?_
      exact within_newSession steady_append (fun _ => .of_eq rfl rfl)
        (fun _ _ => .of_eq rfl rfl) _ _
  refine hopened.bind fun number => ?_
  exact within_modify_bind (fun _ => .of_eq rfl rfl) (within_pure _)

theorem steady_starting (number : Nat) : Within Steady (t.starting number) :=
  within_starting steady_admin <|
    within_callSession (fun _ _ _ => .of_eq rfl rfl) fun _ _ => .of_eq rfl rfl

/-- A new session that has a client of its own brings that client with it. -/
theorem newSession_cases (origin : SessionOrigin) (plan : SessionPlan) (s : Datasource) :
    ∃ after own added, outcome (newSession origin plan) s = (.ok s.sessions.length, after) ∧
      after.sessions = s.sessions ++ [⟨origin, plan, plan.inTransaction, own⟩] ∧
      after.events = s.events ++ added ∧ (∀ e ∈ added, e.isOfClient = true) ∧
      ∀ client, own = some client → after.IsLive client := by
  unfold newSession
  dsimp only
  split
  · refine ⟨_, _, [.construct [] []], rfl, rfl, rfl, by simp [Event.isOfClient], ?_⟩
    intro client hown
    obtain rfl : (s.clients ++ [Value.bool false]).length = client := Option.some.inj hown
    rw [List.length_append]
    exact isLive_appended s
  · refine ⟨_, none, [], rfl, rfl, (List.append_nil _).symm, by simp, ?_⟩
    intro client hown
    cases hown

/-- A session is opened on one client, and a client that it has of its own is open. -/
theorem open_cases (client : Nat) (s : Datasource) :
    ∃ added, (outcome (open_ client) s).2.events = s.events ++ .startSession client :: added ∧
      (∀ e ∈ added, e.isOfClient = true) ∧
      ∀ number own, (outcome (open_ client) s).1 = .ok number →
        ((outcome (open_ client) s).2.session number).client = some own →
          (outcome (open_ client) s).2.IsLive own := by
  cases hrefusal : s.sessionRefusal with
  | some f =>
    rw [open_, outcome_bind_error _ (outcome_openSession_refused client hrefusal)]
    refine ⟨[], rfl, by simp, ?_⟩
    intro number own hopened
    cases hopened
  | none =>
    obtain ⟨after, own, added, hnew, hsessions, hevents, hadded, hown⟩ :=
      newSession_cases .opened s.sessionPlan
        { s with events := s.events ++ [.startSession client] }
    have hopened : outcome (open_ client) s =
        (.ok s.sessions.length, { after with held := some s.sessions.length }) :=
      outcome_bind_ok _ ((outcome_openSession_accepted client hrefusal).trans hnew)
    rw [hopened]
    refine ⟨added, by simpa using hevents, hadded, ?_⟩
    intro number own' hnumber hclient
    obtain rfl : s.sessions.length = number := Except.ok.inj hnumber
    apply hown
    rw [← hclient]
    simp [Datasource.session, hsessions]

variable {kept : Option Nat}

theorem asks_admin (client : Nat) (command : String) (s : Datasource) :
    s.Yields (Event.through? kept) (outcome (admin client command) s).2 [client] := by
  have hreplied : Keeps Datasource.events reply := within_reply fun _ _ => rfl
  have hlogged : (outcome (admin client command) s).2.events =
      s.events ++ [.admin client command] :=
    within_rest (x := log (.admin client command)) (fun _ => hreplied) s
  exact ⟨[.admin client command], hlogged, rfl⟩

theorem outcome_statusClient (hsource : t.source = .connection settings) (number : Nat)
    (s : Datasource) :
    outcome (t.statusClient number) s =
      (((s.session number).client.or s.client).elim (.error .notConnected) (.ok ∘ some), s) := by
  rw [statusClient, outcome_bind_ok _ (outcome_get s), hsource]
  cases (s.session number).client with
  | some own => rfl
  | none =>
    have hclient : outcome Connection.client s =
        (s.client.elim (.error .notConnected) .ok, s) := by
      rw [Connection.client, outcome_bind_ok _ (outcome_get s)]
      cases s.client <;> rfl
    rw [Option.none_or]
    show outcome (some <$> Connection.client) s = _
    rw [map_eq_pure_bind, outcome_bind, hclient]
    cases s.client <;> rfl

/-- The deployment of the session's own client is asked, or else that of the client that is
kept. -/
theorem asks_checkReplicaSet (hsource : t.source = .connection settings) (number : Nat)
    (s : Datasource) :
    s.Yields (Event.through? kept) (outcome (t.checkReplicaSet number) s).2
      ((s.session number).client.or s.client).toList := by
  have hstatus := outcome_statusClient hsource number s
  rw [checkReplicaSet]
  cases htarget : (s.session number).client.or s.client with
  | none =>
    rw [htarget] at hstatus
    rw [outcome_bind_error _ hstatus]
    exact ⟨[], (List.append_nil _).symm, rfl⟩
  | some target =>
    rw [htarget] at hstatus
    rw [outcome_bind_ok _ hstatus]
    -- Whatever the deployment answers, it is not asked again.
    have hrest : Extends (fun _ => False) (outcome (rescue (admin target "replSetGetStatus")) s).2
        (outcome (rescue (admin target "replSetGetStatus") >>= accept) s).2 :=
      within_rest within_accept s
    rw [outcome_rescue] at hrest
    exact (asks_admin target "replSetGetStatus" s).trans (hrest.yields fun _ h => h.elim)

/-- What is left of the check once it is over: the start of the transaction is the session's. -/
theorem asks_starting (hsource : t.source = .connection settings) (kept : Option Nat) (number : Nat)
    (s : Datasource) :
    s.Yields (Event.through? kept) (outcome (t.starting number) s).2
      (if t.replicaSetRequired then ((s.session number).client.or s.client).toList else []) := by
  rw [starting]
  by_cases hrequired : t.replicaSetRequired = true
  · rw [if_pos hrequired, if_pos hrequired]
    have hrest : Within (Extends fun e => e.through? kept = none) (do
        if !(← isActive number) then callSession number .start) :=
      within_started fun s => (continues_callSession (fun _ _ => rfl) s).extends_
    have hlater : (outcome (t.checkReplicaSet number) s).2.Yields (Event.through? kept) _ [] :=
      (within_rest (fun _ => hrest) s).yields fun _ he => he
    simpa using (asks_checkReplicaSet hsource number s).trans hlater
  · rw [if_neg hrequired, if_neg hrequired]
    exact ⟨[], (List.append_nil _).symm, rfl⟩

theorem opensOn_starting (number : Nat) (s : Datasource) :
    s.Yields Event.opensOn? (outcome (t.starting number) s).2 [] := by
  have hadmin (client : Nat) (command : String) :
      Within (Extends fun e => e.opensOn? = none) (admin client command) :=
    fun s => (continues_admin (P := fun e => e.opensOn? = none) rfl s).extends_
  have hwithin : Within (Extends fun e => e.opensOn? = none) (t.starting number) :=
    within_starting hadmin fun s => (continues_callSession (fun _ _ => rfl) s).extends_
  exact (hwithin s).yields fun _ he => he

/-- What beginning does once a client is found. The session is opened on that client; the deployment
that is asked afterwards is that of the same client, or of a new one that the session has. -/
theorem begins_on {found : Datasource} (hsource : t.source = .connection settings)
    (hclient : found.client = some client) (kept : Option Nat) :
    let after := (outcome (open_ client >>= t.starting) found).2
    found.Steady after ∧ found.Yields Event.opensOn? after [client] ∧
      ∃ later, found.Yields (Event.through? kept) after (client :: later) ∧
        ∀ c ∈ later, c = client ∨ after.IsLive c := by
  intro after
  obtain ⟨added, hevents, hadded, hown⟩ := open_cases client found
  have hsteady : found.Steady (outcome (open_ client) found).2 := steady_open client found
  have hopens : found.Yields Event.opensOn? (outcome (open_ client) found).2 [client] := by
    refine ⟨_, hevents, ?_⟩
    have hnone : added.filterMap Event.opensOn? = [] :=
      List.filterMap_eq_nil_iff.mpr fun e he => e.opensOn?_of_isOfClient (hadded e he)
    rw [List.filterMap_cons, hnone]
    rfl
  have hasks : found.Yields (Event.through? kept) (outcome (open_ client) found).2 [client] := by
    refine ⟨_, hevents, ?_⟩
    have hnone : added.filterMap (Event.through? kept) = [] :=
      List.filterMap_eq_nil_iff.mpr fun e he => e.through?_of_isOfClient (hadded e he) kept
    rw [List.filterMap_cons, hnone]
    rfl
  rcases hopen : outcome (open_ client) found with ⟨r, opened⟩
  rw [hopen] at hsteady hopens hasks hown
  cases r with
  | error f =>
    have hafter : after = opened := congrArg Prod.snd (outcome_bind_error t.starting hopen)
    rw [hafter]
    exact ⟨hsteady, hopens, [], hasks, by simp⟩
  | ok number =>
    have hafter : after = (outcome (t.starting number) opened).2 :=
      congrArg Prod.snd (outcome_bind_ok t.starting hopen)
    have hrest : opened.Steady after := hafter ▸ steady_starting number opened
    have hlater := asks_starting hsource kept number opened
    rw [← hafter] at hlater
    refine ⟨trans_of Steady hsteady hrest, ?_, _, hasks.trans hlater, ?_⟩
    · rw [hafter]
      exact hopens.trans (opensOn_starting number opened)
    · intro c hc
      have htarget : (opened.session number).client.or opened.client = some c := by
        split at hc
        · exact Option.mem_toList.mp hc
        · cases hc
      cases hsession : (opened.session number).client with
      | none =>
        rw [hsession, Option.none_or, hsteady.client, hclient] at htarget
        exact .inl (Option.some.inj htarget).symm
      | some own =>
        rw [hsession, Option.some_or] at htarget
        obtain rfl := Option.some.inj htarget
        exact .inr (hrest.isLive_iff.mpr (hown number own rfl hsession))

end Transaction

end ModelStore
