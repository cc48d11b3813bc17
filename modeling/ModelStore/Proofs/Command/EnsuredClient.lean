import ModelStore.Proofs.Command.InOrder
import ModelStore.Proofs.Connection.Lifecycle

/-!
The client of a command. Every question to the server goes through one client: it is named, or it is
the one that is kept. A command ensures its connection first and names no client afterwards, so it
asks through the client that ensuring hands out, which stays as it is until the command ends.
-/
namespace ModelStore

/-- The client through which the server is asked, if it is. A collection and its database belong to
the client that is kept. -/
def Event.through? (kept : Option Nat) : Event → Option Nat
  | .admin client _ => some client
  | .startSession client => some client
  | .native .. => kept
  | .command .. => kept
  | _ => none

def Event.opensOn? : Event → Option Nat
  | .startSession client => some client
  | _ => none

theorem Event.through?_of_isOfClient {e : Event} (h : e.isOfClient = true) (kept : Option Nat) :
    e.through? kept = none := by
  cases e <;> first | rfl | cases h

theorem Event.opensOn?_of_isOfClient {e : Event} (h : e.isOfClient = true) :
    e.opensOn? = none := by
  cases e <;> first | rfl | cases h

/-- An event that names no client can only go through the one that is kept. -/
theorem Event.eq_of_through? {e : Event} {kept : Option Nat} {client : Nat}
    (hunnamed : e.through? none = none) (h : e.through? kept = some client) :
    kept = some client := by
  cases e with
  | admin | startSession => cases hunnamed
  | native | command => exact h
  | _ => cases h

namespace Datasource

def IsLive (s : Datasource) (client : Nat) : Prop := (s.mark client).truthy = false

/-- Every client is as open as it was. One that comes is open. -/
def KeepsTopologies (s after : Datasource) : Prop :=
  ∀ client, (after.mark client).truthy = (s.mark client).truthy

/-- The client that is kept stays, and every client is as open as it was. -/
structure Steady (s after : Datasource) : Prop where
  client : after.client = s.client
  marks : s.KeepsTopologies after

/-- The record after is that before with events added, of which the clients are these. -/
def Yields (pick : Event → Option Nat) (s after : Datasource) (clients : List Nat) : Prop :=
  ∃ added, after.events = s.events ++ added ∧ added.filterMap pick = clients

variable {s after last : Datasource} {pick : Event → Option Nat} {clients : List Nat} {client : Nat}

theorem Yields.trans {later : List Nat} (h : s.Yields pick after clients)
    (h' : after.Yields pick last later) : s.Yields pick last (clients ++ later) := by
  obtain ⟨added, hafter, rfl⟩ := h
  obtain ⟨added', hlast, rfl⟩ := h'
  exact ⟨added ++ added', by rw [hlast, hafter, List.append_assoc], List.filterMap_append ..⟩

theorem Extends.yields {P : Event → Prop} (h : s.Extends P after)
    (hP : ∀ e, P e → pick e = none) : s.Yields pick after [] := by
  obtain ⟨added, hevents, hadded⟩ := h
  exact ⟨added, hevents, List.filterMap_eq_nil_iff.mpr fun e he => hP e (hadded e he)⟩

theorem Yields.since (h : s.Yields pick after clients) :
    (s.since after).filterMap pick = clients := by
  obtain ⟨added, hevents, rfl⟩ := h
  rw [since_eq hevents]

instance : IsPreorder Datasource KeepsTopologies where
  refl _ _ := rfl
  trans _ _ _ h h' client := (h' client).trans (h client)

instance : IsPreorder Datasource Steady where
  refl _ := ⟨rfl, fun _ => rfl⟩
  trans _ _ _ h h' := ⟨h'.client.trans h.client, fun c => (h'.marks c).trans (h.marks c)⟩

theorem Steady.of_eq (hclient : after.client = s.client) (hclients : after.clients = s.clients) :
    s.Steady after := by
  refine ⟨hclient, ?_⟩
  intro c
  rw [mark, mark, hclients]

theorem Steady.isLive_iff (h : s.Steady after) : after.IsLive client ↔ s.IsLive client := by
  rw [IsLive, IsLive, h.marks]

theorem isLive_appended (s : Datasource) :
    ({ s with clients := s.clients ++ [.bool false] } : Datasource).IsLive
      (s.clients.length + 1) := by
  simp [IsLive, mark, Value.truthy]

theorem steady_append (s : Datasource) :
    s.Steady { s with clients := s.clients ++ [.bool false] } := by
  refine ⟨rfl, ?_⟩
  intro c
  by_cases hknown : c - 1 < s.clients.length
  · rw [mark, mark, List.getElem?_append_left hknown]
  · -- A client that is not there yet counts as open, like the one that comes.
    have hnull : s.mark c = .null := by
      rw [mark, List.getElem?_eq_none (by omega), Option.getD_none]
    by_cases hnew : c - 1 = s.clients.length
    · rw [hnull, mark, hnew]
      simp [Value.truthy]
    · rw [hnull, mark, List.getElem?_eq_none (by simp; omega), Option.getD_none]

theorem allowsClients_topologies : Act.AllowsClients KeepsTopologies where
  log _ _ _ := (Steady.of_eq rfl rfl).marks
  note _ _ := (Steady.of_eq rfl rfl).marks
  constructions _ _ := (Steady.of_eq rfl rfl).marks
  newClient s := (steady_append s).marks
  client _ _ _ := rfl

end Datasource

namespace Dispatcher

open Act Datasource

def answer (d : Dispatcher) (model : Value) (sending : Sending) : Act Value := do
  let name ← d.resolve model
  delivered (around d.observing "execute" (sending.given model name) (work name))

variable {d : Dispatcher} {model : Value} {sending : Sending} {s : Datasource} {client : Nat}

theorem dispatch_eq_answer (d : Dispatcher) (model : Value) (sending : Sending) :
    d.dispatch model sending = (do
      checkKeywords parameterNames sending.keywords
      let _ ← Connection.ensureConnected d.settings
      d.answer model sending) := rfl

section Within

variable {R : Datasource → Datasource → Prop} [IsPreorder Datasource R]
  (hlog : ∀ e : Event, e.isCall = true → Within R (log e))
  (hreplies : ∀ s replies, R s { s with replies })
  (hcursors : ∀ s cursors, R s { s with cursors })
include hlog hreplies hcursors

/-- The work of a command is recorded and answered, and hands out a cursor at most. -/
theorem within_work (name : Value) (c : Context) : Within R (work name c) := by
  unfold work
  split
  · refine (hlog _ rfl).bind fun _ => within_get.bind fun s => ?_
    split
    · exact within_reply hreplies
    · exact within_modify_bind (fun s => hcursors s _) (within_get.bind fun _ => within_pure _)
    · exact within_throw _
  · exact (hlog _ rfl).bind fun _ => within_reply hreplies

theorem within_answer
    (hobserved : ∀ event name seen, Within R (log (.observer event name seen)))
    (hobservers : ∀ (s : Datasource) observers, R s { s with observers }) :
    Within R (d.answer model sending) := by
  have hresolved : Within R (d.resolve model) := within_database.bind fun _ => within_settle _
  refine hresolved.bind fun name => within_around ?_ (within_work hlog hreplies hcursors name)
  exact fun event => within_notifyOf (hobserved event) hobservers

end Within

/-- The client that a command ensured is kept until it ends. -/
theorem steady_answer : Within Steady (d.answer model sending) :=
  within_answer (fun _ _ _ => .of_eq rfl rfl) (fun _ _ => .of_eq rfl rfl)
    (fun _ _ => .of_eq rfl rfl) (fun _ _ _ _ => .of_eq rfl rfl) fun _ _ => .of_eq rfl rfl

/-- A command names no client: it asks through the one that is kept. -/
theorem unnamed_answer :
    Within (Extends fun e => e.through? none = none) (d.answer model sending) := by
  refine within_answer ?_ (fun _ _ => .of_eq rfl) (fun _ _ => .of_eq rfl) ?_ fun _ _ => .of_eq rfl
  · intro e he s
    refine (continues_log ?_ s).extends_
    cases e <;> first | rfl | cases he
  · intro event name seen s
    exact (continues_log (P := fun e => e.through? none = none) rfl s).extends_

/-- A command asks through no client but the one that ensuring its connection hands out, and leaves
the clients as that leaves them. -/
theorem ensured_of_asked {after : Datasource} (sending : Sending)
    (hsent : (outcome (d.dispatch model sending) s).2 = after)
    (hasked : client ∈ (s.since after).filterMap (Event.through? after.client)) :
    ∃ found, outcome (Connection.ensureConnected d.settings) s = (.ok client, found) ∧
      found.Steady after := by
  have hunasked (h : s.Yields (Event.through? after.client) after []) : False := by
    rw [h.since] at hasked
    cases hasked
  rw [dispatch_eq_answer] at hsent
  by_cases hnames : parameterNames.any (Table.contains sending.keywords) = true
  · have hrefused : outcome (checkKeywords parameterNames sending.keywords) s =
        (.error (.misuse .wrongType), s) := by
      rw [checkKeywords, if_pos hnames]
      rfl
    rw [outcome_bind_error _ hrefused] at hsent
    obtain rfl : s = after := hsent
    exact (hunasked ⟨[], by simp, rfl⟩).elim
  · have hchecked : outcome (checkKeywords parameterNames sending.keywords) s = (.ok (), s) := by
      rw [checkKeywords, if_neg hnames]
      rfl
    rw [outcome_bind_ok _ hchecked] at hsent
    have hconnecting : s.Extends (fun e => e.isOfClient = true)
        (outcome (Connection.ensureConnected d.settings) s).2 :=
      (continues_ensureConnected (fun _ he => he) s).extends_
    rcases hensured : outcome (Connection.ensureConnected d.settings) s with ⟨r, found⟩
    rw [hensured] at hconnecting
    cases r with
    | error f =>
      rw [outcome_bind_error _ hensured] at hsent
      obtain rfl : found = after := hsent
      exact (hunasked (hconnecting.yields fun e he => e.through?_of_isOfClient he _)).elim
    | ok ensured =>
      rw [outcome_bind_ok _ hensured] at hsent
      subst hsent
      have hsteady : found.Steady (outcome (d.answer model sending) found).2 := steady_answer found
      have hunnamed : s.Extends (fun e => e.through? none = none)
          (outcome (d.answer model sending) found).2 :=
        (hconnecting.mono fun e he => e.through?_of_isOfClient he _).trans (unnamed_answer found)
      refine ⟨found, ?_, hsteady⟩
      -- What is added to the record goes through the client that is kept, if through any.
      obtain ⟨added, hevents, hadded⟩ := hunnamed
      rw [since_eq hevents] at hasked
      obtain ⟨e, he, hthrough⟩ := List.mem_filterMap.mp hasked
      have hkept := Event.eq_of_through? (hadded e he) hthrough
      rw [hsteady.client, (Connection.ensureConnected_open hensured).1] at hkept
      obtain rfl : ensured = client := Option.some.inj hkept
      rfl

end Dispatcher

end ModelStore
