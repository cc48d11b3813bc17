import ModelStore.Connection
import ModelStore.Proofs.Datasource.Continued

/-!
What a connection adds to the record. Clients are constructed and closed on the way to a
connection, but the database itself is not called and nobody is notified.
-/
namespace ModelStore

def Event.isOfClient : Event → Bool
  | .construct .. => true
  | .close .. => true
  | _ => false

namespace Act

variable {P : Event → Prop} {settings : Settings}

/-- Relations that a client may come and go in: its construction is recorded, and nothing but the
clients and what is noted of them changes. -/
structure AllowsClients (R : Datasource → Datasource → Prop) : Prop where
  log : ∀ e : Event, e.isOfClient = true → Within R (log e)
  note : ∀ n : Notice, Within R (note n)
  constructions : ∀ s constructions, R s { s with constructions }
  newClient : ∀ s : Datasource, R s { s with clients := s.clients ++ [.bool false] }
  client : ∀ s client, R s { s with client }

section Outcome

variable {s : Datasource} {client : Nat}

theorem outcome_isStale_kept (h : s.client = some client) :
    outcome Connection.isStale s = (.ok (s.mark client).truthy, s) := by
  rw [Connection.isStale, outcome_bind_ok _ (outcome_get s), h]
  rfl

theorem outcome_isStale_nothing (h : s.client = none) :
    outcome Connection.isStale s = (.ok false, s) := by
  rw [Connection.isStale, outcome_bind_ok _ (outcome_get s), h]
  rfl

theorem outcome_connect_kept (h : s.client = some client) :
    outcome (Connection.connect settings) s = (.ok client, s) := by
  rw [Connection.connect, outcome_bind_ok _ (outcome_get s), h]
  rfl

theorem outcome_connect_nothing (h : s.client = none) :
    outcome (Connection.connect settings) s = outcome (Connection.construct settings) s := by
  rw [Connection.connect, outcome_bind_ok _ (outcome_get s), h]

/-- A connection that is not stale is ensured as it is. -/
theorem outcome_ensureConnected_fresh (h : outcome Connection.isStale s = (.ok false, s)) :
    outcome (Connection.ensureConnected settings) s =
      outcome (Connection.connect settings) s := by
  rw [Connection.ensureConnected, outcome_bind_ok _ h]
  rfl

end Outcome

section Within

variable {R : Datasource → Datasource → Prop} [IsPreorder Datasource R]

theorem within_client : Within R Connection.client := by
  refine within_get.bind fun s => ?_
  split
  · exact within_pure _
  · exact within_throw _

theorem within_isStale : Within R Connection.isStale := by
  refine within_get.bind fun s => ?_
  split <;> exact within_pure _

theorem within_database : Within R (Connection.database settings) := by
  unfold Connection.database
  split
  · exact within_client.bind fun _ => within_pure _
  · refine within_get.bind fun s => within_get.bind fun s' => ?_
    split
    · exact within_pure _
    · exact within_throw _

def judge : Result Value → Act Unit
  | .ok _ => pure ()
  | .error f => throw (.unreachable f)

theorem within_judge (answer : Result Value) : Within R (judge answer) := by
  cases answer with
  | ok v => exact within_pure _
  | error f => exact within_throw _

/-- What a ping does after it connected. -/
theorem within_ping_rest (settings : Settings) (hadmin : ∀ client, Within R (admin client "ping"))
    (s : Datasource) :
    R (outcome (Connection.connect settings) s).2 (outcome (Connection.ping settings) s).2 :=
  within_rest (fun client => (within_rescue (hadmin client)).bind within_judge) s

variable (hR : AllowsClients R)
include hR

theorem within_disconnect : Within R Connection.disconnect := by
  refine within_get.bind fun s => ?_
  split
  · exact (hR.log _ rfl).bind fun _ => within_modify fun s' => hR.client s' _
  · exact within_pure _

theorem within_construct : Within R (Connection.construct settings) := by
  have hfailed {α : Type} (cause : Failure) :
      Within R (Connection.failConstruction settings cause : Act α) := by
    unfold Connection.failConstruction
    split
    · exact (hR.note _).bind fun _ => within_throw _
    · exact within_throw _
  have hfate : Within R Connection.nextConstruction :=
    within_get.bind fun _ => within_modify_bind (fun s => hR.constructions s _) (within_pure _)
  refine within_get.bind fun s => ?_
  dsimp only
  -- After a refusal nothing of the rest is done.
  split
  · exact fun s' => refl_of R s'
  · refine within_get.bind fun s => ?_
    split
    · exact fun s' => hR.note _ s'
    · refine (hR.log _ rfl).bind fun _ => hfate.bind fun fate => ?_
      cases fate with
      | some f => exact hfailed f
      | none =>
        refine (within_newClient hR.newClient).bind fun client => ?_
        exact within_modify_bind (fun s => hR.client s _) (within_pure _)

theorem within_connect : Within R (Connection.connect settings) := by
  refine within_get.bind fun s => ?_
  split
  · exact within_pure _
  · exact within_construct hR

theorem within_ensureConnected : Within R (Connection.ensureConnected settings) := by
  refine within_isStale.bind fun isStale => ?_
  dsimp only
  split
  · refine (hR.note _).bind fun _ => (within_disconnect hR).bind fun _ => ?_
    exact within_connect hR
  · exact within_connect hR

end Within

theorem continues_database : Continues P (Connection.database settings) := within_database

theorem adds_database : Adds P (Connection.database settings) fun _ => True :=
  continues_database.adds

section Clients

variable (hP : ∀ e, e.isOfClient = true → P e)
include hP

theorem allowsClients_continues : AllowsClients (Datasource.Continues P) where
  log e he := continues_log (hP e he)
  note n := continues_note n
  constructions _ _ := .of_eq rfl rfl
  newClient _ := .of_eq rfl rfl
  client _ _ := .of_eq rfl rfl

theorem continues_connect : Continues P (Connection.connect settings) :=
  within_connect (allowsClients_continues hP)

theorem continues_ensureConnected : Continues P (Connection.ensureConnected settings) :=
  within_ensureConnected (allowsClients_continues hP)

end Clients

theorem adds_ensureConnected (hP : ∀ e, e.isCall = false → P e) :
    Adds P (Connection.ensureConnected settings) fun _ => True := by
  refine (continues_ensureConnected ?_).adds
  intro e he
  apply hP
  cases e <;> first | rfl | cases he

end Act

end ModelStore
