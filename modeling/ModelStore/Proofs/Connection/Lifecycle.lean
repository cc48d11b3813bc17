import ModelStore.Proofs.Connection

/-!
The clients of a connection over any use of it. Whatever is called of it, in whatever order, and
whatever fails or is closed from outside, the connection has closed every client that it
constructed once, except the one that it keeps. It constructs a client only while it keeps none.
-/
namespace ModelStore

def Event.closes (client : Nat) : Event → Bool
  | .close closed => closed == client
  | _ => false

namespace Datasource

/-- The client came after the first so many. Clients are numbered from one. -/
def Constructed (first : Nat) (s : Datasource) (client : Nat) : Prop :=
  first < client ∧ client ≤ s.clients.length

/-- How often the connection closed the client. Who else closes it only marks its topology. -/
def closings (s : Datasource) (client : Nat) : Nat := s.events.countP (Event.closes client)

/-- Between two calls of a connection the world goes on: topologies are closed from outside, and
it is settled anew which constructions and which commands will fail. A call waits only for the
reply to a ping, and looks at no topology after it, so that one that is closed meanwhile might as
well be closed after the call. -/
structure Interlude (s after : Datasource) : Prop where
  client : after.client = s.client
  count : after.clients.length = s.clients.length
  events : after.events = s.events

/-- No client comes or goes. -/
structure KeepsClients (s after : Datasource) : Prop where
  client : after.client = s.client
  count : after.clients.length = s.clients.length
  extends_ : s.Extends (fun e => e.isOfClient = false) after

/-- The client that is kept is closed and forgotten. -/
structure GivesUp (client : Nat) (s after : Datasource) : Prop where
  kept : s.client = some client
  forgotten : after.client = none
  count : after.clients.length = s.clients.length
  events : after.events = s.events ++ [.close client]

variable {s after last : Datasource} {client : Nat}

theorem closes_of_not_isOfClient {e : Event} (h : e.isOfClient = false) (client : Nat) :
    e.closes client = false := by
  cases e with
  | close closed => cases h
  | _ => rfl

theorem closings_of_extends (h : s.Extends (fun e => ∀ client, e.closes client = false) after)
    (client : Nat) : after.closings client = s.closings client := by
  obtain ⟨added, hevents, hadded⟩ := h
  have hnone : added.countP (Event.closes client) = 0 :=
    List.countP_eq_zero.mpr fun e he => by simp [hadded e he client]
  rw [closings, closings, hevents, List.countP_append, hnone, Nat.add_zero]

theorem KeepsClients.refl (s : Datasource) : s.KeepsClients s := ⟨rfl, rfl, .of_eq rfl⟩

theorem KeepsClients.trans (h : s.KeepsClients after) (h' : after.KeepsClients last) :
    s.KeepsClients last :=
  ⟨h'.client.trans h.client, h'.count.trans h.count, h.extends_.trans h'.extends_⟩

instance : IsPreorder Datasource KeepsClients where
  refl s := .refl s
  trans _ _ _ h h' := h.trans h'

theorem KeepsClients.closings (h : s.KeepsClients after) (client : Nat) :
    after.closings client = s.closings client :=
  closings_of_extends (h.extends_.mono fun _ => closes_of_not_isOfClient) client

theorem Interlude.keeps (h : s.Interlude after) : s.KeepsClients after :=
  ⟨h.client, h.count, .of_eq h.events⟩

theorem GivesUp.closings (h : s.GivesUp client after) (other : Nat) :
    after.closings other = s.closings other + if client = other then 1 else 0 := by
  rw [Datasource.closings, Datasource.closings, h.events, List.countP_append]
  simp [List.countP_singleton, Event.closes]

end Datasource

namespace Connection

open Act Datasource

/-- What can be called of a connection. -/
inductive Operation where
  | connect
  | ensureConnected
  | ping
  | isHealthy
  | isStale
  | database
  | disconnect

def leaves (settings : Settings) (s : Datasource) : Operation → Datasource
  | .connect => (outcome (connect settings) s).2
  | .ensureConnected => (outcome (ensureConnected settings) s).2
  | .ping => (outcome (ping settings) s).2
  | .isHealthy => (outcome isHealthy s).2
  | .isStale => (outcome isStale s).2
  | .database => (outcome (database settings) s).2
  | .disconnect => (outcome disconnect s).2

/-- The construction of a client while none is kept, whatever comes of it, and the rest of the call,
which leaves the clients alone. -/
structure Constructs (settings : Settings) (s after : Datasource) : Prop where
  nothing : s.client = none
  rest : (outcome (construct settings) s).2.KeepsClients after
  /-- A construction that fails leaves no client behind. -/
  failed : ∀ f, (outcome (construct settings) s).1 = .error f →
    after.client = none ∧ after.clients.length = s.clients.length
  made : ∀ client, (outcome (construct settings) s).1 = .ok client →
    after.client = some client ∧ client = s.clients.length + 1 ∧
      after.clients.length = s.clients.length + 1

/-- What a call does to the clients. -/
inductive Course (settings : Settings) (s : Datasource) : Datasource → Prop where
  | keeps {after : Datasource} (h : s.KeepsClients after) : Course settings s after
  | givesUp {client : Nat} {after : Datasource} (h : s.GivesUp client after) :
      Course settings s after
  | constructs {after : Datasource} (h : Constructs settings s after) : Course settings s after
  /-- A stale client is given up before another is constructed. -/
  | replaces {client : Nat} {given after : Datasource} (hstale : (s.mark client).truthy = true)
      (hgiven : s.GivesUp client given) (h : Constructs settings given after) :
      Course settings s after

/-- Calls one after the other, each ending as it may, in a world that goes on between them. -/
inductive Runs (settings : Settings) (start : Datasource) : Datasource → Prop where
  | start : Runs settings start start
  | call {s : Datasource} (operation : Operation) (hruns : Runs settings start s) :
      Runs settings start (leaves settings s operation)
  | interlude {s after : Datasource} (hruns : Runs settings start s) (hafter : s.Interlude after) :
      Runs settings start after

variable {settings : Settings} {s after last : Datasource} {client first : Nat}

section Calls

def tried (settings : Settings) (s : Datasource) : Datasource :=
  { s with
    events := s.events ++
      [.construct [.text settings.resolvedUrl] (clientKeywords settings s.driverOptions)]
    constructions := s.constructions.drop 1 }

def newest (s : Datasource) : Datasource :=
  { s with clients := s.clients ++ [.bool false], client := some (s.clients.length + 1) }

theorem extends_tried (settings : Settings) (s : Datasource) :
    s.Extends (fun e => ∀ client, e.closes client = false) (tried settings s) := by
  refine ⟨[_], rfl, ?_⟩
  intro e he
  rw [List.mem_singleton.mp he]
  intro client
  rfl

def constructionFailed (settings : Settings) (cause : Failure) (s : Datasource) :
    Result Nat × Datasource :=
  if cause.isError then
    (.error (.unreachable cause),
      { s with notices := s.notices ++ [.connectionFailed settings.resolvedUrl] })
  else (.error cause, s)

theorem outcome_failConstruction (settings : Settings) (cause : Failure) (s : Datasource) :
    outcome (failConstruction settings cause) s = constructionFailed settings cause s := by
  unfold failConstruction constructionFailed
  split <;> rfl

theorem constructionFailed_cases (settings : Settings) (cause : Failure) (s : Datasource) :
    ∃ f after, constructionFailed settings cause s = (.error f, after) ∧
      after.client = s.client ∧ after.clients = s.clients ∧ after.events = s.events := by
  unfold constructionFailed
  split
  · exact ⟨_, _, rfl, rfl, rfl, rfl⟩
  · exact ⟨_, _, rfl, rfl, rfl, rfl⟩

/-- An option that the timeouts give already is refused before the driver hears of it. -/
theorem outcome_construct_repeated (hdriver : s.driverMissing = false)
    (hrepeated : hasDuplicates settings s.driverOptions = true) :
    outcome (construct settings) s =
      (.error (.unreachable (.misuse .wrongType)),
        { s with notices := s.notices ++ [.connectionFailed settings.resolvedUrl] }) := by
  rw [construct, outcome_bind_ok _ (outcome_get s)]
  dsimp only
  rw [if_neg (by simp [hdriver]), outcome_bind_ok _ (outcome_get s), if_pos hrepeated]
  rfl

/-- Options that are given once each reach the driver, and what the driver makes of them decides. -/
theorem outcome_construct_distinct (hdriver : s.driverMissing = false)
    (hdistinct : hasDuplicates settings s.driverOptions = false) :
    outcome (construct settings) s =
      match s.constructions.head?.join with
      | some f => constructionFailed settings f (tried settings s)
      | none => (.ok (s.clients.length + 1), newest (tried settings s)) := by
  have hfate {β : Type} (next : Option Failure → Act β) :
      outcome (log (.construct [.text settings.resolvedUrl]
            (clientKeywords settings s.driverOptions)) >>=
          fun _ => nextConstruction >>= next) s =
        outcome (next s.constructions.head?.join) (tried settings s) := rfl
  rw [construct, outcome_bind_ok _ (outcome_get s)]
  dsimp only
  rw [if_neg (by simp [hdriver]), outcome_bind_ok _ (outcome_get s),
    if_neg (by simp [hdistinct]), hfate]
  cases s.constructions.head?.join with
  | some f => exact outcome_failConstruction settings f _
  | none =>
    have hnew : outcome newClient (tried settings s) =
        (.ok (s.clients.length + 1),
          { tried settings s with clients := s.clients ++ [.bool false] }) := by
      have hlength : (s.clients ++ [Value.bool false]).length = s.clients.length + 1 := by
        rw [List.length_append, List.length_singleton]
      rw [← hlength]
      rfl
    dsimp only
    rw [outcome_bind_ok _ hnew]
    rfl

/-- A construction fails and leaves the clients as they are, or else the new client is kept. -/
theorem construct_cases (settings : Settings) (s : Datasource) :
    (∃ f after, outcome (construct settings) s = (.error f, after) ∧
      after.client = s.client ∧ after.clients = s.clients ∧
      s.Extends (fun e => ∀ client, e.closes client = false) after) ∨
    outcome (construct settings) s =
      (.ok (s.clients.length + 1), newest (tried settings s)) := by
  cases hdriver : s.driverMissing with
  | true =>
    have hmissing : outcome (construct settings) s = (.error .driverMissing, s) := by
      rw [construct, outcome_bind_ok _ (outcome_get s)]
      dsimp only
      rw [if_pos hdriver]
      rfl
    exact .inl ⟨_, _, hmissing, rfl, rfl, .of_eq rfl⟩
  | false =>
    cases hduplicates : hasDuplicates settings s.driverOptions with
    | true =>
      exact .inl ⟨_, _, outcome_construct_repeated hdriver hduplicates, rfl, rfl, .of_eq rfl⟩
    | false =>
      rw [outcome_construct_distinct hdriver hduplicates]
      cases s.constructions.head?.join with
      | some cause =>
        obtain ⟨f, after, hfailed, hclient, hclients, hevents⟩ :=
          constructionFailed_cases settings cause (tried settings s)
        exact .inl ⟨f, after, hfailed, hclient, hclients,
          (extends_tried settings s).trans (.of_eq hevents)⟩
      | none => exact .inr rfl

/-- A client is constructed where none is kept. -/
theorem constructs_construct (hnothing : s.client = none) :
    Constructs settings s (outcome (construct settings) s).2 := by
  refine ⟨hnothing, .refl _, ?_, ?_⟩
  · intro f hfailed
    rcases construct_cases settings s with ⟨_, after, hafter, hclient, hclients, -⟩ | hmade
    · rw [hafter]
      exact ⟨hclient.trans hnothing, congrArg List.length hclients⟩
    · rw [hmade] at hfailed
      cases hfailed
  · intro client hmade
    rcases construct_cases settings s with ⟨_, after, hafter, -⟩ | hnewest
    · rw [hafter] at hmade
      cases hmade
    · rw [hnewest] at hmade ⊢
      obtain rfl : s.clients.length + 1 = client := Except.ok.inj hmade
      refine ⟨rfl, rfl, ?_⟩
      rw [newest, List.length_append]
      rfl

theorem Constructs.keeps (h : Constructs settings s after) (hrest : after.KeepsClients last) :
    Constructs settings s last := by
  refine ⟨h.nothing, h.rest.trans hrest, ?_, ?_⟩
  · rw [hrest.client, hrest.count]
    exact h.failed
  · rw [hrest.client, hrest.count]
    exact h.made

/-- No client is closed on the way to another. -/
theorem Constructs.closings (h : Constructs settings s after) (client : Nat) :
    after.closings client = s.closings client := by
  rw [h.rest.closings]
  rcases construct_cases settings s with ⟨f, failed, hfailed, -, -, hextends⟩ | hmade
  · rw [hfailed]
    exact closings_of_extends hextends client
  · rw [hmade]
    exact closings_of_extends (extends_tried settings s) client

/-- What connecting does to the clients. -/
theorem connect_cases (settings : Settings) (s : Datasource) :
    s.KeepsClients (outcome (connect settings) s).2 ∨
      Constructs settings s (outcome (connect settings) s).2 := by
  cases hclient : s.client with
  | some client =>
    rw [outcome_connect_kept hclient]
    exact .inl (.refl s)
  | none =>
    rw [outcome_connect_nothing hclient]
    exact .inr (constructs_construct hclient)

theorem givesUp_disconnect (hclient : s.client = some client) :
    s.GivesUp client (outcome disconnect s).2 := by
  rw [disconnect, outcome_bind_ok _ (outcome_get s), hclient]
  exact ⟨hclient, rfl, rfl, rfl⟩

/-- Ensuring a stale connection gives its client up and constructs another. -/
theorem outcome_ensureConnected_stale (hclient : s.client = some client)
    (hstale : (s.mark client).truthy = true) :
    ∃ given, s.GivesUp client given ∧
      outcome (ensureConnected settings) s = outcome (construct settings) given := by
  let given : Datasource :=
    { s with
      client := none, events := s.events ++ [.close client]
      notices := s.notices ++ [.staleClient] }
  have hisStale : outcome isStale s = (.ok true, s) := by
    rw [outcome_isStale_kept hclient, hstale]
  have hnote : outcome (note .staleClient) s =
      (.ok (), { s with notices := s.notices ++ [.staleClient] }) := rfl
  have hdisconnect :
      outcome disconnect { s with notices := s.notices ++ [.staleClient] } = (.ok (), given) := by
    rw [disconnect, outcome_bind_ok _ (outcome_get _)]
    dsimp only
    rw [hclient]
    rfl
  refine ⟨given, ⟨hclient, rfl, rfl, rfl⟩, ?_⟩
  rw [ensureConnected, outcome_bind_ok _ hisStale]
  dsimp only
  rw [if_pos rfl, outcome_bind_ok _ hnote, outcome_bind_ok _ hdisconnect]
  exact outcome_connect_nothing rfl

/-- What ensuring a connection does: a client that is kept and open is handed out, and otherwise
one is constructed, after a stale one was given up. -/
theorem ensureConnected_cases (settings : Settings) (s : Datasource) :
    (∃ client, s.client = some client ∧ outcome isStale s = (.ok false, s) ∧
      outcome (ensureConnected settings) s = (.ok client, s)) ∨
    (s.client = none ∧
      outcome (ensureConnected settings) s = outcome (construct settings) s) ∨
    ∃ client given, (s.mark client).truthy = true ∧ s.GivesUp client given ∧
      outcome (ensureConnected settings) s = outcome (construct settings) given := by
  cases hclient : s.client with
  | none =>
    have hfresh := outcome_isStale_nothing hclient
    refine .inr (.inl ⟨rfl, ?_⟩)
    rw [outcome_ensureConnected_fresh hfresh]
    exact outcome_connect_nothing hclient
  | some client =>
    have hisStale := outcome_isStale_kept hclient
    cases hmark : (s.mark client).truthy with
    | true =>
      obtain ⟨given, hgiven, heq⟩ := outcome_ensureConnected_stale hclient hmark
      exact .inr (.inr ⟨client, given, hmark, hgiven, heq⟩)
    | false =>
      rw [hmark] at hisStale
      refine .inl ⟨client, rfl, hisStale, ?_⟩
      rw [outcome_ensureConnected_fresh hisStale]
      exact outcome_connect_kept hclient

/-- A sign of life is asked for without a change of the clients. -/
theorem keepsClients_ping (client : Nat) : Within KeepsClients (admin client "ping") := by
  refine within_admin ?_ fun _ _ => ⟨rfl, rfl, .of_eq rfl⟩
  intro s
  refine ⟨rfl, rfl, [_], rfl, ?_⟩
  intro e he
  rw [List.mem_singleton.mp he]
  rfl

theorem keepsClients_isHealthy : Within KeepsClients isHealthy := by
  refine within_get.bind fun s => ?_
  split
  · exact within_pure _
  · refine (within_rescue (keepsClients_ping _)).bind fun r => ?_
    cases r <;> exact within_pure _

theorem course_ensureConnected (settings : Settings) (s : Datasource) :
    Course settings s (outcome (ensureConnected settings) s).2 := by
  rcases ensureConnected_cases settings s with
    ⟨client, -, -, heq⟩ | ⟨hnothing, heq⟩ | ⟨client, given, hmark, hgiven, heq⟩
  · rw [heq]
    exact .keeps (.refl s)
  · rw [heq]
    exact .constructs (constructs_construct hnothing)
  · rw [heq]
    exact .replaces hmark hgiven (constructs_construct hgiven.forgotten)

/-- Every call keeps the clients, gives the one that is kept up, or constructs one where none is
kept any more. -/
theorem course_leaves (settings : Settings) (s : Datasource) (operation : Operation) :
    Course settings s (leaves settings s operation) := by
  cases operation with
  | connect => exact (connect_cases settings s).elim .keeps .constructs
  | ensureConnected => exact course_ensureConnected settings s
  | ping =>
    have hrest := within_ping_rest settings keepsClients_ping s
    rcases connect_cases settings s with hkeeps | hconstructs
    · exact .keeps (hkeeps.trans hrest)
    · exact .constructs (hconstructs.keeps hrest)
  | isHealthy => exact .keeps (keepsClients_isHealthy s)
  | isStale => exact .keeps (within_isStale s)
  | database => exact .keeps (within_database s)
  | disconnect =>
    cases hclient : s.client with
    | some client => exact .givesUp (givesUp_disconnect hclient)
    | none =>
      have hnothing : outcome disconnect s = (.ok (), s) := by
        rw [disconnect, outcome_bind_ok _ (outcome_get s), hclient]
        rfl
      rw [leaves, hnothing]
      exact .keeps (.refl s)

/-- A client that was just constructed is kept, and open. -/
theorem construct_open (hmade : outcome (construct settings) s = (.ok client, after)) :
    after.client = some client ∧ (outcome isStale after).1 = .ok false := by
  rcases construct_cases settings s with ⟨f, failed, hfailed, -⟩ | hnewest
  · cases hmade.symm.trans hfailed
  · obtain ⟨rfl, rfl⟩ : client = s.clients.length + 1 ∧ after = newest (tried settings s) := by
      simpa using hmade.symm.trans hnewest
    have hmark : (newest (tried settings s)).mark (s.clients.length + 1) = .bool false := by
      simp [newest, tried, mark]
    have hclient : (newest (tried settings s)).client = some (s.clients.length + 1) := rfl
    refine ⟨hclient, ?_⟩
    rw [outcome_isStale_kept hclient, hmark]
    rfl

/-- A connection that could be ensured keeps the client that it hands out, and that one is open. -/
theorem ensureConnected_open
    (hensured : outcome (ensureConnected settings) s = (.ok client, after)) :
    after.client = some client ∧ (outcome isStale after).1 = .ok false := by
  rcases ensureConnected_cases settings s with
    ⟨kept, hkept, hfresh, heq⟩ | ⟨-, heq⟩ | ⟨old, given, -, -, heq⟩
  · cases heq.symm.trans hensured
    exact ⟨hkept, by rw [hfresh]⟩
  · exact construct_open (heq.symm.trans hensured)
  · exact construct_open (heq.symm.trans hensured)

/-- A connection for which no client could be constructed keeps none. -/
theorem construct_failed {f : Failure} (hnothing : s.client = none)
    (hfailed : outcome (construct settings) s = (.error f, after)) : after.client = none := by
  have hconstructs : Constructs settings s (outcome (construct settings) s).2 :=
    constructs_construct hnothing
  have hnone := (hconstructs.failed f (congrArg Prod.fst hfailed)).1
  rw [hfailed] at hnone
  exact hnone

theorem connect_failed {f : Failure}
    (hfailed : outcome (connect settings) s = (.error f, after)) : after.client = none := by
  cases hclient : s.client with
  | some client => cases (outcome_connect_kept hclient).symm.trans hfailed
  | none => exact construct_failed hclient ((outcome_connect_nothing hclient).symm.trans hfailed)

theorem ensureConnected_failed {f : Failure}
    (hfailed : outcome (ensureConnected settings) s = (.error f, after)) :
    after.client = none := by
  rcases ensureConnected_cases settings s with
    ⟨kept, -, -, heq⟩ | ⟨hnothing, heq⟩ | ⟨old, given, -, hgiven, heq⟩
  · cases heq.symm.trans hfailed
  · exact construct_failed hnothing (heq.symm.trans hfailed)
  · exact construct_failed hgiven.forgotten (heq.symm.trans hfailed)

end Calls

/-- The clients that came after the first so many are accounted for. -/
structure Balanced (first : Nat) (s : Datasource) : Prop where
  bound : first ≤ s.clients.length
  closed : ∀ client, s.Constructed first client → s.client ≠ some client → s.closings client = 1
  kept : ∀ client, s.client = some client → s.Constructed first client ∧ s.closings client = 0
  /-- Only clients that there are have been closed. -/
  unknown : ∀ client, s.clients.length < client → s.closings client = 0

/-- Nothing is constructed, given up or closed. -/
theorem Balanced.of_eq (h : Balanced first s) (hclient : after.client = s.client)
    (hcount : after.clients.length = s.clients.length)
    (hclosings : ∀ client, after.closings client = s.closings client) : Balanced first after := by
  refine ⟨?_, ?_, ?_, ?_⟩
  · rw [hcount]
    exact h.bound
  · intro client hconstructed hother
    rw [Constructed, hcount] at hconstructed
    rw [hclient] at hother
    rw [hclosings]
    exact h.closed client hconstructed hother
  · intro client hkept
    rw [hclient] at hkept
    rw [Constructed, hcount, hclosings]
    exact h.kept client hkept
  · intro client hlast
    rw [hcount] at hlast
    rw [hclosings]
    exact h.unknown client hlast

theorem Balanced.keeps (h : Balanced first s) (hkeeps : s.KeepsClients after) :
    Balanced first after :=
  h.of_eq hkeeps.client hkeeps.count hkeeps.closings

theorem Balanced.givesUp (h : Balanced first s) (hgiven : s.GivesUp client after) :
    Balanced first after := by
  have hclosings := hgiven.closings
  obtain ⟨hconstructed, hunclosed⟩ := h.kept client hgiven.kept
  refine ⟨?_, ?_, ?_, ?_⟩
  · rw [hgiven.count]
    exact h.bound
  · intro other hother _
    rw [hclosings]
    by_cases hclient : client = other
    · subst hclient
      rw [if_pos rfl, hunclosed]
    · have hunkept : s.client ≠ some other := by simpa [hgiven.kept] using hclient
      rw [Constructed, hgiven.count] at hother
      rw [if_neg hclient, h.closed other hother hunkept]
  · intro other hother
    rw [hgiven.forgotten] at hother
    cases hother
  · intro other hother
    rw [hgiven.count] at hother
    have hclient : client ≠ other := by
      have := hconstructed.2
      omega
    rw [hclosings, if_neg hclient, h.unknown other hother]

theorem Balanced.constructs (h : Balanced first s) (hconstructs : Constructs settings s after) :
    Balanced first after := by
  have hclosings := hconstructs.closings
  have hnothing := hconstructs.nothing
  cases hresult : (outcome (construct settings) s).1 with
  | error f =>
    obtain ⟨hclient, hcount⟩ := hconstructs.failed f hresult
    exact h.of_eq (hclient.trans hnothing.symm) hcount hclosings
  | ok newest =>
    obtain ⟨hclient, rfl, hcount⟩ := hconstructs.made newest hresult
    have hfirst := h.bound
    -- The number of the new client comes after all that were closed.
    refine ⟨by omega, ?_, ?_, ?_⟩
    · intro other hother hunkept
      have hold : other ≠ s.clients.length + 1 := by
        rintro rfl
        exact hunkept hclient
      have hlast := hother.2
      have hconstructed : s.Constructed first other := ⟨hother.1, by omega⟩
      rw [hclosings]
      apply h.closed other hconstructed
      rw [hnothing]
      exact (Option.some_ne_none other).symm
    · intro other hother
      obtain rfl : s.clients.length + 1 = other := Option.some.inj (hclient.symm.trans hother)
      refine ⟨⟨by omega, by omega⟩, ?_⟩
      rw [hclosings, h.unknown _ (by omega)]
    · intro other hother
      rw [hclosings, h.unknown other (by omega)]

theorem Balanced.course (h : Balanced first s) (hcourse : Course settings s after) :
    Balanced first after := by
  cases hcourse with
  | keeps hkeeps => exact h.keeps hkeeps
  | givesUp hgiven => exact h.givesUp hgiven
  | constructs hconstructs => exact h.constructs hconstructs
  | replaces _ hgiven hconstructs => exact (h.givesUp hgiven).constructs hconstructs

theorem Balanced.runs {start : Datasource} (h : Balanced first start)
    (hruns : Runs settings start s) : Balanced first s := by
  induction hruns with
  | start => exact h
  | call operation _ ih => exact ih.course (course_leaves settings _ operation)
  | interlude _ hafter ih => exact ih.keeps hafter.keeps

/-- What holds of a connection between two calls, with the clients that came after the first so
many. -/
structure Lifecycle (settings : Settings) (first : Nat) (s : Datasource) : Prop where
  /-- Every client that was constructed was closed once, except the one that is kept. -/
  closed : ∀ client, s.Constructed first client → s.client ≠ some client → s.closings client = 1
  /-- The one that is kept was constructed, and was not closed. -/
  kept : ∀ client, s.client = some client → s.Constructed first client ∧ s.closings client = 0
  /-- Whatever is called next constructs a client only where none is kept, and keeps none if that
  fails. -/
  course : ∀ operation, Course settings s (leaves settings s operation)
  /-- A connection that cannot be made or ensured next keeps no client. -/
  failed : ∀ f after, outcome (connect settings) s = (.error f, after) ∨
    outcome (ensureConnected settings) s = (.error f, after) → after.client = none
  /-- A connection that is ensured next keeps the client that it hands out, and that one is not
  stale. -/
  ensured : ∀ client after, outcome (ensureConnected settings) s = (.ok client, after) →
    after.client = some client ∧ (outcome isStale after).1 = .ok false

/-- However a connection is used, it closes every client that it constructed before it constructs
another, and closes none twice. -/
theorem lifecycle {start : Datasource} (hclient : start.client = none)
    (hevents : start.events = []) (hruns : Runs settings start s) :
    Lifecycle settings start.clients.length s := by
  have hstart : Balanced start.clients.length start := by
    refine ⟨Nat.le_refl _, ?_, ?_, ?_⟩
    · intro client hconstructed
      have hlower := hconstructed.1
      have hupper := hconstructed.2
      omega
    · intro client hkept
      rw [hclient] at hkept
      cases hkept
    · intro client _
      rw [closings, hevents, List.countP_nil]
  have hbalanced := hstart.runs hruns
  exact ⟨hbalanced.closed, hbalanced.kept, course_leaves settings s,
    fun _ _ hfailed => hfailed.elim connect_failed ensureConnected_failed,
    fun _ _ => ensureConnected_open⟩

/-- A connection whose second client cannot be constructed. -/
def faltering : Datasource :=
  { constructions := [none, some (.raised "ValueError" "bad uri")] }

/-- After the first client was constructed, and its topology closed from outside. -/
def cutOff : Datasource :=
  { leaves {} faltering .connect with clients := [.bool true] }

def refused : Datasource := leaves {} cutOff .ensureConnected

def recovered : Datasource := leaves {} refused .ensureConnected

theorem runs_recovered : Runs {} faltering recovered := by
  have hconnected : Runs {} faltering (leaves {} faltering .connect) := .call .connect .start
  have hcutOff : Runs {} faltering cutOff := .interlude hconnected ⟨rfl, rfl, rfl⟩
  have hrefused : Runs {} faltering refused := .call .ensureConnected hcutOff
  exact .call .ensureConnected hrefused

theorem lifecycle_recovered :
    faltering.client = none ∧ faltering.events = [] ∧ Runs {} faltering recovered ∧
      cutOff.client = some 1 ∧ refused.client = none ∧ recovered.client = some 2 ∧
      recovered.closings 1 = 1 ∧ Lifecycle {} 0 recovered :=
  ⟨rfl, rfl, runs_recovered, rfl, rfl, rfl, rfl, lifecycle rfl rfl runs_recovered⟩

end Connection
end ModelStore
