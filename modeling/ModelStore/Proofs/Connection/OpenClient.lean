import ModelStore.Proofs.Transaction.SessionClient

/-!
The clients through which the server is asked. A command ensures its connection first, and always
finds an open client. A ping and the beginning of a transaction take the client that is kept as it
is: if its topology was closed, they ask through it all the same, and a session that is opened on
it belongs to another client than the commands that follow.
-/
namespace ModelStore

namespace Connection

open Act Datasource

variable {settings : Settings} {s found : Datasource} {client : Nat}

/-- What can be asked of the server through a connection. -/
inductive Request where
  | execute (models : Registry) (observing : Behaviour) (model : Value) (command : String)
      (arguments : List Value) (keywords : Document)
  | runCommand (models : Registry) (observing : Behaviour) (model : Value) (command : String)
      (keywords : Document)
  | ping
  | begin_ (replicaSetRequired : Bool)

def beginning (settings : Settings) (replicaSetRequired : Bool) : Transaction :=
  { source := .connection settings, replicaSetRequired }

namespace Request

def leaves (settings : Settings) (s : Datasource) : Request → Datasource
  | .execute models observing model command arguments keywords =>
      (outcome (Dispatcher.execute ⟨settings, models, observing⟩ model command arguments keywords)
        s).2
  | .runCommand models observing model command keywords =>
      (outcome (Dispatcher.runCommand ⟨settings, models, observing⟩ model command keywords) s).2
  | .ping => (outcome (Connection.ping settings) s).2
  | .begin_ replicaSetRequired =>
      (outcome (beginning settings replicaSetRequired).begin_ s).2

def isCommand : Request → Bool
  | .execute .. => true
  | .runCommand .. => true
  | _ => false

/-- The client that a request takes as it is, if there is one already. -/
def taken? (s : Datasource) : Request → Option Nat
  | .execute .. => none
  | .runCommand .. => none
  | .ping => s.client
  | .begin_ replicaSetRequired =>
      match s.held with
      | none => s.client
      | some number =>
          if replicaSetRequired then (s.session number).client.or s.client else none

end Request

def asked (settings : Settings) (s : Datasource) (request : Request) : List Nat :=
  (s.since (request.leaves settings s)).filterMap
    (Event.through? (request.leaves settings s).client)

def opensOn (settings : Settings) (s : Datasource) (request : Request) : List Nat :=
  (s.since (request.leaves settings s)).filterMap Event.opensOn?

/-- What connecting hands out is kept. It is the client that was kept, as open as that is, or a new
one, which is open. -/
theorem connect_found (hconnected : outcome (connect settings) s = (.ok client, found)) :
    found.client = some client ∧
      (found.IsLive client ↔ ∀ kept, s.client = some kept → s.IsLive kept) := by
  cases hkept : s.client with
  | some kept =>
    cases (outcome_connect_kept hkept).symm.trans hconnected
    refine ⟨hkept, ?_⟩
    simp
  | none =>
    have hmade := (outcome_connect_nothing hkept).symm.trans hconnected
    obtain ⟨hclient, hfresh⟩ := construct_open hmade
    rw [outcome_isStale_kept hclient] at hfresh
    refine ⟨hclient, ?_⟩
    have hopen : found.IsLive client := Except.ok.inj hfresh
    simp [hopen]

/-- A connection is made without a question to the server. -/
theorem yields_connect (settings : Settings) {pick : Event → Option Nat}
    (hpick : ∀ e : Event, e.isOfClient = true → pick e = none) (s : Datasource) :
    s.Yields pick (outcome (connect settings) s).2 [] :=
  (continues_connect (fun _ he => he) s).extends_.yields hpick

/-- A command asks through the client that ensuring its connection hands out. -/
theorem ensured_of_asked {command : Request} (hcommand : command.isCommand = true)
    (hasked : client ∈ asked settings s command) :
    ∃ found, outcome (ensureConnected settings) s = (.ok client, found) ∧
      found.Steady (command.leaves settings s) := by
  cases command with
  | execute models observing model name arguments keywords =>
    exact Dispatcher.ensured_of_asked (d := ⟨settings, models, observing⟩)
      { command := name, arguments, keywords } rfl hasked
  | runCommand models observing model name keywords =>
    exact Dispatcher.ensured_of_asked (d := ⟨settings, models, observing⟩)
      { route := .database, command := name, arguments := [], keywords } rfl hasked
  | ping | begin_ => cases hcommand

theorem opens_command {command : Request} (hcommand : command.isCommand = true)
    (hasked : client ∈ asked settings s command) : (command.leaves settings s).IsLive client := by
  obtain ⟨found, hensured, hsteady⟩ := ensured_of_asked hcommand hasked
  obtain ⟨hclient, hfresh⟩ := ensureConnected_open hensured
  rw [outcome_isStale_kept hclient] at hfresh
  exact hsteady.isLive_iff.mpr (Except.ok.inj hfresh)

/-- Where no client can be constructed, nothing is asked. -/
theorem opens_of_unconnected {f : Failure}
    (hconnected : outcome (connect settings) s = (.error f, found)) :
    (∀ client ∈ (s.since found).filterMap (Event.through? found.client), found.IsLive client) ↔
      ∀ kept, s.client = some kept → s.IsLive kept := by
  have hconnecting := yields_connect settings
    (fun e he => e.through?_of_isOfClient he found.client) s
  rw [hconnected] at hconnecting
  have hnothing : s.client = none := by
    cases hkept : s.client with
    | none => rfl
    | some kept => cases (outcome_connect_kept hkept).symm.trans hconnected
  rw [hconnecting.since, hnothing]
  simp

/-- What is asked through the client that connecting hands out, and through new ones. -/
theorem opens_iff_of_connected {after : Datasource} {later : List Nat}
    (hconnected : outcome (connect settings) s = (.ok client, found))
    (hsteady : found.Steady after)
    (hasked : found.Yields (Event.through? after.client) after (client :: later))
    (hlater : ∀ c ∈ later, c = client ∨ after.IsLive c) :
    (∀ c ∈ (s.since after).filterMap (Event.through? after.client), after.IsLive c) ↔
      ∀ kept, s.client = some kept → s.IsLive kept := by
  have hconnecting := yields_connect settings
    (fun e he => e.through?_of_isOfClient he after.client) s
  rw [hconnected] at hconnecting
  rw [(hconnecting.trans hasked).since, List.nil_append, ← (connect_found hconnected).2,
    ← hsteady.isLive_iff]
  constructor
  · intro hopens
    exact hopens client List.mem_cons_self
  · intro hopen c hc
    rcases List.mem_cons.mp hc with rfl | hc
    · exact hopen
    · rcases hlater c hc with rfl | hnew
      · exact hopen
      · exact hnew

theorem opens_ping_iff :
    (∀ client ∈ asked settings s .ping, (Request.ping.leaves settings s).IsLive client) ↔
      ∀ kept, s.client = some kept → s.IsLive kept := by
  rcases hconnected : outcome (connect settings) s with ⟨r, found⟩
  cases r with
  | error f =>
    have hleaves : Request.ping.leaves settings s = found :=
      congrArg Prod.snd (outcome_bind_error _ hconnected)
    rw [asked, hleaves]
    exact opens_of_unconnected hconnected
  | ok client =>
    have hleaves : Request.ping.leaves settings s =
        (outcome (rescue (admin client "ping") >>= judge) found).2 :=
      congrArg Prod.snd (outcome_bind_ok _ hconnected)
    have hsteady : found.Steady (Request.ping.leaves settings s) := by
      have hrest := within_ping_rest settings
        (fun client => Transaction.steady_admin client "ping") s
      rw [hconnected] at hrest
      exact hrest
    have hasked (kept : Option Nat) :
        found.Yields (Event.through? kept) (Request.ping.leaves settings s) [client] := by
      -- The answer decides how the ping ends, and nothing else.
      have hrest : Extends (fun _ => False) (outcome (rescue (admin client "ping")) found).2
          (Request.ping.leaves settings s) :=
        hleaves ▸ within_rest within_judge found
      rw [outcome_rescue] at hrest
      exact (Transaction.asks_admin client "ping" found).trans (hrest.yields fun _ h => h.elim)
    exact opens_iff_of_connected hconnected hsteady (hasked _) (by simp)

/-- Beginning takes the session that is held, or the client that is connected. -/
theorem begin_cases (settings : Settings) (required : Bool) (s : Datasource) :
    let t := beginning settings required
    (∃ number, s.held = some number ∧
      (Request.begin_ required).leaves settings s = (outcome (t.starting number) s).2) ∨
    (s.held = none ∧ ∃ f, outcome (connect settings) s =
      (.error f, (Request.begin_ required).leaves settings s)) ∨
    (s.held = none ∧ ∃ client found, outcome (connect settings) s = (.ok client, found) ∧
      (Request.begin_ required).leaves settings s =
        (outcome (Transaction.open_ client >>= t.starting) found).2) := by
  intro t
  cases hheld : s.held with
  | some number =>
    have hacquired : outcome t.acquire s = (.ok number, s) := by
      rw [Transaction.acquire, outcome_bind_ok _ (outcome_get s), hheld]
      rfl
    exact .inl ⟨number, rfl, congrArg Prod.snd (outcome_bind_ok t.starting hacquired)⟩
  | none =>
    have hacquire : outcome t.acquire s =
        outcome (connect settings >>= Transaction.open_) s := by
      rw [Transaction.acquire, outcome_bind_ok _ (outcome_get s), hheld]
      rfl
    have hbegin : (Request.begin_ required).leaves settings s =
        (outcome (connect settings >>= fun client =>
          Transaction.open_ client >>= t.starting) s).2 := by
      show (outcome (t.acquire >>= t.starting) s).2 = _
      rw [outcome_bind, hacquire, ← outcome_bind, bind_assoc]
    rcases hconnected : outcome (connect settings) s with ⟨r, found⟩
    cases r with
    | error f =>
      rw [outcome_bind_error _ hconnected] at hbegin
      exact .inr (.inl ⟨rfl, f, by rw [hbegin]⟩)
    | ok client =>
      rw [outcome_bind_ok _ hconnected] at hbegin
      exact .inr (.inr ⟨rfl, client, found, rfl, hbegin⟩)

theorem opens_begin_iff (required : Bool) :
    (∀ client ∈ asked settings s (.begin_ required),
        ((Request.begin_ required).leaves settings s).IsLive client) ↔
      ∀ client, (Request.begin_ required).taken? s = some client → s.IsLive client := by
  rcases begin_cases settings required s with
    ⟨number, hheld, hleaves⟩ | ⟨hheld, f, hunconnected⟩ | ⟨hheld, client, found, hconnected, hleaves⟩
  · have hsteady : s.Steady ((Request.begin_ required).leaves settings s) := by
      rw [hleaves]
      exact Transaction.steady_starting number s
    have hasked (kept : Option Nat) := Transaction.asks_starting
      (t := beginning settings required) rfl kept number s
    rw [← hleaves] at hasked
    rw [asked, (hasked _).since, Request.taken?, hheld]
    simp only [hsteady.isLive_iff]
    cases required <;> simp [beginning]
  · rw [Request.taken?, hheld]
    exact opens_of_unconnected hunconnected
  · obtain ⟨hsteady, -, later, hasked, hlater⟩ := Transaction.begins_on
      (t := beginning settings required) rfl (connect_found hconnected).1
      ((Request.begin_ required).leaves settings s).client
    rw [← hleaves] at hsteady hasked hlater
    rw [Request.taken?, hheld]
    exact opens_iff_of_connected hconnected hsteady hasked hlater

/-- No request closes a topology. -/
theorem isLive_leaves_iff (settings : Settings) (s : Datasource) (request : Request)
    (client : Nat) : (request.leaves settings s).IsLive client ↔ s.IsLive client := by
  have hconnected : s.KeepsTopologies (outcome (connect settings) s).2 :=
    within_connect allowsClients_topologies s
  have hcommand (models : Registry) (observing : Behaviour) (model : Value) (sending : Sending) :
      s.KeepsTopologies
        (outcome (Dispatcher.dispatch ⟨settings, models, observing⟩ model sending) s).2 := by
    have hchecked : Within KeepsTopologies
        (Dispatcher.checkKeywords Dispatcher.parameterNames sending.keywords) := by
      unfold Dispatcher.checkKeywords
      split
      · exact within_settle _
      · exact within_pure _
    rw [Dispatcher.dispatch_eq_answer]
    refine (hchecked.bind fun _ => ?_) s
    refine (within_ensureConnected allowsClients_topologies).bind fun _ => ?_
    exact fun found => (Dispatcher.steady_answer found).marks
  have hkept : s.KeepsTopologies (request.leaves settings s) := by
    cases request with
    | execute models observing model name arguments keywords =>
      exact hcommand models observing model { command := name, arguments, keywords }
    | runCommand models observing model name keywords =>
      exact hcommand models observing model { route := .database, command := name, arguments := [], keywords }
    | ping =>
      have hrest := within_ping_rest settings
        (fun client => Transaction.steady_admin client "ping") s
      exact trans_of KeepsTopologies hconnected hrest.marks
    | begin_ required =>
      rcases begin_cases settings required s with
        ⟨number, -, hleaves⟩ | ⟨-, f, hunconnected⟩ | ⟨-, c, found, hfound, hleaves⟩
      · rw [hleaves]
        exact (Transaction.steady_starting number s).marks
      · rw [hunconnected] at hconnected
        exact hconnected
      · rw [hfound] at hconnected
        rw [hleaves]
        refine trans_of KeepsTopologies hconnected (Steady.marks ?_)
        exact (Transaction.steady_open c).bind Transaction.steady_starting found
  rw [IsLive, IsLive, hkept]

/-- A client whose topology is closed is one of those there are. -/
theorem le_length_of_not_isLive (h : ¬ s.IsLive client) : client ≤ s.clients.length := by
  by_contra hunknown
  apply h
  rw [IsLive, mark, List.getElem?_eq_none (by omega)]
  rfl

/-- The client that a connection ensures is the one that is kept, exactly if that is open. -/
theorem ensured_eq_iff {kept : Nat} (hkept : s.client = some kept)
    (hensured : outcome (ensureConnected settings) s = (.ok client, found)) :
    client = kept ↔ s.IsLive kept := by
  have hstale := outcome_isStale_kept hkept
  rcases ensureConnected_cases settings s with
    ⟨old, hold, hfresh, heq⟩ | ⟨hnothing, -⟩ | ⟨old, given, hmark, hgiven, heq⟩
  · obtain rfl : kept = old := Option.some.inj (hkept.symm.trans hold)
    obtain rfl : kept = client := Except.ok.inj (congrArg Prod.fst (heq.symm.trans hensured))
    have hopen : s.IsLive kept := Except.ok.inj (congrArg Prod.fst (hstale.symm.trans hfresh))
    exact ⟨fun _ => hopen, fun _ => rfl⟩
  · cases hnothing.symm.trans hkept
  · obtain rfl : kept = old := Option.some.inj (hkept.symm.trans hgiven.kept)
    have hclosed : ¬ s.IsLive kept := by simp [IsLive, hmark]
    have hknown := le_length_of_not_isLive hclosed
    have hnew : client = s.clients.length + 1 := by
      rcases construct_cases settings given with ⟨f, failed, hfailed, -⟩ | hmade
      · cases (heq.trans hfailed).symm.trans hensured
      · rw [← hgiven.count]
        exact (Except.ok.inj (congrArg Prod.fst ((heq.trans hmade).symm.trans hensured))).symm
    constructor
    · intro hsame
      omega
    · intro hopen
      exact absurd hopen hclosed

/-- How the clients of a connection are used from here on. -/
structure UsesClients (settings : Settings) (s : Datasource) : Prop where
  /-- No request closes a topology: a client is as open when it is asked as before the request and
  after it. -/
  kept : ∀ (request : Request) (client : Nat),
    (request.leaves settings s).IsLive client ↔ s.IsLive client
  /-- A request asks through open clients alone, exactly if the client that it takes as it is, is
  open. A command takes none as it is. -/
  opens : ∀ request : Request,
    (∀ client ∈ asked settings s request, (request.leaves settings s).IsLive client) ↔
      ∀ client, request.taken? s = some client → s.IsLive client
  /-- The session that beginning opens belongs to the client that the next command asks through,
  exactly if the client that was kept is open. -/
  session : ∀ required, s.held = none → ∀ client ∈ opensOn settings s (.begin_ required),
    ∀ command : Request, command.isCommand = true →
      ∀ next ∈ asked settings ((Request.begin_ required).leaves settings s) command,
        next = client ↔ ∀ kept, s.client = some kept → s.IsLive kept

/-- However a connection was used before, its commands find an open client. A ping and the
beginning of a transaction do so exactly if the client that they take is not stale. -/
theorem uses_clients (settings : Settings) (s : Datasource) : UsesClients settings s where
  kept := isLive_leaves_iff settings s
  opens request := by
    cases request with
    | execute | runCommand =>
      simp only [Request.taken?, reduceCtorEq, false_imp_iff, implies_true, iff_true]
      exact fun client hasked => opens_command rfl hasked
    | ping => exact opens_ping_iff
    | begin_ required => exact opens_begin_iff required
  session required hheld client hclient command hcommand next hnext := by
    rcases begin_cases settings required s with
      ⟨number, hnumber, -⟩ | ⟨-, f, hunconnected⟩ | ⟨-, c, found, hconnected, hleaves⟩
    · cases hheld.symm.trans hnumber
    · have hconnecting := yields_connect settings (fun e he => e.opensOn?_of_isOfClient he) s
      rw [hunconnected] at hconnecting
      rw [opensOn, hconnecting.since] at hclient
      cases hclient
    · have hconnecting := yields_connect settings (fun e he => e.opensOn?_of_isOfClient he) s
      obtain ⟨hfound, hopen⟩ := connect_found hconnected
      obtain ⟨hsteady, hopened, -⟩ := Transaction.begins_on
        (t := beginning settings required) rfl hfound none
      rw [hconnected] at hconnecting
      rw [← hleaves] at hsteady hopened
      rw [opensOn, (hconnecting.trans hopened).since] at hclient
      obtain rfl : client = c := List.mem_singleton.mp hclient
      obtain ⟨after, hensured, -⟩ := ensured_of_asked hcommand hnext
      rw [ensured_eq_iff (hsteady.client.trans hfound) hensured, hsteady.isLive_iff, hopen]

def named : Settings := { database := some "app" }

/-- A connection whose client was closed from outside after it was made. -/
def severed : Datasource := { leaves named {} .connect with clients := [.bool true] }

theorem runs_severed : Runs named {} severed := by
  have hconnected : Runs named {} (leaves named {} .connect) := .call .connect .start
  exact .interlude hconnected ⟨rfl, rfl, rfl⟩

/-- A ping asks through the client that was closed, and so does the beginning of a transaction: the
session that it opens belongs to that client, and the next command runs on another. -/
theorem asks_closed_severed :
    Runs named {} severed ∧ severed.client = some 1 ∧ ¬ severed.IsLive 1 ∧
      asked named severed .ping = [1] ∧ opensOn named severed (.begin_ false) = [1] ∧
      asked named ((Request.begin_ false).leaves named severed)
        (.execute [("Post", .bare "Post")] .idle (.text "Post") "count_documents" [.doc []] []) =
          [2] ∧
      ¬ ∀ request : Request, ∀ client ∈ asked named severed request,
        (request.leaves named severed).IsLive client := by
  have hclosed : ¬ severed.IsLive 1 := by simp [IsLive, severed, mark, Value.truthy]
  refine ⟨runs_severed, rfl, hclosed, rfl, rfl, rfl, ?_⟩
  intro hopens
  have hping := hopens .ping 1 (by exact List.mem_singleton.mpr rfl)
  exact hclosed ((isLive_leaves_iff named severed .ping 1).mp hping)

end Connection
end ModelStore
