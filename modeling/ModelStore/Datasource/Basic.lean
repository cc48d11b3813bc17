import ModelStore.Datasource.Event
import ModelStore.Notice
import ModelStore.Observer.Basic

/-!
A datasource in use: the deployment behind it, what the connector keeps of it, and the record of
what happened. Everything with effects is an `Act`, which ends in a value or in a failure and keeps
the changes made until then in both cases.
-/
namespace ModelStore

/-- What the database does when it is asked something. -/
inductive Reply where
  | value (v : Value)
  | failure (f : Failure)
  deriving Inhabited

/-- What a name stands for among the members of a collection. -/
inductive Member where
  /-- A method that the database answers. -/
  | method
  /-- A method that hands out a cursor. -/
  | cursor
  /-- Nothing that can be called. -/
  | refused (f : Failure)
  deriving Inhabited

structure Datasource where
  /-- The driver library cannot be loaded. -/
  driverMissing : Bool := false
  /-- The options of an address that the driver knows, in lower case. -/
  driverOptions : List String := ["serverselectiontimeoutms", "connecttimeoutms"]
  /-- What happens to the clients constructed next; all later ones can be constructed. -/
  constructions : List (Option Failure) := []
  /-- The database that the address of the clients names. -/
  defaultDatabase : Option String := none
  /-- How the sessions behave that are opened. -/
  sessionPlan : SessionPlan := {}
  /-- Why no session can be opened, if that is so. -/
  sessionRefusal : Option Failure := none
  /-- The replies to come; all later ones are null. -/
  replies : List Reply := []
  members : String → Member := fun name => if name = "find" then .cursor else .method
  /-- For each client, the mark that tells whether its topology is closed. -/
  clients : List Value := []
  sessions : List Session := []
  cursors : Nat := 0
  identifiers : Nat := 0
  /-- The client that the connector keeps. -/
  client : Option Nat := none
  observers : Observers := []
  /-- The session that the transaction holds. -/
  held : Option Nat := none
  events : List Event := []
  notices : List Notice := []

instance : Inhabited Datasource := ⟨{}⟩

abbrev Act := ExceptT Failure (StateM Datasource)

namespace Datasource

/-- The mark of a client. Clients are numbered from one. -/
def mark (s : Datasource) (client : Nat) : Value := (s.clients[client - 1]?).getD .null

def session (s : Datasource) (number : Nat) : Session := (s.sessions[number]?).getD default

end Datasource

namespace Act

/-- Runs an act: what it ends with, and the datasource after it. -/
def outcome {α : Type} (act : Act α) (s : Datasource) : Result α × Datasource := act.run.run s

def settle {α : Type} : Result α → Act α
  | .ok a => pure a
  | .error f => throw f

/-- Runs an act and hands out its result instead of failing with it. -/
def attempt {α : Type} (act : Act α) : Act (Result α) := ExceptT.lift act.run

/-- Runs an act and hands out its value or its error; an interruption is passed on. -/
def rescue {α : Type} (act : Act α) : Act (Result α) := do settle (← attempt act).rescued

/-- Runs an act and a second one after it, however the first one ends. A failure of the second one
wins. -/
def andFinally {α : Type} (act : Act α) (last : Act Unit) : Act α := do
  let result ← attempt act
  last
  settle result

def log (e : Event) : Act Unit := modify fun s => { s with events := s.events ++ [e] }

def note (n : Notice) : Act Unit := modify fun s => { s with notices := s.notices ++ [n] }

def noteAll (ns : List Notice) : Act Unit :=
  modify fun s => { s with notices := s.notices ++ ns }

def reply : Act Value := do
  match (← get).replies with
  | [] => pure .null
  | next :: rest =>
      modify fun s => { s with replies := rest }
      match next with
      | .value v => pure v
      | .failure f => throw f

section Outcome

variable {α β : Type}

@[simp] theorem outcome_pure (a : α) (s : Datasource) :
    outcome (pure a : Act α) s = (.ok a, s) := rfl

@[simp] theorem outcome_throw (f : Failure) (s : Datasource) :
    outcome (throw f : Act α) s = (.error f, s) := rfl

theorem outcome_bind (x : Act α) (next : α → Act β) (s : Datasource) :
    outcome (x >>= next) s =
      match outcome x s with
      | (.ok a, after) => outcome (next a) after
      | (.error f, after) => (.error f, after) := by
  show (match outcome x s with
    | (r, after) => (ExceptT.bindCont next r).run after) = _
  rcases outcome x s with ⟨r, after⟩
  cases r <;> rfl

theorem outcome_bind_ok {x : Act α} {s after : Datasource} {a : α} (next : α → Act β)
    (h : outcome x s = (.ok a, after)) : outcome (x >>= next) s = outcome (next a) after := by
  rw [outcome_bind, h]

theorem outcome_bind_error {x : Act α} {s after : Datasource} {f : Failure} (next : α → Act β)
    (h : outcome x s = (.error f, after)) : outcome (x >>= next) s = (.error f, after) := by
  rw [outcome_bind, h]

@[simp] theorem outcome_settle (r : Result α) (s : Datasource) :
    outcome (settle r) s = (r, s) := by
  cases r <;> rfl

/-- An attempt succeeds always, with the result of the act and the changes it made. -/
@[simp] theorem outcome_attempt (x : Act α) (s : Datasource) :
    outcome (attempt x) s = (.ok (outcome x s).1, (outcome x s).2) := rfl

/-- Nothing is undone by a rescue, but only errors become results. -/
@[simp] theorem outcome_rescue (x : Act α) (s : Datasource) :
    outcome (rescue x) s = ((outcome x s).1.rescued, (outcome x s).2) := by
  rw [rescue, outcome_bind_ok _ (outcome_attempt x s), outcome_settle]

@[simp] theorem outcome_log (e : Event) (s : Datasource) :
    outcome (log e) s = (.ok (), { s with events := s.events ++ [e] }) := rfl

@[simp] theorem outcome_note (n : Notice) (s : Datasource) :
    outcome (note n) s = (.ok (), { s with notices := s.notices ++ [n] }) := rfl

end Outcome

def admin (client : Nat) (command : String) : Act Value := do
  log (.admin client command)
  reply

def newClient : Act Nat := do
  modify fun s => { s with clients := s.clients ++ [.bool false] }
  pure (← get).clients.length

/-- A new session of the given behaviour. A client of its own is constructed with it. -/
def newSession (origin : SessionOrigin) (plan : SessionPlan) : Act Nat := do
  let client ←
    if plan.hasClient then do
      log (.construct [] [])
      some <$> newClient
    else pure none
  let number := (← get).sessions.length
  modify fun s =>
    { s with sessions := s.sessions ++ [⟨origin, plan, plan.inTransaction, client⟩] }
  pure number

def openSession (client : Nat) : Act Nat := do
  log (.startSession client)
  match (← get).sessionRefusal with
  | some f => throw f
  | none => newSession .opened (← get).sessionPlan

def callSession (number : Nat) (method : SessionMethod) : Act Unit := do
  let session := (← get).session number
  let failure := session.plan.failure? method
  log (.session number session.origin method failure)
  match failure with
  | some f => throw f
  | none =>
      let after := { session with inTransaction := .bool method.leavesOpen }
      modify fun s => { s with sessions := s.sessions.set number after }

def newCursor : Act Value := do
  modify fun s => { s with cursors := s.cursors + 1 }
  pure (.cursor (← get).cursors)

def newObjectId : Act Value := do
  modify fun s => { s with identifiers := s.identifiers + 1 }
  pure (.objectId (.ofNumber (← get).identifiers))

end Act

end ModelStore
