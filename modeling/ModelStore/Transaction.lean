import ModelStore.Connection
import ModelStore.Observer.Notification

/-!
Transactions around a session. The session is given by the caller, who keeps it, or opened on a
connection and ended with the transaction. A block begins the transaction, runs its body, commits
when the body succeeds and rolls back when the body fails or an error prevents the commit.
Observers are handed the transaction itself, and can do to it what anyone can.
-/
namespace ModelStore

open Act

/-- Where the session of a transaction comes from. -/
inductive SessionSource where
  | given
  | connection (settings : Settings)
  | nowhere
  deriving Inhabited

structure Transaction where
  source : SessionSource
  /-- Without a replica set there are sessions but no transactions. -/
  replicaSetRequired : Bool := true
  observing : Observer → Act Value := fun _ => pure .null

namespace Transaction

instance : Inhabited Transaction := ⟨{ source := .nowhere }⟩

/-- A transaction around a given session, or over a connection, but not both. -/
def create (session : Option SessionPlan) (connection : Option Settings)
    (replicaSetRequired : Bool) (observing : Observer → Act Value) : Act Transaction := do
  match session, connection with
  | some plan, some _ => do
      let _ ← newSession .given plan
      throw .sessionConflict
  | some plan, none => do
      let number ← newSession .given plan
      modify fun s => { s with held := some number }
      pure ⟨.given, replicaSetRequired, observing⟩
  | none, some settings => pure ⟨.connection settings, replicaSetRequired, observing⟩
  | none, none => pure ⟨.nowhere, replicaSetRequired, observing⟩

def ownsSession (t : Transaction) : Bool :=
  match t.source with
  | .given => false
  | _ => true

def sessionValue (number : Nat) : Act Value := do
  pure (.session ((← get).session number).origin)

def session : Act Nat := do
  match (← get).held with
  | some number => pure number
  | none => throw .sessionMissing

def statusClient (t : Transaction) (number : Nat) : Act (Option Nat) := do
  match ((← get).session number).client, t.source with
  | some client, _ => pure (some client)
  | none, .connection _ => some <$> Connection.client
  | none, _ => pure none

def isInOrder (status : Value) : Result Bool := do
  .ok (((Table.get? (← status.lookups) "ok").getD .null).equalsInt 1)

/-- Refuses a deployment that is no replica set, if one can be asked. -/
def checkReplicaSet (t : Transaction) (number : Nat) : Act Unit := do
  match ← t.statusClient number with
  | none => pure ()
  | some client =>
      match ← rescue (admin client "replSetGetStatus") with
      | .error _ => throw .replicaSetRequired
      | .ok status =>
          if !(← settle (isInOrder status)) then throw .replicaSetRequired

def isActive (number : Nat) : Act Bool := do
  pure ((← get).session number).transactionState.truthy

def acquire (t : Transaction) : Act Nat := do
  match (← get).held with
  | some number => pure number
  | none =>
      match t.source with
      | .connection settings => do
          let client ← Connection.connect settings
          let number ← openSession client
          modify fun s => { s with held := some number }
          pure number
      | _ => throw .connectionMissing

/-- Acquires the session and starts the transaction unless it runs already. -/
def begin_ (t : Transaction) : Act Unit := do
  let number ← t.acquire
  if t.replicaSetRequired then
    t.checkReplicaSet number
    if !(← isActive number) then callSession number .start

/-- Notifies one observer; a transaction shows it nothing of itself. -/
def notifyOne (t : Transaction) (event : String) (observer : Observer) (_ : Unit) :
    Act (Value × Unit) := do
  log (.observer event observer.name none)
  pure (← t.observing observer, ())

def notify (t : Transaction) (event : String) : Act Unit := do
  let _ ← Act.notify (t.notifyOne event) event ()

def closeActive (method : SessionMethod) : Act Unit := do
  match (← get).held with
  | none => pure ()
  | some number => if ← isActive number then callSession number method

/-- Closes the transaction of the session that is held, between two rounds of observers. A session
that is in no transaction is left alone. -/
def close (t : Transaction) (operation : String) (method : SessionMethod) : Act Unit := do
  match (← get).held with
  | none => pure ()
  | some _ => do
      t.notify ("before " ++ operation)
      closeActive method
      t.notify ("after " ++ operation)

def commit (t : Transaction) : Act Unit := t.close "commit" .commit

def rollback (t : Transaction) : Act Unit := t.close "rollback" .abort

def end_ (t : Transaction) : Act Unit := do
  match (← get).held with
  | none => pure ()
  | some number =>
      if t.ownsSession then do
        callSession number .end_
        let session := (← get).session number
        if session.plan.endIsAwaited then log (.sessionEnded number session.origin)
        modify fun s => { s with held := none }

def commitOrRollback (t : Transaction) : Act Unit := do
  match ← rescue t.commit with
  | .ok _ => pure ()
  | .error f => do
      t.rollback
      throw f

def leave (t : Transaction) (succeeded : Bool) : Act Unit := do
  match (← get).held with
  | none => pure ()
  | some _ => andFinally (if succeeded then t.commitOrRollback else t.rollback) t.end_

/-- Runs a body inside the transaction. A failure on leaving wins over one of the body. -/
def block {α : Type} (t : Transaction) (body : Act α) : Act α := do
  t.begin_
  match ← attempt body with
  | .ok a => do
      t.leave true
      pure a
  | .error f => do
      t.leave false
      throw f

def bodyOf (outcome : Result Unit) : Act Unit := do
  log (.body (← sessionValue (← session)))
  settle outcome

end Transaction

end ModelStore
