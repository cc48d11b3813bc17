import ModelStore.Failure

/-!
Client sessions. A session knows whether it is in a transaction; four of its methods change that
when they succeed and leave it alone when they fail.
-/
namespace ModelStore

inductive SessionMethod where
  | start
  | commit
  | abort
  | end_
  deriving DecidableEq, Inhabited

namespace SessionMethod

def all : List SessionMethod := [start, commit, abort, end_]

def name : SessionMethod → String
  | start => "start_transaction"
  | commit => "commit_transaction"
  | abort => "abort_transaction"
  | end_ => "end_session"

/-- A session is in a transaction after one was started and until something else succeeds. -/
def leavesOpen : SessionMethod → Bool
  | start => true
  | _ => false

end SessionMethod

/-- How a session behaves. -/
structure SessionPlan where
  inTransaction : Value := .bool false
  /-- The transaction state is asked for by a call instead of being read. -/
  isAsked : Bool := false
  /-- The session has a client of its own. -/
  hasClient : Bool := false
  /-- The methods that fail, and how. -/
  failure? : SessionMethod → Option Failure := fun _ => none
  /-- Ending the session has to be waited for. -/
  endIsAwaited : Bool := false

instance : Inhabited SessionPlan := ⟨{}⟩

structure Session where
  origin : SessionOrigin
  plan : SessionPlan
  inTransaction : Value
  /-- The client of its own, if it has one. -/
  client : Option Nat
  deriving Inhabited

namespace Session

/-- Whether the session is in a transaction: the answer as it is given, or the state read as true
or false. -/
def transactionState (s : Session) : Value :=
  if s.plan.isAsked then s.inTransaction else .bool s.inTransaction.truthy

end Session

end ModelStore
