import ModelStore.Observer.Context
import ModelStore.Datasource.Session
import ModelStore.Sort

/-!
Events: everything that happens between a connector, its observers and the database, with the
arguments as they are at that moment.
-/
namespace ModelStore

/-- What is asked of a cursor. -/
inductive CursorStep where
  | sort (keys : List Sort.Key)
  | limit (count : Int)
  | skip (count : Int)
  | collation (v : Value)
  | iterate
  deriving Inhabited

inductive Event where
  /-- A client is constructed. -/
  | construct (arguments : List Value) (keywords : Document)
  | close (client : Nat)
  /-- A command to the administration of a client's deployment. -/
  | admin (client : Nat) (command : String)
  | startSession (client : Nat)
  /-- What a collection has under a name is called, whether or not it can be. -/
  | native (collection : Value) (method : String) (arguments : List Value) (keywords : Document)
  | command (arguments : List Value) (keywords : Document)
  | cursor (step : CursorStep)
  /-- A method of a session is called, and fails or succeeds. -/
  | session (number : Nat) (origin : SessionOrigin) (method : SessionMethod)
      (failure : Option Failure)
  /-- The end of a session was waited for. -/
  | sessionEnded (number : Nat) (origin : SessionOrigin)
  /-- The body of a transaction block begins, with the session that it can use. -/
  | body (session : Value)
  /-- An observer is notified of a call, or of a transaction, which shows nothing of itself. -/
  | observer (event name : String) (seen : Option Context)
  /-- Documents are handed over to have their relations included. -/
  | inclusion (model : Value) (documents : List Document) (inclusion options : Value)
  deriving Inhabited

end ModelStore
