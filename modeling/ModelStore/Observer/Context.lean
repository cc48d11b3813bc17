import ModelStore.Value.Access
import ModelStore.Failure

/-!
Calls as observers see them. An observer sees the command under the name that older clients use for
it, its parameters and its options; it may put anything else in their place, and later observers
see that instead. The call itself it reaches only through the objects that it shares with it: it
can change the contents of each of them, but it cannot put another object in its place.
-/
namespace ModelStore

/-- Objects of one kind that can be changed in place: one can be given the contents of the other. -/
def Value.canBecome : Value → Value → Bool
  | .doc _, .doc _ => true
  | .list _, .list _ => true
  | .record _, .record _ => true
  | .point _ _, .point _ _ => true
  | .ruling _ _, .ruling _ _ => true
  | _, _ => false

mutual

/-- An object after its contents were changed. A tuple is only changed in its items, and what can
not be changed at all stays as it is. -/
def Value.rewritten : Value → Value → Value
  | .tuple items, .tuple after => .tuple (Value.rewrittenAll items after)
  | v, after => if v.canBecome after then after else v

def Value.rewrittenAll : List Value → List Value → List Value
  | v :: rest, after :: others => v.rewritten after :: Value.rewrittenAll rest others
  | items, _ => items

end

/-- A command goes to a method of the collection, or to the database as a whole. -/
inductive CommandRoute where
  | collection
  | database
  deriving DecidableEq, Inhabited

def legacyNames : Table String :=
  [("insert_one", "insert"), ("update_one", "save"), ("find_one_and_update", "findAndModify"),
   ("delete_one", "delete"), ("delete_many", "delete"), ("replace_one", "update"),
   ("update_many", "update"), ("count_documents", "count"),
   ("estimated_document_count", "count")]

def legacyName (command : String) : String := (Table.get? legacyNames command).getD command

/-- A call, and what came of it. -/
structure Context where
  model : Value
  collection : Value := .null
  command : String
  route : CommandRoute := .collection
  arguments : List Value := []
  keywords : Document := []
  /-- What an observer put in the place of the command and its parameters. -/
  requestShown : Option Value := none
  optionsShown : Option Value := none
  result : Value := .null
  failure : Option Failure := none
  deriving Inhabited

namespace Context

def sessionKey : String := "session"

/-- The keywords of a database command are its parameters, all but the session. -/
def parameters (c : Context) : List Value :=
  match c.route with
  | .collection => c.arguments
  | .database => (c.keywords.filter fun entry => entry.1 ≠ sessionKey).map Prod.snd

def request (c : Context) : Value :=
  c.requestShown.getD
    (.doc [("command", .text (legacyName c.command)), ("params", .list c.parameters)])

def options (c : Context) : Value := c.optionsShown.getD (.doc c.keywords)

/-- The keywords of a call after their objects were changed. The session is no object that a call
could be changed through. -/
def rewrittenKeywords (keywords after : Document) : Document :=
  keywords.map fun entry =>
    (entry.1,
      if entry.1 = sessionKey then entry.2
      else ((Table.get? after entry.1).map entry.2.rewritten).getD entry.2)

/-- What an observer that leaves another call behind has done to this one. -/
def shared (c after : Context) : Context :=
  { after with
    command := c.command
    route := c.route
    arguments := Value.rewrittenAll c.arguments after.arguments
    keywords := rewrittenKeywords c.keywords after.keywords }

def reporting (c : Context) : Result Value → Context
  | .ok v => { c with result := v }
  | .error f => { c with failure := some f }

end Context

end ModelStore
