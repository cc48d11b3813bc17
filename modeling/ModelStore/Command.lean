import ModelStore.Connection
import ModelStore.Observer.Notification
import ModelStore.Schema.Declaration

/-!
Commands: native calls on the collection of a model, with observers around them. The connection is
ensured and the collection resolved before any observer is notified; the native call is part of
the work between the two rounds.
-/
namespace ModelStore

open Act

/-- Where commands go: a connection, the models whose collections they are about, and observers. -/
structure Dispatcher where
  settings : Settings
  models : Registry
  observing : Behaviour := .idle

namespace Dispatcher

def callNative (name : Value) (method : String) (arguments : List Value) (keywords : Document) :
    Act Value := do
  log (.native name method arguments keywords)
  match (← get).members method with
  | .method => reply
  | .cursor => newCursor
  | .refused f => throw f

def callDatabase (arguments : List Value) (keywords : Document) : Act Value := do
  log (.command arguments keywords)
  reply

def collectionName (d : Dispatcher) (model : Value) : Result Value := do
  .ok (← d.models.find model).collectionName

def resolve (d : Dispatcher) (model : Value) : Act Value := do
  let _ ← Connection.database d.settings
  settle (d.collectionName model)

def work (name : Value) (c : Context) : Act Value :=
  match c.route with
  | .collection => callNative name c.command c.arguments c.keywords
  | .database => callDatabase [.text c.command, name] c.keywords

def send (d : Dispatcher) (model : Value) (route : CommandRoute) (command : String)
    (arguments : List Value) (keywords : Document) : Act Value := do
  let _ ← Connection.ensureConnected d.settings
  let name ← d.resolve model
  let context : Context :=
    { model := model, collection := .collection name, command := command, route := route
      arguments := arguments, keywords := keywords }
  settle (← around d.observing "execute" context (work name)).outcome

/-- Keywords cannot repeat the parameters of a call. -/
def parameterNames : List String := ["self", "model", "command"]

def checkKeywords (names : List String) (keywords : Document) : Act Unit :=
  if names.any (Table.contains keywords) then settle wrongType else pure ()

def execute (d : Dispatcher) (model : Value) (command : String) (arguments : List Value)
    (keywords : Document) : Act Value := do
  checkKeywords parameterNames keywords
  d.send model .collection command arguments keywords

def runCommand (d : Dispatcher) (model : Value) (command : String) (keywords : Document) :
    Act Value := do
  checkKeywords parameterNames keywords
  d.send model .database command [] keywords

end Dispatcher

end ModelStore
