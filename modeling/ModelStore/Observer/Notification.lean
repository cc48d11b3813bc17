import ModelStore.Datasource.Basic

/-!
Notification of observers. A round calls the observers that were registered when it began, one
after the other, until one of them fails or hands out a settled ruling. Around a piece of work
there is a round before it, whose ruling takes the place of the work, and a round after it.
-/
namespace ModelStore

def Value.settled? : Value → Option Value
  | .ruling v true => some v
  | _ => none

/-- How observers of calls behave. One that is called makes changes to the registry, one after the
other, and then fails or answers, and leaves the call as it wants it; all this may depend on
everything that has happened before. -/
abbrev Behaviour :=
  Observer → Context → Datasource → List RegistryChange × Result (Value × Context)

def Behaviour.idle : Behaviour := fun _ context _ => ([], .ok (.null, context))

namespace Act

def changeObservers (changes : List RegistryChange) : Act Unit :=
  modify fun s => { s with observers := s.observers.changeAll changes }

section Round

variable {σ : Type} (call : Observer → σ → Act (Value × σ))

/-- Calls observers in order up to the first settled ruling. -/
def notifyEach : List Observer → σ → Act (Option Value × σ)
  | [], subject => pure (none, subject)
  | observer :: rest, subject => do
      let (answer, left) ← call observer subject
      match answer.settled? with
      | some v => pure (some v, left)
      | none => notifyEach rest left

/-- Later changes to the registry do not touch a round that has begun. -/
def notify (event : String) (subject : σ) : Act (Option Value × σ) := do
  notifyEach call ((← get).observers.of event) subject

end Round

variable (behaves : Behaviour)

/-- Whatever an observer leaves, the call changes only through the objects that it shares. -/
def notifyOne (event : String) (observer : Observer) (context : Context) :
    Act (Value × Context) := do
  let (changes, response) := behaves observer context (← get)
  log (.observer event observer.name (some context))
  changeObservers changes
  let (answer, left) ← settle response
  pure (answer, context.shared left)

def notifyOf (event : String) (context : Context) : Act (Option Value × Context) :=
  notify (notifyOne behaves event) event context

/-- How work between two rounds of observers ended, and the call as it was left. -/
structure Settlement where
  outcome : Result Value
  context : Context

/-- The round after the work. A result is handed on as the observers leave it, an error as it is. -/
def conclude (operation : String) (context : Context) (done : Result Value) : Act Settlement := do
  let told := context.reporting done
  match ← attempt (notifyOf behaves ("after " ++ operation) told) with
  | .error f => pure ⟨.error f, told⟩
  | .ok (_, left) => pure ⟨done.map fun _ => left.result, left⟩

/-- Runs work between two rounds of observers. The work is given the call as the first round left
it; a ruling of the first round takes the place of the work and of the second round, and nobody is
told of an interruption. -/
def around (operation : String) (context : Context) (work : Context → Act Value) :
    Act Settlement := do
  match ← attempt (notifyOf behaves ("before " ++ operation) context) with
  | .error f => pure ⟨.error f, context⟩
  | .ok (some v, left) => pure ⟨.ok v, { left with result := v }⟩
  | .ok (none, left) =>
      match ← attempt (rescue (work left)) with
      | .error f => pure ⟨.error f, left⟩
      | .ok done => conclude behaves operation left done

end Act

end ModelStore
