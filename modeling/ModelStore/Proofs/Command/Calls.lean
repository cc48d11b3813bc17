import ModelStore.Command
import ModelStore.Proofs.Connection
import ModelStore.Proofs.Observer.Sharing

/-!
The calls of a command. Connecting, resolving and notifying add events of their own, but only the
work between two rounds of observers calls the database, and the call that it makes is the one that
the command was sent as, on objects that its observers may have changed.
-/
namespace ModelStore

/-- A command as it is sent. -/
structure Sending where
  route : CommandRoute := .collection
  command : String
  arguments : List Value
  keywords : Document

def Sending.given (sending : Sending) (model name : Value) : Context :=
  { model := model, collection := .collection name, command := sending.command
    route := sending.route, arguments := sending.arguments, keywords := sending.keywords }

def Dispatcher.attempt (name : Value) (c : Context) : Event :=
  match c.route with
  | .collection => .native name c.command c.arguments c.keywords
  | .database => .command [.text c.command, name] c.keywords

/-- The event, if it is a call, is that of the command as observers of the behaviour make it. -/
def Event.Issued (sending : Sending) (model : Value) (behaves : Behaviour) (e : Event) : Prop :=
  e.isCall = true → ∃ name last, behaves.Makes (sending.given model name) last ∧
    e = Dispatcher.attempt name last

namespace Dispatcher

open Act

def dispatch (d : Dispatcher) (model : Value) (sending : Sending) : Act Value := do
  checkKeywords parameterNames sending.keywords
  d.send model sending.route sending.command sending.arguments sending.keywords

/-- Keywords are looked at and nothing else. -/
theorem within_checkKeywords {R : Datasource → Datasource → Prop} [IsPreorder Datasource R]
    (names : List String) (keywords : Document) : Within R (checkKeywords names keywords) := by
  unfold checkKeywords
  split
  · exact within_settle _
  · exact within_pure _

variable {P : Event → Prop} {d : Dispatcher} {model : Value} {sending : Sending}

theorem adds_work {name : Value} {c : Context} (h : P (attempt name c)) :
    Adds P (work name c) fun _ => True := by
  unfold attempt at h
  unfold work
  cases hroute : c.route with
  | database =>
    rw [hroute] at h
    exact (adds_log h).bind fun _ _ => adds_reply
  | collection =>
    rw [hroute] at h
    refine (adds_log h).bind fun _ _ => adds_get.bind fun s _ => ?_
    split
    · exact adds_reply
    · exact adds_newCursor
    · exact adds_throw _

/-- What a command adds when it is sent: besides what is no call nothing but its own. -/
theorem adds_dispatch (h : ∀ e, e.Issued sending model d.observing → P e) :
    Adds P (d.dispatch model sending) fun _ => True := by
  have hP : ∀ e : Event, e.isCall = false → P e := by
    intro e he
    refine h e fun hcall => ?_
    rw [he] at hcall
    cases hcall
  have hchecked : Continues P (checkKeywords parameterNames sending.keywords) :=
    within_checkKeywords _ _
  have hresolved : Adds P (d.resolve model) fun _ => True :=
    adds_database.bind fun _ _ => adds_settle_any _
  refine hchecked.adds.bind fun _ _ => (adds_ensureConnected hP).bind fun _ _ => ?_
  refine hresolved.bind fun name _ => ?_
  have haround : Adds P (around d.observing "execute" (sending.given model name) (work name))
      fun _ => True := by
    refine adds_around (fun _ _ _ => hP _ rfl) "execute" _ fun last hmakes => ?_
    exact adds_work (h _ fun _ => ⟨name, last, hmakes, rfl⟩)
  exact haround.bind fun _ _ => adds_settle_any _

end Dispatcher

end ModelStore
