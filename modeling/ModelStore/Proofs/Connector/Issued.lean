import ModelStore.Proofs.Command.Issued
import ModelStore.Proofs.Connector.ComesTo
import ModelStore.Proofs.Connector.Compilation

/-!
What an operation issues from a given datasource. Looking the identifier up and building a query
call nothing and leave the observers alone, so the command is the one that the operation comes to
afterwards.
-/
namespace ModelStore.Connector

open Act

variable {c : Connector} {model : Model} {name filter data options v : Value} {s : Datasource}

theorem ComesTo.issues {S : Sending → Prop} {compiled : Result Sending} {act : Act Value}
    (h : ComesTo c name compiled act) (hS : ∀ sending, compiled = .ok sending → S sending)
    (s : Datasource) : Issues S name c.observing act s := by
  cases compiled with
  | error f => exact .of_eq (by rw [h s])
  | ok sending =>
    obtain ⟨finish, hfinish, hact⟩ := h
    have hissued : Issues S name c.observing (c.dispatcher.dispatch name sending) s :=
      Dispatcher.issues_dispatch (d := c.dispatcher) (hS sending rfl)
    have hfinished : Issues S name c.observing (c.dispatcher.dispatch name sending >>= finish) s :=
      issues_bind_silent hissued hfinish
    rw [Issues, hact]
    exact hfinished

/-- The identifier of data as it is stored; the next new one if data names none. -/
def idAt (c : Connector) (model : Model) (data options : Value) (s : Datasource) : Result Value := do
  match ← namedId model data with
  | .null => .ok (.objectId (.ofNumber (s.identifiers + 1)))
  | id => c.coerceId model id options

theorem idAt_eq (hdata : namedId model data = .ok v) (hv : v ≠ .null) :
    c.idAt model data options s = c.coerceId model v options := by
  unfold idAt
  rw [hdata]
  cases v with
  | null => exact absurd rfl hv
  | _ => rfl

theorem outcome_idOf (c : Connector) (model : Model) (data options : Value) (s : Datasource) :
    (outcome (c.idOf model data options) s).1 = c.idAt model data options s ∧
      s.Continues (fun e => e.isCall = false) (outcome (c.idOf model data options) s).2 := by
  cases hdata : namedId model data with
  | error f =>
    unfold idOf idAt
    rw [hdata]
    exact ⟨rfl, .of_eq rfl rfl⟩
  | ok v =>
    by_cases hv : v = .null
    · unfold idOf idAt
      rw [hdata, hv]
      exact ⟨rfl, .of_eq rfl rfl⟩
    · rw [idOf_eq_settle hdata hv, outcome_settle, idAt_eq hdata hv]
      exact ⟨rfl, .of_eq rfl rfl⟩

theorem issues_idOf {S : Sending → Prop} {next : Value → Act Value}
    (h : ∀ id after, c.idAt model data options s = .ok id →
      Issues S name c.observing (next id) after) :
    Issues S name c.observing (c.idOf model data options >>= next) s := by
  obtain ⟨hvalue, hafter⟩ := outcome_idOf c model data options s
  rcases hid : outcome (c.idOf model data options) s with ⟨r, after⟩
  rw [hid] at hvalue hafter
  cases r with
  | error f =>
    refine issues_of_silent ?_
    rw [outcome_bind_error next hid]
    exact hafter.extends_
  | ok id => exact issues_bind_ok hid hafter (h id after hvalue.symm)

theorem issues_queryOf {S : Sending → Prop} {next : Document → Act Value}
    (h : ∀ query, Filter.build model c.settings options filter = .ok query →
      Issues S name c.observing (next query) (c.compiled model options filter s)) :
    Issues S name c.observing (c.queryOf model filter options >>= next) s := by
  cases hbuilt : Filter.build model c.settings options filter with
  | error f =>
    refine issues_of_silent (.of_eq ?_)
    rw [queryOf, hbuilt]
    rfl
  | ok query => exact issues_bind_ok (outcome_queryOf s hbuilt) (.of_eq rfl rfl) (h query hbuilt)

end ModelStore.Connector
