import ModelStore.Proofs.Command.Calls
import ModelStore.Proofs.Observer.Around

/-!
Commands on an open connection that nobody observes. Nothing stands between such a command and its
work: it ends as the work ends, and in the datasource that the work leaves.
-/
namespace ModelStore

/-- The datasource has an open client and a database, and nobody observes what is executed. -/
structure Datasource.Unobserved (s : Datasource) : Prop where
  isOpen : ∃ client, s.client = some client ∧ (s.mark client).truthy = false
  hasDatabase : ∃ name, s.defaultDatabase = some name
  before : s.observers.of "before execute" = []
  after : s.observers.of "after execute" = []

def Datasource.quiet : Datasource :=
  { clients := [.bool false], client := some 1, defaultDatabase := some "main" }

theorem Datasource.unobserved_quiet (notices : List Notice) :
    ({ quiet with notices } : Datasource).Unobserved where
  isOpen := ⟨1, rfl, rfl⟩
  hasDatabase := ⟨"main", rfl⟩
  before := rfl
  after := rfl

namespace Act

variable {s : Datasource} {settings : Settings}

theorem outcome_ensureConnected (h : s.Unobserved) :
    ∃ client, outcome (Connection.ensureConnected settings) s = (.ok client, s) := by
  obtain ⟨client, hclient, hopen⟩ := h.isOpen
  have hstale : outcome Connection.isStale s = (.ok false, s) := by
    rw [outcome_isStale_kept hclient, hopen]
  refine ⟨client, ?_⟩
  rw [outcome_ensureConnected_fresh hstale]
  exact outcome_connect_kept hclient

theorem outcome_database (h : s.Unobserved) :
    ∃ name, outcome (Connection.database settings) s = (.ok name, s) := by
  obtain ⟨client, hclient, -⟩ := h.isOpen
  obtain ⟨name, hname⟩ := h.hasDatabase
  unfold Connection.database
  split
  · rename_i configured _
    have hasked : outcome Connection.client s = (.ok client, s) := by
      rw [Connection.client, outcome_bind_ok _ (outcome_get s), hclient]
      rfl
    exact ⟨configured, by rw [outcome_bind_ok _ hasked]; rfl⟩
  · refine ⟨name, ?_⟩
    rw [outcome_bind_ok _ (outcome_get s), outcome_bind_ok _ (outcome_get s), hclient, hname]
    rfl

end Act

namespace Dispatcher

open Act

variable {s after : Datasource} {d : Dispatcher} {name : Value} {model : Model}

theorem before_execute : "before " ++ "execute" = "before execute" := by decide

theorem after_execute : "after " ++ "execute" = "after execute" := by decide

/-- A command that nobody observes is its work. -/
theorem outcome_dispatch_unobserved (h : s.Unobserved) (hmodel : d.models.find name = .ok model)
    {sending : Sending} (hkeywords : parameterNames.any (Table.contains sending.keywords) = false)
    {r : Result Value}
    (hwork : outcome (work model.collectionName
      { model := name, collection := .collection model.collectionName, command := sending.command
        route := sending.route, arguments := sending.arguments, keywords := sending.keywords }) s =
          (r, after))
    (hafter : after.observers.of "after execute" = []) :
    outcome (d.dispatch name sending) s = (r, after) := by
  have hchecked : outcome (checkKeywords parameterNames sending.keywords) s = (.ok (), s) := by
    rw [checkKeywords, hkeywords]
    rfl
  obtain ⟨client, hconnected⟩ :
      ∃ client, outcome (Connection.ensureConnected d.settings) s = (.ok client, s) :=
    outcome_ensureConnected h
  have hresolved : outcome (d.resolve name) s = (.ok model.collectionName, s) := by
    obtain ⟨database, hdatabase⟩ :
        ∃ database, outcome (Connection.database d.settings) s = (.ok database, s) :=
      outcome_database h
    rw [resolve, outcome_bind_ok _ hdatabase, outcome_settle, collectionName, hmodel]
    rfl
  have hdelivered :
      outcome (delivered (around d.observing "execute" _ (work model.collectionName))) s =
        (r, after) :=
    outcome_around_nobody (before_execute ▸ h.before) hwork (after_execute ▸ hafter)
  rw [dispatch, outcome_bind_ok _ hchecked, send, outcome_bind_ok _ hconnected,
    outcome_bind_ok _ hresolved]
  exact hdelivered

end Dispatcher
end ModelStore
