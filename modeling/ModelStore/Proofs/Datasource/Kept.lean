import ModelStore.Proofs.Connection

/-!
Acts that keep a part of the datasource, whatever else they do to it. The part is the session that
is held together with the sessions there are, or the same with the sessions only counted: a method
of a session changes that session, but neither adds a session nor takes one away.
-/
namespace ModelStore

namespace Datasource

def holding (s : Datasource) : Option Nat × List Session := (s.held, s.sessions)

def tally (s : Datasource) : Option Nat × Nat := (s.held, s.sessions.length)

variable {s after : Datasource}

theorem held_of_tally (h : after.tally = s.tally) : after.held = s.held :=
  congrArg Prod.fst h

theorem length_of_tally (h : after.tally = s.tally) :
    after.sessions.length = s.sessions.length :=
  congrArg Prod.snd h

def Agrees {γ : Type} (part : Datasource → γ) (s after : Datasource) : Prop :=
  part after = part s

instance {γ : Type} (part : Datasource → γ) : IsPreorder Datasource (Agrees part) where
  refl _ := rfl
  trans _ _ _ h h' := h'.trans h

end Datasource

namespace Act

/-- A sequence succeeds only if its first act does, and then it goes on as its second. -/
theorem exists_of_bind_ok {α β : Type} {x : Act α} {next : α → Act β} {s : Datasource} {b : β}
    (h : (outcome (x >>= next) s).1 = .ok b) :
    ∃ a, (outcome x s).1 = .ok a ∧
      outcome (x >>= next) s = outcome (next a) (outcome x s).2 := by
  rcases hx : outcome x s with ⟨r, after⟩
  cases r with
  | error f =>
    rw [outcome_bind_error _ hx] at h
    cases h
  | ok a => exact ⟨a, rfl, outcome_bind_ok _ hx⟩

/-- Wherever the act begins, it leaves the part of the datasource as it is. -/
abbrev Keeps {α γ : Type} (part : Datasource → γ) (act : Act α) : Prop :=
  Within (Datasource.Agrees part) act

variable {α : Type}

/-- Acts that keep the sessions keep their number. -/
theorem Keeps.tally {act : Act α} (h : Keeps Datasource.holding act) :
    Keeps Datasource.tally act := by
  intro s
  exact congrArg (fun held => (held.1, held.2.length)) (h s)

theorem keeps_log (e : Event) : Keeps Datasource.holding (log e) := fun _ => rfl

theorem keeps_admin (client : Nat) (command : String) :
    Keeps Datasource.holding (admin client command) :=
  within_admin (keeps_log _) fun _ _ => rfl

theorem allowsClients_holding : AllowsClients (Datasource.Agrees Datasource.holding) where
  log e _ := keeps_log e
  note _ _ := rfl
  constructions _ _ := rfl
  newClient _ := rfl
  client _ _ := rfl

theorem keeps_callSession (number : Nat) (method : SessionMethod) :
    Keeps Datasource.tally (callSession number method) := by
  refine within_callSession (fun _ _ _ => rfl) ?_
  intro s x
  simp [Datasource.Agrees, Datasource.tally]

end Act

end ModelStore
