import ModelStore.Proofs.Datasource.Within

/-!
Acts that notify nobody. Wherever such an act begins it leaves the observers as they are; what it
adds to the record is described by a property of its events.
-/
namespace ModelStore

def Datasource.Extends (P : Event → Prop) (s after : Datasource) : Prop :=
  ∃ added, after.events = s.events ++ added ∧ ∀ e ∈ added, P e

def Datasource.since (s after : Datasource) : List Event := after.events.drop s.events.length

/-- The same observers, and a record with events added that have the property. -/
structure Datasource.Continues (P : Event → Prop) (s after : Datasource) : Prop where
  observers : after.observers = s.observers
  extends_ : s.Extends P after

namespace Datasource

variable {P : Event → Prop} {s after last : Datasource}

theorem Extends.of_eq (hevents : after.events = s.events) : s.Extends P after :=
  ⟨[], by rw [hevents, List.append_nil], by simp⟩

theorem Extends.trans (h : s.Extends P after) (h' : after.Extends P last) : s.Extends P last := by
  obtain ⟨first, hfirst, hP⟩ := h
  obtain ⟨second, hsecond, hP'⟩ := h'
  refine ⟨first ++ second, ?_, ?_⟩
  · rw [hsecond, hfirst, List.append_assoc]
  · intro e he
    rcases List.mem_append.mp he with he | he
    · exact hP e he
    · exact hP' e he

theorem Extends.mono {Q : Event → Prop} (h : s.Extends P after) (hP : ∀ e, P e → Q e) :
    s.Extends Q after := by
  obtain ⟨added, hevents, hadded⟩ := h
  exact ⟨added, hevents, fun e he => hP e (hadded e he)⟩

/-- The events that were added have the property. -/
theorem Extends.all {added : List Event} (h : s.Extends P after)
    (hevents : after.events = s.events ++ added) : ∀ e ∈ added, P e := by
  obtain ⟨added', hevents', hadded⟩ := h
  obtain rfl := List.append_cancel_left (hevents.symm.trans hevents')
  exact hadded

theorem since_eq {added : List Event} (h : after.events = s.events ++ added) :
    s.since after = added := by
  rw [since, h, List.drop_left]

theorem Extends.of_mem_since {e : Event} (h : s.Extends P after) (he : e ∈ s.since after) : P e := by
  obtain ⟨added, hevents, hadded⟩ := h
  rw [since_eq hevents] at he
  exact hadded e he

instance : IsPreorder Datasource (Extends P) where
  refl _ := .of_eq rfl
  trans _ _ _ h h' := h.trans h'

theorem Continues.of_eq (hobservers : after.observers = s.observers)
    (hevents : after.events = s.events) : s.Continues P after :=
  ⟨hobservers, .of_eq hevents⟩

theorem Continues.trans (h : s.Continues P after) (h' : after.Continues P last) :
    s.Continues P last :=
  ⟨h'.observers.trans h.observers, h.extends_.trans h'.extends_⟩

instance : IsPreorder Datasource (Continues P) where
  refl _ := .of_eq rfl rfl
  trans _ _ _ h h' := h.trans h'

end Datasource

namespace Act

/-- Wherever the act begins, it leaves the observers alone and adds only events with the
property. -/
def Continues {α : Type} (P : Event → Prop) (act : Act α) : Prop :=
  ∀ s : Datasource, s.Continues P (outcome act s).2

variable {α β : Type} {P : Event → Prop}

theorem Adds.extends_ {Q : α → Prop} {act : Act α} (h : Adds P act Q) (s : Datasource) :
    s.Extends P (outcome act s).2 := by
  obtain ⟨added, hevents, hadded, -⟩ := h s
  exact ⟨added, hevents, hadded⟩

theorem Continues.adds {act : Act α} (h : Continues P act) : Adds P act fun _ => True := by
  intro s
  obtain ⟨added, hevents, hP⟩ := (h s).extends_
  exact ⟨added, hevents, hP, fun _ _ => trivial⟩

theorem continues_pure (a : α) : Continues P (pure a) := within_pure a

theorem continues_throw (f : Failure) : Continues P (throw f : Act α) := within_throw f

theorem continues_settle (r : Result α) : Continues P (settle r) := within_settle r

theorem continues_get : Continues P get := within_get

theorem continues_modify {f : Datasource → Datasource}
    (hobservers : ∀ s, (f s).observers = s.observers) (hevents : ∀ s, (f s).events = s.events) :
    Continues P (modify f) := fun s => .of_eq (hobservers s) (hevents s)

theorem continues_note (n : Notice) : Continues P (note n) := fun _ => .of_eq rfl rfl

theorem continues_log {e : Event} (h : P e) : Continues P (log e) := by
  intro s
  refine ⟨rfl, [e], rfl, ?_⟩
  intro e' he'
  rw [List.mem_singleton.mp he']
  exact h

theorem Continues.bind {x : Act α} {next : α → Act β} (hx : Continues P x)
    (hnext : ∀ a, Continues P (next a)) : Continues P (x >>= next) :=
  Within.bind hx hnext

theorem Continues.map {x : Act α} {f : α → β} (hx : Continues P x) : Continues P (f <$> x) :=
  Within.map hx

/-- A change of the datasource that leaves observers and record alone, and something after it. -/
theorem continues_modify_bind {f : Datasource → Datasource} {next : Act β}
    (hobservers : ∀ s, (f s).observers = s.observers) (hevents : ∀ s, (f s).events = s.events)
    (hnext : Continues P next) : Continues P (modify f >>= fun _ => next) :=
  (continues_modify hobservers hevents).bind fun _ => hnext

theorem continues_admin {client : Nat} {command : String} (h : P (.admin client command)) :
    Continues P (admin client command) :=
  within_admin (continues_log h) fun _ _ => .of_eq rfl rfl

theorem continues_newSession (h : P (.construct [] [])) (origin : SessionOrigin)
    (plan : SessionPlan) : Continues P (newSession origin plan) :=
  within_newSession (fun _ => .of_eq rfl rfl) (continues_log h) (fun _ _ => .of_eq rfl rfl)
    origin plan

theorem continues_callSession {number : Nat} {method : SessionMethod}
    (h : ∀ origin failure, P (.session number origin method failure)) :
    Continues P (callSession number method) :=
  within_callSession (fun _ _ => continues_log (h _ _)) fun _ _ => .of_eq rfl rfl

end Act

end ModelStore
