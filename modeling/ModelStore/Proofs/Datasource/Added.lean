import ModelStore.Datasource.Basic

/-!
What an act adds to the record. Events are never taken back, so an act is described by a property
of the events that it adds and a condition on the value that it ends with; sequences, attempts and
case distinctions of acts are described by those of their parts.
-/
namespace ModelStore

/-- The event is a call of the database itself. -/
def Event.isCall : Event → Bool
  | .native .. => true
  | .command .. => true
  | _ => false

namespace Act

theorem outcome_get (s : Datasource) : outcome get s = (.ok s, s) := rfl

theorem outcome_settle_ok {α : Type} {r : Result α} {a : α} (s : Datasource) (h : r = .ok a) :
    outcome (settle r) s = (.ok a, s) := by
  rw [h, outcome_settle]

/-- A sequence of acts succeeds exactly if each of them does. -/
theorem outcome_bind_eq_ok {α β : Type} {x : Act α} {next : α → Act β} {b : β}
    {s after : Datasource} :
    outcome (x >>= next) s = (.ok b, after) ↔
      ∃ a between, outcome x s = (.ok a, between) ∧ outcome (next a) between = (.ok b, after) := by
  rw [outcome_bind]
  rcases outcome x s with ⟨r, reached⟩
  cases r with
  | error f => simp
  | ok a =>
    constructor
    · intro h
      exact ⟨a, reached, rfl, h⟩
    · intro h
      obtain ⟨a', between, hreached, h⟩ := h
      obtain ⟨rfl, rfl⟩ := by simpa using hreached
      exact h

theorem outcome_settle_bind_eq_ok {α β : Type} {r : Result α} {next : α → Act β} {b : β}
    {s after : Datasource} :
    outcome (settle r >>= next) s = (.ok b, after) ↔
      ∃ a, r = .ok a ∧ outcome (next a) s = (.ok b, after) := by
  rw [outcome_bind, outcome_settle]
  cases r with
  | error f => simp
  | ok a => simp

/-- Wherever the act begins, every event that it adds has the property, and the value that it ends
with, if it does not fail, meets the condition. -/
def Adds {α : Type} (P : Event → Prop) (act : Act α) (Q : α → Prop) : Prop :=
  ∀ s, ∃ added, (outcome act s).2.events = s.events ++ added ∧ (∀ e ∈ added, P e) ∧
    ∀ a, (outcome act s).1 = .ok a → Q a

variable {α β : Type} {P : Event → Prop} {Q : α → Prop}

theorem Adds.of_eq {act : Act α} (hevents : ∀ s, (outcome act s).2.events = s.events)
    (hvalue : ∀ s a, (outcome act s).1 = .ok a → Q a) : Adds P act Q := by
  intro s
  refine ⟨[], ?_, by simp, hvalue s⟩
  rw [hevents, List.append_nil]

theorem adds_pure {a : α} (h : Q a) : Adds P (pure a) Q := by
  apply Adds.of_eq
  · intro s
    rfl
  · intro s b hb
    obtain rfl : a = b := Except.ok.inj hb
    exact h

theorem adds_throw (f : Failure) : Adds P (throw f) Q := by
  apply Adds.of_eq
  · intro s
    rfl
  · intro s a ha
    simp at ha

theorem adds_settle {r : Result α} (h : ∀ a, r = .ok a → Q a) : Adds P (settle r) Q := by
  apply Adds.of_eq
  · intro s
    rw [outcome_settle]
  · intro s a ha
    rw [outcome_settle] at ha
    exact h a ha

theorem adds_settle_any (r : Result α) : Adds P (settle r) fun _ => True :=
  adds_settle fun _ _ => trivial

theorem adds_settle_eq (r : Result α) : Adds P (settle r) fun a => r = .ok a :=
  adds_settle fun _ h => h

theorem adds_get : Adds P get fun _ => True := by
  apply Adds.of_eq
  · intro s
    rfl
  · intro s a _
    trivial

theorem adds_modify {f : Datasource → Datasource} (h : ∀ s, (f s).events = s.events) :
    Adds P (modify f) fun _ => True := by
  apply Adds.of_eq
  · exact h
  · intro s a _
    trivial

theorem adds_log {e : Event} (h : P e) : Adds P (log e) fun _ => True := by
  intro s
  refine ⟨[e], rfl, ?_, fun _ _ => trivial⟩
  intro e' he'
  rw [List.mem_singleton.mp he']
  exact h

theorem Adds.bind {x : Act α} {next : α → Act β} {R : β → Prop} (hx : Adds P x Q)
    (hnext : ∀ a, Q a → Adds P (next a) R) : Adds P (x >>= next) R := by
  intro s
  obtain ⟨first, hfirst, hP, hvalue⟩ := hx s
  rw [outcome_bind]
  rcases hx' : outcome x s with ⟨r, after⟩
  rw [hx'] at hfirst hvalue
  cases r with
  | error f => exact ⟨first, hfirst, hP, by simp⟩
  | ok a =>
    obtain ⟨second, hsecond, hP', hvalue'⟩ := hnext a (hvalue a rfl) after
    refine ⟨first ++ second, ?_, ?_, hvalue'⟩
    · rw [hsecond, hfirst, List.append_assoc]
    · intro e he
      rcases List.mem_append.mp he with he | he
      · exact hP e he
      · exact hP' e he

theorem Adds.mono {act : Act α} {R : α → Prop} (h : Adds P act Q) (hQ : ∀ a, Q a → R a) :
    Adds P act R := by
  intro s
  obtain ⟨added, hevents, hP, hvalue⟩ := h s
  exact ⟨added, hevents, hP, fun a ha => hQ a (hvalue a ha)⟩

theorem Adds.map {x : Act α} {f : α → β} {R : β → Prop} (hx : Adds P x Q)
    (hf : ∀ a, Q a → R (f a)) : Adds P (f <$> x) R := by
  apply hx.bind
  intro a ha
  exact adds_pure (hf a ha)

/-- A change of the datasource that leaves the record alone, and something after it. -/
theorem adds_modify_bind {f : Datasource → Datasource} {next : Act β} {R : β → Prop}
    (h : ∀ s, (f s).events = s.events) (hnext : Adds P next R) :
    Adds P (modify f >>= fun _ => next) R :=
  (adds_modify h).bind fun _ _ => hnext

/-- Something that is done only under a condition, and something after it. -/
theorem adds_optionally {b : Prop} [Decidable b] {x : Act Unit} {next : Unit → Act β} {R : β → Prop}
    (hx : Adds P x fun _ => True) (hnext : Adds P (next ()) R) :
    Adds P (if b then x >>= next else next ()) R := by
  split
  · exact hx.bind fun _ _ => hnext
  · exact hnext

theorem adds_attempt {act : Act α} (h : Adds P act Q) :
    Adds P (attempt act) fun r => ∀ a, r = .ok a → Q a := by
  intro s
  obtain ⟨added, hevents, hP, hvalue⟩ := h s
  refine ⟨added, hevents, hP, ?_⟩
  intro r hr
  rw [outcome_attempt] at hr
  exact Except.ok.inj hr ▸ hvalue

theorem adds_rescue {act : Act α} (h : Adds P act Q) :
    Adds P (rescue act) fun r => ∀ a, r = .ok a → Q a := by
  refine (adds_attempt h).bind fun r hr => adds_settle fun done hdone => ?_
  exact Result.eq_of_rescued_eq_ok hdone ▸ hr

theorem adds_note (n : Notice) : Adds P (note n) fun _ => True := adds_modify fun _ => rfl

theorem adds_noteAll (ns : List Notice) : Adds P (noteAll ns) fun _ => True :=
  adds_modify fun _ => rfl

theorem adds_reply : Adds P reply fun _ => True := by
  apply adds_get.bind
  intro s _
  split
  · exact adds_pure trivial
  · refine adds_modify_bind (fun _ => rfl) ?_
    split
    · exact adds_pure trivial
    · exact adds_throw _

theorem adds_newObjectId : Adds P newObjectId fun _ => True := by
  refine adds_modify_bind (fun _ => rfl) ?_
  apply adds_get.bind
  intro s _
  exact adds_pure trivial

theorem adds_newCursor : Adds P newCursor fun _ => True := by
  refine adds_modify_bind (fun _ => rfl) ?_
  apply adds_get.bind
  intro s _
  exact adds_pure trivial

end Act

end ModelStore
