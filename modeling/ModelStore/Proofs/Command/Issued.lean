import ModelStore.Proofs.Command.InOrder

/-!
What a command issues. Of all that it adds to the record only its call is one of the database, and
that is the command as it was sent, on objects that those who were registered before it may have
changed. Where nobody is registered it is the command as it was sent.
-/
namespace ModelStore

open Act

/-- A round of the observers before a call makes the one attempt into the other. -/
def Behaviour.HandsOn (behaves : Behaviour) (registered : List Observer) (handed made : Event) :
    Prop :=
  ∃ name given last found before,
    IsRound (notifyOne behaves "before execute") registered given found before
        (.ok (none, last)) ∧
      handed = Dispatcher.attempt name given ∧ made = Dispatcher.attempt name last

theorem Behaviour.HandsOn.eq_of_nobody {behaves : Behaviour} {handed made : Event}
    (h : behaves.HandsOn [] handed made) : made = handed := by
  obtain ⟨name, given, last, found, before, hround, rfl, rfl⟩ := h
  have hnobody : before = [] := by simpa using hround.inOrder
  subst hnobody
  have hlast : last = given := (Prod.mk.inj (Except.ok.inj hround.ended)).2
  rw [hlast]

def Datasource.watching (s : Datasource) : List Observer := s.observers.of "before execute"

/-- The event, if it is a call, is made of such a command. -/
def Event.IssuedBy (S : Sending → Prop) (model : Value) (behaves : Behaviour)
    (registered : List Observer) (e : Event) : Prop :=
  e.isCall = true → ∃ sending name, S sending ∧
    behaves.HandsOn registered (Dispatcher.attempt name (sending.given model name)) e

def Act.Issues (S : Sending → Prop) (model : Value) (behaves : Behaviour) (act : Act Value)
    (s : Datasource) : Prop :=
  s.Extends (Event.IssuedBy S model behaves s.watching) (outcome act s).2

/-- From here on every call of the act is what observers make of one with the property. -/
def Act.EachCall (behaves : Behaviour) (act : Act Value) (s : Datasource) (P : Event → Prop) :
    Prop :=
  s.Extends (fun e => e.isCall = true → ∃ handed, P handed ∧
    behaves.HandsOn s.watching handed e) (outcome act s).2

variable {S : Sending → Prop} {model : Value} {behaves : Behaviour} {registered : List Observer}

theorem Event.issuedBy_of_not_isCall {e : Event} (h : e.isCall = false) :
    e.IssuedBy S model behaves registered := by
  intro hcall
  simp [h] at hcall

namespace Act

variable {α : Type} {s after : Datasource}

theorem issues_of_silent {act : Act Value}
    (h : s.Extends (fun e => e.isCall = false) (outcome act s).2) :
    Issues S model behaves act s :=
  h.mono fun _ => Event.issuedBy_of_not_isCall

theorem issues_throw (f : Failure) : Issues S model behaves (throw f) s := .of_eq rfl

theorem Issues.eachCall {P : Event → Prop} {act : Act Value} (h : Issues S model behaves act s)
    (hS : ∀ sending name, S sending → P (Dispatcher.attempt name (sending.given model name))) :
    EachCall behaves act s P := by
  refine h.mono fun e he hcall => ?_
  obtain ⟨sending, name, hsending, hhanded⟩ := he hcall
  exact ⟨_, hS sending name hsending, hhanded⟩

/-- Where nobody is registered, the calls themselves have the property. -/
theorem EachCall.of_nobody {P : Event → Prop} {act : Act Value} (h : EachCall behaves act s P)
    (hnobody : s.watching = []) {e : Event} (he : e ∈ s.since (outcome act s).2)
    (hcall : e.isCall = true) : P e := by
  obtain ⟨handed, hP, hhanded⟩ := h.of_mem_since he hcall
  rw [hnobody] at hhanded
  rw [hhanded.eq_of_nobody]
  exact hP

/-- What comes before the command calls nothing and leaves the observers alone. -/
theorem issues_bind_ok {x : Act α} {a : α} {next : α → Act Value}
    (hx : outcome x s = (.ok a, after)) (hafter : s.Continues (fun e => e.isCall = false) after)
    (hnext : Issues S model behaves (next a) after) :
    Issues S model behaves (x >>= next) s := by
  have hwatching : after.watching = s.watching := by
    rw [Datasource.watching, hafter.observers, Datasource.watching]
  rw [Issues, outcome_bind_ok next hx, ← hwatching]
  exact (hafter.extends_.mono fun _ => Event.issuedBy_of_not_isCall).trans hnext

theorem issues_settle {x : Result α} {next : α → Act Value}
    (h : ∀ a, x = .ok a → Issues S model behaves (next a) s) :
    Issues S model behaves (settle x >>= next) s := by
  cases x with
  | error f => exact .of_eq rfl
  | ok a => exact issues_bind_ok (outcome_settle _ s) (.of_eq rfl rfl) (h a rfl)

/-- What comes after the command calls nothing. -/
theorem issues_bind_silent {act : Act Value} {next : Value → Act Value}
    (h : Issues S model behaves act s)
    (hnext : ∀ v, Adds (fun e => e.isCall = false) (next v) fun _ => True) :
    Issues S model behaves (act >>= next) s := by
  have hrest (after : Datasource) (v : Value) :
      after.Extends (Event.IssuedBy S model behaves s.watching) (outcome (next v) after).2 :=
    ((hnext v).extends_ after).mono fun _ => Event.issuedBy_of_not_isCall
  rw [Issues, outcome_bind]
  have hdone : s.Extends (Event.IssuedBy S model behaves s.watching) (outcome act s).2 := h
  rcases hended : outcome act s with ⟨r, after⟩
  rw [hended] at hdone
  cases r with
  | error f => exact hdone
  | ok v => exact hdone.trans (hrest after v)

end Act

namespace Dispatcher

variable {d : Dispatcher} {name : Value} {sending : Sending} {s found : Datasource}

theorem continues_prepare (d : Dispatcher) (model : Value) (sending : Sending) :
    Continues (fun e => e.isCall = false) (prepare d.settings d.resolver model sending) := by
  have hchecked : Continues (fun e => e.isCall = false)
      (checkKeywords parameterNames sending.keywords) := within_checkKeywords _ _
  have hconnected : Continues (fun e => e.isCall = false)
      (Connection.ensureConnected d.settings) := by
    refine continues_ensureConnected ?_
    intro e he
    cases e <;> first | rfl | cases he
  have hresolved : Continues (fun e => e.isCall = false) (d.resolve model) :=
    continues_database.bind fun _ => continues_settle _
  exact hchecked.bind fun _ => hconnected.bind fun _ => hresolved

/-- The call of a command that runs in order is what the round before it makes of the command. -/
theorem InOrder.issuedBy {before later : List (Notification Context)} {call : List Event}
    {ended : Result Value} {after : Datasource} (hS : S sending)
    (h : InOrder behaves name (sending.given model name) found before call later ended after)
    {e : Event} (he : e ∈ call) : e.IssuedBy S model behaves found.watching := by
  intro _
  cases h with
  | refused _ => cases he
  | settled _ => cases he
  | interrupted hbefore _ _ _ =>
    obtain rfl := List.mem_singleton.mp he
    exact ⟨sending, name, hS, name, _, _, found, before, hbefore, rfl, rfl⟩
  | concluded hbefore _ _ _ _ =>
    obtain rfl := List.mem_singleton.mp he
    exact ⟨sending, name, hS, name, _, _, found, before, hbefore, rfl, rfl⟩

theorem issues_call (hS : S sending) (name : Value) (s : Datasource) :
    Issues S model behaves
      (delivered (around behaves "execute" (sending.given model name) (work name))) s := by
  obtain ⟨before, call, later, hordered⟩ :=
    exists_inOrder behaves name (sending.given model name) s
  have hevents := hordered.events_eq
  rw [List.append_assoc, List.append_assoc] at hevents
  refine ⟨_, hevents, fun e he => ?_⟩
  rcases List.mem_append.mp he with he | he
  · obtain ⟨notification, -, rfl⟩ := List.mem_map.mp he
    exact Event.issuedBy_of_not_isCall rfl
  · rcases List.mem_append.mp he with he | he
    · exact hordered.issuedBy hS he
    · obtain ⟨notification, -, rfl⟩ := List.mem_map.mp he
      exact Event.issuedBy_of_not_isCall rfl

theorem issues_dispatch (hS : S sending) :
    Issues S model d.observing (d.dispatch model sending) s := by
  rw [dispatch_eq_sendBy]
  rcases hprepared : outcome (prepare d.settings d.resolver model sending) s with ⟨r, found⟩
  have hfound : s.Continues (fun e => e.isCall = false) found := by
    have hcontinues := continues_prepare d model sending s
    rw [hprepared] at hcontinues
    exact hcontinues
  cases r with
  | error f =>
    have hsent : outcome (sendBy d.observing d.settings d.resolver model sending) s =
        (.error f, found) := outcome_bind_error _ hprepared
    refine issues_of_silent ?_
    rw [hsent]
    exact hfound.extends_
  | ok name => exact issues_bind_ok hprepared hfound (issues_call hS name found)

end Dispatcher
end ModelStore
