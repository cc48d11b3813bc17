import ModelStore.Observer.Notification
import ModelStore.Proofs.Datasource.Within

/-!
Rounds of observers, whatever these do. A round stays within every relation that its single
notifications stay within, and what each of them preserves of the subject is left in the end.
-/
namespace ModelStore.Act

section Round

variable {σ : Type} {call : Observer → σ → Act (Value × σ)}

theorem within_notifyEach {R : Datasource → Datasource → Prop} [IsPreorder Datasource R]
    (hcall : ∀ observer subject, Within R (call observer subject)) (registered : List Observer)
    (subject : σ) : Within R (notifyEach call registered subject) := by
  induction registered generalizing subject with
  | nil => exact within_pure _
  | cons observer rest ih =>
    refine (hcall observer subject).bind fun answered => ?_
    dsimp only
    split
    · exact within_pure _
    · exact ih answered.2

theorem within_notify {R : Datasource → Datasource → Prop} [IsPreorder Datasource R]
    (hcall : ∀ observer subject, Within R (call observer subject)) (event : String)
    (subject : σ) : Within R (notify call event subject) :=
  within_get.bind fun _ => within_notifyEach hcall _ subject

variable {P : Event → Prop} {I : σ → Prop}
  (hcall : ∀ observer subject, I subject →
    Adds P (call observer subject) fun answered => I answered.2)
include hcall

theorem adds_notifyEach (registered : List Observer) {subject : σ} (h : I subject) :
    Adds P (notifyEach call registered subject) fun answered => I answered.2 := by
  induction registered generalizing subject with
  | nil => exact adds_pure h
  | cons observer rest ih =>
    refine (hcall observer subject h).bind fun answered hleft => ?_
    dsimp only
    split
    · exact adds_pure hleft
    · exact ih hleft

theorem adds_notify (event : String) {subject : σ} (h : I subject) :
    Adds P (notify call event subject) fun answered => I answered.2 :=
  adds_get.bind fun _ _ => adds_notifyEach hcall _ h

end Round

variable {behaves : Behaviour} {event operation : String} {context : Context}

theorem outcome_notifyOne (behaves : Behaviour) (event : String) (observer : Observer)
    (context : Context) (s : Datasource) :
    outcome (notifyOne behaves event observer context) s =
      ((behaves observer context s).2.map fun answered =>
          (answered.1, context.shared answered.2),
        { s with
          observers := s.observers.changeAll (behaves observer context s).1
          events := s.events ++ [.observer event observer.name (some context)] }) := by
  rw [notifyOne, outcome_bind_ok _ (outcome_get s)]
  rcases behaves observer context s with ⟨changes, response⟩
  cases response <;> rfl

/-- A notification touches nothing but the registry and the record. -/
theorem within_notifyOne {R : Datasource → Datasource → Prop} [IsPreorder Datasource R]
    (hlog : ∀ name seen, Within R (log (.observer event name seen)))
    (hobservers : ∀ (s : Datasource) observers, R s { s with observers })
    (observer : Observer) (context : Context) :
    Within R (notifyOne behaves event observer context) := by
  refine within_get.bind fun s => (hlog _ _).bind fun _ => ?_
  refine (within_modify fun s' => hobservers s' _).bind fun _ => ?_
  exact (within_settle _).bind fun _ => within_pure _

theorem within_notifyOf {R : Datasource → Datasource → Prop} [IsPreorder Datasource R]
    (hlog : ∀ name seen, Within R (log (.observer event name seen)))
    (hobservers : ∀ (s : Datasource) observers, R s { s with observers })
    (context : Context) : Within R (notifyOf behaves event context) :=
  within_notify (within_notifyOne hlog hobservers) event context

end ModelStore.Act
