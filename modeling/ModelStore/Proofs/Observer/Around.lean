import ModelStore.Proofs.Observer.Notification
import ModelStore.Proofs.Result

/-!
Work between two rounds of observers, as its caller sees it. The first round decides whether the
work is done at all; the second is told what came of it, and hands that on to the caller unless one
of its observers fails. An interruption goes to the caller past all observers.
-/
namespace ModelStore

/-- It came to its end, with a value or with an error. -/
def Result.Uninterrupted {α : Type} (r : Result α) : Prop := ∀ f, r = .error f → f.isError = true

theorem Result.rescued_of_uninterrupted {α : Type} {r : Result α} (h : r.Uninterrupted) :
    r.rescued = .ok r := by
  cases r with
  | ok a => rfl
  | error f => exact Result.rescued_eq_ok_error.mpr ⟨rfl, h f rfl⟩

theorem Result.uninterrupted_ok {α : Type} (a : α) : Uninterrupted (.ok a) := by simp [Uninterrupted]

theorem Result.uninterrupted_error_iff {α : Type} {f : Failure} :
    Uninterrupted (.error f : Result α) ↔ f.isError = true := by
  simp [Uninterrupted]

theorem Result.exists_of_not_uninterrupted {α : Type} {r : Result α} (h : ¬ r.Uninterrupted) :
    ∃ f, r = .error f ∧ f.isError = false := by
  obtain ⟨f, hf⟩ := not_forall.mp h
  obtain ⟨hr, hinterrupted⟩ := Classical.not_imp.mp hf
  exact ⟨f, hr, by simpa using hinterrupted⟩

namespace Act

/-- What the caller receives of work between two rounds. -/
def delivered (act : Act Settlement) : Act Value := do settle (← act).outcome

def handOn (behaves : Behaviour) (operation : String) (context : Context) (done : Result Value) :
    Act Value :=
  match done.rescued with
  | .error f => throw f
  | .ok done => delivered (conclude behaves operation context done)

variable {behaves : Behaviour} {operation : String} {context last : Context}
  {work : Context → Act Value} {s between replied : Datasource} {done : Result Value} {v : Value}
  {f : Failure}

theorem outcome_delivered {act : Act Settlement} {settlement : Settlement} {after : Datasource}
    (h : outcome act s = (.ok settlement, after)) :
    outcome (delivered act) s = (settlement.outcome, after) := by
  rw [delivered, outcome_bind_ok _ h, outcome_settle]

theorem outcome_attempt_eq {α : Type} {act : Act α} {r : Result α} {after : Datasource}
    (h : outcome act s = (r, after)) : outcome (attempt act) s = (.ok r, after) := by
  rw [outcome_attempt, h]

/-- The second round lets the outcome through, a result as the last of its observers leaves it,
unless one of them fails. -/
theorem outcome_concluded (behaves : Behaviour) (operation : String) (context : Context)
    (done : Result Value) (s : Datasource) :
    outcome (delivered (conclude behaves operation context done)) s =
      let told :=
        outcome (notifyOf behaves ("after " ++ operation) (context.reporting done)) s
      (told.1.bind fun left => done.map fun _ => left.2.result, told.2) := by
  rcases htold : outcome (notifyOf behaves ("after " ++ operation) (context.reporting done)) s
    with ⟨round, after⟩
  have hround := outcome_attempt_eq htold
  cases round with
  | ok told =>
    obtain ⟨ruling, left⟩ := told
    have hconcluded : outcome (conclude behaves operation context done) s =
        (.ok ⟨done.map fun _ => left.result, left⟩, after) := outcome_bind_ok _ hround
    exact outcome_delivered hconcluded
  | error f =>
    have hconcluded : outcome (conclude behaves operation context done) s =
        (.ok ⟨.error f, context.reporting done⟩, after) := outcome_bind_ok _ hround
    exact outcome_delivered hconcluded

/-- Nobody is told of an interruption. -/
theorem handOn_of_interrupted (h : f.isError = false) :
    handOn behaves operation context (.error f) = throw f := by
  rw [handOn, Result.rescued_eq_error.mpr ⟨rfl, h⟩]

theorem handOn_of_uninterrupted (h : done.Uninterrupted) :
    handOn behaves operation context done =
      delivered (conclude behaves operation context done) := by
  rw [handOn, Result.rescued_of_uninterrupted h]

/-- An observer that fails before the work prevents it. -/
theorem outcome_around_failed
    (h : outcome (notifyOf behaves ("before " ++ operation) context) s = (.error f, between)) :
    outcome (delivered (around behaves operation context work)) s = (.error f, between) := by
  have haround : outcome (around behaves operation context work) s =
      (.ok ⟨.error f, context⟩, between) := outcome_bind_ok _ (outcome_attempt_eq h)
  exact outcome_delivered haround

/-- A settled ruling takes the place of the work. -/
theorem outcome_around_settled
    (h : outcome (notifyOf behaves ("before " ++ operation) context) s =
      (.ok (some v, last), between)) :
    outcome (delivered (around behaves operation context work)) s = (.ok v, between) := by
  have haround : outcome (around behaves operation context work) s =
      (.ok ⟨.ok v, { last with result := v }⟩, between) := outcome_bind_ok _ (outcome_attempt_eq h)
  exact outcome_delivered haround

/-- Work that the first round lets through is done, and what comes of it is handed on. -/
theorem outcome_around_passed
    (hpassed : outcome (notifyOf behaves ("before " ++ operation) context) s =
      (.ok (none, last), between)) (hwork : outcome (work last) between = (done, replied)) :
    outcome (delivered (around behaves operation context work)) s =
      outcome (handOn behaves operation last done) replied := by
  have hrescued : outcome (attempt (rescue (work last))) between = (.ok done.rescued, replied) := by
    rw [outcome_attempt, outcome_rescue, hwork]
  rw [delivered, outcome_bind, around, outcome_bind_ok _ (outcome_attempt_eq hpassed)]
  dsimp only
  rw [outcome_bind_ok _ hrescued]
  unfold handOn
  cases done.rescued with
  | error f => rfl
  | ok done =>
    dsimp only
    rw [delivered, outcome_bind]

/-- Work between two rounds stays within every relation that the rounds and the work stay
within. -/
theorem within_around {R : Datasource → Datasource → Prop} [IsPreorder Datasource R]
    (hnotify : ∀ event c, Within R (notifyOf behaves event c)) (hwork : ∀ c, Within R (work c)) :
    Within R (delivered (around behaves operation context work)) := by
  have hconclude (c : Context) (done : Result Value) :
      Within R (conclude behaves operation c done) := by
    refine (within_attempt (hnotify _ _)).bind fun told => ?_
    split
    · exact within_pure _
    · exact within_pure _
  have haround : Within R (around behaves operation context work) := by
    refine (within_attempt (hnotify _ _)).bind fun before => ?_
    split
    · exact within_pure _
    · exact within_pure _
    · refine (within_attempt (within_rescue (hwork _))).bind fun done => ?_
      split
      · exact within_pure _
      · exact hconclude _ _
  exact haround.bind fun _ => within_settle _

/-- Where nobody is registered a round changes nothing. -/
theorem outcome_notify_nobody {σ : Type} {call : Observer → σ → Act (Value × σ)} {event : String}
    (subject : σ) (h : s.observers.of event = []) :
    outcome (notify call event subject) s = (.ok (none, subject), s) := by
  rw [notify, outcome_bind_ok _ (outcome_get s), h]
  rfl

/-- Work that nobody observes is delivered as it ends. -/
theorem outcome_around_nobody (hbefore : s.observers.of ("before " ++ operation) = [])
    (hwork : outcome (work context) s = (done, replied))
    (hafter : replied.observers.of ("after " ++ operation) = []) :
    outcome (delivered (around behaves operation context work)) s = (done, replied) := by
  have hpassed : outcome (notifyOf behaves ("before " ++ operation) context) s =
      (.ok (none, context), s) := outcome_notify_nobody context hbefore
  rw [outcome_around_passed hpassed hwork]
  cases hdone : done.rescued with
  | error f =>
    obtain ⟨rfl, hf⟩ := Result.rescued_eq_error.mp hdone
    rw [handOn_of_interrupted hf]
    rfl
  | ok ended =>
    obtain rfl := Result.eq_of_rescued_eq_ok hdone
    have htold : outcome (notifyOf behaves ("after " ++ operation) (context.reporting done))
        replied = (.ok (none, context.reporting done), replied) := outcome_notify_nobody _ hafter
    rw [handOn, hdone]
    dsimp only
    rw [outcome_concluded, htold]
    cases done <;> rfl

end Act
end ModelStore
