import ModelStore.Proofs.Observer.Around
import ModelStore.Proofs.Transaction.Block

/-!
Observers of a rollback after a commit. A commit that its session has accepted is final, yet an
observer that fails with an error when it is notified of it makes the block roll back: nothing is
rolled back then, but the observers of a rollback are notified.
-/
namespace ModelStore

open Act

def Event.isRollbackNotice : Event → Bool
  | .observer event _ none => event == "before rollback" || event == "after rollback"
  | _ => false

namespace Transaction

variable {t : Transaction} {s between after : Datasource} {number : Nat} {r : Result Unit}
  {event : String} {calls : List SessionMethod}

theorem outcome_notify_nobody (t : Transaction) (h : s.observers.of event = []) :
    outcome (t.notify event) s = (.ok (), s) :=
  outcome_bind_ok _ (Act.outcome_notify_nobody () h)

section Round

variable (ht : t.Unmeddled)
include ht

/-- The first of those who are registered is notified whatever it does. -/
theorem exists_notice {observer : Observer} {rest : List Observer}
    (h : s.observers.of event = observer :: rest) :
    ∃ added, (outcome (t.notify event) s).2.events =
        s.events ++ .observer event observer.name none :: added := by
  let logged : Datasource :=
    { s with events := s.events ++ [.observer event observer.name none] }
  have hobserving (observer : Observer) :
      Within (Datasource.Extends fun _ => True) (t.observing observer) :=
    fun s => ((ht observer).extends_ s).mono fun _ _ => trivial
  have hanswering (observer : Observer) : Within (Datasource.Extends fun _ => True)
      (do pure (← t.observing observer, ())) := (hobserving observer).bind fun _ => within_pure _
  have hlog (name : String) :
      Within (Datasource.Extends fun _ => True) (log (.observer event name none)) :=
    fun s => ⟨[_], rfl, fun _ _ => trivial⟩
  have hcalled (observer : Observer) :
      Within (Datasource.Extends fun _ => True) (t.notifyOne event observer ()) :=
    (hlog _).bind fun _ => hanswering observer
  -- The record is made before anything else, and what follows only adds to it.
  have hfirst : logged.Extends (fun _ => True) (outcome (t.notifyOne event observer ()) s).2 :=
    within_rest (fun _ => hanswering observer) s
  have hround : Datasource.Extends (fun _ => True) (outcome (t.notifyOne event observer ()) s).2
      (outcome (notifyEach (t.notifyOne event) (observer :: rest) ()) s).2 := by
    rw [notifyEach]
    refine within_rest (R := Datasource.Extends fun _ => True) (fun answered => ?_) s
    dsimp only
    split
    · exact within_pure _
    · exact within_notifyEach (fun observer _ => hcalled observer) rest _
  have hnotify : Datasource.Extends (fun _ => True)
      (outcome (Act.notify (t.notifyOne event) event ()) s).2 (outcome (t.notify event) s).2 :=
    within_rest (fun _ => within_pure _) s
  have hsame : outcome (Act.notify (t.notifyOne event) event ()) s =
      outcome (notifyEach (t.notifyOne event) (observer :: rest) ()) s := by
    rw [Act.notify, outcome_bind_ok _ (outcome_get s), h]
  rw [hsame] at hnotify
  obtain ⟨added, hevents, -⟩ := (hfirst.trans hround).trans hnotify
  exact ⟨added, by rw [hevents, List.append_assoc]; rfl⟩

/-- A round of another event notifies nobody of a rollback. -/
theorem shows_notify (hround : outcome (t.notify event) s = (r, after))
    (hbefore : event ≠ "before rollback") (hafter : event ≠ "after rollback") :
    s.Shows Event.isRollbackNotice after [] := by
  have hextends := extends_notify ht event s
  rw [hround] at hextends
  refine hextends.shows fun e he => ?_
  cases hof : e.isOfSessions with
  | false => cases e <;> first | rfl | (rename_i seen; cases seen <;> first | rfl | cases hof)
  | true =>
    obtain ⟨name, rfl⟩ := he hof
    simp [Event.isRollbackNotice, hbefore, hafter]

/-- A round of a rollback notifies somebody exactly if somebody is registered. -/
theorem exists_shows_notify (hround : outcome (t.notify event) s = (r, after))
    (hevent : event = "before rollback" ∨ event = "after rollback") :
    ∃ shown, s.Shows Event.isRollbackNotice after shown ∧
      (shown = [] ↔ s.observers.of event = []) := by
  cases hregistered : s.observers.of event with
  | nil =>
    rw [outcome_notify_nobody t hregistered] at hround
    obtain ⟨-, rfl⟩ := Prod.mk.inj hround
    exact ⟨[], ⟨[], (List.append_nil _).symm, rfl⟩, by simp⟩
  | cons observer rest =>
    obtain ⟨added, hevents⟩ := exists_notice ht hregistered
    rw [hround] at hevents
    refine ⟨_, ⟨_, hevents, rfl⟩, ?_⟩
    have hnotice : (Event.observer event observer.name none).isRollbackNotice = true := by
      rcases hevent with rfl | rfl <;> rfl
    simp [hnotice]

end Round

theorem shows_called_commit : s.Shows Event.isRollbackNotice (called s number .commit) [] :=
  ⟨_, rfl, rfl⟩

/-- A commit that the session accepts ends as the round after it. -/
theorem Closing.exists_committed
    (h : Closing t "commit" .commit number s r after [.commit])
    (haccepted : (s.session number).plan.failure? .commit = none) :
    ∃ between, outcome (t.notify "before commit") s = (.ok (), between) ∧
      outcome (t.notify "after commit") (called between number .commit) = (r, after) := by
  cases h with
  | refused _ _ hrefused =>
    rw [haccepted] at hrefused
    cases hrefused
  | accepted hbefore _ _ hafter => exact ⟨_, before_commit ▸ hbefore, after_commit ▸ hafter⟩

/-- Rolling back a session that is in no transaction still notifies whoever is registered for
it. -/
theorem Closing.exists_shows_rollback (ht : t.Unmeddled) (hinactive : isOpen s number = false)
    (h : Closing t "rollback" .abort number s r after calls) :
    ∃ shown, s.Shows Event.isRollbackNotice after shown ∧
      (shown = [] ↔
        s.observers.of "before rollback" = [] ∧ s.observers.of "after rollback" = []) := by
  cases h with
  | prevented hbefore =>
    rw [before_rollback] at hbefore
    obtain ⟨shown, hshown, hnobody⟩ := exists_shows_notify ht hbefore (.inl rfl)
    -- Somebody is registered, since somebody fails.
    have hsomebody : s.observers.of "before rollback" ≠ [] := by
      intro hnone
      rw [outcome_notify_nobody t hnone] at hbefore
      cases hbefore
    exact ⟨shown, hshown, hnobody.trans (by simp [hsomebody])⟩
  | inactive hbefore _ hafter =>
    rw [before_rollback] at hbefore
    rw [after_rollback] at hafter
    obtain ⟨first, hfirst, hnobody⟩ := exists_shows_notify ht hbefore (.inl rfl)
    obtain ⟨second, hsecond, hnobody'⟩ := exists_shows_notify ht hafter (.inr rfl)
    refine ⟨first ++ second, hfirst.trans hsecond, ?_⟩
    rw [List.append_eq_nil_iff, hnobody, hnobody']
    refine and_congr_right fun hnone => ?_
    rw [outcome_notify_nobody t hnone] at hbefore
    rw [(Prod.mk.inj hbefore).2]
  | refused _ hopen _ | accepted _ hopen _ _ =>
    rw [hinactive] at hopen
    cases hopen

theorem Closing.shows_committed (ht : t.Unmeddled)
    (h : Closing t "commit" .commit number s r after [.commit])
    (haccepted : (s.session number).plan.failure? .commit = none) :
    s.Shows Event.isRollbackNotice after [] := by
  obtain ⟨between, hbefore, hafter⟩ := h.exists_committed haccepted
  have hfirst := shows_notify ht hbefore (by decide) (by decide)
  have hlast := shows_notify ht hafter (by decide) (by decide)
  exact (hfirst.trans shows_called_commit).trans hlast

/-- After a commit that the session accepted, somebody is notified of a rollback exactly if the
round after the commit fails with an error and leaves somebody registered. -/
theorem Resolving.exists_shows_committed (ht : t.Unmeddled)
    (h : Resolving t number s true r after calls) (hmem : .commit ∈ calls)
    (haccepted : (s.session number).plan.failure? .commit = none) :
    ∃ between, outcome (t.notify "before commit") s = (.ok (), between) ∧
      let told := outcome (t.notify "after commit") (called between number .commit)
      ∃ shown, s.Shows Event.isRollbackNotice after shown ∧
        (shown ≠ [] ↔ (∃ f, told.1 = .error f ∧ f.isError = true) ∧
          (told.2.observers.of "before rollback" ≠ [] ∨
            told.2.observers.of "after rollback" ≠ [])) := by
  have hcalled {r : Result Unit} {after : Datasource} {calls : List SessionMethod}
      (hcommit : Closing t "commit" .commit number s r after calls) (hmem : .commit ∈ calls) :
      Closing t "commit" .commit number s r after [.commit] := by
    rcases hcommit.calls_cases with rfl | ⟨rfl, -⟩
    · cases hmem
    · exact hcommit
  cases h with
  | committed hcommit =>
    obtain ⟨between, hbefore, hafter⟩ := (hcalled hcommit hmem).exists_committed haccepted
    refine ⟨between, hbefore, [], (hcalled hcommit hmem).shows_committed ht haccepted, ?_⟩
    rw [hafter]
    simp
  | interrupted hcommit hf =>
    obtain ⟨between, hbefore, hafter⟩ := (hcalled hcommit hmem).exists_committed haccepted
    refine ⟨between, hbefore, [], (hcalled hcommit hmem).shows_committed ht haccepted, ?_⟩
    rw [hafter]
    simp [hf]
  | @undone _ _ tried _ _ _ hcommit hf hback =>
    rcases List.mem_append.mp hmem with hmem | hmem
    · obtain ⟨between, hbefore, hafter⟩ := (hcalled hcommit hmem).exists_committed haccepted
      have hinactive : isOpen tried number = false := by
        refine Bool.eq_false_iff.mpr fun hopen => ?_
        obtain ⟨-, ⟨g, hg⟩ | hrefused⟩ := (hcommit.isOpen_iff ht (by decide)).mp hopen
        · rw [before_commit, hbefore] at hg
          cases hg
        · exact hrefused haccepted
      obtain ⟨shown, hshown, hnobody⟩ := hback.exists_shows_rollback ht hinactive
      refine ⟨between, hbefore, [] ++ shown,
        ((hcalled hcommit hmem).shows_committed ht haccepted).trans hshown, ?_⟩
      rw [hafter, List.nil_append, Ne, hnobody, not_and_or]
      simp [hf]
    · rcases hback.calls_cases with rfl | ⟨rfl, -⟩
      · cases hmem
      · cases List.mem_singleton.mp hmem

variable {α : Type} {body : Act α} {added : List Event}

theorem LeavesAlone.shows_rollback (hbody : LeavesAlone body) (s : Datasource) :
    s.Shows Event.isRollbackNotice (outcome body s).2 [] := by
  refine (hbody.extends_ s).shows fun e he => ?_
  cases e with
  | observer event name seen =>
    cases seen with
    | none => cases he
    | some seen => rfl
  | _ => rfl

/-- If the session accepted the commit of a block, the block notified an observer of a rollback
exactly if the round after the commit failed with an error and left somebody registered for it. -/
theorem notifies_of_committed (ht : t.Unmeddled) (hbody : LeavesAlone body)
    (hheld : (outcome t.begin_ s).2.held = some number)
    (hevents : (outcome (t.block body) s).2.events = s.events ++ added)
    (hcommitted : ∃ e ∈ added, IsCommit number e) :
    ∃ between, outcome (t.notify "before commit") (outcome body (outcome t.begin_ s).2).2 =
        (.ok (), between) ∧
      let told := outcome (t.notify "after commit") (called between number .commit)
      ((∃ e ∈ added, e.isRollbackNotice = true) ↔
        (∃ f, told.1 = .error f ∧ f.isError = true) ∧
          (told.2.observers.of "before rollback" ≠ [] ∨
            told.2.observers.of "after rollback" ≠ [])) := by
  obtain ⟨e, he, origin, rfl⟩ := hcommitted
  have hbegan : s.Shows Event.isRollbackNotice (outcome t.begin_ s).2 [] := by
    have hbegun : s.Continues (fun e => e.isRollbackNotice = false) (outcome t.begin_ s).2 :=
      continues_begin (fun e he => by cases e <;> first | rfl | cases he) s
    exact hbegun.extends_.shows fun _ h => h
  cases hentered : (outcome t.begin_ s).1 with
  | error f => exact absurd he (not_mem_of_refused (by decide) hentered hevents)
  | ok u =>
    obtain ⟨r, resolved, calls, hresolving, -, hblock, hshown⟩ :=
      exists_block ht hbody hheld hentered
    obtain ⟨hmem, haccepted⟩ := mem_calls (by decide) (hshown.eq hevents) he
    have hcommit : .commit ∈ calls := mem_of_mem_ended (by decide) hmem
    rw [hresolving.succeeded_of_commit ht hcommit] at hresolving
    obtain ⟨between, hbefore, shown, hresolved, hiff⟩ :=
      hresolving.exists_shows_committed ht hcommit haccepted.symm
    refine ⟨between, hbefore, ?_⟩
    refine Iff.trans ?_ hiff
    have hended : resolved.Shows Event.isRollbackNotice (outcome t.end_ resolved).2 [] := by
      have hends : resolved.Continues (fun e => e.isRollbackNotice = false)
          (outcome t.end_ resolved).2 :=
        continues_end (fun e he => by cases e <;> first | rfl | cases he) resolved
      exact hends.extends_.shows fun _ h => h
    have hall := ((hbegan.trans (hbody.shows_rollback _)).trans hresolved).trans hended
    rw [hblock] at hevents
    have hfilter := hall.eq hevents
    rw [List.append_nil, List.append_nil, List.nil_append] at hfilter
    rw [← hfilter, Ne, List.filter_eq_nil_iff]
    simp

def failing : Datasource :=
  { sessions := [⟨.given, {}, .bool false, none⟩]
    held := some 0
    observers := [("after commit", [⟨"sent", 0⟩]), ("before rollback", [⟨"undone", 1⟩])] }

def unsent : Transaction :=
  { source := .given
    observing := fun observer =>
      settle (if observer.name = "sent" then .error (.raised "ValueError" "unreachable")
        else .ok .null) }

theorem unmeddled_unsent : unsent.Unmeddled := fun _ => leavesSessions_settle _

def recorded : List Event :=
  [.session 0 .given .start none, .body (.session .given), .session 0 .given .commit none,
    .observer "after commit" "sent" none, .observer "before rollback" "undone" none]

theorem events_failing :
    (outcome (unsent.block (bodyOf (.ok ()))) failing).2.events = recorded := rfl

theorem isCommit_recorded : ∃ e ∈ recorded, IsCommit 0 e :=
  ⟨.session 0 .given .commit none, by simp [recorded], .given, rfl⟩

theorem notifies_of_committed_failing :
    unsent.Unmeddled ∧ LeavesAlone (bodyOf (.ok ())) ∧
    (outcome unsent.begin_ failing).2.held = some 0 ∧
    (outcome (unsent.block (bodyOf (.ok ()))) failing).2.events = failing.events ++ recorded ∧
    (∃ e ∈ recorded, IsCommit 0 e) ∧
    ∃ f, (outcome (unsent.notify "after commit")
        (called (outcome (bodyOf (.ok ())) (outcome unsent.begin_ failing).2).2 0 .commit)).1 =
      .error f ∧ f.isError = true := by
  have hbody := leavesAlone_bodyOf (.ok ())
  obtain ⟨between, hbefore, hiff⟩ :=
    notifies_of_committed unmeddled_unsent hbody rfl events_failing isCommit_recorded
  have hnotified : ∃ e ∈ recorded, e.isRollbackNotice = true :=
    ⟨.observer "before rollback" "undone" none, by simp [recorded], rfl⟩
  obtain ⟨-, rfl⟩ := Prod.mk.inj
    ((outcome_notify_nobody unsent (rfl : Observers.of _ "before commit" = [])).symm.trans hbefore)
  exact ⟨unmeddled_unsent, hbody, rfl, events_failing, isCommit_recorded, (hiff.mp hnotified).1⟩

/-- A block can notify observers of a rollback although its session has accepted the commit. -/
theorem notifies_rollback_of_committed :
    ¬ ∀ (t : Transaction) (body : Act Unit) (s : Datasource) (number : Nat) (added : List Event),
      t.Unmeddled → LeavesAlone body → (outcome t.begin_ s).2.held = some number →
      (outcome (t.block body) s).2.events = s.events ++ added →
      (∃ e ∈ added, IsCommit number e) → ∀ e ∈ added, e.isRollbackNotice = false := by
  intro hnobody
  have hunnotified := hnobody unsent (bodyOf (.ok ())) failing 0 recorded unmeddled_unsent
    (leavesAlone_bodyOf _) rfl events_failing isCommit_recorded
    (.observer "before rollback" "undone" none) (by simp [recorded])
  cases hunnotified

end Transaction
end ModelStore
