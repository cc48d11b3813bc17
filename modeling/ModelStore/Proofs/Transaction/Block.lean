import ModelStore.Proofs.Transaction.Leaving

/-!
Blocks around a body. A block that cannot be entered does nothing else; one that is entered runs
its body and is left, whatever the body does. Of a session that its body leaves alone it calls,
after it was entered, what leaving it calls.
-/
namespace ModelStore

open Act

/-- The event belongs to the transaction that holds the session: one of its observers is notified,
or a method of the session is called. -/
def Event.isOf (held : Option Nat) : Event → Bool
  | .observer _ _ none => true
  | .session number .. => held == some number
  | _ => false

namespace Transaction

/-- The body leaves the transaction alone: the session that is held, and what belongs to it. -/
structure LeavesAlone {α : Type} (body : Act α) : Prop where
  held : ∀ s, (outcome body s).2.held = s.held
  extends_ : ∀ s : Datasource, s.Extends (fun e => e.isOf s.held = false) (outcome body s).2

variable {α : Type} {t : Transaction} {body : Act α} {s : Datasource} {number : Nat}

theorem outcome_bodyOf (r : Result Unit) (hheld : s.held = some number) :
    outcome (bodyOf r) s =
      (r, { s with events := s.events ++ [.body (.session (s.session number).origin)] }) := by
  have hsession := outcome_session s
  rw [hheld] at hsession
  rw [bodyOf, outcome_bind_ok _ hsession]
  cases r <;> rfl

theorem outcome_bodyOf_nothing (r : Result Unit) (hheld : s.held = none) :
    outcome (bodyOf r) s = (.error .sessionMissing, s) := by
  have hsession := outcome_session s
  rw [hheld] at hsession
  exact outcome_bind_error _ hsession

/-- A body that only looks at the session leaves the transaction alone. -/
theorem leavesAlone_bodyOf (r : Result Unit) : LeavesAlone (bodyOf r) := by
  constructor
  · intro s
    cases hheld : s.held with
    | none => rw [outcome_bodyOf_nothing r hheld, hheld]
    | some number => rw [outcome_bodyOf r hheld, hheld]
  · intro s
    cases hheld : s.held with
    | none =>
      rw [outcome_bodyOf_nothing r hheld]
      exact .of_eq rfl
    | some number =>
      rw [outcome_bodyOf r hheld]
      exact ⟨[_], rfl, by simp [Event.isOf]⟩

theorem not_isClosing_of_begin {e : Event} (h : e.isOfBegin = true) :
    e.isClosing number = false := by
  cases e with
  | session called origin method failure =>
    have hstart : method = .start := by simpa [Event.isOfBegin] using h
    simp [Event.isClosing, hstart]
  | _ => rfl

theorem not_isClosing_of_not_isOf {e : Event} (h : e.isOf (some number) = false) :
    e.isClosing number = false := by
  cases e with
  | session called origin method failure =>
    have hother : number ≠ called := by simpa [Event.isOf] using h
    simp [Event.isClosing, hother.symm]
  | _ => rfl

theorem shows_begin (t : Transaction) (s : Datasource) (number : Nat) :
    s.Shows (Event.isClosing number) (outcome t.begin_ s).2 [] := by
  have hbegun : s.Continues (fun e => e.isClosing number = false) (outcome t.begin_ s).2 :=
    continues_begin (fun e he => not_isClosing_of_begin he) s
  exact hbegun.extends_.shows fun _ h => h

theorem LeavesAlone.shows (hbody : LeavesAlone body) (hheld : s.held = some number) :
    s.Shows (Event.isClosing number) (outcome body s).2 [] := by
  refine (hbody.extends_ s).shows ?_
  intro e he
  rw [hheld] at he
  exact not_isClosing_of_not_isOf he

/-- A block that is entered and whose body leaves its transaction alone is resolved, and ends its
session if that is its own. Nothing else in it closes the session. -/
theorem exists_block (ht : t.Unmeddled) (hbody : LeavesAlone body)
    (hheld : (outcome t.begin_ s).2.held = some number)
    (hentered : (outcome t.begin_ s).1 = .ok ()) :
    let ran := outcome body (outcome t.begin_ s).2
    ∃ r between calls, Resolving t number ran.2 ran.1.isOk r between calls ∧
      between.held = some number ∧
      outcome (t.block body) s =
        (((outcome t.end_ between).1.bind fun _ => r).bind fun _ => ran.1,
          (outcome t.end_ between).2) ∧
      s.Shows (Event.isClosing number) (outcome (t.block body) s).2
        ((calls ++ if t.ownsSession then [SessionMethod.end_] else []).map
          ((ran.2.session number).call number)) := by
  intro ran
  have hheld' : ran.2.held = some number := (hbody.held _).trans hheld
  obtain ⟨r, between, calls, hresolving, hbetween, hleave, hfollows⟩ :=
    exists_leaving ht hheld' ran.1.isOk
  have hblock : outcome (t.block body) s =
      ((outcome (t.leave ran.1.isOk) ran.2).1.bind fun _ => ran.1,
        (outcome (t.leave ran.1.isOk) ran.2).2) := outcome_block_entered hentered
  have hshown := ((shows_begin t s number).trans (hbody.shows hheld)).trans hfollows.shown
  refine ⟨r, between, calls, hresolving, hbetween, ?_, ?_⟩
  · rw [hblock, hleave]
  · rw [hblock]
    exact hshown

/-- A block that is not entered closes nothing. -/
theorem filter_of_refused {f : Failure} {added : List Event}
    (hentered : (outcome t.begin_ s).1 = .error f)
    (hevents : (outcome (t.block body) s).2.events = s.events ++ added) :
    added.filter (Event.isClosing number) = [] := by
  rw [outcome_block_refused hentered] at hevents
  exact (shows_begin t s number).eq hevents

theorem not_mem_of_refused {f : Failure} {added : List Event} {origin : SessionOrigin}
    {method : SessionMethod} {failure : Option Failure} (hmethod : method ≠ .start)
    (hentered : (outcome t.begin_ s).1 = .error f)
    (hevents : (outcome (t.block body) s).2.events = s.events ++ added) :
    Event.session number origin method failure ∉ added := by
  intro hmem
  have hnothing : added.filter (Event.isClosing number) = [] := filter_of_refused hentered hevents
  exact List.filter_eq_nil_iff.mp hnothing _ hmem (by simp [Event.isClosing, hmethod])

def IsCommit (number : Nat) (e : Event) : Prop :=
  ∃ origin, e = .session number origin .commit none

section Recorded

variable {number : Nat} {x : Session} {calls : List SessionMethod} {added : List Event}

/-- What the record holds are calls, and they end as the session does it. -/
theorem mem_calls {method : SessionMethod} {origin : SessionOrigin} {failure : Option Failure}
    (hmethod : method ≠ .start)
    (hadded : added.filter (Event.isClosing number) = calls.map (x.call number)) :
    .session number origin method failure ∈ added →
      method ∈ calls ∧ failure = x.plan.failure? method := by
  intro hmem
  have hfiltered : Event.session number origin method failure ∈
      added.filter (Event.isClosing number) :=
    List.mem_filter.mpr ⟨hmem, by simp [Event.isClosing, hmethod]⟩
  rw [hadded] at hfiltered
  obtain ⟨m, hm, hcall⟩ := List.mem_map.mp hfiltered
  cases hcall
  exact ⟨hm, rfl⟩

theorem mem_of_mem_ended {method : SessionMethod} (hmethod : method ≠ .end_) {owns : Bool}
    (h : method ∈ calls ++ if owns then [SessionMethod.end_] else []) : method ∈ calls := by
  rcases List.mem_append.mp h with hmem | hmem
  · exact hmem
  · cases owns with
    | false => cases hmem
    | true => exact absurd (List.mem_singleton.mp hmem) hmethod

end Recorded

end Transaction
end ModelStore
