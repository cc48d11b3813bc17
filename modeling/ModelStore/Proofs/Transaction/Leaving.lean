import ModelStore.Proofs.Datasource.Shown
import ModelStore.Proofs.Transaction.Beginning

/-!
How a block is left. Closing has four courses, which are told apart by whether the round before it
fails, whether the session is in a transaction and whether it accepts the method; a block that is
left is resolved by one closing or, after a commit that fails with an error, by two. Each course
says which methods of the session are called, in their order, and what becomes of its transaction.
-/
namespace ModelStore

def Event.calls (number : Nat) (method : SessionMethod) : Event → Bool
  | .session called _ m _ => called == number && m == method
  | _ => false

/-- A method of the session is called that does not start a transaction. -/
def Event.isClosing (number : Nat) : Event → Bool
  | .session called _ method _ => called == number && method != .start
  | _ => false

def Session.call (x : Session) (number : Nat) (method : SessionMethod) : Event :=
  .session number x.origin method (x.plan.failure? method)

namespace Transaction

open Act

variable {t : Transaction} {s between after : Datasource} {number : Nat} {operation : String}
  {method : SessionMethod} {calls later : List SessionMethod} {r : Result Unit}

def isOpen (s : Datasource) (number : Nat) : Bool := (s.session number).transactionState.truthy

/-- From one datasource to the other these methods of the session were called, and nothing changed
of it but its transaction. -/
structure Follows (number : Nat) (s : Datasource) (calls : List SessionMethod)
    (after : Datasource) : Prop where
  session : ∃ state, after.session number = { s.session number with inTransaction := state }
  shown : s.Shows (Event.isClosing number) after (calls.map ((s.session number).call number))

theorem Follows.plan (h : Follows number s calls after) :
    (after.session number).plan = (s.session number).plan := by
  obtain ⟨state, hstate⟩ := h.session
  rw [hstate]

theorem Follows.trans (h : Follows number s calls between)
    (h' : Follows number between later after) : Follows number s (calls ++ later) after := by
  obtain ⟨state, hstate⟩ := h.session
  obtain ⟨state', hstate'⟩ := h'.session
  have hcall : (between.session number).call number = (s.session number).call number := by
    rw [hstate]
    rfl
  refine ⟨⟨state', by rw [hstate', hstate]⟩, ?_⟩
  rw [List.map_append]
  exact h.shown.trans (hcall ▸ h'.shown)

theorem shows_called (hmethod : method ≠ .start) :
    s.Shows (Event.isClosing number) (called s number method)
      [(s.session number).call number method] :=
  ⟨_, rfl, List.filter_eq_self.mpr (by simp [Event.isClosing, hmethod])⟩

/-- A method of a session changes nothing of it but its transaction. -/
theorem session_called (s : Datasource) (number : Nat) (method : SessionMethod) :
    ∃ state, (called s number method).session number =
      { s.session number with inTransaction := state } := by
  cases hrefused : (s.session number).plan.failure? method with
  | some f =>
    refine ⟨(s.session number).inTransaction, ?_⟩
    simp only [called, hrefused, Option.isSome_some, if_true]
    rfl
  | none =>
    by_cases hnumber : number < s.sessions.length
    · refine ⟨.bool method.leavesOpen, ?_⟩
      simp only [called, hrefused, Option.isSome_none, Bool.false_eq_true, if_false]
      rw [Datasource.session, List.getElem?_set_self hnumber, Option.getD_some]
    · have hset : (called s number method).sessions = s.sessions := by
        simp only [called, hrefused, Option.isSome_none, Bool.false_eq_true, if_false]
        exact List.set_eq_of_length_le (by omega)
      refine ⟨(s.session number).inTransaction, ?_⟩
      rw [Datasource.session, hset]
      rfl

/-- A refusal leaves the session as it is. -/
theorem session_called_refused {f : Failure}
    (hrefused : (s.session number).plan.failure? method = some f) :
    (called s number method).session number = s.session number := by
  simp only [called, hrefused, Option.isSome_some, if_true]
  rfl

theorem follows_called (hmethod : method ≠ .start) :
    Follows number s [method] (called s number method) :=
  ⟨session_called s number method, shows_called hmethod⟩

section Round

variable (ht : t.Unmeddled) {event : String}
include ht

theorem session_of_notify (hround : outcome (t.notify event) s = (r, between)) :
    between.session number = s.session number := by
  have hkept : between.holding = s.holding := by
    have hkept := keeps_notify ht event s
    rw [hround] at hkept
    exact hkept
  have hsessions : between.sessions = s.sessions := congrArg Prod.snd hkept
  rw [Datasource.session, Datasource.session, hsessions]

theorem held_of_notify (hround : outcome (t.notify event) s = (r, between)) :
    between.held = s.held := by
  have hkept := keeps_notify ht event s
  rw [hround] at hkept
  exact congrArg Prod.fst hkept

theorem isOpen_of_notify (hround : outcome (t.notify event) s = (r, between)) :
    isOpen between number = isOpen s number := by
  rw [isOpen, session_of_notify ht hround, isOpen]

/-- A round calls no method of a session. -/
theorem follows_of_notify (hround : outcome (t.notify event) s = (r, between)) :
    Follows number s [] between := by
  refine ⟨⟨(s.session number).inTransaction, session_of_notify ht hround⟩, ?_⟩
  have hextends := extends_notify ht event s
  rw [hround] at hextends
  refine hextends.shows fun e he => ?_
  cases e with
  | session called origin m failure =>
    obtain ⟨name, hnotice⟩ := he rfl
    cases hnotice
  | _ => rfl

end Round

theorem before_commit : "before " ++ "commit" = "before commit" := by decide

theorem after_commit : "after " ++ "commit" = "after commit" := by decide

theorem before_rollback : "before " ++ "rollback" = "before rollback" := by decide

theorem after_rollback : "after " ++ "rollback" = "after rollback" := by decide

/-- The courses of closing the transaction of the session that is held: how it ends, the datasource
in the end, and the methods of the session that were called. -/
inductive Closing (t : Transaction) (operation : String) (method : SessionMethod) (number : Nat)
    (s : Datasource) : Result Unit → Datasource → List SessionMethod → Prop where
  /-- An observer fails before anything is closed. -/
  | prevented {f : Failure} {between : Datasource}
      (hbefore : outcome (t.notify ("before " ++ operation)) s = (.error f, between)) :
      Closing t operation method number s (.error f) between []
  /-- There is no transaction to close. -/
  | inactive {r : Result Unit} {between after : Datasource}
      (hbefore : outcome (t.notify ("before " ++ operation)) s = (.ok (), between))
      (hinactive : isOpen s number = false)
      (hafter : outcome (t.notify ("after " ++ operation)) between = (r, after)) :
      Closing t operation method number s r after []
  | refused {f : Failure} {between : Datasource}
      (hbefore : outcome (t.notify ("before " ++ operation)) s = (.ok (), between))
      (hopen : isOpen s number = true)
      (hrefused : (s.session number).plan.failure? method = some f) :
      Closing t operation method number s (.error f) (called between number method) [method]
  | accepted {r : Result Unit} {between after : Datasource}
      (hbefore : outcome (t.notify ("before " ++ operation)) s = (.ok (), between))
      (hopen : isOpen s number = true)
      (haccepted : (s.session number).plan.failure? method = none)
      (hafter : outcome (t.notify ("after " ++ operation)) (called between number method) =
        (r, after)) :
      Closing t operation method number s r after [method]

theorem outcome_close (hheld : s.held = some number) :
    outcome (t.close operation method) s =
      outcome (do
        t.notify ("before " ++ operation)
        closeActive method
        t.notify ("after " ++ operation)) s := by
  rw [close, outcome_bind_ok _ (outcome_get s), hheld]

theorem outcome_closeActive_inactive (hheld : s.held = some number)
    (hinactive : isOpen s number = false) : outcome (closeActive method) s = (.ok (), s) := by
  rw [closeActive, outcome_bind_ok _ (outcome_get s), hheld]
  dsimp only
  rw [outcome_bind_ok _ (outcome_isActive hinactive)]
  rfl

theorem outcome_closeActive_open (hheld : s.held = some number) (hopen : isOpen s number = true) :
    outcome (closeActive method) s = outcome (callSession number method) s := by
  rw [closeActive, outcome_bind_ok _ (outcome_get s), hheld]
  dsimp only
  rw [outcome_bind_ok _ (outcome_isActive hopen)]
  rfl

theorem exists_closing (ht : t.Unmeddled) (operation : String) (method : SessionMethod)
    (hheld : s.held = some number) :
    ∃ calls, Closing t operation method number s (outcome (t.close operation method) s).1
      (outcome (t.close operation method) s).2 calls := by
  rw [outcome_close hheld]
  rcases hbefore : outcome (t.notify ("before " ++ operation)) s with ⟨r, between⟩
  cases r with
  | error f =>
    rw [outcome_bind_error _ hbefore]
    exact ⟨[], .prevented hbefore⟩
  | ok u =>
    have hheld' : between.held = some number := (held_of_notify ht hbefore).trans hheld
    have hopen' : isOpen between number = isOpen s number := isOpen_of_notify ht hbefore
    rw [outcome_bind_ok _ hbefore]
    cases hopen : isOpen s number with
    | false =>
      rw [outcome_bind_ok _ (outcome_closeActive_inactive hheld' (hopen'.trans hopen))]
      exact ⟨[], .inactive hbefore hopen rfl⟩
    | true =>
      have hcalled : outcome (closeActive method) between =
          outcome (callSession number method) between :=
        outcome_closeActive_open hheld' (hopen'.trans hopen)
      have hplan : between.session number = s.session number := session_of_notify ht hbefore
      cases hrefused : (s.session number).plan.failure? method with
      | some f =>
        have hfailed := hcalled.trans (outcome_callSession_refused (hplan ▸ hrefused))
        rw [outcome_bind_error _ hfailed]
        exact ⟨[method], .refused hbefore hopen hrefused⟩
      | none =>
        have hdone := hcalled.trans (outcome_callSession_accepted (hplan ▸ hrefused))
        rw [outcome_bind_ok _ hdone]
        exact ⟨[method], .accepted hbefore hopen hrefused rfl⟩

namespace Closing

variable (ht : t.Unmeddled) (hmethod : method ≠ .start)

include ht hmethod in
theorem follows (h : Closing t operation method number s r after calls) :
    Follows number s calls after := by
  have hcalled {between : Datasource}
      (hbefore : outcome (t.notify ("before " ++ operation)) s = (.ok (), between)) :
      Follows number s [method] (called between number method) :=
    (follows_of_notify ht hbefore).trans (follows_called hmethod)
  cases h with
  | prevented hbefore => exact follows_of_notify ht hbefore
  | inactive hbefore _ hafter =>
    exact (follows_of_notify ht hbefore).trans (follows_of_notify ht hafter)
  | refused hbefore _ _ => exact hcalled hbefore
  | accepted hbefore _ _ hafter => exact (hcalled hbefore).trans (follows_of_notify ht hafter)

include ht hmethod in
/-- The transaction stays open exactly if it was, and the round before the method or the method
fails. -/
theorem isOpen_iff (h : Closing t operation method number s r after calls) :
    isOpen after number = true ↔ isOpen s number = true ∧
      ((∃ f, (outcome (t.notify ("before " ++ operation)) s).1 = .error f) ∨
        (s.session number).plan.failure? method ≠ none) := by
  have hpassed {between : Datasource}
      (hbefore : outcome (t.notify ("before " ++ operation)) s = (.ok (), between)) :
      ¬ ∃ f, (outcome (t.notify ("before " ++ operation)) s).1 = .error f := by
    rw [hbefore]
    simp
  cases h with
  | prevented hbefore =>
    rw [isOpen_of_notify ht hbefore, hbefore]
    simp
  | inactive hbefore hinactive hafter =>
    rw [isOpen_of_notify ht hafter, isOpen_of_notify ht hbefore, hinactive]
    simp
  | @refused f between hbefore hopen hrefused =>
    have hplan : between.session number = s.session number := session_of_notify ht hbefore
    have hkept : isOpen (called between number method) number = true := by
      rw [isOpen, session_called_refused (hplan ▸ hrefused), hplan]
      exact hopen
    simp [hkept, hopen, hrefused]
  | @accepted _ between _ hbefore hopen haccepted hafter =>
    have hplan : between.session number = s.session number := session_of_notify ht hbefore
    have hleaves : method.leavesOpen = false := by
      cases method <;> first | rfl | exact absurd rfl hmethod
    have hclosed : isOpen (called between number method) number = false :=
      inactive_called (hplan ▸ haccepted) hleaves
    rw [isOpen_of_notify ht hafter, hclosed]
    simp [hpassed hbefore, haccepted]

/-- A method is called once at most, and only of a session in a transaction. -/
theorem calls_cases (h : Closing t operation method number s r after calls) :
    calls = [] ∨ calls = [method] ∧ isOpen s number = true := by
  cases h with
  | prevented _ => exact .inl rfl
  | inactive _ _ _ => exact .inl rfl
  | refused _ hopen _ => exact .inr ⟨rfl, hopen⟩
  | accepted _ hopen _ _ => exact .inr ⟨rfl, hopen⟩

end Closing

/-- The courses of a block that is left: its body failed, it is committed, the commit is
interrupted, or it is rolled back after a commit that failed with an error. -/
inductive Resolving (t : Transaction) (number : Nat) (s : Datasource) :
    Bool → Result Unit → Datasource → List SessionMethod → Prop where
  | rolledBack {r : Result Unit} {after : Datasource} {calls : List SessionMethod}
      (hback : Closing t "rollback" .abort number s r after calls) :
      Resolving t number s false r after calls
  | committed {after : Datasource} {calls : List SessionMethod}
      (hcommit : Closing t "commit" .commit number s (.ok ()) after calls) :
      Resolving t number s true (.ok ()) after calls
  | interrupted {f : Failure} {after : Datasource} {calls : List SessionMethod}
      (hcommit : Closing t "commit" .commit number s (.error f) after calls)
      (hf : f.isError = false) : Resolving t number s true (.error f) after calls
  | undone {f : Failure} {r : Result Unit} {between after : Datasource}
      {calls later : List SessionMethod}
      (hcommit : Closing t "commit" .commit number s (.error f) between calls)
      (hf : f.isError = true) (hback : Closing t "rollback" .abort number between r after later) :
      Resolving t number s true (r.bind fun _ => .error f) after (calls ++ later)

/-- What a block does before its session is ended. -/
def resolve (t : Transaction) (succeeded : Bool) : Act Unit :=
  if succeeded then t.commitOrRollback else t.rollback

theorem outcome_bind_throw (act : Act Unit) (f : Failure) (s : Datasource) :
    outcome (do act; (throw f : Act Unit)) s =
      ((outcome act s).1.bind fun _ => .error f, (outcome act s).2) := by
  rw [outcome_bind]
  rcases outcome act s with ⟨r, after⟩
  cases r <;> rfl

theorem within_resolve {R : Datasource → Datasource → Prop} [IsPreorder Datasource R]
    (hcommit : Within R t.commit) (hrollback : Within R t.rollback) (succeeded : Bool) :
    Within R (t.resolve succeeded) := by
  cases succeeded with
  | false => exact hrollback
  | true =>
    refine (within_rescue hcommit).bind fun committed => ?_
    split
    · exact within_pure _
    · exact hrollback.bind fun _ => within_throw _

theorem exists_resolving (ht : t.Unmeddled) (hheld : s.held = some number) (succeeded : Bool) :
    ∃ calls, Resolving t number s succeeded (outcome (t.resolve succeeded) s).1
      (outcome (t.resolve succeeded) s).2 calls := by
  cases succeeded with
  | false =>
    obtain ⟨calls, hback⟩ := exists_closing ht "rollback" .abort hheld
    exact ⟨calls, .rolledBack hback⟩
  | true =>
    obtain ⟨calls, hcommit⟩ := exists_closing ht "commit" .commit hheld
    have hkept := keeps_close ht "commit" .commit s
    have hrescued := outcome_rescue t.commit s
    change Closing t "commit" .commit number s (outcome t.commit s).1 (outcome t.commit s).2
      calls at hcommit
    change (outcome t.commit s).2.tally = s.tally at hkept
    have hresolve : t.resolve true = t.commitOrRollback := rfl
    rw [hresolve, commitOrRollback]
    generalize outcome t.commit s = done at hcommit hkept hrescued
    obtain ⟨r, between⟩ := done
    have hheld' : between.held = some number := (Datasource.held_of_tally hkept).trans hheld
    cases hresult : r.rescued with
    | error f =>
      obtain ⟨rfl, hf⟩ := Result.rescued_eq_error.mp hresult
      rw [hresult] at hrescued
      rw [outcome_bind_error _ hrescued]
      exact ⟨calls, .interrupted hcommit hf⟩
    | ok ended =>
      rw [hresult] at hrescued
      rw [outcome_bind_ok _ hrescued]
      cases ended with
      | ok u =>
        obtain rfl := Result.rescued_eq_ok_ok.mp hresult
        exact ⟨calls, .committed hcommit⟩
      | error f =>
        obtain ⟨rfl, hf⟩ := Result.rescued_eq_ok_error.mp hresult
        obtain ⟨later, hback⟩ := exists_closing ht "rollback" .abort hheld'
        dsimp only
        rw [outcome_bind_throw]
        exact ⟨calls ++ later, .undone hcommit hf hback⟩

namespace Resolving

variable {succeeded : Bool} (ht : t.Unmeddled)
include ht

theorem follows (h : Resolving t number s succeeded r after calls) :
    Follows number s calls after := by
  cases h with
  | rolledBack hback => exact hback.follows ht (by decide)
  | committed hcommit => exact hcommit.follows ht (by decide)
  | interrupted hcommit _ => exact hcommit.follows ht (by decide)
  | undone hcommit _ hback =>
    exact (hcommit.follows ht (by decide)).trans (hback.follows ht (by decide))

/-- At most a commit is called, of a block that succeeded, and then at most an abort, which does
not follow a commit that was accepted. -/
theorem exists_calls_eq (h : Resolving t number s succeeded r after calls) :
    ∃ commits aborts, calls = commits ++ aborts ∧
      (commits = [] ∨ commits = [.commit] ∧ succeeded = true) ∧
      (aborts = [] ∨ aborts = [.abort] ∧
        (commits = [.commit] → (s.session number).plan.failure? .commit ≠ none)) := by
  cases h with
  | rolledBack hback =>
    refine ⟨[], calls, rfl, .inl rfl, hback.calls_cases.imp_right fun h => ⟨h.1, ?_⟩⟩
    simp
  | committed hcommit =>
    refine ⟨calls, [], (List.append_nil _).symm, ?_, .inl rfl⟩
    exact hcommit.calls_cases.imp_right fun h => ⟨h.1, rfl⟩
  | interrupted hcommit _ =>
    refine ⟨calls, [], (List.append_nil _).symm, ?_, .inl rfl⟩
    exact hcommit.calls_cases.imp_right fun h => ⟨h.1, rfl⟩
  | @undone _ _ between _ commits aborts hcommit _ hback =>
    refine ⟨commits, aborts, rfl, hcommit.calls_cases.imp_right fun h => ⟨h.1, rfl⟩, ?_⟩
    refine hback.calls_cases.imp_right fun h => ⟨h.1, ?_⟩
    rintro rfl haccepted
    -- After a commit that is accepted the session is in no transaction, and nothing is aborted.
    obtain ⟨-, hfailed | hrefused⟩ := (hcommit.isOpen_iff ht (by decide)).mp h.2
    · obtain ⟨f, hf⟩ := hfailed
      cases hcommit with
      | refused hbefore _ _ | accepted hbefore _ _ _ =>
        rw [hbefore] at hf
        cases hf
    · exact hrefused haccepted

theorem succeeded_of_commit (h : Resolving t number s succeeded r after calls)
    (hcommit : .commit ∈ calls) : succeeded = true := by
  obtain ⟨commits, aborts, rfl, hcommits, haborts⟩ := h.exists_calls_eq ht
  rcases hcommits with rfl | ⟨-, hsucceeded⟩
  · rcases haborts with rfl | ⟨rfl, -⟩ <;> simp at hcommit
  · exact hsucceeded

end Resolving

section End

variable {t : Transaction}

theorem outcome_end_nothing (hheld : s.held = none) : outcome t.end_ s = (.ok (), s) := by
  rw [end_, outcome_bind_ok _ (outcome_get s), hheld]
  rfl

theorem outcome_end_given (howns : t.ownsSession = false) (s : Datasource) :
    outcome t.end_ s = (.ok (), s) := by
  rw [end_, outcome_bind_ok _ (outcome_get s)]
  cases s.held with
  | none => rfl
  | some number =>
    dsimp only
    rw [howns, if_neg Bool.false_ne_true]
    rfl

theorem outcome_end_refused {f : Failure} (hheld : s.held = some number)
    (howns : t.ownsSession = true) (hrefused : (s.session number).plan.failure? .end_ = some f) :
    outcome t.end_ s = (.error f, called s number .end_) := by
  rw [end_, outcome_bind_ok _ (outcome_get s), hheld]
  dsimp only
  rw [if_pos howns]
  exact outcome_bind_error _ (outcome_callSession_refused hrefused)

def released (s : Datasource) (number : Nat) : Datasource :=
  let ended := called s number .end_
  let session := s.session number
  { ended with
    events := ended.events ++
      if session.plan.endIsAwaited then [.sessionEnded number session.origin] else []
    held := none }

theorem outcome_end_accepted (hheld : s.held = some number) (howns : t.ownsSession = true)
    (haccepted : (s.session number).plan.failure? .end_ = none) :
    outcome t.end_ s = (.ok (), released s number) := by
  rw [end_, outcome_bind_ok _ (outcome_get s), hheld]
  dsimp only
  rw [if_pos howns, outcome_bind_ok _ (outcome_callSession_accepted haccepted)]
  obtain ⟨state, hstate⟩ := session_called s number .end_
  rw [outcome_bind_ok _ (outcome_get _), hstate]
  unfold released
  cases hawaited : (s.session number).plan.endIsAwaited with
  | true =>
    simp only [hawaited, if_true]
    rfl
  | false =>
    simp only [hawaited, Bool.false_eq_true, if_false, List.append_nil]
    rfl

theorem follows_end (hheld : s.held = some number) (howns : t.ownsSession = true) :
    Follows number s [.end_] (outcome t.end_ s).2 := by
  cases hrefused : (s.session number).plan.failure? .end_ with
  | some f =>
    rw [outcome_end_refused hheld howns hrefused]
    exact follows_called (by decide)
  | none =>
    rw [outcome_end_accepted hheld howns hrefused]
    have hawaited : Follows number (called s number .end_) [] (released s number) := by
      refine ⟨⟨((called s number .end_).session number).inTransaction, rfl⟩, _, rfl, ?_⟩
      split <;> rfl
    exact (follows_called (by decide)).trans hawaited

end End

section Leave

variable {t : Transaction}

theorem outcome_andFinally (act last : Act Unit) (s : Datasource) :
    outcome (andFinally act last) s =
      ((outcome last (outcome act s).2).1.bind fun _ => (outcome act s).1,
        (outcome last (outcome act s).2).2) := by
  rw [andFinally, outcome_bind_ok _ (outcome_attempt act s), outcome_bind]
  rcases outcome last (outcome act s).2 with ⟨r, after⟩
  cases r with
  | error f => rfl
  | ok u => exact outcome_settle _ _

theorem outcome_leave_nothing (hheld : s.held = none) (succeeded : Bool) :
    outcome (t.leave succeeded) s = (.ok (), s) := by
  rw [leave, outcome_bind_ok _ (outcome_get s), hheld]
  rfl

theorem outcome_leave (hheld : s.held = some number) (succeeded : Bool) :
    outcome (t.leave succeeded) s =
      outcome (andFinally (t.resolve succeeded) t.end_) s := by
  rw [leave, outcome_bind_ok _ (outcome_get s), hheld]
  rfl

theorem keeps_resolve (ht : t.Unmeddled) (succeeded : Bool) :
    Keeps Datasource.tally (t.resolve succeeded) :=
  within_resolve (keeps_close ht _ _) (keeps_close ht _ _) succeeded

/-- A block that is left calls what resolving it calls, and the end of a session of its own. -/
theorem exists_leaving (ht : t.Unmeddled) (hheld : s.held = some number) (succeeded : Bool) :
    ∃ r between calls, Resolving t number s succeeded r between calls ∧
      between.held = some number ∧
      outcome (t.leave succeeded) s =
        ((outcome t.end_ between).1.bind fun _ => r, (outcome t.end_ between).2) ∧
      Follows number s (calls ++ if t.ownsSession then [.end_] else [])
        (outcome (t.leave succeeded) s).2 := by
  obtain ⟨calls, hresolving⟩ := exists_resolving ht hheld succeeded
  have hkept := Datasource.held_of_tally (keeps_resolve ht succeeded s)
  have hheld' : (outcome (t.resolve succeeded) s).2.held = some number := hkept.trans hheld
  have hleave : outcome (t.leave succeeded) s =
      ((outcome t.end_ (outcome (t.resolve succeeded) s).2).1.bind fun _ =>
          (outcome (t.resolve succeeded) s).1,
        (outcome t.end_ (outcome (t.resolve succeeded) s).2).2) := by
    rw [outcome_leave hheld, outcome_andFinally]
  refine ⟨_, _, calls, hresolving, hheld', hleave, ?_⟩
  rw [hleave]
  refine (hresolving.follows ht).trans ?_
  cases howns : t.ownsSession with
  | true => exact follows_end hheld' howns
  | false =>
    rw [outcome_end_given howns]
    exact ⟨⟨((outcome (t.resolve succeeded) s).2.session number).inTransaction, rfl⟩, [],
      (List.append_nil _).symm, rfl⟩

end Leave

section Block

variable {α : Type} {t : Transaction} {body : Act α}

theorem outcome_block_refused {f : Failure} (h : (outcome t.begin_ s).1 = .error f) :
    outcome (t.block body) s = (.error f, (outcome t.begin_ s).2) := by
  rcases hbegin : outcome t.begin_ s with ⟨r, entered⟩
  rw [hbegin] at h
  obtain rfl : r = .error f := h
  exact outcome_bind_error _ hbegin

/-- A block that is entered is left, and a failure on leaving wins over one of the body. -/
theorem outcome_block_entered (h : (outcome t.begin_ s).1 = .ok ()) :
    outcome (t.block body) s =
      let ran := outcome body (outcome t.begin_ s).2
      let left := outcome (t.leave ran.1.isOk) ran.2
      (left.1.bind fun _ => ran.1, left.2) := by
  rcases hbegin : outcome t.begin_ s with ⟨r, entered⟩
  rw [hbegin] at h
  obtain rfl : r = .ok () := h
  rw [block, outcome_bind_ok _ hbegin, outcome_bind_ok _ (outcome_attempt body entered)]
  dsimp only
  rcases outcome body entered with ⟨ended, ran⟩
  cases ended with
  | error f =>
    dsimp only [Except.isOk, Except.toBool]
    rw [outcome_bind]
    rcases outcome (t.leave false) ran with ⟨r, after⟩
    cases r <;> rfl
  | ok a =>
    dsimp only [Except.isOk, Except.toBool]
    rw [outcome_bind]
    rcases outcome (t.leave true) ran with ⟨r, after⟩
    cases r <;> rfl

end Block

/-- Beginning ends no session. -/
theorem extends_begin (t : Transaction) (s : Datasource) :
    s.Extends (fun e => e.isOfEnd = false) (outcome t.begin_ s).2 := by
  refine (continues_begin ?_ s).extends_
  intro e he
  cases e with
  | session called origin method failure =>
    have hstart : method = .start := by simpa [Event.isOfBegin] using he
    simp [Event.isOfEnd, hstart]
  | _ => first | rfl | cases he

end Transaction
end ModelStore
