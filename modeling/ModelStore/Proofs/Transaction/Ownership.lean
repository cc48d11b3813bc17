import ModelStore.Proofs.Transaction.SessionRelease

/-!
Sessions over any use of a transaction. Whatever is called of it, in whatever order, and whatever
fails, a transaction with sessions of its own has ended every session that it opened but the one
that it holds; one around a given session neither ends it nor lets go of it, as far as its observers leave the
sessions alone.
-/
namespace ModelStore

/-- The end of the session was called for, and the session accepted it. -/
def Datasource.Ended (s : Datasource) (number : Nat) : Prop :=
  ∃ origin, Event.session number origin .end_ none ∈ s.events

def Datasource.Opened (first : Nat) (s : Datasource) (number : Nat) : Prop :=
  first ≤ number ∧ number < s.sessions.length

/-- The world around a transaction changes: how it replies, what it refuses, who observes. The
session that is held, the number of sessions and the record stay. -/
structure Datasource.Rescripts (s after : Datasource) : Prop where
  tally : after.tally = s.tally
  events : after.events = s.events

namespace Transaction

open Act Datasource

/-- What can be called of a transaction. -/
inductive Operation where
  | begin_
  | commit
  | rollback
  | end_

def perform (t : Transaction) : Operation → Act Unit
  | .begin_ => t.begin_
  | .commit => t.commit
  | .rollback => t.rollback
  | .end_ => t.end_

/-- Operations one after the other, each ending as it may, in a world that changes between them. -/
inductive Runs (t : Transaction) (start : Datasource) : Datasource → Prop where
  | start : Runs t start start
  | perform {s : Datasource} (operation : Operation) (hruns : Runs t start s) :
      Runs t start (outcome (t.perform operation) s).2
  | rescript {s after : Datasource} (hruns : Runs t start s) (hafter : s.Rescripts after) :
      Runs t start after

variable {t : Transaction} {s after : Datasource} {first number : Nat}

theorem ended_iff_of_extends (h : s.Extends (fun e => e.isOfEnd = false) after) (number : Nat) :
    after.Ended number ↔ s.Ended number := by
  obtain ⟨added, hevents, hadded⟩ := h
  constructor
  · rintro ⟨origin, hmem⟩
    rw [hevents] at hmem
    rcases List.mem_append.mp hmem with hmem | hmem
    · exact ⟨origin, hmem⟩
    · cases hadded _ hmem
  · rintro ⟨origin, hmem⟩
    exact ⟨origin, hevents ▸ List.mem_append_left added hmem⟩

/-- The sessions that a transaction opened, of its own, are accounted for. -/
structure Accounted (first : Nat) (s : Datasource) : Prop where
  bound : first ≤ s.sessions.length
  opened : ∀ number, s.Opened first number → s.held = some number ∨ s.Ended number
  held : ∀ number, s.held = some number → s.Opened first number ∧ ¬ s.Ended number
  /-- Only sessions that there are have been ended. -/
  known : ∀ number, s.Ended number → number < s.sessions.length

/-- Nothing is opened, let go of or ended. -/
theorem Accounted.kept (h : Accounted first s) (htally : after.tally = s.tally)
    (hended : ∀ number, after.Ended number ↔ s.Ended number) : Accounted first after := by
  have hheld := held_of_tally htally
  have hlength := length_of_tally htally
  refine ⟨?_, ?_, ?_, ?_⟩
  · rw [hlength]
    exact h.bound
  · intro number hopened
    rw [hheld, hended]
    exact h.opened number ⟨hopened.1, hlength ▸ hopened.2⟩
  · intro number hnumber
    rw [hended, Opened, hlength]
    exact h.held number (hheld ▸ hnumber)
  · intro number hnumber
    rw [hlength]
    exact h.known number ((hended number).mp hnumber)

theorem Accounted.begin (h : Accounted first s) :
    Accounted first (outcome t.begin_ s).2 := by
  have hended := ended_iff_of_extends (extends_begin t s)
  rcases tally_begin t s with htally | ⟨hnone, -, htally⟩
  · exact h.kept htally hended
  · have hheld : (outcome t.begin_ s).2.held = some s.sessions.length := congrArg Prod.fst htally
    have hlength : (outcome t.begin_ s).2.sessions.length = s.sessions.length + 1 :=
      congrArg Prod.snd htally
    have hfirst := h.bound
    -- Nothing was held, so that all sessions before the new one have been ended.
    refine ⟨by omega, ?_, ?_, ?_⟩
    · intro number hopened
      by_cases hnew : number = s.sessions.length
      · exact .inl (hnew ▸ hheld)
      · have hold : s.Opened first number := ⟨hopened.1, by have := hopened.2; omega⟩
        rcases h.opened number hold with hnumber | hnumber
        · rw [hnone] at hnumber
          cases hnumber
        · exact .inr ((hended number).mpr hnumber)
    · intro number hnumber
      obtain rfl : s.sessions.length = number := Option.some.inj (hheld.symm.trans hnumber)
      refine ⟨⟨hfirst, by omega⟩, ?_⟩
      intro hend
      have hknown := h.known _ ((hended _).mp hend)
      omega
    · intro number hend
      have hknown := h.known number ((hended number).mp hend)
      omega

/-- Closing ends no session. -/
theorem close_ends_none (ht : t.Unmeddled) (operation : String) {method : SessionMethod}
    (hmethod : method ≠ .end_) (s : Datasource) :
    s.Extends (fun e => e.isOfEnd = false) (outcome (t.close operation method) s).2 := by
  refine (extends_close ht operation method s).mono fun e he => ?_
  cases e with
  | session called origin m failure =>
    obtain ⟨event, name, hnotice⟩ | ⟨number, origin, failure, hcall⟩ := he rfl
    · cases hnotice
    · cases hcall
      simp [Event.isOfEnd, hmethod]
  | sessionEnded =>
    obtain ⟨event, name, hnotice⟩ | ⟨number, origin, failure, hcall⟩ := he rfl
    · cases hnotice
    · cases hcall
  | _ => rfl

theorem Accounted.close (ht : t.Unmeddled) (h : Accounted first s) (operation : String)
    {method : SessionMethod} (hmethod : method ≠ .end_) :
    Accounted first (outcome (t.close operation method) s).2 :=
  h.kept (keeps_close ht operation method s)
    (ended_iff_of_extends (close_ends_none ht operation hmethod s))

/-- The session that a transaction lets go of has been ended. -/
theorem ended_released_iff (haccepted : (s.session number).plan.failure? .end_ = none)
    (other : Nat) : (released s number).Ended other ↔ s.Ended other ∨ other = number := by
  have hmem (origin : SessionOrigin) :
      Event.session other origin .end_ none ∈ (released s number).events ↔
        Event.session other origin .end_ none ∈ s.events ∨
          other = number ∧ origin = (s.session number).origin := by
    simp only [released, called, haccepted, List.mem_append, List.mem_singleton,
      Event.session.injEq]
    split <;> simp
  constructor
  · rintro ⟨origin, h⟩
    rcases (hmem origin).mp h with h | ⟨h, -⟩
    · exact .inl ⟨origin, h⟩
    · exact .inr h
  · rintro (⟨origin, h⟩ | h)
    · exact ⟨origin, (hmem origin).mpr (.inl h)⟩
    · exact ⟨_, (hmem _).mpr (.inr ⟨h, rfl⟩)⟩

theorem Accounted.end_ (h : Accounted first s) (howns : t.ownsSession = true) :
    Accounted first (outcome t.end_ s).2 := by
  cases hheld : s.held with
  | none =>
    rw [outcome_end_nothing hheld]
    exact h
  | some number =>
    have hheld' := h.held number hheld
    cases hrefused : (s.session number).plan.failure? .end_ with
    | some f =>
      rw [outcome_end_refused hheld howns hrefused]
      have htally : (called s number .end_).tally = s.tally := by simp [tally, called, hrefused]
      have hended (other : Nat) : (called s number .end_).Ended other ↔ s.Ended other := by
        simp [Ended, called, hrefused]
      exact h.kept htally hended
    | none =>
      rw [outcome_end_accepted hheld howns hrefused]
      have hended := ended_released_iff hrefused
      have hlength : (released s number).sessions.length = s.sessions.length := by
        simp [released, called, hrefused]
      refine ⟨by rw [hlength]; exact h.bound, ?_, ?_, ?_⟩
      · intro other hopened
        rw [hended]
        rcases h.opened other ⟨hopened.1, hlength ▸ hopened.2⟩ with hother | hother
        · rw [hheld] at hother
          exact .inr (.inr (Option.some.inj hother).symm)
        · exact .inr (.inl hother)
      · intro other hother
        cases hother
      · intro other hother
        rw [hlength]
        rcases (hended other).mp hother with hother | rfl
        · exact h.known other hother
        · exact hheld'.1.2

theorem Accounted.perform (ht : t.Unmeddled) (h : Accounted first s)
    (howns : t.ownsSession = true) (operation : Operation) : Accounted first (outcome (t.perform operation) s).2 := by
  cases operation with
  | begin_ => exact h.begin
  | commit => exact h.close ht "commit" (by decide)
  | rollback => exact h.close ht "rollback" (by decide)
  | end_ => exact h.end_ howns

theorem Accounted.rescript (h : Accounted first s) (hafter : s.Rescripts after) :
    Accounted first after := by
  refine h.kept hafter.tally fun number => ?_
  rw [Ended, Ended, hafter.events]

theorem Accounted.runs (ht : t.Unmeddled) {start : Datasource} (h : Accounted first start)
    (howns : t.ownsSession = true) (hruns : Runs t start s) : Accounted first s := by
  induction hruns with
  | start => exact h
  | perform operation _ ih => exact ih.perform ht howns operation
  | rescript _ hafter ih => exact ih.rescript hafter

/-- A transaction around a given session: it holds the session, and the end of no session was
called for. -/
structure Borrows (number : Nat) (s : Datasource) : Prop where
  held : s.held = some number
  unended : ∀ e ∈ s.events, e.isOfEnd = false

theorem Borrows.extends_ (h : Borrows number s) (hheld : after.held = s.held)
    (hafter : s.Extends (fun e => e.isOfEnd = false) after) : Borrows number after := by
  obtain ⟨added, hevents, hadded⟩ := hafter
  refine ⟨hheld.trans h.held, ?_⟩
  intro e he
  rw [hevents] at he
  exact (List.mem_append.mp he).elim (h.unended e) (hadded e)

theorem Borrows.perform (ht : t.Unmeddled) (h : Borrows number s) (howns : t.ownsSession = false)
    (operation : Operation) : Borrows number (outcome (t.perform operation) s).2 := by
  cases operation with
  | begin_ =>
    refine h.extends_ ?_ (extends_begin t s)
    rcases tally_begin t s with htally | ⟨hnone, -, -⟩
    · exact held_of_tally htally
    · rw [h.held] at hnone
      cases hnone
  | commit =>
    exact h.extends_ (held_of_tally (keeps_close ht _ _ s))
      (close_ends_none ht "commit" (by decide) s)
  | rollback =>
    exact h.extends_ (held_of_tally (keeps_close ht _ _ s))
      (close_ends_none ht "rollback" (by decide) s)
  | end_ =>
    rw [Transaction.perform, outcome_end_given howns]
    exact h

theorem Borrows.rescript (h : Borrows number s) (hafter : s.Rescripts after) :
    Borrows number after :=
  ⟨(held_of_tally hafter.tally).trans h.held, hafter.events ▸ h.unended⟩

theorem Borrows.runs (ht : t.Unmeddled) {start : Datasource} (h : Borrows number start)
    (howns : t.ownsSession = false) (hruns : Runs t start s) : Borrows number s := by
  induction hruns with
  | start => exact h
  | perform operation _ ih => exact ih.perform ht howns operation
  | rescript _ hafter ih => exact ih.rescript hafter

section Created

variable {plan : SessionPlan} {connection : Option Settings} {required : Bool}
  {observing : Observer → Act Value} {start : Datasource}

theorem create_own
    (hcreated : outcome (create none connection required observing) s = (.ok t, start)) :
    t.ownsSession = true ∧ t.observing = observing ∧ start = s := by
  cases connection with
  | none =>
    cases hcreated
    exact ⟨rfl, rfl, rfl⟩
  | some settings =>
    cases hcreated
    exact ⟨rfl, rfl, rfl⟩

/-- A transaction takes a given session over as it is, unless a connection is given with it. -/
theorem create_given (hevents : s.events = [])
    (hcreated : outcome (create (some plan) connection required observing) s = (.ok t, start)) :
    t.ownsSession = false ∧ t.observing = observing ∧ Borrows s.sessions.length start := by
  obtain ⟨hnumber, -⟩ := exists_newSession .given plan s
  have hextends : s.Extends (fun e => e.isOfEnd = false) (outcome (newSession .given plan) s).2 :=
    (continues_newSession (P := fun e => e.isOfEnd = false) rfl .given plan s).extends_
  rcases hnew : outcome (newSession .given plan) s with ⟨r, after⟩
  rw [hnew] at hnumber hextends
  obtain rfl : r = .ok s.sessions.length := hnumber
  cases connection with
  | some settings =>
    have hconflict : outcome (create (some plan) (some settings) required observing) s =
        (.error .sessionConflict, after) := outcome_bind_ok _ hnew
    cases hconflict.symm.trans hcreated
  | none =>
    have hgiven : outcome (create (some plan) none required observing) s =
        (.ok ⟨.given, required, observing⟩, { after with held := some s.sessions.length }) :=
      outcome_bind_ok _ hnew
    cases hgiven.symm.trans hcreated
    refine ⟨rfl, rfl, rfl, ?_⟩
    obtain ⟨added, hadded, hend⟩ := hextends
    intro e he
    apply hend
    rw [hevents, List.nil_append] at hadded
    exact hadded ▸ he

end Created

/-- What holds of a transaction with sessions of its own, all that come after the first so many. -/
structure OwnsSessions (first : Nat) (s : Datasource) : Prop where
  /-- Every session that was opened has been ended, except the one that is held. -/
  ended : ∀ number, s.Opened first number → s.held ≠ some number → s.Ended number
  /-- The one that is held was opened and has not been ended. -/
  held : ∀ number, s.held = some number → s.Opened first number ∧ ¬ s.Ended number
  /-- At most one of the sessions that were opened has not been ended. -/
  single : ∀ number other, s.Opened first number → s.Opened first other →
    ¬ s.Ended number → ¬ s.Ended other → number = other
  available : ∀ number, (outcome session s).1 = .ok number ↔ s.held = some number
  missing : ∀ f, (outcome session s).1 = .error f ↔ f = .sessionMissing ∧ s.held = none

/-- What holds of a transaction around a given session. -/
structure BorrowsSession (number : Nat) (s : Datasource) : Prop where
  /-- The end of no session was called for. -/
  unended : ∀ e ∈ s.events, ∀ other, e.calls other .end_ = false
  available : (outcome session s).1 = .ok number

theorem Accounted.ownsSessions (h : Accounted first s) : OwnsSessions first s := by
  have hopen {number : Nat} (hopened : s.Opened first number) (hnot : ¬ s.Ended number) :
      s.held = some number :=
    (h.opened number hopened).resolve_right hnot
  refine ⟨?_, h.held, ?_, ?_, ?_⟩
  · intro number hopened hnot
    exact (h.opened number hopened).resolve_left hnot
  · intro number other hnumber hother hnot hnot'
    exact Option.some.inj ((hopen hnumber hnot).symm.trans (hopen hother hnot'))
  · intro number
    rw [outcome_session]
    cases s.held <;> simp
  · intro f
    rw [outcome_session]
    cases s.held <;> simp [eq_comm]

/-- However a transaction is used, it ends the sessions that it opened before it opens another, and
leaves a given session to its owner. -/
theorem ownership {given : Option SessionPlan} {connection : Option Settings} {required : Bool}
    {observing : Observer → Act Value} {world start : Datasource}
    (hobserving : ∀ observer, LeavesSessions (observing observer))
    (hheld : world.held = none) (hevents : world.events = [])
    (hcreated : outcome (create given connection required observing) world = (.ok t, start))
    (hruns : Runs t start s) :
    match given with
    | none => OwnsSessions world.sessions.length s
    | some _ => BorrowsSession world.sessions.length s := by
  cases given with
  | none =>
    obtain ⟨howns, hsame, rfl⟩ := create_own hcreated
    have ht : t.Unmeddled := fun observer => hsame ▸ hobserving observer
    have hunended (number : Nat) : ¬ start.Ended number := by
      rintro ⟨origin, hmem⟩
      rw [hevents] at hmem
      cases hmem
    have hstart : Accounted start.sessions.length start := by
      refine ⟨Nat.le_refl _, ?_, ?_, ?_⟩
      · intro number hopened
        have hlower := hopened.1
        have hupper := hopened.2
        omega
      · intro number hnumber
        rw [hheld] at hnumber
        cases hnumber
      · intro number hended
        exact absurd hended (hunended number)
    exact (hstart.runs ht howns hruns).ownsSessions
  | some plan =>
    obtain ⟨howns, hsame, hborrows⟩ := create_given hevents hcreated
    have ht : t.Unmeddled := fun observer => hsame ▸ hobserving observer
    have hborrowed := hborrows.runs ht howns hruns
    refine ⟨?_, ?_⟩
    · intro e he other
      have hend := hborrowed.unended e he
      cases e with
      | session called origin method failure =>
        have hmethod : method ≠ .end_ := by simpa [Event.isOfEnd] using hend
        simp [Event.calls, hmethod]
      | _ => rfl
    · rw [outcome_session, hborrowed.held]
      rfl

/-- A deployment that is no replica set at first. The sessions opened on it cannot be ended, and an
observer waits for a rollback. -/
def clinging : Datasource :=
  { client := some 1
    clients := [.bool false]
    sessionPlan :=
      { failure? := fun method =>
          if method = .end_ then some (.raised "OperationFailure" "connection lost") else none }
    replies := [.failure (.raised "OperationFailure" "no replica set"),
      .value (.doc [("ok", .int 1)])]
    observers := [("before rollback", [⟨"undone", 0⟩])] }

def failingObservers (_ : Observer) : Act Value :=
  settle (.error (.raised "ValueError" "unreachable"))

theorem leavesSessions_failingObservers (observer : Observer) :
    LeavesSessions (failingObservers observer) := leavesSessions_settle _

def opening : Transaction := ⟨.connection {}, true, failingObservers⟩

/-- The sessions there are refuse nothing any more. -/
def yielding (s : Datasource) : Datasource :=
  { s with sessions := s.sessions.map fun x => { x with plan := {} } }

theorem rescripts_yielding (s : Datasource) : s.Rescripts (yielding s) :=
  ⟨by simp [yielding, tally], rfl⟩

/-- After a begin that failed once the session was open, and a rollback and an end that failed
too. -/
def stuck : Datasource :=
  (outcome opening.end_ (outcome opening.rollback (outcome opening.begin_ clinging).2).2).2

def reopened : Datasource :=
  (outcome opening.begin_ (outcome opening.end_ (yielding stuck)).2).2

theorem runs_reopened : Runs opening clinging reopened := by
  have hstuck : Runs opening clinging stuck :=
    ((Runs.start.perform .begin_).perform .rollback).perform .end_
  have hyielding : Runs opening clinging (yielding stuck) :=
    hstuck.rescript (rescripts_yielding stuck)
  exact (hyielding.perform .end_).perform .begin_

def lent : Datasource := { sessions := [⟨.given, {}, .bool false, none⟩], held := some 0 }

def borrowing : Transaction := ⟨.given, true, failingObservers⟩

def returned : Datasource := (outcome borrowing.end_ (outcome borrowing.begin_ lent).2).2

theorem runs_returned : Runs borrowing lent returned :=
  (Runs.start.perform .begin_).perform .end_

theorem ownership_reopened :
    (outcome (create none (some {}) true failingObservers) clinging = (.ok opening, clinging) ∧
      Runs opening clinging reopened ∧ stuck.held = some 0 ∧ reopened.held = some 1 ∧
      OwnsSessions 0 reopened) ∧
    outcome (create (some {}) none true failingObservers) {} = (.ok borrowing, lent) ∧
      Runs borrowing lent returned ∧ BorrowsSession 0 returned := by
  have hown : outcome (create none (some {}) true failingObservers) clinging =
      (.ok opening, clinging) := rfl
  have hgiven : outcome (create (some {}) none true failingObservers) {} =
      (.ok borrowing, lent) := rfl
  have howned := ownership leavesSessions_failingObservers rfl rfl hown runs_reopened
  have hborrowed := ownership leavesSessions_failingObservers rfl rfl hgiven runs_returned
  exact ⟨⟨hown, runs_reopened, rfl, rfl, howned⟩, hgiven, runs_returned, hborrowed⟩

end Transaction
end ModelStore
