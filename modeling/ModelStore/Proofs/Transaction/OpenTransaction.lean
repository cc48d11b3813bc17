import ModelStore.Proofs.Transaction.Block

/-!
Transactions that outlive their block. A block that was entered with a replica set and whose
session accepts every method closes the transaction, by a commit, an abort or the end of a session
of its own. It does not where observers prevent that: one that fails before the rollback prevents
the abort, one that interrupts the round before the commit prevents both, and the session of a
caller is not ended.
-/
namespace ModelStore.Transaction

open Act

/-- The body leaves the transaction alone, and the session that it holds as it is. -/
structure LeavesUntouched {α : Type} (body : Act α) : Prop extends LeavesAlone body where
  session : ∀ (s : Datasource) (number : Nat), s.held = some number →
    (outcome body s).2.session number = s.session number

def FailsAt (t : Transaction) (event : String) (s : Datasource) : Prop :=
  ∃ f, (outcome (t.notify event) s).1 = .error f

/-- Observers prevent the abort of a block that is left: the round before the rollback fails, which
follows on a body that failed, or on a round before the commit that failed with an error. No
rollback follows on one that was interrupted. -/
def AbortPrevented (t : Transaction) (s : Datasource) : Bool → Prop
  | false => t.FailsAt "before rollback" s
  | true => ∃ f between, outcome (t.notify "before commit") s = (.error f, between) ∧
      (f.isError = true → t.FailsAt "before rollback" between)

variable {α : Type} {t : Transaction} {body : Act α} {s between after : Datasource} {number : Nat}
  {operation : String} {method : SessionMethod} {calls : List SessionMethod} {r : Result Unit}

/-- A session in a transaction that accepts the method is left in it only if the round before the
method fails, and then closing has done nothing else. -/
theorem Closing.prevented_or_closed (ht : t.Unmeddled) (hmethod : method ≠ .start)
    (haccepted : (s.session number).plan.failure? method = none) (hopen : isOpen s number = true)
    (h : Closing t operation method number s r after calls) :
    (∃ f, r = .error f ∧ outcome (t.notify ("before " ++ operation)) s = (.error f, after)) ∨
      (isOpen after number = false ∧
        ∃ between, outcome (t.notify ("before " ++ operation)) s = (.ok (), between)) := by
  have hiff := h.isOpen_iff ht hmethod
  cases h with
  | prevented hbefore => exact .inl ⟨_, rfl, hbefore⟩
  | inactive _ hinactive _ =>
    rw [hopen] at hinactive
    cases hinactive
  | refused _ _ hrefused =>
    rw [haccepted] at hrefused
    cases hrefused
  | accepted hbefore _ _ _ =>
    refine .inr ⟨Bool.eq_false_iff.mpr fun hstill => ?_, _, hbefore⟩
    obtain ⟨-, ⟨f, hfailed⟩ | hrefused⟩ := hiff.mp hstill
    · rw [hbefore] at hfailed
      cases hfailed
    · exact hrefused haccepted

theorem Closing.isOpen_rollback_iff (ht : t.Unmeddled)
    (haccepted : (s.session number).plan.failure? .abort = none)
    (h : Closing t "rollback" .abort number s r after calls) :
    isOpen after number = true ↔ isOpen s number = true ∧ t.FailsAt "before rollback" s := by
  rw [h.isOpen_iff ht (by decide), before_rollback]
  simp [haccepted, FailsAt]

theorem not_abortPrevented_of_passed
    (hbefore : outcome (t.notify "before commit") s = (.ok (), between)) :
    ¬ AbortPrevented t s true := by
  rintro ⟨f, failed, hfailed, -⟩
  rw [hbefore] at hfailed
  cases hfailed

/-- Resolving a block leaves a session that accepts every method in its transaction exactly if
observers prevent the abort. -/
theorem Resolving.isOpen_iff (ht : t.Unmeddled) {succeeded : Bool}
    (haccepts : ∀ method, method ≠ .start → (s.session number).plan.failure? method = none)
    (hopen : isOpen s number = true) (h : Resolving t number s succeeded r after calls) :
    isOpen after number = true ↔ AbortPrevented t s succeeded := by
  have hcommits {r : Result Unit} {after : Datasource} {calls : List SessionMethod}
      (hcommit : Closing t "commit" .commit number s r after calls) :
      (∃ f, r = .error f ∧ outcome (t.notify "before commit") s = (.error f, after)) ∨
        (isOpen after number = false ∧ ¬ AbortPrevented t s true) := by
    have hcourses := hcommit.prevented_or_closed ht (by decide) (haccepts _ (by decide)) hopen
    rw [before_commit] at hcourses
    refine hcourses.imp_right fun ⟨hclosed, between, hbefore⟩ => ?_
    exact ⟨hclosed, not_abortPrevented_of_passed hbefore⟩
  have hclosed_iff {after : Datasource} (hclosed : isOpen after number = false)
      (hnot : ¬ AbortPrevented t s true) :
      isOpen after number = true ↔ AbortPrevented t s true := by
    rw [hclosed]
    exact iff_of_false Bool.false_ne_true hnot
  cases h with
  | rolledBack hback =>
    rw [hback.isOpen_rollback_iff ht (haccepts _ (by decide)), AbortPrevented, hopen]
    exact and_iff_right rfl
  | committed hcommit =>
    obtain ⟨f, hresult, -⟩ | ⟨hclosed, hnot⟩ := hcommits hcommit
    · cases hresult
    · exact hclosed_iff hclosed hnot
  | interrupted hcommit hf =>
    obtain ⟨f, hresult, hbefore⟩ | ⟨hclosed, hnot⟩ := hcommits hcommit
    · cases hresult
      rw [isOpen_of_notify ht hbefore, hopen]
      refine iff_of_true rfl ⟨_, _, hbefore, fun herror => ?_⟩
      rw [hf] at herror
      cases herror
    · exact hclosed_iff hclosed hnot
  | undone hcommit hf hback =>
    have hplan := (hcommit.follows ht (by decide)).plan
    rw [hback.isOpen_rollback_iff ht (hplan ▸ haccepts _ (by decide))]
    obtain ⟨f, hresult, hbefore⟩ | ⟨hclosed, hnot⟩ := hcommits hcommit
    · cases hresult
      rw [isOpen_of_notify ht hbefore, hopen, and_iff_right rfl]
      refine ⟨fun hfails => ⟨_, _, hbefore, fun _ => hfails⟩, ?_⟩
      rintro ⟨f, failed, hfailed, hfails⟩
      cases hbefore.symm.trans hfailed
      exact hfails hf
    · rw [hclosed]
      exact iff_of_false (fun h => Bool.false_ne_true h.1) hnot

/-- A session of the transaction's own is ended, and with it its transaction. -/
theorem isOpen_end_iff (hheld : s.held = some number)
    (haccepted : (s.session number).plan.failure? .end_ = none) :
    isOpen (outcome t.end_ s).2 number = true ↔
      t.ownsSession = false ∧ isOpen s number = true := by
  cases howns : t.ownsSession with
  | false =>
    rw [outcome_end_given howns]
    exact (and_iff_right rfl).symm
  | true =>
    have hended : isOpen (called s number .end_) number = false :=
      inactive_called haccepted rfl
    rw [outcome_end_accepted hheld howns haccepted]
    change isOpen (called s number .end_) number = true ↔ _
    rw [hended]
    exact iff_of_false Bool.false_ne_true fun h => Bool.noConfusion h.1

/-- A block leaves its session in a transaction exactly if the session is the caller's and
observers prevent the abort. -/
theorem open_after_block_iff (ht : t.Unmeddled) (hbody : LeavesUntouched body)
    (hknown : HoldsKnown s) (hrequired : t.replicaSetRequired = true)
    (hentered : (outcome t.begin_ s).1 = .ok ())
    (hheld : (outcome t.begin_ s).2.held = some number)
    (haccepts : ∀ method, method ≠ .start →
      ((outcome t.begin_ s).2.session number).plan.failure? method = none) :
    let ran := outcome body (outcome t.begin_ s).2
    isOpen (outcome (t.block body) s).2 number = true ↔
      t.ownsSession = false ∧ AbortPrevented t ran.2 ran.1.isOk := by
  intro ran
  have hsession : ran.2.session number = (outcome t.begin_ s).2.session number :=
    hbody.session _ number hheld
  -- The block is left as it was entered: in a transaction.
  have hopen : isOpen ran.2 number = true := by
    rw [isOpen, hsession]
    exact active_begin hrequired hknown hentered hheld
  obtain ⟨r, between, calls, hresolving, hbetween, hblock, -⟩ :=
    exists_block ht hbody.toLeavesAlone hheld hentered
  have hplan : (between.session number).plan = (ran.2.session number).plan :=
    (hresolving.follows ht).plan
  have hresolved : isOpen between number = true ↔ AbortPrevented t ran.2 ran.1.isOk :=
    hresolving.isOpen_iff ht (fun method hmethod => hsession ▸ haccepts method hmethod) hopen
  have hend : (between.session number).plan.failure? .end_ = none := by
    rw [hplan, hsession]
    exact haccepts .end_ (by decide)
  rw [hblock, isOpen_end_iff hbetween hend, hresolved]

theorem leavesUntouched_bodyOf (r : Result Unit) : LeavesUntouched (bodyOf r) := by
  refine ⟨leavesAlone_bodyOf r, ?_⟩
  intro s number hheld
  rw [outcome_bodyOf r hheld]
  rfl

def prevented : Datasource :=
  { sessions := [⟨.given, {}, .bool false, none⟩]
    held := some 0
    observers := [("before rollback", [⟨"undone", 0⟩])] }

def unreachable : Transaction :=
  { source := .given
    observing := fun _ => settle (.error (.raised "ValueError" "unreachable")) }

def broken : Act Unit := bodyOf (.error (.raised "RuntimeError" "broken"))

theorem unmeddled_unreachable : unreachable.Unmeddled :=
  fun _ => leavesSessions_settle (.error (.raised "ValueError" "unreachable"))

theorem holdsKnown_prevented : HoldsKnown prevented := by
  intro number hheld
  obtain rfl : 0 = number := Option.some.inj hheld
  decide

theorem open_after_block_iff_prevented :
    unreachable.Unmeddled ∧ LeavesUntouched broken ∧ HoldsKnown prevented ∧
    (outcome unreachable.begin_ prevented).1 = .ok () ∧
    isOpen (outcome (unreachable.block broken) prevented).2 0 = true := by
  have hheld : (outcome unreachable.begin_ prevented).2.held = some 0 := rfl
  have hiff := open_after_block_iff unmeddled_unreachable
    (leavesUntouched_bodyOf (.error (.raised "RuntimeError" "broken"))) holdsKnown_prevented
    rfl rfl hheld (fun _ _ => rfl)
  exact ⟨unmeddled_unreachable, leavesUntouched_bodyOf _, holdsKnown_prevented, rfl,
    hiff.mpr ⟨rfl, _, rfl⟩⟩

/-- A block can leave the transaction of a session open that accepts every method. -/
theorem not_closed_of_prevented :
    ¬ ∀ (t : Transaction) (body : Act Unit) (s : Datasource) (number : Nat),
      t.Unmeddled → LeavesUntouched body → HoldsKnown s → t.replicaSetRequired = true →
      (outcome t.begin_ s).1 = .ok () → (outcome t.begin_ s).2.held = some number →
      (∀ method, method ≠ .start →
        ((outcome t.begin_ s).2.session number).plan.failure? method = none) →
      isOpen (outcome (t.block body) s).2 number = false := by
  intro hcloses
  have hclosed := hcloses unreachable broken prevented 0 unmeddled_unreachable
    (leavesUntouched_bodyOf _) holdsKnown_prevented rfl rfl rfl (fun _ _ => rfl)
  have hopen : isOpen (outcome (unreachable.block broken) prevented).2 0 = true := rfl
  rw [hopen] at hclosed
  cases hclosed

end ModelStore.Transaction
