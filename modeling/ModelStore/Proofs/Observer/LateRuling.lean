import Mathlib.Data.List.TakeDrop
import ModelStore.Proofs.Observer.Around
import ModelStore.Proofs.Observer.Snapshot

/-!
Rulings after the work. A settled ruling ends the round, so that the observers registered after
that one are not notified, and what they would have made of the result is not in it. Nobody at all
is notified of an interruption.
-/
namespace ModelStore

/-- The observers do what they do, but answer nothing. -/
def Behaviour.silent (behaves : Behaviour) : Behaviour := fun observer context s =>
  ((behaves observer context s).1,
    (behaves observer context s).2.map fun answered => (.null, answered.2))

/-- The observers are asked one after the other, whatever they answer, and none fails. -/
inductive Answers {σ : Type} (call : Observer → σ → Act (Value × σ)) :
    List Observer → σ → Datasource → List (Notification σ) → Prop
  | nobody (subject : σ) (s : Datasource) : Answers call [] subject s []
  | next {observer : Observer} {rest : List Observer} {subject left : σ} {s after : Datasource}
      {answer : Value} {asked : List (Notification σ)}
      (hcall : Act.outcome (call observer subject) s = (.ok (answer, left), after))
      (hrest : Answers call rest left after asked) :
      Answers call (observer :: rest) subject s
        (⟨observer, subject, s, .ok (answer, left), after⟩ :: asked)

def Notification.upToRuling {σ : Type} (asked : List (Notification σ)) : List (Notification σ) :=
  asked.take (asked.findIdx stops + 1)

namespace Notification

variable {σ : Type} {notification : Notification σ} {asked : List (Notification σ)}

theorem upToRuling_cons_of_stops (h : notification.stops = true) :
    upToRuling (notification :: asked) = [notification] := by
  simp [upToRuling, List.findIdx_cons, h]

theorem upToRuling_cons_of_not_stops (h : notification.stops = false) :
    upToRuling (notification :: asked) = notification :: upToRuling asked := by
  simp [upToRuling, List.findIdx_cons, h]

/-- Looking for the first of a kind passes everything but the last exactly if nothing before the
last is of the kind. -/
private theorem length_le_findIdx_succ_iff {α : Type} (p : α → Bool) (as : List α) :
    as.length ≤ as.findIdx p + 1 ↔ ∀ a ∈ as.dropLast, p a = false := by
  induction as with
  | nil => simp
  | cons a rest ih =>
    by_cases hrest : rest = []
    · subst hrest
      simp
    · have hpositive : 0 < rest.length := List.length_pos_iff.mpr hrest
      rw [List.dropLast_cons_of_ne_nil hrest, List.forall_mem_cons, ← ih, List.findIdx_cons]
      cases hp : p a with
      | true =>
        simp only [List.length_cons, cond_true, Bool.true_eq_false, false_and, iff_false]
        omega
      | false =>
        simp only [List.length_cons, cond_false, true_and]
        omega

/-- All notifications are recorded exactly if none but the last ends the round. -/
theorem map_upToRuling_eq_iff {α : Type} (f : Notification σ → α) :
    (upToRuling asked).map f = asked.map f ↔ ∀ n ∈ asked.dropLast, n.stops = false := by
  rw [← length_le_findIdx_succ_iff, upToRuling, List.map_take, List.take_eq_self_iff,
    List.length_map]

theorem upToRuling_eq_self (h : ∀ n ∈ asked.dropLast, n.stops = false) :
    upToRuling asked = asked := by
  simpa using (map_upToRuling_eq_iff id).mpr h

end Notification

namespace Answers

open Act

variable {σ : Type} {call : Observer → σ → Act (Value × σ)} {registered : List Observer}
  {subject : σ} {s : Datasource} {asked : List (Notification σ)}

/-- Observers of which none fails are notified up to the first that settles the matter. -/
theorem exists_outcome (h : Answers call registered subject s asked) :
    ∃ ruling, outcome (notifyEach call registered subject) s =
      (.ok (ruling, Notification.leftBy subject (Notification.upToRuling asked)),
        s.reached (Notification.upToRuling asked)) := by
  induction h with
  | nobody subject s => exact ⟨none, rfl⟩
  | @next observer rest subject left s after answer asked hcall _ ih =>
    rw [notifyEach, outcome_bind_ok _ hcall]
    dsimp only
    cases hanswer : answer.settled? with
    | some v =>
      rw [Notification.upToRuling_cons_of_stops (by simp [Notification.stops, hanswer])]
      exact ⟨some v, rfl⟩
    | none =>
      rw [Notification.upToRuling_cons_of_not_stops (by simp [Notification.stops, hanswer]),
        Notification.leftBy_cons, s.reached_cons]
      exact ih

section Calls

variable {behaves : Behaviour} {event : String} {context : Context}
  {asked : List (Notification Context)}

/-- Had the observers answered nothing, all of them would have been notified, each of the same. -/
theorem outcome_silent (h : Answers (notifyOne behaves event) registered context s asked) :
    outcome (notifyEach (notifyOne behaves.silent event) registered context) s =
      (.ok (none, Notification.leftBy context asked), s.reached asked) := by
  induction h with
  | nobody context s => rfl
  | @next observer rest context left s after answer asked hcall _ ih =>
    have hsilent : outcome (notifyOne behaves.silent event observer context) s =
        (.ok (.null, left), after) := by
      rw [outcome_notifyOne] at hcall ⊢
      obtain ⟨hanswered, rfl⟩ := Prod.mk.inj hcall
      obtain ⟨answered, hresponse, hleft⟩ := Result.map_eq_ok.mp hanswered
      obtain ⟨-, rfl⟩ := Prod.mk.inj hleft
      simp [Behaviour.silent, hresponse, Except.map]
    rw [notifyEach, outcome_bind_ok _ hsilent, Notification.leftBy_cons, s.reached_cons]
    exact ih

theorem events_reached (h : Answers (notifyOne behaves event) registered context s asked)
    (count : Nat) :
    (s.reached (asked.take count)).events =
      s.events ++ (asked.take count).map (Notification.event event) := by
  induction h generalizing count with
  | nobody context s => simp [Datasource.reached]
  | @next observer rest context left s after answer asked hcall _ ih =>
    cases count with
    | zero => simp [Datasource.reached]
    | succ count =>
      rw [outcome_notifyOne] at hcall
      rw [List.take_succ_cons, s.reached_cons, ih count, ← (Prod.mk.inj hcall).2, List.map_cons,
        List.append_assoc]
      rfl

end Calls
end Answers

namespace Act

variable {behaves : Behaviour} {operation : String} {context last : Context}
  {work : Context → Act Value} {s between replied : Datasource} {done : Result Value}
  {asked : List (Notification Context)}

section After

variable (hanswers : Answers (notifyOne behaves ("after " ++ operation))
    (replied.observers.of ("after " ++ operation)) (last.reporting done) replied asked)
include hanswers

theorem outcome_handOn_of_answers (hdone : done.Uninterrupted) :
    let made := Notification.upToRuling asked
    outcome (handOn behaves operation last done) replied =
      (done.map fun _ => (Notification.leftBy (last.reporting done) made).result,
        replied.reached made) := by
  intro made
  obtain ⟨ruling, houtcome⟩ := hanswers.exists_outcome
  have htold : outcome (notifyOf behaves ("after " ++ operation) (last.reporting done)) replied =
      (.ok (ruling, Notification.leftBy (last.reporting done) made), replied.reached made) :=
    houtcome
  rw [handOn_of_uninterrupted hdone, outcome_concluded, htold]
  rfl

theorem outcome_handOn_silent (hdone : done.Uninterrupted) :
    outcome (handOn behaves.silent operation last done) replied =
      (done.map fun _ => (Notification.leftBy (last.reporting done) asked).result,
        replied.reached asked) := by
  have htold : outcome (notifyOf behaves.silent ("after " ++ operation) (last.reporting done))
      replied = (.ok (none, Notification.leftBy (last.reporting done) asked),
        replied.reached asked) := hanswers.outcome_silent
  rw [handOn_of_uninterrupted hdone, outcome_concluded, htold]
  rfl

/-- After the work observers that do not fail are notified in the order of their registration, up
to the first that settles the matter, and the caller receives the result as the last of these left
it. So all of them are notified, and the caller receives what it would if they answered nothing,
exactly if none but the last settles anything; after an interruption only if there are none. -/
theorem notifies_all_after_iff
    (hpassed : outcome (notifyOf behaves ("before " ++ operation) context) s =
      (.ok (none, last), between)) (hwork : outcome (work last) between = (done, replied)) :
    let record := Notification.event ("after " ++ operation)
    let made := Notification.upToRuling asked
    let ended := outcome (delivered (around behaves operation context work)) s
    let silent := outcome (handOn behaves.silent operation last done) replied
    (ended.2.events = replied.events ++ asked.map record ∧ ended.1 = silent.1 ↔
        asked = [] ∨ done.Uninterrupted ∧ ∀ n ∈ asked.dropLast, n.stops = false) ∧
      (done.Uninterrupted →
        ended.1 = (done.map fun _ =>
            (Notification.leftBy (last.reporting done) made).result) ∧
          ended.2.events = replied.events ++ made.map record ∧
          silent.1 = (done.map fun _ =>
            (Notification.leftBy (last.reporting done) asked).result) ∧
          silent.2.events = replied.events ++ asked.map record) ∧
      (¬ done.Uninterrupted → ended = (done, replied) ∧ silent = (done, replied)) := by
  intro record made ended silent
  have hended : ended = outcome (handOn behaves operation last done) replied :=
    outcome_around_passed hpassed hwork
  have hmade : (replied.reached made).events = replied.events ++ made.map record :=
    hanswers.events_reached _
  have hasked : (replied.reached asked).events = replied.events ++ asked.map record := by
    simpa using hanswers.events_reached asked.length
  by_cases hdone : done.Uninterrupted
  · have houtcome := hended.trans (outcome_handOn_of_answers hanswers hdone)
    have hsilent : silent = _ := outcome_handOn_silent hanswers hdone
    rw [houtcome, hsilent]
    refine ⟨?_, fun _ => ⟨rfl, hmade, rfl, hasked⟩, fun h => absurd hdone h⟩
    constructor
    · rintro ⟨hevents, -⟩
      rw [hmade, List.append_cancel_left_eq] at hevents
      exact .inr ⟨hdone, (Notification.map_upToRuling_eq_iff record).mp hevents⟩
    · intro hopen
      have hall : Notification.upToRuling asked = asked := by
        rcases hopen with hnone | ⟨-, hopen⟩
        · exact Notification.upToRuling_eq_self (by simp [hnone])
        · exact Notification.upToRuling_eq_self hopen
      rw [hall]
      exact ⟨hasked, rfl⟩
  · obtain ⟨f, rfl, hinterrupted⟩ := Result.exists_of_not_uninterrupted hdone
    have houtcome : ended = (.error f, replied) := by
      rw [hended, handOn_of_interrupted hinterrupted]
      rfl
    have hsilent : silent = (.error f, replied) := by
      show outcome (handOn behaves.silent operation last (.error f)) replied = _
      rw [handOn_of_interrupted hinterrupted]
      rfl
    rw [houtcome, hsilent]
    refine ⟨?_, fun h => absurd h hdone, fun _ => ⟨rfl, rfl⟩⟩
    simp [hdone]

end After

/-- The first of the observers hands out a settled ruling. -/
def ruling : Behaviour := fun observer context _ =>
  ([], .ok (if observer.name = "first" then .ruling (.int 0) true else .null, context))

def ruled : Datasource :=
  { observers := [("after execute", [⟨"first", 0⟩, ⟨"second", 1⟩])]
    replies := [.value (.int 3)] }

def counting : Context := { model := .text "Post", command := "count_documents" }

def answering (_ : Context) : Act Value := reply

def counted : Datasource := { ruled with replies := [] }

def toldOfCount : Context := counting.reporting (.ok (.int 3))

def countedOnce : Datasource :=
  { counted with events := [.observer "after execute" "first" (some toldOfCount)] }

def countedTwice : Datasource :=
  { countedOnce with
    events := countedOnce.events ++ [.observer "after execute" "second" (some toldOfCount)] }

theorem passes_ruled :
    outcome (notifyOf ruling ("before " ++ "execute") counting) ruled =
      (.ok (none, counting), ruled) := rfl

theorem outcome_answering_ruled :
    outcome (answering counting) ruled = (.ok (.int 3), counted) := rfl

theorem answers_ruled :
    Answers (notifyOne ruling ("after " ++ "execute"))
      (counted.observers.of ("after " ++ "execute")) (counting.reporting (.ok (.int 3))) counted
      [⟨⟨"first", 0⟩, toldOfCount, counted, .ok (.ruling (.int 0) true, toldOfCount), countedOnce⟩,
        ⟨⟨"second", 1⟩, toldOfCount, countedOnce, .ok (.null, toldOfCount), countedTwice⟩] :=
  .next rfl (.next rfl (.nobody _ _))

theorem notifies_all_after_iff_ruled :
    let ended := outcome (delivered (around ruling "execute" counting answering)) ruled
    outcome (notifyOf ruling ("before " ++ "execute") counting) ruled =
        (.ok (none, counting), ruled) ∧
      outcome (answering counting) ruled = (.ok (.int 3), counted) ∧
      Answers (notifyOne ruling ("after " ++ "execute"))
        (counted.observers.of ("after " ++ "execute")) (counting.reporting (.ok (.int 3))) counted
        [⟨⟨"first", 0⟩, toldOfCount, counted, .ok (.ruling (.int 0) true, toldOfCount),
            countedOnce⟩,
          ⟨⟨"second", 1⟩, toldOfCount, countedOnce, .ok (.null, toldOfCount), countedTwice⟩] ∧
      ended.1 = .ok (.int 3) ∧
      ended.2.events = [.observer "after execute" "first" (some toldOfCount)] := by
  intro ended
  obtain ⟨-, hconcluded, -⟩ :=
    notifies_all_after_iff answers_ruled passes_ruled outcome_answering_ruled
  obtain ⟨houtcome, hevents, -⟩ := hconcluded (Result.uninterrupted_ok _)
  exact ⟨passes_ruled, outcome_answering_ruled, answers_ruled, houtcome, hevents⟩

/-- An observer that is notified of the end of some work can keep others from being notified. -/
theorem not_notifies_all_after :
    ¬ ∀ (behaves : Behaviour) (s between replied : Datasource) (context last : Context)
        (work : Context → Act Value) (done : Result Value) (asked : List (Notification Context)),
      outcome (notifyOf behaves ("before " ++ "execute") context) s =
        (.ok (none, last), between) →
      outcome (work last) between = (done, replied) →
      Answers (notifyOne behaves ("after " ++ "execute"))
        (replied.observers.of ("after " ++ "execute")) (last.reporting done) replied asked →
      (outcome (delivered (around behaves "execute" context work)) s).2.events =
        replied.events ++ asked.map (Notification.event ("after " ++ "execute")) := by
  intro hall
  have hevents := hall ruling ruled ruled counted counting counting answering (.ok (.int 3)) _
    passes_ruled outcome_answering_ruled answers_ruled
  have hnotified :
      (outcome (delivered (around ruling "execute" counting answering)) ruled).2.events =
        [.observer "after execute" "first" (some toldOfCount)] := rfl
  rw [hnotified] at hevents
  have hlength := congrArg List.length hevents
  exact absurd hlength (by decide)

end Act
end ModelStore
