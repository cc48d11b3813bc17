import Mathlib.Data.List.Infix
import ModelStore.Proofs.Observer.Notification

/-!
Rounds and the registry. A round notifies those who were registered when it began, whatever happens
to the registry meanwhile; what the observers do to the registry is done to it as they do it, and
is only found there by later rounds. This holds of every subject and of observers that do anything
at all, also of those that fail or settle the matter after they did it.
-/
namespace ModelStore

/-- One notification of an observer, the datasource before and after it, and how it ended. -/
structure Notification (σ : Type) where
  observer : Observer
  subject : σ
  before : Datasource
  response : Result (Value × σ)
  after : Datasource

namespace Notification

variable {σ : Type}

/-- It ends the round: the observer failed, or handed out a settled ruling. -/
def stops (notification : Notification σ) : Bool :=
  match notification.response with
  | .ok (answer, _) => answer.settled?.isSome
  | .error _ => true

def left (notification : Notification σ) : σ :=
  match notification.response with
  | .ok (_, after) => after
  | .error _ => notification.subject

def ending (notification : Notification σ) : Result (Option Value × σ) :=
  match notification.response with
  | .ok (answer, after) => .ok (answer.settled?, after)
  | .error f => .error f

/-- The subject as the last of the notifications left it. -/
def leftBy (subject : σ) (made : List (Notification σ)) : σ :=
  (made.getLast?.map left).getD subject

variable {notification : Notification σ}

theorem ending_of_not_stops (h : notification.stops = false) :
    notification.ending = .ok (none, notification.left) := by
  obtain ⟨observer, subject, before, response, after⟩ := notification
  cases response with
  | error f => cases h
  | ok answered =>
    obtain ⟨answer, left⟩ := answered
    have hanswer : answer.settled? = none := by simpa [stops] using h
    simp only [ending, Notification.left, hanswer]

theorem stops_of_ending_eq_none {left : σ} (h : notification.ending = .ok (none, left)) :
    notification.stops = false := by
  obtain ⟨observer, subject, before, response, after⟩ := notification
  cases response with
  | error f => cases h
  | ok answered =>
    have hanswer : answered.1.settled? = none := (Prod.mk.inj (Except.ok.inj h)).1
    simp [stops, hanswer]

theorem ending_eq_error {f : Failure} :
    notification.ending = .error f ↔ notification.response = .error f := by
  obtain ⟨observer, subject, before, response, after⟩ := notification
  cases response <;> simp [ending]

theorem getD_getLast?_cons {α β : Type} (f : α → β) (a : α) (rest : List α) (b : β) :
    ((a :: rest).getLast?.map f).getD b = (rest.getLast?.map f).getD (f a) := by
  rw [List.getLast?_cons]
  cases rest.getLast? <;> rfl

theorem leftBy_cons (subject : σ) (notification : Notification σ) (made : List (Notification σ)) :
    leftBy subject (notification :: made) = leftBy notification.left made :=
  getD_getLast?_cons left notification made subject

end Notification

variable {σ : Type}

def Datasource.reached (s : Datasource) (made : List (Notification σ)) : Datasource :=
  (made.getLast?.map Notification.after).getD s

theorem Datasource.reached_cons (s : Datasource) (notification : Notification σ)
    (made : List (Notification σ)) :
    s.reached (notification :: made) = notification.after.reached made :=
  Notification.getD_getLast?_cons Notification.after notification made s

/-- The notifications of one round: each of an observer that was registered when it began, and the
last of which ends it. -/
structure IsRound (call : Observer → σ → Act (Value × σ)) (registered : List Observer)
    (subject : σ) (s : Datasource) (made : List (Notification σ))
    (ended : Result (Option Value × σ)) : Prop where
  inOrder : made.map Notification.observer <+: registered
  /-- Each is of what the one before it left, and the observer does what it does at this moment. -/
  each : ∀ before notification later, made = before ++ notification :: later →
    notification.subject = Notification.leftBy subject before ∧
      notification.before = s.reached before ∧
      Act.outcome (call notification.observer notification.subject) notification.before =
        (notification.response, notification.after)
  /-- Only the last can end the round, -/
  passing : ∀ notification ∈ made.dropLast, notification.stops = false
  /-- and it does if not everyone was notified. -/
  complete : made.map Notification.observer = registered ∨
    ∃ notification ∈ made.getLast?, notification.stops = true
  ended : ended = (made.getLast?.map Notification.ending).getD (.ok (none, subject))

namespace IsRound

variable {call : Observer → σ → Act (Value × σ)} {registered rest : List Observer}
  {subject : σ} {s : Datasource} {made : List (Notification σ)} {notification : Notification σ}
  {ended : Result (Option Value × σ)}

theorem nobody : IsRound call [] subject s [] (.ok (none, subject)) where
  inOrder := List.nil_prefix
  each := by simp
  passing := by simp
  complete := .inl rfl
  ended := rfl

section First

variable (hsubject : notification.subject = subject) (hbefore : notification.before = s)
  (hcall : Act.outcome (call notification.observer notification.subject) notification.before =
    (notification.response, notification.after))
include hsubject hbefore hcall

/-- A notification that ends the round is all of it. -/
theorem stopped (hstops : notification.stops = true) :
    IsRound call (notification.observer :: rest) subject s [notification]
      notification.ending where
  inOrder := by simp
  each := by
    intro before notification' later hmade
    obtain ⟨rfl, rfl, rfl⟩ : before = [] ∧ notification' = notification ∧ later = [] := by
      cases before with
      | nil => simpa [eq_comm] using hmade
      | cons first before => simp at hmade
    exact ⟨hsubject, hbefore, hcall⟩
  passing := by simp
  complete := .inr ⟨notification, rfl, hstops⟩
  ended := rfl

/-- A notification that does not end the round stands before the others. -/
theorem passed (hopen : notification.stops = false)
    (hrest : IsRound call rest notification.left notification.after made ended) :
    IsRound call (notification.observer :: rest) subject s (notification :: made) ended where
  inOrder := List.cons_prefix_cons.mpr ⟨rfl, hrest.inOrder⟩
  each := by
    intro before notification' later hmade
    cases before with
    | nil =>
      obtain ⟨rfl, -⟩ := List.cons.inj hmade
      exact ⟨hsubject, hbefore, hcall⟩
    | cons first before =>
      obtain ⟨rfl, htail⟩ := List.cons.inj hmade
      rw [s.reached_cons, Notification.leftBy_cons]
      exact hrest.each before notification' later htail
  passing := by
    cases made with
    | nil => simp
    | cons next made =>
      rw [List.dropLast_cons_of_ne_nil (List.cons_ne_nil next made), List.forall_mem_cons]
      exact ⟨hopen, hrest.passing⟩
  complete := by
    rcases hrest.complete with hall | ⟨last, hlast, hstops⟩
    · exact .inl (by rw [List.map_cons, hall])
    · refine .inr ⟨last, ?_, hstops⟩
      rw [List.getLast?_cons, Option.mem_def.mp hlast]
      rfl
  ended := by
    rw [hrest.ended, Notification.getD_getLast?_cons, Notification.ending_of_not_stops hopen]

end First

/-- A round lets pass what it is about exactly if everyone was notified and nobody ended it. -/
theorem passed_iff (h : IsRound call registered subject s made ended) :
    (∃ left, ended = .ok (none, left)) ↔
      made.map Notification.observer = registered ∧ ∀ n ∈ made, n.stops = false := by
  have hended := h.ended
  rcases List.eq_nil_or_concat' made with rfl | ⟨before, last, rfl⟩
  · have hall : [] = registered := by
      rcases h.complete with hall | ⟨_, hlast, -⟩
      · exact hall
      · cases hlast
    simp [hended, hall]
  · rw [List.getLast?_concat, Option.map_some, Option.getD_some] at hended
    have hpassing : ∀ n ∈ before, n.stops = false := by
      simpa using h.passing
    have hcomplete := h.complete
    rw [List.getLast?_concat] at hcomplete
    cases hstops : last.stops with
    | true =>
      refine iff_of_false ?_ fun hopen => ?_
      · rintro ⟨left, hleft⟩
        rw [Notification.stops_of_ending_eq_none (hended.symm.trans hleft)] at hstops
        cases hstops
      · rw [hopen.2 last (by simp)] at hstops
        cases hstops
    | false =>
      refine iff_of_true ⟨_, hended.trans (Notification.ending_of_not_stops hstops)⟩ ⟨?_, ?_⟩
      · rcases hcomplete with hall | ⟨_, hlast, hstopped⟩
        · exact hall
        · obtain rfl := Option.some.inj hlast
          rw [hstops] at hstopped
          cases hstopped
      · intro n hn
        rcases List.mem_append.mp hn with hn | hn
        · exact hpassing n hn
        · exact List.mem_singleton.mp hn ▸ hstops

/-- A round fails exactly as one of its observers does. -/
theorem failed_iff (h : IsRound call registered subject s made ended) {f : Failure} :
    ended = .error f ↔ ∃ n ∈ made, n.response = .error f := by
  have hended := h.ended
  constructor
  · intro hf
    rw [hended] at hf
    cases hlast : made.getLast? with
    | none =>
      rw [hlast] at hf
      cases hf
    | some last =>
      rw [hlast] at hf
      exact ⟨last, List.mem_of_getLast? hlast, Notification.ending_eq_error.mp hf⟩
  · rintro ⟨n, hn, hf⟩
    -- Whoever fails ends the round, so it is the last of it.
    have hlast : made.getLast? = some n := by
      rcases List.eq_nil_or_concat' made with rfl | ⟨before, last, rfl⟩
      · cases hn
      · rcases List.mem_append.mp hn with hbefore | hlast
        · have hpassing : n.stops = false := h.passing n (by simpa using hbefore)
          simp [Notification.stops, hf] at hpassing
        · rw [List.getLast?_concat, List.mem_singleton.mp hlast]
    rw [hended, hlast]
    exact Notification.ending_eq_error.mpr hf

end IsRound

namespace Act

variable {call : Observer → σ → Act (Value × σ)}

/-- Every round is made of notifications of those who were registered. -/
theorem exists_isRound_notifyEach (call : Observer → σ → Act (Value × σ))
    (registered : List Observer) (subject : σ) (s : Datasource) :
    ∃ made ended, IsRound call registered subject s made ended ∧
      outcome (notifyEach call registered subject) s = (ended, s.reached made) := by
  -- The snapshot shrinks; the rest of the round begins where the first notification left off.
  induction registered generalizing subject s with
  | nil => exact ⟨[], _, .nobody, rfl⟩
  | cons observer rest ih =>
    rw [notifyEach, outcome_bind]
    rcases hcall : outcome (call observer subject) s with ⟨response, after⟩
    let notification : Notification σ := ⟨observer, subject, s, response, after⟩
    have hstopped (hstops : notification.stops = true) :
        IsRound call (observer :: rest) subject s [notification] notification.ending :=
      .stopped rfl rfl hcall hstops
    cases response with
    | error f => exact ⟨_, _, hstopped rfl, rfl⟩
    | ok answered =>
      obtain ⟨answer, left⟩ := answered
      cases hanswer : answer.settled? with
      | some v =>
        have hending : notification.ending = .ok (some v, left) := by
          simp only [Notification.ending, notification, hanswer]
        have hstops : notification.stops = true := by
          simp only [Notification.stops, notification, hanswer, Option.isSome_some]
        refine ⟨_, _, hending ▸ hstopped hstops, ?_⟩
        dsimp only
        rw [hanswer]
        rfl
      | none =>
        have hopen : notification.stops = false := by
          simp only [Notification.stops, notification, hanswer, Option.isSome_none]
        obtain ⟨made, ended, hrest, houtcome⟩ := ih left after
        refine ⟨notification :: made, ended, .passed rfl rfl hcall hopen hrest, ?_⟩
        rw [s.reached_cons notification made]
        dsimp only
        rw [hanswer]
        exact houtcome

theorem exists_isRound_notify (call : Observer → σ → Act (Value × σ)) (event : String)
    (subject : σ) (s : Datasource) :
    ∃ made ended, IsRound call (s.observers.of event) subject s made ended ∧
      outcome (notify call event subject) s = (ended, s.reached made) :=
  exists_isRound_notifyEach call (s.observers.of event) subject s

end Act

/-! Observers of calls -/

def Notification.changes (behaves : Behaviour) (notification : Notification Context) :
    List RegistryChange :=
  (behaves notification.observer notification.subject notification.before).1

def Notification.event (event : String) (notification : Notification Context) : Event :=
  .observer event notification.observer.name (some notification.subject)

/-- The registry with everything done that the notified observers did to it, in this order, and the
notifications on record. -/
def Datasource.notified (s : Datasource) (behaves : Behaviour) (event : String)
    (made : List (Notification Context)) : Datasource :=
  { s with
    observers := s.observers.changeAll (made.flatMap (Notification.changes behaves))
    events := s.events ++ made.map (Notification.event event) }

section Calls

variable {behaves : Behaviour} {event : String} {registered : List Observer} {context : Context}
  {s : Datasource} {made : List (Notification Context)}
  {ended : Result (Option Value × Context)}

theorem Datasource.notified_concat (s : Datasource) (behaves : Behaviour) (event : String)
    (made : List (Notification Context)) (notification : Notification Context) :
    s.notified behaves event (made ++ [notification]) =
      (s.notified behaves event made).notified behaves event [notification] := by
  simp [notified, Observers.changeAll_append]

theorem IsRound.reached_of_prefix
    (h : IsRound (Act.notifyOne behaves event) registered context s made ended)
    {before later : List (Notification Context)} (hmade : made = before ++ later) :
    s.reached before = s.notified behaves event before := by
  -- Each notification begins where the one before it left off.
  induction before using List.reverseRecOn generalizing later with
  | nil => simp [Datasource.reached, Datasource.notified, Observers.changeAll]
  | append_singleton before notification ih =>
    rw [List.append_assoc, List.singleton_append] at hmade
    obtain ⟨-, hbefore, hcall⟩ := h.each before notification later hmade
    rw [ih hmade] at hbefore
    have hafter : notification.after =
        notification.before.notified behaves event [notification] := by
      rw [Act.outcome_notifyOne] at hcall
      rw [← (Prod.mk.inj hcall).2]
      simp [Datasource.notified, Notification.changes, Notification.event]
    rw [s.notified_concat, ← hbefore, ← hafter]
    simp [Datasource.reached]

theorem IsRound.reached_eq
    (h : IsRound (Act.notifyOne behaves event) registered context s made ended) :
    s.reached made = s.notified behaves event made :=
  h.reached_of_prefix (List.append_nil made).symm

end Calls

namespace Act

theorem exists_isRound_notifyOf (behaves : Behaviour) (event : String) (context : Context)
    (s : Datasource) :
    ∃ made ended, IsRound (notifyOne behaves event) (s.observers.of event) context s made ended ∧
      outcome (notifyOf behaves event context) s = (ended, s.notified behaves event made) := by
  obtain ⟨made, ended, hround, houtcome⟩ :=
    exists_isRound_notify (notifyOne behaves event) event context s
  exact ⟨made, ended, hround, hround.reached_eq ▸ houtcome⟩

end Act

end ModelStore
