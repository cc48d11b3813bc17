import ModelStore.Proofs.Command.Unobserved
import ModelStore.Proofs.Datasource.Kept
import ModelStore.Proofs.Observer.Snapshot

/-!
The order in which a command runs. First the connection and the collection, then the observers
before the call, then the call itself, and then the observers after it. Each part decides whether
the next one takes place. The call that is made is the one that was given, on objects that the
observers before it may have changed.
-/
namespace ModelStore

open Act

def Event.isNotification : Event → Bool
  | .observer .. => true
  | _ => false

/-- How the collection of a model is found. Nobody is notified on the way, and the database is not
called. -/
structure Resolver where
  find : Value → Act Value
  quiet : ∀ (model : Value) (s : Datasource),
    s.Extends (fun e => e.isCall = false ∧ e.isNotification = false) (outcome (find model) s).2

namespace Dispatcher

def resolver (d : Dispatcher) : Resolver where
  find := d.resolve
  quiet model := by
    have hresolve : Continues (fun e => e.isCall = false ∧ e.isNotification = false)
        (d.resolve model) :=
      continues_database.bind fun _ => continues_settle _
    exact fun s => (hresolve s).extends_

variable {behaves : Behaviour} {settings : Settings} {resolver : Resolver} {model name : Value}
  {sending : Sending} {given last : Context} {s found replied : Datasource}

/-- What comes before the observers: the keywords are checked, the connection is ensured and the
collection is found. -/
def prepare (settings : Settings) (resolver : Resolver) (model : Value) (sending : Sending) :
    Act Value := do
  checkKeywords parameterNames sending.keywords
  let _ ← Connection.ensureConnected settings
  resolver.find model

/-- Sends a command on the collection that the resolver finds. A dispatcher sends all its commands
so, by the resolver of its own models. -/
def sendBy (behaves : Behaviour) (settings : Settings) (resolver : Resolver) (model : Value)
    (sending : Sending) : Act Value := do
  let name ← prepare settings resolver model sending
  delivered (around behaves "execute" (sending.given model name) (work name))

theorem dispatch_eq_sendBy (d : Dispatcher) (model : Value) (sending : Sending) :
    d.dispatch model sending = sendBy d.observing d.settings d.resolver model sending := by
  have hdispatch : d.dispatch model sending = (do
      checkKeywords parameterNames sending.keywords
      let _ ← Connection.ensureConnected d.settings
      let name ← d.resolve model
      delivered (around d.observing "execute" (sending.given model name) (work name))) := rfl
  rw [hdispatch, sendBy, prepare]
  simp only [bind_assoc]
  rfl

/-- Preparing a command notifies nobody and does not call the database. -/
theorem extends_prepare (settings : Settings) (resolver : Resolver) (model : Value)
    (sending : Sending) (s : Datasource) :
    s.Extends (fun e => e.isCall = false ∧ e.isNotification = false)
      (outcome (prepare settings resolver model sending) s).2 := by
  have hchecked : Within (Datasource.Extends fun e => e.isCall = false ∧ e.isNotification = false)
      (checkKeywords parameterNames sending.keywords) := within_checkKeywords _ _
  have hconnected : Within (Datasource.Extends fun e => e.isCall = false ∧ e.isNotification = false)
      (Connection.ensureConnected settings) := by
    intro s
    refine (continues_ensureConnected ?_ s).extends_
    intro e he
    cases e <;> first | exact ⟨rfl, rfl⟩ | cases he
  exact hchecked.bind (fun _ => hconnected.bind fun _ => resolver.quiet model) s

/-- An attempt is recorded before it is answered, and nothing else is. -/
theorem events_work (name : Value) (c : Context) (s : Datasource) :
    (outcome (work name c) s).2.events = s.events ++ [attempt name c] := by
  have hreply : Keeps Datasource.events reply := within_reply fun _ _ => rfl
  have hcursor : Keeps Datasource.events newCursor :=
    within_modify_bind (fun _ => rfl) (within_get.bind fun _ => within_pure _)
  unfold work attempt
  cases c.route with
  | database =>
    dsimp only
    rw [callDatabase, outcome_bind_ok _ (outcome_log _ s)]
    exact hreply _
  | collection =>
    dsimp only
    rw [callNative, outcome_bind_ok _ (outcome_log _ s)]
    suffices hanswered : Keeps Datasource.events _ from hanswered _
    refine within_get.bind fun s' => ?_
    split
    · exact hreply
    · exact hcursor
    · exact within_throw _

/-- How a command runs in a datasource in which its collection was found: the notifications before
the call, the call if it is attempted, the notifications after it, what the caller receives, and
the datasource in the end. -/
inductive InOrder (behaves : Behaviour) (name : Value) (given : Context) (found : Datasource) :
    List (Notification Context) → List Event → List (Notification Context) → Result Value →
      Datasource → Prop
  /-- An observer before the call fails. -/
  | refused {before : List (Notification Context)} {f : Failure}
      (hbefore : IsRound (notifyOne behaves "before execute")
        (found.observers.of "before execute") given found before (.error f)) :
      InOrder behaves name given found before [] [] (.error f)
        (found.notified behaves "before execute" before)
  /-- An observer before the call settles the matter. -/
  | settled {before : List (Notification Context)} {v : Value} {last : Context}
      (hbefore : IsRound (notifyOne behaves "before execute")
        (found.observers.of "before execute") given found before (.ok (some v, last))) :
      InOrder behaves name given found before [] [] (.ok v)
        (found.notified behaves "before execute" before)
  /-- The call is interrupted. -/
  | interrupted {before : List (Notification Context)} {last : Context} {f : Failure}
      {replied : Datasource}
      (hbefore : IsRound (notifyOne behaves "before execute")
        (found.observers.of "before execute") given found before (.ok (none, last)))
      (hmade : given.CallOf last)
      (hcall : outcome (work name last) (found.notified behaves "before execute" before) =
        (.error f, replied))
      (hf : f.isError = false) :
      InOrder behaves name given found before [attempt name last] [] (.error f) replied
  /-- The call ends, and the observers after it are told with what. -/
  | concluded {before later : List (Notification Context)} {last : Context} {done : Result Value}
      {replied : Datasource} {told : Result (Option Value × Context)}
      (hbefore : IsRound (notifyOne behaves "before execute")
        (found.observers.of "before execute") given found before (.ok (none, last)))
      (hmade : given.CallOf last)
      (hcall : outcome (work name last) (found.notified behaves "before execute" before) =
        (done, replied))
      (hdone : done.Uninterrupted)
      (hlater : IsRound (notifyOne behaves "after execute")
        (replied.observers.of "after execute") (last.reporting done) replied later told) :
      InOrder behaves name given found before [attempt name last] later
        (told.bind fun left => done.map fun _ => left.2.result)
        (replied.notified behaves "after execute" later)

/-- What follows once the collection is found: the round before the call decides. -/
theorem exists_inOrder (behaves : Behaviour) (name : Value) (given : Context)
    (found : Datasource) :
    ∃ before call later, InOrder behaves name given found before call later
      (outcome (delivered (around behaves "execute" given (work name))) found).1
      (outcome (delivered (around behaves "execute" given (work name))) found).2 := by
  obtain ⟨before, ruled, hbefore, houtcome⟩ :=
    exists_isRound_notifyOf behaves "before execute" given found
  have hnotified := houtcome
  rw [← before_execute] at hnotified
  cases ruled with
  | error f =>
    rw [outcome_around_failed hnotified, before_execute]
    exact ⟨before, [], [], .refused hbefore⟩
  | ok ruling =>
    obtain ⟨settled, last⟩ := ruling
    cases settled with
    | some v =>
      rw [outcome_around_settled hnotified, before_execute]
      exact ⟨before, [], [], .settled hbefore⟩
    | none =>
      have hmade : given.CallOf last := (makes_of_notifyOf houtcome).callOf
      rcases hcall : outcome (work name last) (found.notified behaves "before execute" before)
        with ⟨done, replied⟩
      have hworked :
          outcome (work name last) (found.notified behaves ("before " ++ "execute") before) =
            (done, replied) := by
        rw [before_execute, hcall]
      rw [outcome_around_passed hnotified hworked]
      by_cases hdone : done.Uninterrupted
      · obtain ⟨later, told, hlater, htold⟩ :=
          exists_isRound_notifyOf behaves "after execute" (last.reporting done) replied
        rw [handOn_of_uninterrupted hdone, outcome_concluded, after_execute, htold]
        exact ⟨before, _, later, .concluded hbefore hmade hcall hdone hlater⟩
      · obtain ⟨f, rfl, hinterrupted⟩ := Result.exists_of_not_uninterrupted hdone
        rw [handOn_of_interrupted hinterrupted]
        exact ⟨before, _, [], .interrupted hbefore hmade hcall hinterrupted⟩

namespace InOrder

variable {before later : List (Notification Context)} {call : List Event} {ended : Result Value}
  {after : Datasource}

/-- The call stands between the notifications before it and those after it. -/
theorem events_eq (h : InOrder behaves name given found before call later ended after) :
    after.events = found.events ++ before.map (Notification.event "before execute") ++ call ++
      later.map (Notification.event "after execute") := by
  have hattempted {last : Context} {done : Result Value} {replied : Datasource}
      (hcall : outcome (work name last) (found.notified behaves "before execute" before) =
        (done, replied)) :
      replied.events = found.events ++ before.map (Notification.event "before execute") ++
        [attempt name last] := by
    have hevents := events_work name last (found.notified behaves "before execute" before)
    rw [hcall] at hevents
    exact hevents
  cases h with
  | refused _ => simp [Datasource.notified]
  | settled _ => simp [Datasource.notified]
  | interrupted _ _ hcall _ => simp [hattempted hcall]
  | concluded _ _ hcall _ _ => simp [Datasource.notified, hattempted hcall]

theorem length_call_le (h : InOrder behaves name given found before call later ended after) :
    call.length ≤ 1 := by
  cases h <;> simp

/-- The call is attempted exactly if everyone before it was notified and nobody ended the round. -/
theorem attempted_iff (h : InOrder behaves name given found before call later ended after) :
    call ≠ [] ↔ before.map Notification.observer = found.observers.of "before execute" ∧
      ∀ n ∈ before, n.stops = false := by
  cases h with
  | refused hbefore => simp [← hbefore.passed_iff]
  | settled hbefore => simp [← hbefore.passed_iff]
  | interrupted hbefore _ _ _ => simp [← hbefore.passed_iff]
  | concluded hbefore _ _ _ _ => simp [← hbefore.passed_iff]

end InOrder

/-- However a connection is, wherever collections are found and whatever observers do, a command
runs in order: it notifies nobody and calls nothing before its collection is found, and then it
follows its observers. -/
theorem runs_in_order (behaves : Behaviour) (settings : Settings) (resolver : Resolver)
    (model : Value) (sending : Sending) (s : Datasource) :
    let prepared := outcome (prepare settings resolver model sending) s
    let ended := outcome (sendBy behaves settings resolver model sending) s
    s.Extends (fun e => e.isCall = false ∧ e.isNotification = false) prepared.2 ∧
      (∀ f, prepared.1 = .error f → ended = (.error f, prepared.2)) ∧
      ∀ name, prepared.1 = .ok name → ∃ before call later,
        InOrder behaves name (sending.given model name) prepared.2 before call later
            ended.1 ended.2 ∧
          ended.2.events =
            prepared.2.events ++ before.map (Notification.event "before execute") ++ call ++
              later.map (Notification.event "after execute") ∧
          call.length ≤ 1 ∧
          (call ≠ [] ↔
            before.map Notification.observer = prepared.2.observers.of "before execute" ∧
              ∀ n ∈ before, n.stops = false) := by
  intro prepared ended
  refine ⟨extends_prepare settings resolver model sending s, ?_, ?_⟩
  · intro f hf
    exact outcome_bind_error _ (Prod.ext hf rfl)
  · intro name hname
    have hended : ended = outcome
        (delivered (around behaves "execute" (sending.given model name) (work name)))
        prepared.2 := outcome_bind_ok _ (Prod.ext hname rfl)
    obtain ⟨before, call, later, hordered⟩ :=
      exists_inOrder behaves name (sending.given model name) prepared.2
    rw [← hended] at hordered
    exact ⟨before, call, later, hordered, hordered.events_eq, hordered.length_call_le,
      hordered.attempted_iff⟩

def plainResolver : Resolver where
  find model := pure model
  quiet _ _ := .of_eq rfl

def commented : Sending :=
  { command := "find_one", arguments := [], keywords := [("comment", .doc [])] }

/-- The first of the observers changes the comment and what is found, the others look on. -/
def meddling : Behaviour := fun observer context _ =>
  if observer.name = "first" then
    ([], .ok (.null, { context with
      keywords := [("comment", .doc [("by", .text "first")])], result := .int 7 }))
  else ([], .ok (.null, context))

def observed : Datasource :=
  { Datasource.quiet with
    observers := [("before execute", [⟨"first", 0⟩]),
      ("after execute", [⟨"first", 1⟩, ⟨"second", 2⟩])]
    replies := [.value (.int 3)] }

/-- What the observers after a call are told came of it. -/
def toldAfter (s : Datasource) : List Value :=
  s.events.filterMap fun
    | .observer "after execute" _ (some seen) => some seen.result
    | _ => none

/-- Keywords that repeat a parameter keep a call from being attempted, observers change the objects
of keywords, and the later of them are not told what came of the call but what the earlier ones
made of it. -/
theorem not_runs_as_given :
    let repeating : Sending := { commented with keywords := [("model", .text "x")] }
    let refused := outcome (sendBy .idle {} plainResolver (.text "Post") repeating) Datasource.quiet
    let meddled := outcome (sendBy meddling {} plainResolver (.text "Post") commented) observed
    (outcome (Connection.ensureConnected {}) Datasource.quiet).1.isOk = true ∧
      (outcome (plainResolver.find (.text "Post")) Datasource.quiet).1.isOk = true ∧
      Datasource.quiet.observers = [] ∧ refused.2.events = [] ∧
      meddled.2.events.filter Event.isCall =
        [.native (.text "Post") "find_one" [] [("comment", .doc [("by", .text "first")])]] ∧
      toldAfter meddled.2 = [.int 3, .int 7] :=
  ⟨rfl, rfl, rfl, rfl, rfl, rfl⟩

end Dispatcher
end ModelStore
