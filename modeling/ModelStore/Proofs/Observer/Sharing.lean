import Mathlib.Data.List.Forall2
import Mathlib.Logic.Relation
import ModelStore.Proofs.Observer.Notification
import ModelStore.Proofs.Table

/-!
What observers make of a call. They share its objects, so they can change what is in each of them,
but the call stays a call of its command with the same objects, the same keywords and the same
session. Whatever one of them puts into another's sight is out of the reach of the call.
-/
namespace ModelStore

namespace Value

/-- Something that may have other contents, but is the same object. -/
def SameObject (v after : Value) : Prop := ∃ contents, after = v.rewritten contents

theorem canBecome_trans {v w u : Value} (h : v.canBecome w = true) (h' : w.canBecome u = true) :
    v.canBecome u = true := by
  unfold canBecome at h
  split at h
  all_goals first | cases u <;> exact h' | cases h

theorem rewritten_of_canBecome {v w : Value} (h : v.canBecome w = true) : v.rewritten w = w := by
  unfold rewritten
  split
  · cases h
  · rw [if_pos h]

theorem rewritten_of_not_canBecome {v w : Value} (htuple : ∀ items, v ≠ .tuple items)
    (h : ¬ v.canBecome w = true) : v.rewritten w = v := by
  unfold rewritten
  split
  · exact absurd rfl (htuple _)
  · rw [if_neg h]

theorem not_tuple_of_canBecome {v w : Value} (h : v.canBecome w = true) (items : List Value) :
    w ≠ .tuple items := by
  rintro rfl
  cases v <;> cases h

mutual

theorem rewritten_self (v : Value) : v.rewritten v = v := by
  cases v with
  | tuple items => rw [rewritten, rewrittenAll_self items]
  | _ => simp only [rewritten, ite_self]

theorem rewrittenAll_self (items : List Value) : rewrittenAll items items = items := by
  cases items with
  | nil => rfl
  | cons v rest => rw [rewrittenAll, rewritten_self v, rewrittenAll_self rest]

end

theorem rewritten_tuple {items : List Value} {w : Value} (htuple : ∀ others, w ≠ .tuple others) :
    (tuple items).rewritten w = .tuple items := by
  unfold rewritten
  split
  · exact absurd rfl (htuple _)
  · rw [if_neg (by simp [canBecome])]

theorem exists_rewritten_single {v : Value} (htuple : ∀ items, v ≠ .tuple items)
    (first second : Value) :
    ∃ contents, (v.rewritten first).rewritten second = v.rewritten contents := by
  by_cases hfirst : v.canBecome first = true
  · rw [rewritten_of_canBecome hfirst]
    by_cases hsecond : first.canBecome second = true
    · refine ⟨second, ?_⟩
      rw [rewritten_of_canBecome hsecond,
        rewritten_of_canBecome (canBecome_trans hfirst hsecond)]
    · refine ⟨first, ?_⟩
      rw [rewritten_of_not_canBecome (not_tuple_of_canBecome hfirst) hsecond,
        rewritten_of_canBecome hfirst]
  · exact ⟨second, by rw [rewritten_of_not_canBecome htuple hfirst]⟩

mutual

/-- What is changed twice could have been changed at once. -/
theorem exists_rewritten (v first second : Value) :
    ∃ contents, (v.rewritten first).rewritten second = v.rewritten contents := by
  cases v with
  | tuple items =>
    by_cases hfirst : ∃ others, first = .tuple others
    · obtain ⟨others, rfl⟩ := hfirst
      rw [rewritten]
      by_cases hsecond : ∃ others', second = .tuple others'
      · obtain ⟨others', rfl⟩ := hsecond
        obtain ⟨contents, hcontents⟩ := exists_rewrittenAll items others others'
        exact ⟨.tuple contents, by rw [rewritten, rewritten, hcontents]⟩
      · exact ⟨.tuple others, by rw [rewritten_tuple (not_exists.mp hsecond), rewritten]⟩
    · exact ⟨second, by rw [rewritten_tuple (not_exists.mp hfirst)]⟩
  | _ => exact exists_rewritten_single (by simp) first second

theorem exists_rewrittenAll (items first second : List Value) :
    ∃ contents, rewrittenAll (rewrittenAll items first) second = rewrittenAll items contents := by
  cases items with
  | nil => exact ⟨[], rfl⟩
  | cons v rest =>
    cases first with
    | nil => exact ⟨second, rfl⟩
    | cons after others =>
      cases second with
      | nil => exact ⟨after :: others, rfl⟩
      | cons after' others' =>
        obtain ⟨contents, hcontents⟩ := exists_rewritten v after after'
        obtain ⟨later, hlater⟩ := exists_rewrittenAll rest others others'
        exact ⟨contents :: later, by simp only [rewrittenAll, hcontents, hlater]⟩

end

theorem SameObject.refl (v : Value) : v.SameObject v := ⟨v, (rewritten_self v).symm⟩

theorem SameObject.trans {v w u : Value} (h : v.SameObject w) (h' : w.SameObject u) :
    v.SameObject u := by
  obtain ⟨first, rfl⟩ := h
  obtain ⟨second, rfl⟩ := h'
  exact exists_rewritten v first second

theorem sameObject_rewrittenAll (items contents : List Value) :
    List.Forall₂ SameObject items (rewrittenAll items contents) := by
  induction items generalizing contents with
  | nil => exact .nil
  | cons v rest ih =>
    cases contents with
    | nil => exact List.forall₂_same.mpr fun w _ => .refl w
    | cons after others => exact .cons ⟨after, rfl⟩ (ih others)

end Value

theorem forall₂_trans {α : Type} {R : α → α → Prop} (hR : ∀ {a b c}, R a b → R b c → R a c)
    {as bs cs : List α} (h : List.Forall₂ R as bs) (h' : List.Forall₂ R bs cs) :
    List.Forall₂ R as cs := by
  induction h generalizing cs with
  | nil => exact h'
  | cons hab _ ih =>
    cases h' with
    | cons hbc hrest => exact .cons (hR hab hbc) (ih hrest)

namespace Context

/-- The last of the contexts stands for the same call, on the same objects. -/
structure CallOf (given last : Context) : Prop where
  route : last.route = given.route
  command : last.command = given.command
  arguments : List.Forall₂ Value.SameObject given.arguments last.arguments
  keywords : List.Forall₂ (fun entry after => entry.1 = after.1 ∧ entry.2.SameObject after.2)
    given.keywords last.keywords
  session : Table.get? last.keywords sessionKey = Table.get? given.keywords sessionKey

variable {given between last : Context}

theorem CallOf.refl (c : Context) : c.CallOf c where
  route := rfl
  command := rfl
  arguments := List.forall₂_same.mpr fun v _ => .refl v
  keywords := List.forall₂_same.mpr fun entry _ => ⟨rfl, .refl entry.2⟩
  session := rfl

theorem CallOf.trans (h : given.CallOf between) (h' : between.CallOf last) : given.CallOf last where
  route := h'.route.trans h.route
  command := h'.command.trans h.command
  arguments := forall₂_trans .trans h.arguments h'.arguments
  keywords := forall₂_trans
    (fun hentry hafter => ⟨hentry.1.trans hafter.1, hentry.2.trans hafter.2⟩) h.keywords h'.keywords
  session := h'.session.trans h.session

theorem keywords_rewritten (keywords after : Document) :
    List.Forall₂ (fun entry last => entry.1 = last.1 ∧ entry.2.SameObject last.2) keywords
      (rewrittenKeywords keywords after) := by
  refine List.forall₂_map_right_iff.mpr (List.forall₂_same.mpr fun entry _ => ⟨rfl, ?_⟩)
  dsimp only
  split
  · exact .refl entry.2
  · cases Table.get? after entry.1 with
    | none => exact .refl entry.2
    | some contents => exact ⟨contents, rfl⟩

theorem session_rewritten (keywords after : Document) :
    Table.get? (rewrittenKeywords keywords after) sessionKey =
      Table.get? keywords sessionKey := by
  induction keywords with
  | nil => rfl
  | cons entry rest ih =>
    obtain ⟨key, v⟩ := entry
    rw [rewrittenKeywords, List.map_cons, Table.get?_cons, Table.get?_cons]
    by_cases hkey : key = sessionKey
    · rw [if_pos hkey, if_pos hkey, if_pos hkey]
    · rw [if_neg hkey, if_neg hkey]
      exact ih

theorem callOf_shared (c after : Context) : c.CallOf (c.shared after) where
  route := rfl
  command := rfl
  arguments := Value.sameObject_rewrittenAll c.arguments after.arguments
  keywords := keywords_rewritten c.keywords after.keywords
  session := session_rewritten c.keywords after.keywords

end Context

namespace Behaviour

/-- An observer of this behaviour that is told of the one call answers and leaves the other. -/
def Leaves (behaves : Behaviour) (c after : Context) : Prop :=
  ∃ observer s answer left, (behaves observer c s).2 = .ok (answer, left) ∧ after = c.shared left

/-- Observers of this behaviour can make the one call of the other, one after the other. -/
def Makes (behaves : Behaviour) : Context → Context → Prop := Relation.ReflTransGen behaves.Leaves

variable {behaves : Behaviour} {given last : Context}

theorem Makes.callOf (h : behaves.Makes given last) : given.CallOf last := by
  induction h with
  | refl => exact .refl given
  | tail _ hleaves ih =>
    obtain ⟨-, -, -, left, -, rfl⟩ := hleaves
    exact ih.trans (Context.callOf_shared _ left)

end Behaviour

namespace Act

variable {P : Event → Prop} {behaves : Behaviour} {given : Context}
variable (hP : ∀ event name seen, P (.observer event name seen))
include hP

theorem adds_notifyOne (event : String) (observer : Observer) {c : Context}
    (h : behaves.Makes given c) :
    Adds P (notifyOne behaves event observer c) fun answered =>
      behaves.Makes given answered.2 := by
  intro s
  rw [outcome_notifyOne]
  refine ⟨_, rfl, fun e he => List.mem_singleton.mp he ▸ hP _ _ _, ?_⟩
  intro answered hanswered
  obtain ⟨⟨answer, left⟩, hleft, rfl⟩ := Result.map_eq_ok.mp hanswered
  exact h.tail ⟨observer, s, answer, left, hleft, rfl⟩

theorem adds_notifyOf (event : String) (given : Context) :
    Adds P (notifyOf behaves event given) fun answered => behaves.Makes given answered.2 :=
  adds_notify (fun observer _ h => adds_notifyOne hP event observer h) event .refl

omit hP in
theorem makes_of_notifyOf {event : String} {s after : Datasource} {ruling : Option Value}
    {last : Context} (h : outcome (notifyOf behaves event given) s = (.ok (ruling, last), after)) :
    behaves.Makes given last := by
  obtain ⟨-, -, -, hmakes⟩ :=
    adds_notifyOf (P := fun _ => True) (fun _ _ _ => trivial) event given s
  exact hmakes (ruling, last) (congrArg Prod.fst h)

theorem adds_conclude (operation : String) (c : Context) (done : Result Value) :
    Adds P (conclude behaves operation c done) fun _ => True := by
  refine (adds_attempt (adds_notifyOf hP _ _)).bind fun told _ => ?_
  split
  · exact adds_pure trivial
  · exact adds_pure trivial

/-- Work between two rounds is done, if it is done, on what observers make of the call. -/
theorem adds_around (operation : String) (given : Context) {work : Context → Act Value}
    (hwork : ∀ last, behaves.Makes given last → Adds P (work last) fun _ => True) :
    Adds P (around behaves operation given work) fun _ => True := by
  refine (adds_attempt (adds_notifyOf hP _ given)).bind fun before hbefore => ?_
  split
  · exact adds_pure trivial
  · exact adds_pure trivial
  · rename_i last
    refine (adds_attempt (adds_rescue (hwork last (hbefore _ rfl)))).bind fun done _ => ?_
    split
    · exact adds_pure trivial
    · exact adds_conclude hP operation last _

end Act
end ModelStore
