import Mathlib.Order.Defs.Unbundled
import ModelStore.Proofs.Datasource.Added

/-!
Acts that stay within a relation: wherever such an act begins, the datasource after it stands in
the relation to the one before. A sequence of acts stays within a preorder if each of them does.
-/
namespace ModelStore.Act

/-- The datasource after the act stands in the relation to the one before it. -/
def Within {α : Type} (R : Datasource → Datasource → Prop) (act : Act α) : Prop :=
  ∀ s, R s (outcome act s).2

variable {α β : Type} {R : Datasource → Datasource → Prop} [IsPreorder Datasource R]

theorem within_pure (a : α) : Within R (pure a) := fun s => refl_of R s

theorem within_throw (f : Failure) : Within R (throw f : Act α) := fun s => refl_of R s

theorem within_get : Within R get := fun s => refl_of R s

theorem within_settle (r : Result α) : Within R (settle r) := by
  intro s
  rw [outcome_settle]
  exact refl_of R s

omit [IsPreorder Datasource R] in
theorem within_attempt {act : Act α} (h : Within R act) : Within R (attempt act) := h

omit [IsPreorder Datasource R] in
theorem within_rescue {act : Act α} (h : Within R act) : Within R (rescue act) := by
  intro s
  rw [outcome_rescue]
  exact h s

omit [IsPreorder Datasource R] in
theorem within_modify {f : Datasource → Datasource} (h : ∀ s, R s (f s)) : Within R (modify f) := h

/-- What follows an act stays within the relation to what that act leaves. -/
theorem within_rest {x : Act α} {next : α → Act β} (hnext : ∀ a, Within R (next a))
    (s : Datasource) : R (outcome x s).2 (outcome (x >>= next) s).2 := by
  rw [outcome_bind]
  rcases outcome x s with ⟨r, after⟩
  cases r with
  | error f => exact refl_of R after
  | ok a => exact hnext a after

theorem Within.bind {x : Act α} {next : α → Act β} (hx : Within R x)
    (hnext : ∀ a, Within R (next a)) : Within R (x >>= next) :=
  fun s => trans_of R (hx s) (within_rest hnext s)

theorem Within.map {x : Act α} {f : α → β} (hx : Within R x) : Within R (f <$> x) :=
  hx.bind fun _ => within_pure _

/-- A change of the datasource, and something after it. -/
theorem within_modify_bind {f : Datasource → Datasource} {next : Act β} (h : ∀ s, R s (f s))
    (hnext : Within R next) : Within R (modify f >>= fun _ => next) :=
  (within_modify h).bind fun _ => hnext

theorem within_reply (hreplies : ∀ s replies, R s { s with replies }) : Within R reply := by
  refine within_get.bind fun s => ?_
  split
  · exact within_pure _
  · refine within_modify_bind (fun s => hreplies s _) ?_
    split
    · exact within_pure _
    · exact within_throw _

theorem within_admin {client : Nat} {command : String}
    (hlog : Within R (log (.admin client command)))
    (hreplies : ∀ s replies, R s { s with replies }) : Within R (admin client command) :=
  hlog.bind fun _ => within_reply hreplies

section Clients

variable (hclients : ∀ s : Datasource, R s { s with clients := s.clients ++ [.bool false] })
include hclients

theorem within_newClient : Within R newClient := by
  refine within_modify_bind hclients ?_
  exact within_get.bind fun _ => within_pure _

theorem within_newSession (hlog : Within R (log (.construct [] [])))
    (hsessions : ∀ s x, R s { s with sessions := s.sessions ++ [x] }) (origin : SessionOrigin)
    (plan : SessionPlan) : Within R (newSession origin plan) := by
  have hopened (client : Option Nat) : Within R (do
      let number := (← get).sessions.length
      modify fun s =>
        { s with sessions := s.sessions ++ [⟨origin, plan, plan.inTransaction, client⟩] }
      pure number) :=
    within_get.bind fun _ => within_modify_bind (fun s => hsessions s _) (within_pure _)
  unfold newSession
  dsimp only
  split
  · exact hlog.bind fun _ => (within_newClient hclients).map.bind hopened
  · exact (within_pure _).bind hopened

end Clients

theorem within_callSession {number : Nat} {method : SessionMethod}
    (hlog : ∀ origin failure, Within R (log (.session number origin method failure)))
    (hsessions : ∀ s x, R s { s with sessions := s.sessions.set number x }) :
    Within R (callSession number method) := by
  refine within_get.bind fun s => (hlog _ _).bind fun _ => ?_
  split
  · exact within_throw _
  · exact within_modify fun s' => hsessions s' _

end ModelStore.Act
