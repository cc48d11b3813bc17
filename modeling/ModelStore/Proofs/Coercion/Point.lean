import ModelStore.Proofs.Coercion.Document
import ModelStore.Proofs.Storage.Loading

/-!
Coercion of points. Whatever the property of a point says about its storage type, coercion leaves a
document or a value with members as it is, and turns a pair into a pair; so a point stays a point.
-/
namespace ModelStore

open Storage

namespace Coercion

variable {definition : Option Property} {strict : Bool} {v w a b : Value}

private theorem mapM_pair {f : Value → Result Value} (h : (do .ok (Value.list (← [a, b].mapM f))) =
    Except.ok w) : ∃ a' b', w = .list [a', b'] := by
  obtain ⟨coerced, hcoerced, h⟩ := Result.bind_eq_ok.mp h
  obtain ⟨a', rest, -, hrest, rfl⟩ := List.forall₂_cons_left_iff.mp (Result.mapM_eq_ok.mp hcoerced)
  obtain ⟨b', tail, -, htail, rfl⟩ := List.forall₂_cons_left_iff.mp hrest
  cases htail
  exact ⟨a', b', (Except.ok.inj h).symm⟩

theorem coerceValue_list_pair (h : coerceValue definition strict (.list [a, b]) = .ok w) :
    ∃ a' b', w = .list [a', b'] := by
  unfold coerceValue at h
  dsimp only at h
  split_ifs at h with hset hdecimal hdeclared
  · exact ⟨a, b, (Except.ok.inj h).symm⟩
  · exact mapM_pair h
  · unfold coerceReference at h
    split_ifs at h
    · exact mapM_pair h
    · exact ⟨a, b, (Except.ok.inj h).symm⟩
    · exact ⟨a, b, (Except.ok.inj h).symm⟩
  · exact ⟨a, b, (Except.ok.inj h).symm⟩

theorem coerceValue_tuple_pair (h : coerceValue definition strict (.tuple [a, b]) = .ok w) :
    w = .tuple [a, b] ∨ ∃ a' b', w = .list [a', b'] := by
  unfold coerceValue at h
  dsimp only at h
  split_ifs at h with hset hdecimal hdeclared
  · exact Or.inl (Except.ok.inj h).symm
  · exact Or.inr (mapM_pair h)
  · unfold coerceReference at h
    split_ifs at h
    · exact Or.inr (mapM_pair h)
    · exact Or.inl (Except.ok.inj h).symm
    · exact Or.inl (Except.ok.inj h).symm
  · exact Or.inl (Except.ok.inj h).symm

/-- A value with members is left as it is, or refused. -/
theorem coerceValue_of_member {name : String} (hmember : (v.member? name).isSome)
    (h : coerceValue definition strict v = .ok w) : w = v := by
  have hshape : (∃ lat lng, v = .point lat lng) ∨ ∃ members, v = .record members := by
    cases v with
    | point lat lng => exact Or.inl ⟨lat, lng, rfl⟩
    | record members => exact Or.inr ⟨members, rfl⟩
    | _ => simp [Value.member?] at hmember
  unfold coerceValue coerceReference at h
  rcases hshape with ⟨lat, lng, rfl⟩ | ⟨members, rfl⟩ <;> dsimp only at h <;> split_ifs at h <;>
    first | exact (Except.ok.inj h).symm | cases h

theorem pair_of_pointCoordinates {items coordinates : List Value}
    (hv : v = .list items ∨ v = .tuple items) (h : Filter.pointCoordinates v = .ok coordinates) :
    ∃ a b, items = [a, b] := by
  unfold Filter.pointCoordinates at h
  rcases hv with rfl | rfl <;> dsimp only at h
  all_goals
    split at h
    · exact ⟨_, _, rfl⟩
    · cases h

/-- Coercion leaves a point a point. -/
theorem isPointValue_coerceValue (hv : IsPointValue v)
    (h : coerceValue definition strict v = .ok w) : IsPointValue w := by
  rcases hv with rfl | ⟨lng, lat, hpoint⟩
  · exact Or.inl (Except.ok.inj h).symm
  · cases v with
    | doc entries =>
      rw [coerceValue_doc h]
      exact Or.inr ⟨lng, lat, hpoint⟩
    | list items =>
      obtain ⟨a, b, rfl⟩ := pair_of_pointCoordinates (.inl rfl) hpoint
      obtain ⟨a', b', rfl⟩ := coerceValue_list_pair h
      exact Or.inr ⟨a', b', rfl⟩
    | tuple items =>
      obtain ⟨a, b, rfl⟩ := pair_of_pointCoordinates (.inr rfl) hpoint
      rcases coerceValue_tuple_pair h with rfl | ⟨a', b', rfl⟩
      · exact Or.inr ⟨a, b, rfl⟩
      · exact Or.inr ⟨a', b', rfl⟩
    | point lat' lng' =>
      have hmember : ((Value.point lat' lng').member? "lat").isSome := rfl
      rw [coerceValue_of_member hmember h]
      exact Or.inr ⟨lng, lat, hpoint⟩
    | record members =>
      have hmember : ((Value.record members).member? "lat").isSome := by
        unfold Filter.pointCoordinates at hpoint
        dsimp only at hpoint
        split at hpoint
        · rename_i lat' lng' hlat hlng
          rw [hlat]
          rfl
        · cases hpoint
      rw [coerceValue_of_member hmember h]
      exact Or.inr ⟨lng, lat, hpoint⟩
    | _ => simp [Filter.pointCoordinates, Value.member?] at hpoint

end Coercion

end ModelStore
