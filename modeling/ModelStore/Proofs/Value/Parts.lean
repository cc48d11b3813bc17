import ModelStore.Proofs.Coercion.Value

/-!
The values directly inside a value. They are smaller, so what holds of a value whenever it holds of
its parts holds of every value.
-/
namespace ModelStore

namespace Value

/-- The values directly inside a document, a list or a tuple. -/
def parts : Value → List Value
  | .doc entries => entries.map Prod.snd
  | v => v.listed

theorem sizeOf_lt_of_mem_parts {v w : Value} (h : w ∈ v.parts) : sizeOf w < sizeOf v := by
  cases v with
  | doc entries =>
    obtain ⟨entry, hentry, rfl⟩ := List.mem_map.mp h
    have hsize := List.sizeOf_lt_of_mem hentry
    obtain ⟨key, v⟩ := entry
    simp only [Prod.mk.sizeOf_spec] at hsize
    simp only [Value.doc.sizeOf_spec]
    omega
  | list items =>
    have hsize := List.sizeOf_lt_of_mem (show w ∈ items from h)
    simp only [Value.list.sizeOf_spec]
    omega
  | tuple items =>
    have hsize := List.sizeOf_lt_of_mem (show w ∈ items from h)
    simp only [Value.tuple.sizeOf_spec]
    omega
  | _ => simp [parts, listed] at h

theorem listed_of_parts {v : Value} (h : v.parts = []) : v.listed = [] := by
  cases v <;> first | rfl | exact h

/-- Induction from the inside of a value outwards. -/
theorem partsInduction {motive : Value → Prop}
    (step : ∀ v, (∀ w ∈ v.parts, motive w) → motive v) (v : Value) : motive v :=
  step v fun w _ => partsInduction step w
termination_by sizeOf v
decreasing_by exact sizeOf_lt_of_mem_parts ‹_›

end Value

end ModelStore
