import ModelStore.Coercion.Document
import ModelStore.Proofs.Result
import Mathlib.Tactic.SplitIfs

/-!
Coercion of one value. A document is never changed, and the documents in a list stay what they
are: decimals leave them alone, and identifiers refuse them.
-/
namespace ModelStore

/-- The elements of a list or tuple; other values have none. -/
def Value.listed : Value → List Value
  | .list items => items
  | .tuple items => items
  | _ => []

namespace Coercion

theorem storeDecimal_eq_ok {d : Number.Decimal} {w : Value} (h : storeDecimal d = .ok w) :
    ∃ stored, w = .decimal128 stored := by
  rw [storeDecimal] at h
  split at h
  · rename_i stored _
    exact ⟨stored, (Except.ok.inj h).symm⟩
  · simp at h

theorem readDecimal_eq_ok {s : String} {w : Value} (h : readDecimal s = .ok w) :
    ∃ stored, w = .decimal128 stored := by
  rw [readDecimal] at h
  split at h
  · exact storeDecimal_eq_ok h
  · simp at h

theorem readObjectId_eq_ok {s : String} {w : Value} (h : readObjectId s = .ok w) :
    ∃ id, w = .objectId id := by
  rw [readObjectId] at h
  split at h
  · rename_i id _
    exact ⟨id, (Except.ok.inj h).symm⟩
  · simp at h

theorem requireObjectId_eq_ok {v w : Value} (h : requireObjectId v = .ok w) :
    ∃ id, w = .objectId id := by
  cases v with
  | objectId id => exact ⟨id, (Except.ok.inj h).symm⟩
  | text s =>
    rw [requireObjectId] at h
    split at h
    · exact readObjectId_eq_ok h
    · simp at h
  | _ => simp [requireObjectId] at h

theorem toDecimal128_eq_doc_iff {v w : Value} (h : toDecimal128 v = .ok w) (entries : Document) :
    w = .doc entries ↔ v = .doc entries := by
  cases v with
  | decimal d =>
    obtain ⟨stored, rfl⟩ := storeDecimal_eq_ok h
    simp
  | text s =>
    obtain ⟨stored, rfl⟩ := readDecimal_eq_ok h
    simp
  | _ => rw [← Except.ok.inj h]

theorem requireObjectId_eq_doc_iff {v w : Value} (h : requireObjectId v = .ok w)
    (entries : Document) : w = .doc entries ↔ v = .doc entries := by
  obtain ⟨id, rfl⟩ := requireObjectId_eq_ok h
  constructor
  · intro hdoc
    simp at hdoc
  · rintro rfl
    simp [requireObjectId] at h

private theorem doc_mem_mapM_iff {f : Value → Result Value} {items : List Value} {w : Value}
    {entries : Document} (h : (do .ok (Value.list (← items.mapM f))) = Except.ok w)
    (hf : ∀ v w, f v = .ok w → (w = .doc entries ↔ v = .doc entries)) :
    .doc entries ∈ w.listed ↔ .doc entries ∈ items := by
  obtain ⟨coerced, hcoerced, h⟩ := Result.bind_eq_ok.mp h
  rw [← Except.ok.inj h]
  have hmem := Result.exists_mem_iff (Result.mapM_eq_ok.mp hcoerced) fun v _ => hf v
  simpa [Value.listed] using hmem

/-- A list is mapped to itself exactly if each of its elements is. -/
theorem list_mapM_eq_self_iff {f : Value → Result Value} {items : List Value} :
    (do .ok (Value.list (← items.mapM f))) = Except.ok (Value.list items) ↔
      ∀ v ∈ items, f v = .ok v := by
  rw [← Result.mapM_eq_self_iff, Result.bind_eq_ok]
  simp

theorem doc_mem_listed_coerceDecimal {v w : Value} (h : coerceDecimal v = .ok w)
    (entries : Document) : .doc entries ∈ w.listed ↔ .doc entries ∈ v.listed := by
  cases v with
  | list items => exact doc_mem_mapM_iff h fun v w hv => toDecimal128_eq_doc_iff hv entries
  | tuple items => exact doc_mem_mapM_iff h fun v w hv => toDecimal128_eq_doc_iff hv entries
  | decimal d =>
    obtain ⟨stored, rfl⟩ := storeDecimal_eq_ok h
    exact Iff.rfl
  | text s =>
    obtain ⟨stored, rfl⟩ := readDecimal_eq_ok h
    exact Iff.rfl
  | _ =>
    obtain rfl := Except.ok.inj h
    exact Iff.rfl

theorem doc_mem_listed_coerceReference {definition : Option Property} {v w : Value}
    {strict : Bool} (h : coerceReference definition v strict = .ok w) (entries : Document) :
    .doc entries ∈ w.listed ↔ .doc entries ∈ v.listed := by
  unfold coerceReference at h
  by_cases hdeclared : isDeclaredObjectId definition = true
  · rw [if_pos hdeclared] at h
    cases v with
    | list items => exact doc_mem_mapM_iff h fun v w hv => requireObjectId_eq_doc_iff hv entries
    | tuple items => exact doc_mem_mapM_iff h fun v w hv => requireObjectId_eq_doc_iff hv entries
    | _ =>
      obtain ⟨id, rfl⟩ := requireObjectId_eq_ok h
      simp [Value.listed]
  · rw [if_neg hdeclared] at h
    split_ifs at h
    · cases v with
      | text s =>
        rw [toObjectId] at h
        split_ifs at h
        · obtain ⟨id, rfl⟩ := readObjectId_eq_ok h
          simp [Value.listed]
        · rw [← Except.ok.inj h]
      | _ => rw [← Except.ok.inj h]
    · rw [← Except.ok.inj h]

/-- Coercion neither makes nor drops a document in a list. -/
theorem doc_mem_listed_coerceValue {definition : Option Property} {strict : Bool} {v w : Value}
    (h : coerceValue definition strict v = .ok w) (entries : Document) :
    .doc entries ∈ w.listed ↔ .doc entries ∈ v.listed := by
  unfold coerceValue at h
  dsimp only at h
  split_ifs at h
  · rw [Except.ok.inj h]
  · exact doc_mem_listed_coerceDecimal h entries
  · exact doc_mem_listed_coerceReference h entries
  · rw [Except.ok.inj h]

end Coercion

end ModelStore
