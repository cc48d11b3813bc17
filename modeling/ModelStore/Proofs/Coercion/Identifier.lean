import ModelStore.Coercion.Document
import ModelStore.Proofs.Result
import Mathlib.Tactic.SplitIfs

/-!
Texts that write identifiers. The case of their letters is ignored, and unless strict coercion
leaves texts alone every property that does not hold decimals takes them for identifiers.
-/
namespace ModelStore

namespace ObjectId

/-- A fact about small code points is decided for each of them. -/
theorem forall_ascii {P : Char → Prop} (h : ∀ n : Fin 128, P (Char.ofNat n)) {c : Char}
    (hc : c.toNat < 128) : P c := by
  have hcode : Char.ofNat c.toNat = c := Char.ofNat_toNat c
  rw [← hcode]
  exact h ⟨c.toNat, hc⟩

theorem hexValue?_toLower (c : Char) : hexValue? c.toLower = hexValue? c := by
  by_cases hsmall : c.toNat < 128
  · exact forall_ascii (P := fun c => hexValue? c.toLower = hexValue? c) (by decide) hsmall
  · have hkept : c.toLower = c := by
      unfold Char.toLower
      split
      · rename_i hupper
        have hle : c.toNat ≤ 90 := hupper.2
        omega
      · rfl
    rw [hkept]

/-- Hexadecimal digits have small code points. -/
theorem toNat_lt_of_isHex {c : Char} (h : isHex c = true) : c.toNat < 128 := by
  unfold isHex hexValue? at h
  split_ifs at h with hdigit hsmall hlarge
  · exact Nat.lt_of_le_of_lt hdigit.2 (by decide)
  · exact Nat.lt_of_le_of_lt hsmall.2 (by decide)
  · exact Nat.lt_of_le_of_lt hlarge.2 (by decide)
  · cases h

/-- Texts that differ only in the case of their letters write the same identifier. -/
theorem ofText?_caseless {s t : String}
    (h : s.toList.map Char.toLower = t.toList.map Char.toLower) : ofText? s = ofText? t := by
  have hlower (cs : List Char) : (cs.map Char.toLower).mapM hexValue? = cs.mapM hexValue? := by
    induction cs with
    | nil => rfl
    | cons c rest ih => rw [List.map_cons, List.mapM_cons, List.mapM_cons, ih, hexValue?_toLower]
  rw [ofText?, ofText?, ofChars?, ofChars?, ← hlower s.toList, h, hlower]

def IsWritten (s : String) : Prop := s.toList.length = 24 ∧ ∀ c ∈ s.toList, isHex c = true

theorem IsWritten.exists_ofText? {s : String} (h : IsWritten s) : ∃ id, ofText? s = some id := by
  have hread (cs : List Char) (hcs : ∀ c ∈ cs, isHex c = true) :
      ∃ digits, cs.mapM hexValue? = some digits ∧ digits.length = cs.length := by
    induction cs with
    | nil => exact ⟨[], rfl, rfl⟩
    | cons c rest ih =>
      obtain ⟨digit, hdigit⟩ := Option.isSome_iff_exists.mp (hcs c List.mem_cons_self)
      obtain ⟨digits, hdigits, hlength⟩ := ih fun c' hc' => hcs c' (List.mem_cons_of_mem _ hc')
      refine ⟨digit :: digits, ?_, congrArg Nat.succ hlength⟩
      rw [List.mapM_cons, hdigit, hdigits]
      rfl
  obtain ⟨digits, hdigits, hlength⟩ := hread s.toList h.2
  have h24 : digits.length = 24 := hlength.trans h.1
  exact ⟨⟨digits, h24⟩, by rw [ofText?, ofChars?, hdigits]; exact dif_pos h24⟩

theorem IsWritten.isIdText {s : String} (h : IsWritten s) : isIdText s = true := by
  have htake : s.toList.take 24 = s.toList := List.take_of_length_le (Nat.le_of_eq h.1)
  have hdrop : s.toList.drop 24 = [] := List.drop_of_length_le (Nat.le_of_eq h.1)
  simpa [ObjectId.isIdText, htake, hdrop, h.1] using h.2

end ObjectId

namespace Coercion

/-- Without strict coercion a written identifier is stored as the identifier. -/
theorem coerceValue_idText {definition : Option Property} {s : String} {id : ObjectId}
    (hdecimal : isDecimalProperty definition = false) (hs : ObjectId.IsWritten s)
    (hid : ObjectId.ofText? s = some id) :
    coerceValue definition false (.text s) = .ok (.objectId id) := by
  have hread : readObjectId s = .ok (.objectId id) := by rw [readObjectId, hid]
  have hset : (Value.text s).truthy = true := by
    have hne : s ≠ "" := by
      rintro rfl
      exact absurd hs.1 (by decide)
    simpa [Value.truthy] using hne
  unfold coerceValue
  dsimp only
  rw [if_neg (by simp [hset]), if_neg (by simp [hdecimal]), if_pos (by simp [Value.isText])]
  unfold coerceReference
  dsimp only
  split
  · rw [requireObjectId, if_pos hs.isIdText, hread]
  · rw [isObjectIdProperty, if_pos (by simp [hs.isIdText]), toObjectId, if_pos hs.isIdText, hread]

end Coercion

end ModelStore
