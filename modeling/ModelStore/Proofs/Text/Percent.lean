import ModelStore.ObjectId
import ModelStore.Text.Percent

/-!
Percent encoding read back. A reader takes a plus sign for a space and an escape for the byte of
its digits, whatever the case of these, and then decodes the bytes. What encoding writes is read
back as it was, and no character of it has a meaning in an address besides the plus and the percent
sign.
-/
namespace ModelStore.Text

open ObjectId (hexValue?)

def byteOf? (high low : Char) : Option UInt8 :=
  match hexValue? high, hexValue? low with
  | some h, some l => some (UInt8.ofNat (16 * h + l))
  | _, _ => none

/-- The bytes a text stands for. A percent sign without two digits behind it stands for itself. -/
def percentBytes : List Char → List UInt8
  | [] => []
  | '+' :: rest => 0x20 :: percentBytes rest
  | '%' :: high :: low :: rest =>
      match byteOf? high low with
      | some b => b :: percentBytes rest
      | none => 0x25 :: percentBytes (high :: low :: rest)
  | c :: rest => String.utf8EncodeChar c ++ percentBytes rest

def percentDecode? (s : String) : Option String :=
  String.fromUTF8? (percentBytes s.toList).toByteArray

theorem hexValue?_toUpper_digitChar (d : Fin 16) :
    hexValue? (Nat.digitChar d.val).toUpper = some d := by
  revert d
  decide

theorem byteOf?_digits (b : UInt8) :
    byteOf? (Nat.digitChar (b.toNat / 16)).toUpper (Nat.digitChar (b.toNat % 16)).toUpper =
      some b := by
  have hb : b.toNat < 256 := b.toNat_lt
  have hhigh := hexValue?_toUpper_digitChar ⟨b.toNat / 16, by omega⟩
  have hlow := hexValue?_toUpper_digitChar ⟨b.toNat % 16, by omega⟩
  have hvalue : 16 * (b.toNat / 16) + b.toNat % 16 = b.toNat := Nat.div_add_mod b.toNat 16
  simp only [byteOf?, hhigh, hlow, hvalue, UInt8.ofNat_toNat]

theorem percentBytes_percentByte (b : UInt8) (rest : List Char) :
    percentBytes (percentByte b ++ rest) = b :: percentBytes rest := by
  have hescape : percentByte b ++ rest = '%' :: (Nat.digitChar (b.toNat / 16)).toUpper ::
      (Nat.digitChar (b.toNat % 16)).toUpper :: rest := rfl
  simp only [hescape, percentBytes, byteOf?_digits]

theorem percentBytes_cons {c : Char} (hplus : c ≠ '+') (hpercent : c ≠ '%') (rest : List Char) :
    percentBytes (c :: rest) = String.utf8EncodeChar c ++ percentBytes rest := by
  rw [percentBytes]
  · exact hplus
  · intro _ _ _ h _
    exact hpercent h

theorem percentBytes_flatMap_percentByte (bytes : List UInt8) (rest : List Char) :
    percentBytes (bytes.flatMap percentByte ++ rest) = bytes ++ percentBytes rest := by
  induction bytes with
  | nil => rfl
  | cons b bytes ih =>
    rw [List.flatMap_cons, List.append_assoc, percentBytes_percentByte, ih, List.cons_append]

theorem percentBytes_percentChar (c : Char) (rest : List Char) :
    percentBytes (percentChar c ++ rest) = String.utf8EncodeChar c ++ percentBytes rest := by
  rw [percentChar]
  split
  · rename_i hc
    have hplus : c ≠ '+' := by
      rintro rfl
      exact absurd hc (by decide)
    have hpercent : c ≠ '%' := by
      rintro rfl
      exact absurd hc (by decide)
    exact percentBytes_cons hplus hpercent rest
  · split
    · rename_i hc
      rw [hc]
      rfl
    · exact percentBytes_flatMap_percentByte _ rest

theorem percentBytes_flatMap_percentChar (cs : List Char) :
    percentBytes (cs.flatMap percentChar) = cs.flatMap String.utf8EncodeChar := by
  induction cs with
  | nil => rfl
  | cons c cs ih => rw [List.flatMap_cons, List.flatMap_cons, percentBytes_percentChar, ih]

/-- An encoded text is read back as it was. -/
theorem percentDecode?_percentEncode (s : String) : percentDecode? (percentEncode s) = some s := by
  have hbytes : (percentBytes (percentEncode s).toList).toByteArray = s.toByteArray := by
    rw [percentEncode, String.toList_ofList, percentBytes_flatMap_percentChar]
    exact String.utf8Encode_toList
  rw [percentDecode?, hbytes]
  exact dif_pos s.isValidUTF8

/-- An encoded text has no other characters than these. -/
theorem mem_percentEncode {s : String} {c : Char} (h : c ∈ (percentEncode s).toList) :
    isUnreserved c = true ∨ c = '+' ∨ c = '%' := by
  have hdigit : ∀ d : Fin 16, isUnreserved (Nat.digitChar d.val).toUpper = true := by decide
  rw [percentEncode, String.toList_ofList] at h
  obtain ⟨d, -, h⟩ := List.mem_flatMap.mp h
  rw [percentChar] at h
  split at h
  · rename_i hd
    rw [List.mem_singleton.mp h]
    exact Or.inl hd
  · split at h
    · exact Or.inr (Or.inl (List.mem_singleton.mp h))
    · obtain ⟨b, -, hc⟩ := List.mem_flatMap.mp h
      have hb : b.toNat < 256 := b.toNat_lt
      rw [percentByte, List.mem_cons, List.mem_cons, List.mem_singleton] at hc
      rcases hc with rfl | rfl | rfl
      · exact Or.inr (Or.inr rfl)
      · exact Or.inl (hdigit ⟨b.toNat / 16, by omega⟩)
      · exact Or.inl (hdigit ⟨b.toNat % 16, by omega⟩)

/-- A character with a meaning in an address is not left over. -/
theorem not_mem_percentEncode {c : Char} (s : String) (hreserved : isUnreserved c = false)
    (hplus : c ≠ '+') (hpercent : c ≠ '%') : c ∉ (percentEncode s).toList := by
  intro h
  rcases mem_percentEncode h with h | h | h
  · exact Bool.false_ne_true (hreserved.symm.trans h)
  · exact hplus h
  · exact hpercent h

end ModelStore.Text
