import ModelStore.Proofs.Coercion.Identifier
import ModelStore.Proofs.Coercion.Value

/-!
Which values are taken for identifiers. A text writes an identifier when it consists of 24
hexadecimal digits, in either case of their letters, and conversion takes exactly these texts and
identifiers themselves, except that a line end behind the digits is overlooked: such a text looks
like an identifier and is then refused as none.
-/
namespace ModelStore

namespace ObjectId

def hexDigits : String := "0123456789abcdefABCDEF"

theorem isHex_iff {c : Char} : isHex c = true ↔ c ∈ hexDigits.toList := by
  by_cases hsmall : c.toNat < 128
  · exact forall_ascii (P := fun c => isHex c = true ↔ c ∈ hexDigits.toList)
      (by decide +kernel) hsmall
  · have hlarge : hexDigits.toList.all (fun c' => decide (c'.toNat < 128)) = true := by decide
    refine iff_of_false (fun h => hsmall (toNat_lt_of_isHex h)) fun h => hsmall ?_
    exact of_decide_eq_true (List.all_eq_true.mp hlarge c h)

/-- A digit is written back with a small letter. -/
theorem digitChar_of_hexValue? {c : Char} {d : Fin 16} (h : hexValue? c = some d) :
    Nat.digitChar d.val = c.toLower := by
  have hhex : isHex c = true := by rw [isHex, h]; rfl
  have hall : ∀ n : Fin 128, ∀ d, hexValue? (Char.ofNat n) = some d →
      Nat.digitChar d.val = (Char.ofNat n).toLower := by decide
  exact forall_ascii (P := fun c => ∀ d, hexValue? c = some d → Nat.digitChar d.val = c.toLower)
    hall (toNat_lt_of_isHex hhex) d h

/-- Characters that are all read are digits, and they are written back with small letters. -/
theorem digits_of_mapM {cs : List Char} {digits : List (Fin 16)}
    (h : cs.mapM hexValue? = some digits) :
    (∀ c ∈ cs, isHex c = true) ∧
      digits.map (fun d => Nat.digitChar d.val) = cs.map Char.toLower := by
  induction cs generalizing digits with
  | nil =>
    obtain rfl : [] = digits := Option.some.inj h
    exact ⟨by simp, rfl⟩
  | cons c rest ih =>
    rw [List.mapM_cons] at h
    obtain ⟨d, hd, h⟩ := Option.bind_eq_some_iff.mp h
    obtain ⟨tail, htail, h⟩ := Option.bind_eq_some_iff.mp h
    obtain rfl : d :: tail = digits := Option.some.inj h
    obtain ⟨hrest, hwritten⟩ := ih htail
    have hhex : isHex c = true := by rw [isHex, hd]; rfl
    refine ⟨List.forall_mem_cons.mpr ⟨hhex, hrest⟩, ?_⟩
    rw [List.map_cons, List.map_cons, digitChar_of_hexValue? hd, hwritten]

theorem isWritten_of_ofText? {s : String} {id : ObjectId} (h : ofText? s = some id) :
    IsWritten s ∧ id.text.toList = s.toList.map Char.toLower := by
  rw [ofText?, ofChars?] at h
  split at h
  · rename_i digits hdigits
    split_ifs at h with hlength
    obtain ⟨hhex, hwritten⟩ := digits_of_mapM hdigits
    have hsame : digits.length = s.toList.length := by simpa using congrArg List.length hwritten
    refine ⟨⟨hsame ▸ hlength, hhex⟩, ?_⟩
    rw [← Option.some.inj h, text, String.toList_ofList, hwritten]
  · cases h

/-- Reading takes exactly the texts of 24 hexadecimal digits, and what it reads is written with the
same digits. -/
theorem ofText?_eq_some_iff {s : String} {id : ObjectId} :
    ofText? s = some id ↔ IsWritten s ∧ id.text.toList = s.toList.map Char.toLower := by
  constructor
  · exact isWritten_of_ofText?
  · rintro ⟨hwritten, htext⟩
    obtain ⟨other, hother⟩ := hwritten.exists_ofText?
    have hread := (isWritten_of_ofText? hother).2
    have hsame : other.text = id.text := String.toList_injective (hread.trans htext.symm)
    rw [hother, ← ofText?_text other, hsame, ofText?_text]

/-- Behind the digits of an identifier a line end is overlooked. -/
theorem isIdText_iff {s : String} :
    isIdText s = true ↔ IsWritten s ∨ ∃ digits, IsWritten digits ∧ s = digits ++ "\n" := by
  constructor
  · intro h
    have hparts : ((s.toList.take 24).length = 24 ∧ ∀ c ∈ s.toList.take 24, isHex c = true) ∧
        (s.toList.drop 24 = [] ∨ s.toList.drop 24 = ['\n']) := by
      simpa [isIdText] using h
    obtain ⟨⟨hlength, hhex⟩, hrest⟩ := hparts
    have hsplit : s.toList.take 24 ++ s.toList.drop 24 = s.toList := List.take_append_drop 24 _
    rcases hrest with hrest | hrest
    · rw [hrest, List.append_nil] at hsplit
      rw [hsplit] at hlength hhex
      exact Or.inl ⟨hlength, hhex⟩
    · rw [hrest] at hsplit
      refine Or.inr ⟨String.ofList (s.toList.take 24), ?_, String.toList_injective ?_⟩
      · rw [IsWritten, String.toList_ofList]
        exact ⟨hlength, hhex⟩
      · rw [String.toList_append, String.toList_ofList]
        exact hsplit.symm
  · rintro (h | ⟨digits, h, rfl⟩)
    · exact h.isIdText
    · have htake : (digits ++ "\n").toList.take 24 = digits.toList := by
        rw [String.toList_append, ← h.1, List.take_left]
      have hdrop : (digits ++ "\n").toList.drop 24 = ['\n'] := by
        rw [String.toList_append, ← h.1, List.drop_left]
        rfl
      simp only [isIdText, htake, hdrop, h.1]
      simpa using h.2

/-- A text with a line end is no identifier. -/
theorem ofText?_lined {digits : String} (h : IsWritten digits) :
    ofText? (digits ++ "\n") = none := by
  cases hread : ofText? (digits ++ "\n") with
  | none => rfl
  | some id =>
    have hlength := (isWritten_of_ofText? hread).1.1
    rw [String.toList_append, List.length_append, h.1] at hlength
    cases hlength

end ObjectId

namespace Coercion

/-- The identifier that a value is, or that it writes: 24 hexadecimal digits, those of the
identifier up to the case of their letters. -/
inductive Names : Value → ObjectId → Prop
  | held (id : ObjectId) : Names (.objectId id) id
  | written {s : String} {id : ObjectId} : s.toList.length = 24 →
      (∀ c ∈ s.toList, c ∈ ObjectId.hexDigits.toList) →
      id.text.toList = s.toList.map Char.toLower → Names (.text s) id

/-- A conversion gives the identifier that the value names, and something else if it names none. -/
structure Recognised (v : Value) (converted otherwise : Result Value) : Prop where
  named : ∀ id, Names v id → converted = .ok (.objectId id)
  other : (∀ id, ¬ Names v id) → converted = otherwise

def EndsInLine (v : Value) : Prop :=
  ∃ digits, ObjectId.IsWritten digits ∧ v = .text (digits ++ "\n")

theorem names_text_iff {s : String} {id : ObjectId} :
    Names (.text s) id ↔ ObjectId.ofText? s = some id := by
  rw [ObjectId.ofText?_eq_some_iff, ObjectId.IsWritten]
  simp only [ObjectId.isHex_iff]
  constructor
  · rintro ⟨⟩
    exact ⟨⟨‹_›, ‹_›⟩, ‹_›⟩
  · rintro ⟨⟨hlength, hdigits⟩, htext⟩
    exact .written hlength hdigits htext

theorem names_objectId_iff {id other : ObjectId} : Names (.objectId id) other ↔ id = other := by
  constructor
  · rintro ⟨⟩
    rfl
  · rintro rfl
    exact .held id

/-- A text is recognised where it is read if it looks like an identifier, unless it ends in a line
that was overlooked. -/
theorem recognised_text_iff {s : String} {otherwise : Result Value}
    (hother : otherwise ≠ .error (.invalidObjectId s)) :
    Recognised (.text s) (if ObjectId.isIdText s then readObjectId s else otherwise) otherwise ↔
      ¬ EndsInLine (.text s) := by
  constructor
  · rintro ⟨-, hunnamed⟩ ⟨digits, hdigits, hs⟩
    obtain rfl := Value.text.inj hs
    have hnone := ObjectId.ofText?_lined hdigits
    have hlooks := ObjectId.isIdText_iff.mpr (Or.inr ⟨digits, hdigits, rfl⟩)
    have hrefused := hunnamed fun id hid => by simp [names_text_iff, hnone] at hid
    rw [if_pos hlooks, readObjectId, hnone] at hrefused
    exact hother hrefused.symm
  · intro hline
    have hlooks : ObjectId.isIdText s = true ↔ ObjectId.IsWritten s := by
      rw [ObjectId.isIdText_iff, or_iff_left]
      rintro ⟨digits, hdigits, rfl⟩
      exact hline ⟨digits, hdigits, rfl⟩
    constructor
    · intro id hid
      have hread := names_text_iff.mp hid
      rw [if_pos (hlooks.mpr (ObjectId.isWritten_of_ofText? hread).1), readObjectId, hread]
    · intro hunnamed
      refine if_neg fun hid => ?_
      obtain ⟨id, hread⟩ := (hlooks.mp hid).exists_ofText?
      exact hunnamed id (names_text_iff.mpr hread)

theorem recognised_other {v : Value} {otherwise : Result Value} (htext : v.isText = false)
    (hid : ∀ id, v ≠ .objectId id) : Recognised v otherwise otherwise where
  named id hnames := by
    cases hnames with
    | held => exact absurd rfl (hid id)
    | written => cases htext
  other _ := rfl

theorem not_endsInLine {v : Value} (htext : v.isText = false) : ¬ EndsInLine v := by
  rintro ⟨digits, -, rfl⟩
  cases htext

theorem recognised_held (id : ObjectId) (otherwise : Result Value) :
    Recognised (.objectId id) (.ok (.objectId id)) otherwise where
  named other hnames := by rw [names_objectId_iff.mp hnames]
  other hunnamed := absurd (.held id) (hunnamed id)

theorem recognised_toObjectId_iff (v : Value) :
    Recognised v (toObjectId v) (.ok v) ↔ ¬ EndsInLine v := by
  cases v with
  | text s => exact recognised_text_iff (by simp)
  | objectId id => exact iff_of_true (recognised_held id _) (not_endsInLine rfl)
  | _ => exact iff_of_true (recognised_other rfl (by simp)) (not_endsInLine rfl)

theorem recognised_requireObjectId_iff (v : Value) :
    Recognised v (requireObjectId v) (.error (.notObjectId v)) ↔ ¬ EndsInLine v := by
  cases v with
  | text s => exact recognised_text_iff (by simp)
  | objectId id => exact iff_of_true (recognised_held id _) (not_endsInLine rfl)
  | _ => exact iff_of_true (recognised_other rfl (by simp)) (not_endsInLine rfl)

/-- The line end that is overlooked is noticed when the identifier is read. -/
theorem toObjectId_of_endsInLine {v : Value} (h : EndsInLine v) :
    ∃ s, toObjectId v = .error (.invalidObjectId s) := by
  obtain ⟨digits, hdigits, rfl⟩ := h
  have hlooks := ObjectId.isIdText_iff.mpr (Or.inr ⟨digits, hdigits, rfl⟩)
  refine ⟨digits ++ "\n", ?_⟩
  rw [toObjectId, if_pos hlooks, readObjectId, ObjectId.ofText?_lined hdigits]

theorem exists_toObjectId_iff (v : Value) : (∃ w, toObjectId v = .ok w) ↔ ¬ EndsInLine v := by
  constructor
  · rintro ⟨w, hw⟩ hline
    obtain ⟨s, hs⟩ := toObjectId_of_endsInLine hline
    rw [hs] at hw
    cases hw
  · intro hline
    obtain ⟨hnamed, hunnamed⟩ := (recognised_toObjectId_iff v).mpr hline
    by_cases hnames : ∃ id, Names v id
    · obtain ⟨id, hid⟩ := hnames
      exact ⟨.objectId id, hnamed id hid⟩
    · exact ⟨v, hunnamed fun id hid => hnames ⟨id, hid⟩⟩

/-- Without a property a value is converted unless strict coercion leaves texts alone. -/
theorem coerceValue_none (strict : Bool) (v : Value) :
    coerceValue none strict v = if strict then .ok v else toObjectId v := by
  cases v with
  | text s =>
    by_cases hs : s = ""
    · subst hs
      cases strict <;> rfl
    · cases strict <;> by_cases hlooks : ObjectId.isIdText s = true <;>
        simp [coerceValue, coerceReference, Value.truthy, hs, isDecimalProperty, isDeclaredObjectId,
          Value.isText, isObjectIdProperty, toObjectId, hlooks]
  | _ => cases strict <;> simp [coerceValue, isDecimalProperty, isDeclaredObjectId, Value.isText,
      toObjectId]

/-- Where an identifier is declared, what is no list or tuple is required to be one. -/
theorem coerceReference_declared {definition : Option Property} {v : Value} (strict : Bool)
    (hdeclared : isDeclaredObjectId definition = true)
    (hone : ∀ items, v ≠ .list items ∧ v ≠ .tuple items) :
    coerceReference definition v strict = requireObjectId v := by
  unfold coerceReference
  rw [if_pos hdeclared]
  cases v with
  | list items => exact absurd rfl (hone items).1
  | tuple items => exact absurd rfl (hone items).2
  | _ => rfl

/-- Identifiers are recognised exactly, and nothing fails, if and only if the value is no text that
ends in a line behind 24 hexadecimal digits; under strict coercion no value without a property
fails. -/
theorem recognised_iff (v : Value) :
    (Recognised v (toObjectId v) (.ok v) ↔ ¬ EndsInLine v) ∧
    (∀ strict, (∃ w, coerceValue none strict v = .ok w) ↔ strict = true ∨ ¬ EndsInLine v) ∧
    ∀ definition strict, isDeclaredObjectId definition = true →
      (∀ items, v ≠ .list items ∧ v ≠ .tuple items) →
      (Recognised v (coerceReference definition v strict) (.error (.notObjectId v)) ↔
        ¬ EndsInLine v) := by
  refine ⟨recognised_toObjectId_iff v, fun strict => ?_, fun definition strict hdeclared hone => ?_⟩
  · rw [coerceValue_none]
    cases strict with
    | true => simp
    | false => simpa using exists_toObjectId_iff v
  · rw [coerceReference_declared strict hdeclared hone]
    exact recognised_requireObjectId_iff v

/-- Digits in both cases of their letters, where an identifier is declared. -/
theorem recognised_iff_mixed :
    isDeclaredObjectId (some (.plain "author" .reference "objectid")) = true ∧
    (∀ items, Value.text "507F1f77bcf86cd799439011" ≠ .list items ∧
      Value.text "507F1f77bcf86cd799439011" ≠ .tuple items) ∧
    ¬ EndsInLine (.text "507F1f77bcf86cd799439011") ∧
    Recognised (.text "507F1f77bcf86cd799439011")
      (coerceReference (some (.plain "author" .reference "objectid"))
        (.text "507F1f77bcf86cd799439011") true)
      (.error (.notObjectId (.text "507F1f77bcf86cd799439011"))) := by
  have hline : ¬ EndsInLine (.text "507F1f77bcf86cd799439011") :=
    ((recognised_iff (.text "507F1f77bcf86cd799439011")).2.1 false).mp ⟨_, rfl⟩ |>.resolve_left
      (by decide)
  refine ⟨rfl, by simp, hline, ?_⟩
  exact ((recognised_iff (.text "507F1f77bcf86cd799439011")).2.2
    (some (.plain "author" .reference "objectid")) true rfl (by simp)).mpr hline

/-- A line end behind the digits is not told from none, and then the text is refused. -/
theorem not_recognised_of_line_end :
    ¬ ∀ v, Recognised v (toObjectId v) (.ok v) := by
  intro hall
  have hline : EndsInLine (.text ("507f1f77bcf86cd799439011" ++ "\n")) :=
    ⟨"507f1f77bcf86cd799439011", ⟨rfl, List.all_eq_true.mp (by decide)⟩, rfl⟩
  exact (recognised_toObjectId_iff _).mp (hall _) hline

end Coercion
end ModelStore
