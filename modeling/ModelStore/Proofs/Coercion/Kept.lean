import ModelStore.Filter.Compile
import ModelStore.Proofs.Coercion.FixedPoint
import ModelStore.Proofs.Coercion.Leaves

/-!
Values that coercion leaves alone. A property of decimals changes texts and decimals, an identifier
property takes nothing but identifiers, and any other property changes texts that look like
identifiers. An operand is left alone if its elements are, and a tuple never is: it becomes a list.
-/
namespace ModelStore.Coercion

variable {definition : Option Property} {strict : Bool} {v w : Value}

def isNumeral : Value → Bool
  | .text _ | .decimal _ => true
  | _ => false

def isSequence : Value → Bool
  | .list _ | .tuple _ => true
  | _ => false

/-- Values that are not set, decimal zeros excepted; they are not coerced. -/
def isUnset : Value → Bool
  | .decimal _ => false
  | v => !v.truthy

/-- Coercion by the property has nothing to change in the value. -/
inductive IsKept (definition : Option Property) (strict : Bool) : Value → Prop
  | unset {v : Value} : isUnset v = true → IsKept definition strict v
  | single {v : Value} : isDecimalProperty definition = true → isNumeral v = false →
      isSequence v = false → IsKept definition strict v
  | each {items : List Value} : isDecimalProperty definition = true →
      (∀ v ∈ items, isNumeral v = false) → IsKept definition strict (.list items)
  | identifier (id : ObjectId) : isDecimalProperty definition = false →
      isDeclaredObjectId definition = true → IsKept definition strict (.objectId id)
  | identifiers {items : List Value} : isDecimalProperty definition = false →
      isDeclaredObjectId definition = true → (∀ v ∈ items, ∃ id, v = .objectId id) →
      IsKept definition strict (.list items)
  | undeclared {v : Value} : isDecimalProperty definition = false →
      isDeclaredObjectId definition = false → strict = true ∨ looksLikeObjectId v = false →
      IsKept definition strict v

/-- Coercion as an operand has nothing to change in the value. -/
inductive IsKeptOperand (definition : Option Property) (strict : Bool) : Value → Prop
  | single {v : Value} : isSequence v = false → IsKept definition strict v →
      IsKeptOperand definition strict v
  | each {items : List Value} : (∀ v ∈ items, IsKept definition strict v) →
      IsKeptOperand definition strict (.list items)

theorem toDecimal128_eq_self_iff : toDecimal128 v = .ok v ↔ isNumeral v = false := by
  cases v with
  | decimal d =>
    refine iff_of_false (fun h => ?_) (by simp [isNumeral])
    obtain ⟨stored, hstored⟩ := storeDecimal_eq_ok h
    cases hstored
  | text s =>
    refine iff_of_false (fun h => ?_) (by simp [isNumeral])
    obtain ⟨stored, hstored⟩ := readDecimal_eq_ok h
    cases hstored
  | _ => exact iff_of_true rfl rfl

theorem requireObjectId_eq_self_iff : requireObjectId v = .ok v ↔ ∃ id, v = .objectId id := by
  constructor
  · exact requireObjectId_eq_ok
  · rintro ⟨id, rfl⟩
    rfl

theorem toObjectId_eq_self_iff : toObjectId v = .ok v ↔ looksLikeObjectId v = false := by
  cases v with
  | text s =>
    rw [toObjectId, looksLikeObjectId]
    split
    · rename_i hlooks
      refine iff_of_false (fun h => ?_) (by simp [hlooks])
      obtain ⟨id, hid⟩ := readObjectId_eq_ok h
      cases hid
    · rename_i hlooks
      exact iff_of_true rfl (by simpa using hlooks)
  | _ => exact iff_of_true rfl rfl

theorem coerceDecimal_eq_self_iff :
    coerceDecimal v = .ok v ↔ (isSequence v = false ∧ isNumeral v = false) ∨
      ∃ items, v = .list items ∧ ∀ v ∈ items, isNumeral v = false := by
  cases v with
  | list items =>
    rw [coerceDecimal, list_mapM_eq_self_iff]
    simp [isSequence, toDecimal128_eq_self_iff]
  | tuple items =>
    refine iff_of_false (fun h => ?_) (by simp [isSequence])
    obtain ⟨coerced, -, hlist⟩ := Result.bind_eq_ok.mp h
    cases hlist
  | _ =>
    rw [coerceDecimal, toDecimal128_eq_self_iff]
    · simp [isSequence]
    all_goals simp

theorem requireReference_eq_self_iff (hdeclared : isDeclaredObjectId definition = true) :
    coerceReference definition v strict = .ok v ↔ (∃ id, v = .objectId id) ∨
      ∃ items, v = .list items ∧ ∀ v ∈ items, ∃ id, v = .objectId id := by
  unfold coerceReference
  rw [if_pos hdeclared]
  cases v with
  | list items =>
    rw [list_mapM_eq_self_iff]
    simp [requireObjectId_eq_self_iff]
  | tuple items =>
    refine iff_of_false (fun h => ?_) (by simp)
    obtain ⟨coerced, -, hlist⟩ := Result.bind_eq_ok.mp h
    cases hlist
  | _ => simp [requireObjectId_eq_self_iff]

theorem lookForReference_eq_self_iff (hdeclared : isDeclaredObjectId definition = false) :
    coerceReference definition v strict = .ok v ↔ strict = true ∨ looksLikeObjectId v = false := by
  unfold coerceReference isObjectIdProperty
  rw [if_neg (by simp [hdeclared])]
  cases v with
  | text s =>
    cases strict with
    | true => simp [hdeclared]
    | false =>
      simp only [hdeclared, Bool.not_false, Bool.true_and, Bool.false_or, Bool.false_eq_true,
        false_or]
      split
      · exact toObjectId_eq_self_iff
      · rename_i hlooks
        exact iff_of_true rfl (by simpa [looksLikeObjectId] using hlooks)
  | _ => simp [looksLikeObjectId, toObjectId]

theorem coerceValue_eq (definition : Option Property) (strict : Bool) (v : Value) :
    coerceValue definition strict v =
      if isUnset v then .ok v
      else if isDecimalProperty definition then coerceDecimal v
      else if isDeclaredObjectId definition || v.isText then coerceReference definition v strict
      else .ok v := by
  cases v <;> simp [coerceValue, isUnset]

/-- A value is coerced to itself exactly if it is kept. -/
theorem coerceValue_eq_self_iff :
    coerceValue definition strict v = .ok v ↔ IsKept definition strict v := by
  rw [coerceValue_eq]
  split_ifs with hunset hdecimal hreference
  · exact iff_of_true rfl (.unset hunset)
  · rw [coerceDecimal_eq_self_iff]
    constructor
    · rintro (⟨hsingle, hnumeral⟩ | ⟨items, rfl, hitems⟩)
      · exact .single hdecimal hnumeral hsingle
      · exact .each hdecimal hitems
    · rintro (hset | ⟨_, hnumeral, hsingle⟩ | ⟨_, hitems⟩ | ⟨_, h, _⟩ | ⟨h, _⟩ | ⟨h, _⟩)
      · exact absurd hset hunset
      · exact Or.inl ⟨hsingle, hnumeral⟩
      · exact Or.inr ⟨_, rfl, hitems⟩
      all_goals simp [hdecimal] at h
  · have hother : isDecimalProperty definition = false := by simpa using hdecimal
    cases hdeclared : isDeclaredObjectId definition with
    | true =>
      rw [requireReference_eq_self_iff hdeclared]
      constructor
      · rintro (⟨id, rfl⟩ | ⟨items, rfl, hitems⟩)
        · exact .identifier id hother hdeclared
        · exact .identifiers hother hdeclared hitems
      · rintro (hset | ⟨h, _⟩ | ⟨h, _⟩ | ⟨id, _⟩ | ⟨_, _, hitems⟩ | ⟨_, h, _⟩)
        · exact absurd hset hunset
        · exact absurd h hdecimal
        · exact absurd h hdecimal
        · exact Or.inl ⟨id, rfl⟩
        · exact Or.inr ⟨_, rfl, hitems⟩
        · simp [hdeclared] at h
    | false =>
      rw [lookForReference_eq_self_iff hdeclared]
      constructor
      · exact .undeclared hother hdeclared
      · rintro (hset | ⟨h, _⟩ | ⟨h, _⟩ | ⟨_, _, h⟩ | ⟨_, h, _⟩ | ⟨_, _, hkept⟩)
        · exact absurd hset hunset
        · exact absurd h hdecimal
        · exact absurd h hdecimal
        · simp [hdeclared] at h
        · simp [hdeclared] at h
        · exact hkept
  · obtain ⟨hdeclared, htext⟩ : isDeclaredObjectId definition = false ∧ v.isText = false := by
      simpa using hreference
    have hlooks : looksLikeObjectId v = false := by
      cases v with
      | text s => cases htext
      | _ => rfl
    exact iff_of_true rfl (.undeclared (by simpa using hdecimal) hdeclared (Or.inr hlooks))

/-- An operand is coerced to itself exactly if it is kept. -/
theorem coerceOperand_eq_self_iff :
    Filter.coerceOperand definition strict v = .ok v ↔ IsKeptOperand definition strict v := by
  cases v with
  | list items =>
    rw [Filter.coerceOperand, list_mapM_eq_self_iff]
    simp only [coerceValue_eq_self_iff]
    constructor
    · exact .each
    · rintro (⟨h, _⟩ | hitems)
      · cases h
      · exact hitems
  | tuple items =>
    refine iff_of_false (fun h => ?_) ?_
    · obtain ⟨coerced, -, hlist⟩ := Result.bind_eq_ok.mp h
      cases hlist
    · rintro (⟨h, _⟩ | _)
      cases h
  | _ =>
    rw [Filter.coerceOperand, coerceValue_eq_self_iff]
    · constructor
      · exact .single rfl
      · rintro (⟨-, h⟩ | _)
        exact h
    all_goals simp

theorem isSequence_of_coerceValue (h : coerceValue definition strict v = .ok w)
    (hw : isSequence w = true) : isSequence v = true := by
  cases becomes_coerceValue h with
  | leaf hleaf =>
    cases hleaf with
    | kept => exact hw
    | _ => cases hw
  | document => cases hw
  | _ => rfl

theorem isNull_of_coerceValue (h : coerceValue definition strict v = .ok w)
    (hw : w.isNull = true) : v.isNull = true := by
  cases becomes_coerceValue h with
  | leaf hleaf =>
    cases hleaf with
    | kept => exact hw
    | _ => cases hw
  | _ => cases hw

theorem eq_doc_of_coerceValue {entries : Document}
    (h : coerceValue definition strict v = .ok (.doc entries)) : v = .doc entries := by
  cases becomes_coerceValue h with
  | leaf hleaf =>
    cases hleaf
    rfl
  | document => rw [coerceValue_doc h]

/-- What an operand is coerced to is kept as an operand. -/
theorem isKeptOperand_of_coerceOperand (h : Filter.coerceOperand definition strict v = .ok w) :
    IsKeptOperand definition strict w := by
  have hlist : ∀ {items : List Value},
      (do .ok (Value.list (← items.mapM (coerceValue definition strict)))) = Except.ok w →
        IsKeptOperand definition strict w := by
    intro items h
    obtain ⟨coerced, hcoerced, h⟩ := Result.bind_eq_ok.mp h
    obtain rfl := Except.ok.inj h
    refine .each fun u hu => ?_
    obtain ⟨before, -, hbefore⟩ := Result.exists_of_forall₂ (Result.mapM_eq_ok.mp hcoerced).flip hu
    exact coerceValue_eq_self_iff.mp (coerceValue_fixed hbefore)
  have hone : isSequence v = false → coerceValue definition strict v = .ok w →
      IsKeptOperand definition strict w := by
    intro hsingle h
    refine .single ?_ (coerceValue_eq_self_iff.mp (coerceValue_fixed h))
    rw [← Bool.not_eq_true]
    intro hw
    rw [isSequence_of_coerceValue h hw] at hsingle
    cases hsingle
  cases v with
  | list items => exact hlist h
  | tuple items => exact hlist h
  | _ => exact hone rfl h

theorem isKeptOperand_candidates (h : IsKeptOperand definition strict v) :
    IsKeptOperand definition strict (.list (Filter.candidates v)) := by
  cases h with
  | each hitems => exact .each hitems
  | single hsingle hkept =>
    have halone : Filter.candidates v = [v] := by
      cases v with
      | list items => cases hsingle
      | tuple items => cases hsingle
      | _ => rfl
    rw [halone]
    refine .each fun u hu => ?_
    rwa [List.mem_singleton.mp hu]

def takesOnlyIds (definition : Option Property) : Bool :=
  !isDecimalProperty definition && isDeclaredObjectId definition

/-- What no property has to convert, and a property of identifiers refuses. -/
structure IsForeign (v : Value) : Prop where
  isSet : isUnset v = false
  noNumeral : isNumeral v = false
  noSequence : isSequence v = false
  noId : ∀ id, v ≠ .objectId id

theorem isKept_iff_of_foreign (h : IsForeign v) :
    IsKept definition strict v ↔ takesOnlyIds definition = false := by
  constructor
  · rintro (hunset | ⟨hdecimal, _⟩ | hdecimal | ⟨id, _⟩ | _ | ⟨_, hdeclared, _⟩)
    · rw [h.isSet] at hunset
      cases hunset
    · simp [takesOnlyIds, hdecimal]
    · simp [takesOnlyIds, hdecimal]
    · exact absurd rfl (h.noId id)
    · cases h.noSequence
    · simp [takesOnlyIds, hdeclared]
  · intro hother
    cases hdecimal : isDecimalProperty definition with
    | true => exact .single hdecimal h.noNumeral h.noSequence
    | false =>
      have hlooks : looksLikeObjectId v = false := by
        cases v with
        | text s => cases h.noNumeral
        | _ => rfl
      exact .undeclared hdecimal (by simpa [takesOnlyIds, hdecimal] using hother) (.inr hlooks)

theorem isForeign_doc {entries : Document} (h : entries ≠ []) : IsForeign (.doc entries) where
  isSet := by simpa [isUnset, Value.truthy] using h
  noNumeral := rfl
  noSequence := rfl
  noId := by simp

/-- A list of documents is refused by a property of identifiers, unless it is empty. -/
theorem isKept_docs_iff {items : List Value} (hdocs : ∀ v ∈ items, ∃ entries, v = .doc entries) :
    IsKept definition strict (.list items) ↔ takesOnlyIds definition = true → items = [] := by
  constructor
  · rintro (hunset | ⟨_, _, h⟩ | ⟨hdecimal, _⟩ | _ | ⟨_, _, hids⟩ | ⟨_, hdeclared, _⟩) hids'
    · simpa [isUnset, Value.truthy] using hunset
    · cases h
    · simp [takesOnlyIds, hdecimal] at hids'
    · cases items with
      | nil => rfl
      | cons v rest =>
        obtain ⟨entries, rfl⟩ := hdocs v List.mem_cons_self
        obtain ⟨id, hid⟩ := hids _ List.mem_cons_self
        cases hid
    · simp [takesOnlyIds, hdeclared] at hids'
  · intro hempty
    cases hdecimal : isDecimalProperty definition with
    | true =>
      refine .each hdecimal fun v hv => ?_
      obtain ⟨entries, rfl⟩ := hdocs v hv
      rfl
    | false =>
      cases hdeclared : isDeclaredObjectId definition with
      | true =>
        obtain rfl := hempty (by simp [takesOnlyIds, hdecimal, hdeclared])
        exact .unset rfl
      | false => exact .undeclared hdecimal hdeclared (.inr rfl)

end ModelStore.Coercion
