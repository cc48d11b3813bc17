import ModelStore.Proofs.Coercion.Value
import ModelStore.Proofs.Value.Parts

/-!
One value coerced as an element of a list and on its own. In a list a decimal or an identifier is
asked of every element, whatever it is; on its own a value that is not set is kept, and a list or
tuple is taken apart. The two agree, or are refused alike, in the cases that are told apart here.
-/
namespace ModelStore.Coercion

variable {e : Value} {strict : Bool} {definition rule : Option Property} {failure : Failure}

/-- A refusal names the value that was refused, or a text. -/
theorem requireObjectId_eq_error (h : requireObjectId e = .error failure) :
    failure = .notObjectId e ∨ ∃ s, failure = .invalidObjectId s := by
  cases e with
  | objectId id => simp [requireObjectId] at h
  | text s =>
    rw [requireObjectId] at h
    split at h
    · rw [readObjectId] at h
      split at h
      · simp at h
      · exact Or.inr ⟨s, (Except.error.inj h).symm⟩
    · exact Or.inl (Except.error.inj h).symm
  | _ => exact Or.inl (Except.error.inj h).symm

theorem storeDecimal_eq_error {d : Number.Decimal} {failure : Failure}
    (h : storeDecimal d = .error failure) : ∃ cause, failure = .misfit cause := by
  rw [storeDecimal] at h
  split at h
  · simp at h
  · rename_i misfit _
    exact ⟨misfit, (Except.error.inj h).symm⟩

theorem toDecimal128_eq_error (h : toDecimal128 e = .error failure) :
    (∃ s, failure = .notDecimal s) ∨ ∃ cause, failure = .misfit cause := by
  cases e with
  | decimal d => exact Or.inr (storeDecimal_eq_error h)
  | text s =>
    rw [toDecimal128, readDecimal] at h
    split at h
    · exact Or.inr (storeDecimal_eq_error h)
    · exact Or.inl ⟨s, (Except.error.inj h).symm⟩
  | _ => simp [toDecimal128] at h

theorem coerceDecimal_eq_error (h : coerceDecimal e = .error failure) :
    (∃ s, failure = .notDecimal s) ∨ ∃ cause, failure = .misfit cause := by
  have hlist : ∀ {items : List Value},
      (do .ok (Value.list (← items.mapM toDecimal128))) = (Except.error failure : Result Value) →
      ∃ v ∈ items, toDecimal128 v = .error failure := by
    intro items h
    rcases Result.bind_eq_error.mp h with h | ⟨stored, -, h⟩
    · exact Result.exists_of_mapM_eq_error h
    · simp at h
  cases e with
  | list items =>
    obtain ⟨v, -, hv⟩ := hlist h
    exact toDecimal128_eq_error hv
  | tuple items =>
    obtain ⟨v, -, hv⟩ := hlist h
    exact toDecimal128_eq_error hv
  | _ =>
    rw [coerceDecimal] at h
    · exact toDecimal128_eq_error h
    all_goals simp

theorem coerceDecimal_eq_objectId {id : ObjectId} (h : coerceDecimal e = .ok (.objectId id)) :
    e = .objectId id := by
  cases e with
  | decimal d =>
    obtain ⟨stored, hstored⟩ := storeDecimal_eq_ok h
    simp at hstored
  | text s =>
    obtain ⟨stored, hstored⟩ := readDecimal_eq_ok h
    simp at hstored
  | list items =>
    obtain ⟨coerced, -, hlist⟩ := Result.bind_eq_ok.mp h
    simp at hlist
  | tuple items =>
    obtain ⟨coerced, -, hlist⟩ := Result.bind_eq_ok.mp h
    simp at hlist
  | _ => exact Except.ok.inj h

/-- A list or tuple that is refused as a whole is never refused for one of its elements. -/
private theorem mapM_requireObjectId_ne {items : List Value} (hparts : e.parts = items) :
    (do .ok (Value.list (← items.mapM requireObjectId))) ≠
      (Except.error (.notObjectId e) : Result Value) := by
  intro h
  rcases Result.bind_eq_error.mp h with h | ⟨ids, -, h⟩
  · obtain ⟨v, hmem, hv⟩ := Result.exists_of_mapM_eq_error h
    have hsame : v = e := by
      rcases requireObjectId_eq_error hv with heq | ⟨s, heq⟩
      · exact (Failure.notObjectId.inj heq).symm
      · simp at heq
    have hsize := Value.sizeOf_lt_of_mem_parts (hparts ▸ hmem)
    rw [hsame] at hsize
    omega
  · simp at h

/-- An element that fares alike where an identifier is required and by its rule: it is an identifier
already, or a text that is taken for one, or the rule requires an identifier of it as well. -/
inductive AskedAlike (rule : Option Property) (strict : Bool) (e : Value) : Prop where
  | identifier (id : ObjectId) (h : e = .objectId id)
  | taken (hdecimal : isDecimalProperty rule = false) (hdeclared : isDeclaredObjectId rule = false)
      (hstrict : strict = false) (htext : looksLikeObjectId e = true)
  | asked (hdecimal : isDecimalProperty rule = false) (hdeclared : isDeclaredObjectId rule = true)
      (hset : e.truthy = true ∨ ∃ d, e = .decimal d)
      (hone : ∀ items, e ≠ .list items ∧ e ≠ .tuple items)

/-- Requiring an identifier and storing a decimal agree on identifiers only. -/
theorem requireObjectId_eq_coerceValue_of_decimal (hdecimal : isDecimalProperty rule = true) :
    requireObjectId e = coerceValue rule strict e ↔ ∃ id, e = .objectId id := by
  constructor
  · intro h
    unfold coerceValue at h
    dsimp only at h
    rw [if_pos hdecimal] at h
    cases hasked : requireObjectId e with
    | ok w =>
      obtain ⟨id, rfl⟩ := requireObjectId_eq_ok hasked
      rw [hasked] at h
      split_ifs at h
      · exact ⟨id, (Except.ok.inj h).symm⟩
      · exact ⟨id, coerceDecimal_eq_objectId h.symm⟩
    | error failure =>
      rw [hasked] at h
      split_ifs at h
      -- An identifier is never refused for the reason that a decimal is.
      rcases requireObjectId_eq_error hasked with rfl | ⟨s, rfl⟩ <;>
        simpa using coerceDecimal_eq_error h.symm
  · rintro ⟨id, rfl⟩
    simp [coerceValue, Value.truthy, hdecimal, requireObjectId, coerceDecimal, toDecimal128]

/-- An identifier required in a list and on its own: the two agree on what is set, unless that is a
list or tuple. -/
theorem requireObjectId_eq_coerceValue_of_declared
    (hdecimal : isDecimalProperty rule = false) (hdeclared : isDeclaredObjectId rule = true) :
    requireObjectId e = coerceValue rule strict e ↔
      (e.truthy = true ∨ ∃ d, e = .decimal d) ∧ ∀ items, e ≠ .list items ∧ e ≠ .tuple items := by
  unfold coerceValue coerceReference
  simp only [hdecimal, hdeclared, if_true, Bool.true_or, Bool.false_eq_true, if_false]
  cases e with
  | list items =>
    have hasked : requireObjectId (.list items) = .error (.notObjectId (.list items)) := rfl
    have hne := mapM_requireObjectId_ne (e := .list items) rfl
    refine iff_of_false ?_ (fun h => (h.2 items).1 rfl)
    rw [hasked]
    split_ifs
    · simp
    · exact hne.symm
  | tuple items =>
    have hasked : requireObjectId (.tuple items) = .error (.notObjectId (.tuple items)) := rfl
    have hne := mapM_requireObjectId_ne (e := .tuple items) rfl
    refine iff_of_false ?_ (fun h => (h.2 items).2 rfl)
    rw [hasked]
    split_ifs
    · simp
    · exact hne.symm
  | text s =>
    by_cases hs : s = ""
    · subst hs
      have hrefused : requireObjectId (.text "") = .error (.notObjectId (.text "")) := rfl
      simp [Value.truthy, hrefused]
    · simp [Value.truthy, hs]
  | _ => simp [Value.truthy, requireObjectId]

/-- Requiring an identifier agrees with asking for none on identifiers, and on texts that are taken
for them. -/
theorem requireObjectId_eq_coerceValue_of_undeclared
    (hdecimal : isDecimalProperty rule = false) (hdeclared : isDeclaredObjectId rule = false) :
    requireObjectId e = coerceValue rule strict e ↔
      (∃ id, e = .objectId id) ∨ strict = false ∧ looksLikeObjectId e = true := by
  unfold coerceValue coerceReference
  simp only [hdecimal, hdeclared, Bool.false_or, Bool.false_eq_true, if_false]
  cases e with
  | text s =>
    have hread : readObjectId s ≠ .ok (.text s) := by
      intro h
      obtain ⟨id, hid⟩ := readObjectId_eq_ok h
      simp at hid
    have hempty : ObjectId.isIdText s = true → s ≠ "" := by
      rintro hs rfl
      exact absurd hs (by decide)
    by_cases hs : ObjectId.isIdText s = true
    · cases strict <;>
        simp [Value.truthy, requireObjectId, Value.isText, isObjectIdProperty, toObjectId,
          looksLikeObjectId, hdeclared, hs, hempty hs, hread]
    · cases strict <;>
        simp [requireObjectId, Value.isText, isObjectIdProperty, looksLikeObjectId, hdeclared, hs]
  | objectId id => simp [Value.truthy, requireObjectId, Value.isText]
  | _ => simp [requireObjectId, Value.isText, looksLikeObjectId]

theorem requireObjectId_eq_coerceValue_iff :
    requireObjectId e = coerceValue rule strict e ↔ AskedAlike rule strict e := by
  cases hdecimal : isDecimalProperty rule with
  | true =>
    rw [requireObjectId_eq_coerceValue_of_decimal hdecimal]
    constructor
    · rintro ⟨id, hid⟩
      exact .identifier id hid
    · rintro (⟨id, hid⟩ | ⟨h, _⟩ | ⟨h, _⟩)
      · exact ⟨id, hid⟩
      · simp [h] at hdecimal
      · simp [h] at hdecimal
  | false =>
    cases hdeclared : isDeclaredObjectId rule with
    | true =>
      rw [requireObjectId_eq_coerceValue_of_declared hdecimal hdeclared]
      constructor
      · rintro ⟨hset, hone⟩
        exact .asked hdecimal hdeclared hset hone
      · rintro (⟨id, rfl⟩ | ⟨_, h, _⟩ | ⟨_, _, hset, hone⟩)
        · exact ⟨.inl rfl, by simp⟩
        · simp [h] at hdeclared
        · exact ⟨hset, hone⟩
    | false =>
      rw [requireObjectId_eq_coerceValue_of_undeclared hdecimal hdeclared]
      constructor
      · rintro (⟨id, hid⟩ | ⟨hstrict, htext⟩)
        · exact .identifier id hid
        · exact .taken hdecimal hdeclared hstrict htext
      · rintro (⟨id, hid⟩ | ⟨_, _, hstrict, htext⟩ | ⟨_, h, _⟩)
        · exact .inl ⟨id, hid⟩
        · exact .inr ⟨hstrict, htext⟩
        · simp [h] at hdeclared

/-- A decimal stored in a list and on its own: the two agree on all but the empty text, lists that
hold a decimal or a text, and tuples that hold anything. -/
theorem toDecimal128_eq_coerceValue_iff (hdecimal : isDecimalProperty definition = true) :
    toDecimal128 e = coerceValue definition strict e ↔
      e ≠ .text "" ∧ (∀ items, e = .tuple items → items = []) ∧
        ∀ items, e = .list items → ∀ v ∈ items, toDecimal128 v = .ok v := by
  unfold coerceValue
  dsimp only
  simp only [hdecimal, if_true]
  cases e with
  | text s =>
    by_cases hs : s = ""
    · subst hs
      have hrefused : toDecimal128 (.text "") = .error (.notDecimal "") := rfl
      simp [Value.truthy, hrefused]
    · simp [Value.truthy, hs, coerceDecimal]
  | list items =>
    have hmapped : (do .ok (Value.list (← items.mapM toDecimal128))) =
        Except.ok (Value.list items) ↔ ∀ v ∈ items, toDecimal128 v = .ok v :=
      list_mapM_eq_self_iff
    have hkept : toDecimal128 (.list items) = .ok (.list items) := rfl
    rw [hkept]
    cases items with
    | nil => simp [Value.truthy]
    | cons v rest => simpa [Value.truthy, coerceDecimal, eq_comm] using hmapped
  | tuple items =>
    have hkept : toDecimal128 (.tuple items) = .ok (.tuple items) := rfl
    rw [hkept]
    cases items with
    | nil => simp [Value.truthy]
    | cons v rest =>
      have hne : (do .ok (Value.list (← (v :: rest).mapM toDecimal128))) ≠
          (Except.ok (.tuple (v :: rest)) : Result Value) := by
        intro h
        obtain ⟨stored, -, hlist⟩ := Result.bind_eq_ok.mp h
        simp at hlist
      simpa [Value.truthy, coerceDecimal] using hne.symm
  | decimal d => simp [coerceDecimal]
  | _ => simp [coerceDecimal, toDecimal128]

end ModelStore.Coercion
