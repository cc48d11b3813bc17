import ModelStore.Proofs.Update.IdAddress

/-!
Operators with nothing to operate on. An operand in storage form has a field for each field of the
operand but the identifier, so it is empty exactly if nothing but the identifier was in it. Operands
that are empty to begin with are left out of an update, but those with nothing but an identifier are
not, and neither is what plain data without any other property is wrapped into.
-/
namespace ModelStore.Update

variable {model : Model} {settings : Settings} {options v : Value} {strict : Bool}
  {operator : String} {entries operand stored update : Document}
  {convert : String → Value → Result Value}

/-- One of the operators has an empty document for its operand. -/
def HasEmptyOperand (update : Document) : Prop := ∃ operator, (operator, Value.doc []) ∈ update

section Store

theorem mapEntries_eq_nil_iff (h : mapEntries model convert entries = .ok stored) :
    stored = [] ↔ entries = [] := by
  obtain ⟨written, hwritten, rfl⟩ := mapEntries_writes h
  rw [Table.ofList_eq_nil_iff, Result.eq_nil_iff_of_forall₂ hwritten]

theorem storeValues_eq_nil_iff (h : storeValues model strict entries = .ok stored) :
    stored = [] ↔ entries = [] := by
  obtain ⟨coerced, together, dotted, hcoerced, htogether, hdotted, rfl⟩ := storeValues_writes h
  obtain ⟨top, htop, rfl⟩ := Storage.storeInto_eq_ok.mp htogether
  rw [Table.merge_eq_nil_iff, Table.merge_eq_nil_iff, Result.eq_nil_iff_of_forall₂ hdotted,
    Result.eq_nil_iff_of_forall₂ htop,
    Result.eq_nil_iff_of_forall₂ (Coercion.coerceEntries_eq_ok.mp hcoerced)]
  -- Each entry is either dotted or not.
  constructor
  · intro h
    obtain ⟨⟨-, htop⟩, hdotted⟩ := h
    refine List.eq_nil_iff_forall_not_mem.mpr fun entry hentry => ?_
    cases hdot : Text.hasDot entry.1 with
    | false => exact absurd (by simp [hdot]) (List.filter_eq_nil_iff.mp htop entry hentry)
    | true => exact absurd hdot (List.filter_eq_nil_iff.mp hdotted entry hentry)
  · rintro rfl
    exact ⟨⟨rfl, rfl⟩, rfl⟩

/-- A stored operand is empty exactly if nothing but the identifier was in it. -/
theorem storeOperand_eq_nil_iff (h : storeOperand model strict operator operand = .ok stored) :
    stored = [] ↔ withoutId model operand = [] := by
  unfold storeOperand at h
  dsimp only at h
  split at h
  · exact mapEntries_eq_nil_iff h
  · exact mapEntries_eq_nil_iff h
  · exact mapEntries_eq_nil_iff h
  · exact storeValues_eq_nil_iff h

theorem hasEmptyOperand_store_iff (h : store model strict update = .ok stored) :
    HasEmptyOperand stored ↔
      ∃ operator operand, (operator, Value.doc operand) ∈ update ∧ withoutId model operand = [] := by
  constructor
  · intro hempty
    obtain ⟨operator, hmem⟩ := hempty
    obtain ⟨operand, hoperand, hstored⟩ := exists_operand_of_store h hmem
    exact ⟨operator, operand, hoperand, (storeOperand_eq_nil_iff hstored).mp rfl⟩
  · intro hleft
    obtain ⟨operator, operand, hoperand, hnothing⟩ := hleft
    obtain ⟨written, hwritten, hstored⟩ := exists_stored_of_operand h hoperand
    obtain rfl := (storeOperand_eq_nil_iff hstored).mpr hnothing
    exact ⟨operator, hwritten⟩

end Store

section Parse

theorem mem_heldOperators :
    (operator, v) ∈ heldOperators entries ↔
      operator ∈ operators ∧ Table.get? entries operator = some v ∧ v.truthy = true := by
  rw [heldOperators, List.mem_filterMap]
  constructor
  · rintro ⟨name, hname, hheld⟩
    split at hheld
    · rename_i held hget
      split_ifs at hheld with hset
      obtain ⟨rfl, rfl⟩ := Prod.mk.inj (Option.some.inj hheld)
      exact ⟨hname, hget, hset⟩
    · cases hheld
  · rintro ⟨hname, hget, hset⟩
    exact ⟨operator, hname, by simp [hget, hset]⟩

theorem doc_mem_heldOperators :
    (operator, Value.doc operand) ∈ heldOperators entries ↔
      operator ∈ operators ∧ Table.get? entries operator = some (.doc operand) ∧ operand ≠ [] := by
  rw [mem_heldOperators]
  simp [Value.truthy]

/-- Data set as a whole is an empty operand if it has nothing but the identifier. -/
theorem hasEmptyOperand_setAll_iff (h : store model strict (setAll entries) = .ok stored) :
    HasEmptyOperand stored ↔ withoutId model entries = [] := by
  rw [hasEmptyOperand_store_iff h]
  simp [setAll]

/-- Data is taken as an update if it may be one and holds an operator, and set as a whole
otherwise. -/
theorem parse_eq_ok (h : parse model settings options (.doc entries) = .ok update) :
    (operatorsAllowed model settings options = .ok true ∧ update = heldOperators entries ∧
        update ≠ []) ∨
      (update = setAll entries ∧
        (operatorsAllowed model settings options = .ok true → heldOperators entries = [])) := by
  obtain ⟨allowed, hallowed, h⟩ := Result.bind_eq_ok.mp h
  cases allowed with
  | false =>
    refine .inr ⟨(Except.ok.inj h).symm, fun htrue => ?_⟩
    cases hallowed.symm.trans htrue
  | true =>
    obtain ⟨given, hgiven, h⟩ := Result.bind_eq_ok.mp h
    obtain rfl : entries = given := Except.ok.inj hgiven
    split at h
    · rename_i hnone
      exact .inr ⟨(Except.ok.inj h).symm, fun _ => hnone⟩
    · rename_i hsome
      obtain rfl := Except.ok.inj h
      exact .inl ⟨hallowed, rfl, hsome⟩

end Parse

end ModelStore.Update
