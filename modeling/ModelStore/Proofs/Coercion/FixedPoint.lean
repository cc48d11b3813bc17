import ModelStore.Proofs.Coercion.LeftText

/-!
Coerced values are fixed points. The rules that make stored decimals and identifiers keep what they
made, and what a rule lets pass it lets pass again. So a document that was coerced once can be
coerced again: it is not refused, and nothing in it changes.
-/
namespace ModelStore.Coercion

variable {definition : Option Property} {strict : Bool} {v w : Value}

theorem toDecimal128_fixed (h : toDecimal128 v = .ok w) : toDecimal128 w = .ok w := by
  cases v with
  | decimal d =>
    obtain ⟨stored, rfl⟩ := storeDecimal_eq_ok h
    rfl
  | text s =>
    obtain ⟨stored, rfl⟩ := readDecimal_eq_ok h
    rfl
  | _ =>
    obtain rfl := Except.ok.inj h
    rfl

theorem requireObjectId_fixed (h : requireObjectId v = .ok w) : requireObjectId w = .ok w := by
  obtain ⟨id, rfl⟩ := requireObjectId_eq_ok h
  rfl

/-- A list of what a rule made is kept element by element. -/
private theorem exists_fixed_list {f : Value → Result Value} {items : List Value}
    (hf : ∀ v w, f v = .ok w → f w = .ok w)
    (h : (do .ok (Value.list (← items.mapM f))) = Except.ok w) :
    ∃ coerced, w = .list coerced ∧ (do .ok (Value.list (← coerced.mapM f))) = Except.ok w := by
  obtain ⟨coerced, hcoerced, h⟩ := Result.bind_eq_ok.mp h
  obtain rfl := Except.ok.inj h
  have hfixed : coerced.mapM f = .ok coerced :=
    Result.mapM_eq_ok.mpr (Result.forall₂_fixed (fun v _ => hf v) (Result.mapM_eq_ok.mp hcoerced))
  exact ⟨coerced, rfl, by rw [hfixed]; rfl⟩

theorem coerceDecimal_fixed (h : coerceDecimal v = .ok w) : coerceDecimal w = .ok w := by
  have hlist : ∀ {items : List Value},
      (do .ok (Value.list (← items.mapM toDecimal128))) = Except.ok w →
        coerceDecimal w = .ok w := by
    intro items h
    obtain ⟨coerced, rfl, hfixed⟩ := exists_fixed_list (fun _ _ => toDecimal128_fixed) h
    exact hfixed
  cases v with
  | list items => exact hlist h
  | tuple items => exact hlist h
  | decimal d =>
    obtain ⟨stored, rfl⟩ := storeDecimal_eq_ok h
    rfl
  | text s =>
    obtain ⟨stored, rfl⟩ := readDecimal_eq_ok h
    rfl
  | _ =>
    obtain rfl := Except.ok.inj h
    rfl

theorem coerceReference_fixed (h : coerceReference definition v strict = .ok w) :
    coerceReference definition w strict = .ok w := by
  have hgiven := h
  unfold coerceReference at h
  split_ifs at h with hdeclared hidentifier
  · have hlist : ∀ {items : List Value},
        (do .ok (Value.list (← items.mapM requireObjectId))) = Except.ok w →
          coerceReference definition w strict = .ok w := by
      intro items h
      obtain ⟨coerced, rfl, hfixed⟩ := exists_fixed_list (fun _ _ => requireObjectId_fixed) h
      unfold coerceReference
      rw [if_pos hdeclared]
      exact hfixed
    have hone : requireObjectId v = .ok w → coerceReference definition w strict = .ok w := by
      intro h
      obtain ⟨id, rfl⟩ := requireObjectId_eq_ok h
      unfold coerceReference
      rw [if_pos hdeclared]
      rfl
    cases v with
    | list items => exact hlist h
    | tuple items => exact hlist h
    | _ => exact hone h
  · cases v with
    | text s =>
      rw [toObjectId] at h
      split_ifs at h
      · obtain ⟨id, rfl⟩ := readObjectId_eq_ok h
        unfold coerceReference
        rw [if_neg hdeclared]
        split <;> rfl
      · rwa [← Except.ok.inj h] at hgiven ⊢
    | _ =>
      obtain rfl := Except.ok.inj h
      exact hgiven
  · obtain rfl := Except.ok.inj h
    exact hgiven

/-- What one value is coerced to is coerced to itself. -/
theorem coerceValue_fixed (h : coerceValue definition strict v = .ok w) :
    coerceValue definition strict w = .ok w := by
  have hgiven := h
  unfold coerceValue at h
  dsimp only at h
  split_ifs at h with hunset hdecimal hreference
  · obtain rfl := Except.ok.inj h
    exact hgiven
  · have hfixed := coerceDecimal_fixed h
    unfold coerceValue
    dsimp only
    split_ifs
    · rfl
    · exact hfixed
  · have hfixed := coerceReference_fixed h
    unfold coerceValue
    dsimp only
    split_ifs
    · rfl
    · exact hfixed
    · rfl
  · obtain rfl := Except.ok.inj h
    exact hgiven

theorem coerceMember_fixed {nested : Schema}
    (hwalked : coerceNested strict nested v = .ok w → coerceNested strict nested w = .ok w)
    (h : coerceMember strict definition nested v = .ok w) :
    coerceMember strict definition nested w = .ok w := by
  by_cases hkind : definition.any (·.kind = .array) = true
  · cases v with
    | doc entries =>
      have hkept : w = .doc entries := by
        rw [coerceMember, if_pos hkind] at h
        exact (Except.ok.inj h).symm
      rwa [hkept] at h ⊢
    | list items =>
      have hfixed := hwalked h
      obtain ⟨coerced, -, hlist⟩ := Result.bind_eq_ok.mp h
      obtain rfl := Except.ok.inj hlist
      exact hfixed
    | _ =>
      obtain rfl := Except.ok.inj h
      exact h
  · rw [coerceMember_eq_coerceNested fun hkind' => absurd hkind' hkind] at h ⊢
    exact hwalked h

theorem coerceEntry_fixed {schema : Schema} {key : String}
    (hwalked : ∀ nested, coerceNested strict nested v = .ok w →
      coerceNested strict nested w = .ok w)
    (h : coerceEntry strict schema (key, v) = .ok w) :
    coerceEntry strict schema (key, w) = .ok w := by
  unfold coerceEntry at h ⊢
  dsimp only at h ⊢
  split at h
  · exact coerceMember_fixed (hwalked _) h
  · exact coerceValue_fixed h

theorem coerceEntries_fixed {schema : Schema} {entries coerced : Document}
    (hwalked : ∀ u ∈ (Value.doc entries).parts, ∀ w nested, coerceNested strict nested u = .ok w →
      coerceNested strict nested w = .ok w)
    (h : coerceEntries strict schema entries = .ok coerced) :
    coerceEntries strict schema coerced = .ok coerced := by
  refine coerceEntries_eq_ok.mpr (Result.forall₂_fixed ?_ (coerceEntries_eq_ok.mp h))
  intro entry hentry after hafter
  obtain ⟨hcoerced, hkey⟩ := hafter
  obtain ⟨key, u⟩ := entry
  obtain ⟨_, w⟩ := after
  obtain rfl : key = _ := hkey
  have hpart : u ∈ (Value.doc entries).parts := List.mem_map_of_mem (f := Prod.snd) hentry
  exact ⟨coerceEntry_fixed (hwalked u hpart w) hcoerced, rfl⟩

/-- Walked documents and lists are fixed points, whatever is declared inside them. -/
theorem coerceNested_fixed {nested : Schema} (h : coerceNested strict nested v = .ok w) :
    coerceNested strict nested w = .ok w := by
  induction v using Value.partsInduction generalizing nested w with
  | step v ih =>
    cases v with
    | doc entries =>
      obtain ⟨coerced, hcoerced, h⟩ := Result.bind_eq_ok.mp h
      obtain rfl := Except.ok.inj h
      have hfixed := coerceEntries_fixed (fun u hu w nested => ih u hu) hcoerced
      rw [coerceNested, hfixed]
      rfl
    | list items =>
      obtain ⟨coerced, hcoerced, h⟩ := Result.bind_eq_ok.mp h
      obtain rfl := Except.ok.inj h
      have hfixed : coerceItems strict nested coerced = .ok coerced :=
        coerceItems_eq_ok.mpr
          (Result.forall₂_fixed (fun u hu w => ih u hu) (coerceItems_eq_ok.mp hcoerced))
      rw [coerceNested, hfixed]
      rfl
    | _ =>
      obtain rfl := Except.ok.inj h
      exact h

/-- A document that was coerced is coerced to itself. -/
theorem coerceDocument_fixed {schema : Schema} (h : coerceDocument strict schema v = .ok w) :
    coerceDocument strict schema w = .ok w := by
  cases v with
  | doc entries =>
    obtain ⟨coerced, hcoerced, h⟩ := Result.bind_eq_ok.mp h
    obtain rfl := Except.ok.inj h
    have hfixed := coerceEntries_fixed (fun _ _ _ _ => coerceNested_fixed) hcoerced
    rw [coerceDocument, hfixed]
    rfl
  | _ =>
    obtain ⟨entries, -, h⟩ := Result.bind_eq_ok.mp h
    cases h

/-- An order whose texts became decimals and identifiers is saved again as it is. -/
theorem coerceDocument_fixed_order :
    coerceDocument true orders (.doc order) = .ok (.doc storedOrder) ∧
      coerceDocument true orders (.doc storedOrder) = .ok (.doc storedOrder) :=
  ⟨rfl, coerceDocument_fixed (v := .doc order) rfl⟩

end ModelStore.Coercion
