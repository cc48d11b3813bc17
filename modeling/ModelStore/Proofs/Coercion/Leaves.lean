import ModelStore.Proofs.Coercion.LeftText

/-!
Coercion place by place. A document and what it is coerced to are read side by side: they have the
same keys in the same order, and at each position either the same keys or the same number of
elements again, or the value itself, or what its property makes of a leaf. The document that was
given is a value and stays what it was.
-/
namespace ModelStore.Coercion

open Number

variable {schema nested : Schema} {entries coerced : Document} {definition : Option Property}
  {strict : Bool} {key : String} {v w : Value}

/-- In a document and in what it is coerced to, the two values stand at one position, where the
property is declared. The elements of a list stand where the list does. -/
inductive StandsAt (schema : Schema) (entries coerced : Document) :
    Option Property → Value → Value → Prop
  | entry {key : String} {v w : Value} : ((key, v), (key, w)) ∈ entries.zip coerced →
      StandsAt schema entries coerced (Table.get? schema key) v w
  | member {definition : Option Property} {nested : Schema} {inner after : Document} {key : String}
      {v w : Value} : StandsAt schema entries coerced definition (.doc inner) (.doc after) →
      definition.bind Property.nestedSchema = some nested →
      ((key, v), (key, w)) ∈ inner.zip after →
      StandsAt schema entries coerced (Table.get? nested key) v w
  | element {definition : Option Property} {nested : Schema} {items after : List Value}
      {v w : Value} : StandsAt schema entries coerced definition (.list items) (.list after) →
      definition.bind Property.nestedSchema = some nested → (v, w) ∈ items.zip after →
      StandsAt schema entries coerced definition v w

/-- What may become of a leaf: a text of 24 hexadecimal digits is the identifier of these digits,
under strict coercion only where one is declared, and a decimal or a text that writes one is stored
as that decimal where decimals are declared. -/
inductive LeafBecomes (strict : Bool) (definition : Option Property) : Value → Value → Prop
  | kept (v : Value) : LeafBecomes strict definition v v
  | identifier {s : String} {id : ObjectId} : ObjectId.ofText? s = some id →
      (strict = true → isDeclaredObjectId definition = true) →
      LeafBecomes strict definition (.text s) (.objectId id)
  | written {s : String} {d : Decimal} {stored : Decimal128} : isDecimalProperty definition = true →
      Decimal.ofNumeral? (Text.trim s.toList) = some d → Decimal128.ofDecimal d = .ok stored →
      LeafBecomes strict definition (.text s) (.decimal128 stored)
  | decimal {d : Decimal} {stored : Decimal128} : isDecimalProperty definition = true →
      Decimal128.ofDecimal d = .ok stored →
      LeafBecomes strict definition (.decimal d) (.decimal128 stored)

/-- What may become of the value at a position. -/
inductive Becomes (strict : Bool) (definition : Option Property) : Value → Value → Prop
  | leaf {v w : Value} : LeafBecomes strict definition v w → Becomes strict definition v w
  /-- The leaves in a list of decimals or of identifiers. -/
  | leaves {items after : List Value} :
      isDecimalProperty definition = true ∨ isDeclaredObjectId definition = true →
      List.Forall₂ (LeafBecomes strict definition) items after →
      Becomes strict definition (.list items) (.list after)
  /-- A tuple of decimals or of identifiers is stored as a list. -/
  | tuple {items after : List Value} :
      isDecimalProperty definition = true ∨ isDeclaredObjectId definition = true →
      List.Forall₂ (LeafBecomes strict definition) items after →
      Becomes strict definition (.tuple items) (.list after)
  | document {inner after : Document} : definition.bind Property.nestedSchema ≠ none →
      Table.keys after = Table.keys inner → Becomes strict definition (.doc inner) (.doc after)
  | list {items after : List Value} : definition.bind Property.nestedSchema ≠ none →
      after.length = items.length → Becomes strict definition (.list items) (.list after)

theorem leafBecomes_storeDecimal {d : Decimal} (hdecimal : isDecimalProperty definition = true)
    (h : storeDecimal d = .ok w) : LeafBecomes strict definition (.decimal d) w := by
  rw [storeDecimal] at h
  split at h
  · rename_i stored hstored
    obtain rfl := Except.ok.inj h
    exact .decimal hdecimal hstored
  · cases h

theorem leafBecomes_readDecimal {s : String} (hdecimal : isDecimalProperty definition = true)
    (h : readDecimal s = .ok w) : LeafBecomes strict definition (.text s) w := by
  rw [readDecimal] at h
  split at h
  · rename_i d hd
    rw [storeDecimal] at h
    split at h
    · rename_i stored hstored
      obtain rfl := Except.ok.inj h
      exact .written hdecimal hd hstored
    · cases h
  · cases h

theorem leafBecomes_toDecimal128 (hdecimal : isDecimalProperty definition = true)
    (h : toDecimal128 v = .ok w) : LeafBecomes strict definition v w := by
  cases v with
  | decimal d => exact leafBecomes_storeDecimal hdecimal h
  | text s => exact leafBecomes_readDecimal hdecimal h
  | _ =>
    obtain rfl := Except.ok.inj h
    exact .kept _

theorem leafBecomes_readObjectId {s : String}
    (hstrict : strict = true → isDeclaredObjectId definition = true)
    (h : readObjectId s = .ok w) : LeafBecomes strict definition (.text s) w := by
  rw [readObjectId] at h
  split at h
  · rename_i id hid
    obtain rfl := Except.ok.inj h
    exact .identifier hid hstrict
  · cases h

theorem leafBecomes_requireObjectId (hdeclared : isDeclaredObjectId definition = true)
    (h : requireObjectId v = .ok w) : LeafBecomes strict definition v w := by
  cases v with
  | objectId id =>
    obtain rfl := Except.ok.inj h
    exact .kept _
  | text s =>
    rw [requireObjectId] at h
    split at h
    · exact leafBecomes_readObjectId (fun _ => hdeclared) h
    · cases h
  | _ => cases h

private theorem leaves_of_mapM {f : Value → Result Value} {items : List Value}
    (hf : ∀ v w, f v = .ok w → LeafBecomes strict definition v w)
    (h : (do .ok (Value.list (← items.mapM f))) = Except.ok w) :
    ∃ after, w = .list after ∧ List.Forall₂ (LeafBecomes strict definition) items after := by
  obtain ⟨after, hafter, h⟩ := Result.bind_eq_ok.mp h
  exact ⟨after, (Except.ok.inj h).symm, (Result.mapM_eq_ok.mp hafter).imp hf⟩

theorem becomes_coerceDecimal (hdecimal : isDecimalProperty definition = true)
    (h : coerceDecimal v = .ok w) : Becomes strict definition v w := by
  cases v with
  | list items =>
    obtain ⟨after, rfl, hafter⟩ := leaves_of_mapM (fun _ _ => leafBecomes_toDecimal128 hdecimal) h
    exact .leaves (.inl hdecimal) hafter
  | tuple items =>
    obtain ⟨after, rfl, hafter⟩ := leaves_of_mapM (fun _ _ => leafBecomes_toDecimal128 hdecimal) h
    exact .tuple (.inl hdecimal) hafter
  | _ => exact .leaf (leafBecomes_toDecimal128 hdecimal h)

theorem becomes_coerceReference (h : coerceReference definition v strict = .ok w) :
    Becomes strict definition v w := by
  unfold coerceReference at h
  split_ifs at h with hdeclared hidentifier
  · cases v with
    | list items =>
      obtain ⟨after, rfl, hafter⟩ :=
        leaves_of_mapM (fun _ _ => leafBecomes_requireObjectId hdeclared) h
      exact .leaves (.inr hdeclared) hafter
    | tuple items =>
      obtain ⟨after, rfl, hafter⟩ :=
        leaves_of_mapM (fun _ _ => leafBecomes_requireObjectId hdeclared) h
      exact .tuple (.inr hdeclared) hafter
    | _ => exact .leaf (leafBecomes_requireObjectId hdeclared h)
  · cases v with
    | text s =>
      rw [toObjectId] at h
      split_ifs at h
      · have hstrict : strict = true → isDeclaredObjectId definition = true := by
          rintro rfl
          simpa [isObjectIdProperty] using hidentifier
        exact .leaf (leafBecomes_readObjectId hstrict h)
      · obtain rfl := Except.ok.inj h
        exact .leaf (.kept _)
    | _ =>
      obtain rfl := Except.ok.inj h
      exact .leaf (.kept _)
  · obtain rfl := Except.ok.inj h
    exact .leaf (.kept _)

theorem becomes_coerceValue (h : coerceValue definition strict v = .ok w) :
    Becomes strict definition v w := by
  unfold coerceValue at h
  dsimp only at h
  split_ifs at h with hunset hdecimal hreference
  · obtain rfl := Except.ok.inj h
    exact .leaf (.kept _)
  · exact becomes_coerceDecimal hdecimal h
  · exact becomes_coerceReference h
  · obtain rfl := Except.ok.inj h
    exact .leaf (.kept _)

/-- How the value at a position is coerced: by its property alone, or by the properties inside that,
or not at all. -/
inductive Coerces (strict : Bool) (definition : Option Property) (v w : Value) : Prop
  | kept (h : w = v)
  | value (h : coerceValue definition strict v = .ok w)
      (hnested : definition.bind Property.nestedSchema = none)
  | walked {nested : Schema} (h : coerceNested strict nested v = .ok w)
      (hnested : definition.bind Property.nestedSchema = some nested)

theorem coerces_coerceEntry (h : coerceEntry strict schema (key, v) = .ok w) :
    Coerces strict (Table.get? schema key) v w := by
  unfold coerceEntry at h
  dsimp only at h
  split at h
  · rename_i nested hnested
    cases v with
    | doc inner =>
      rw [coerceMember] at h
      split_ifs at h
      · exact .kept (Except.ok.inj h).symm
      · exact .walked h hnested
    | _ => exact .walked h hnested
  · rename_i hnested
    exact .value h hnested

theorem Coerces.becomes (h : Coerces strict definition v w) : Becomes strict definition v w := by
  cases h with
  | kept h =>
    rw [h]
    exact .leaf (.kept v)
  | value h _ => exact becomes_coerceValue h
  | walked h hnested =>
    have hsome : definition.bind Property.nestedSchema ≠ none := by simp [hnested]
    cases v with
    | doc inner =>
      obtain ⟨after, hafter, h⟩ := Result.bind_eq_ok.mp h
      obtain rfl := Except.ok.inj h
      exact .document hsome (keys_coerceEntries hafter)
    | list items =>
      obtain ⟨after, hafter, h⟩ := Result.bind_eq_ok.mp h
      obtain rfl := Except.ok.inj h
      exact .list hsome (coerceItems_eq_ok.mp hafter).length_eq.symm
    | _ =>
      obtain rfl := Except.ok.inj h
      exact .leaf (.kept _)

/-- What stands at one position of equal lists is equal. -/
private theorem eq_of_mem_zip_self {α : Type} {as : List α} {a b : α} (h : (a, b) ∈ as.zip as) :
    a = b :=
  (List.forall₂_iff_zip.mp (List.forall₂_same.mpr fun _ _ => rfl)).2 h

/-- Whatever stands at one position was coerced from the one to the other. -/
theorem StandsAt.coerces (hcoerced : coerceEntries strict schema entries = .ok coerced)
    (h : StandsAt schema entries coerced definition v w) : Coerces strict definition v w := by
  have hentry : ∀ {schema : Schema} {entries coerced : Document} {key : String} {v w : Value},
      coerceEntries strict schema entries = .ok coerced →
      ((key, v), (key, w)) ∈ entries.zip coerced → Coerces strict (Table.get? schema key) v w := by
    intro schema entries coerced key v w hcoerced hmem
    have hpartners := (List.forall₂_iff_zip.mp (coerceEntries_eq_ok.mp hcoerced)).2 hmem
    exact coerces_coerceEntry hpartners.1
  induction h with
  | entry hmem => exact hentry hcoerced hmem
  | member _ hnested hmem ih =>
    cases ih with
    | kept h =>
      obtain rfl := Value.doc.inj h
      exact .kept (Prod.mk.inj (eq_of_mem_zip_self hmem)).2.symm
    | value _ hnone => simp [hnested] at hnone
    | walked h hnested' =>
      obtain rfl := Option.some.inj (hnested.symm.trans hnested')
      obtain ⟨after, hafter, h⟩ := Result.bind_eq_ok.mp h
      obtain rfl := Value.doc.inj (Except.ok.inj h)
      exact hentry hafter hmem
  | element _ hnested hmem ih =>
    cases ih with
    | kept h =>
      obtain rfl := Value.list.inj h
      exact .kept (eq_of_mem_zip_self hmem).symm
    | value _ hnone => simp [hnested] at hnone
    | walked h hnested' =>
      obtain ⟨after, hafter, h⟩ := Result.bind_eq_ok.mp h
      obtain rfl := Value.list.inj (Except.ok.inj h)
      exact .walked ((List.forall₂_iff_zip.mp (coerceItems_eq_ok.mp hafter)).2 hmem) hnested'

/-- Under strict coercion a value is kept where neither a decimal nor an identifier is declared, and
no properties inside it. -/
theorem Becomes.eq_of_undeclared (h : Becomes true definition v w)
    (hdecimal : isDecimalProperty definition = false)
    (hdeclared : isDeclaredObjectId definition = false)
    (hnested : definition.bind Property.nestedSchema = none) : w = v := by
  cases h with
  | leaf h =>
    cases h with
    | kept => rfl
    | identifier _ hstrict => simp [hdeclared] at hstrict
    | written h => simp [hdecimal] at h
    | decimal h => simp [hdecimal] at h
  | leaves h => simp [hdecimal, hdeclared] at h
  | tuple h => simp [hdecimal, hdeclared] at h
  | document h => exact absurd hnested h
  | list h => exact absurd hnested h

/-- Coercion keeps the shape of a document and changes only its leaves, each as its property has it;
under strict coercion it keeps everything for which nothing is declared. -/
theorem converts_leaves (h : coerceDocument strict schema v = .ok w) :
    ∃ entries coerced, v = .doc entries ∧ w = .doc coerced ∧
      Table.keys coerced = Table.keys entries ∧
      (∀ definition u u', StandsAt schema entries coerced definition u u' →
        Becomes strict definition u u') ∧
      (strict = true → ∀ definition u u', StandsAt schema entries coerced definition u u' →
        isDecimalProperty definition = false → isDeclaredObjectId definition = false →
        definition.bind Property.nestedSchema = none → u' = u) := by
  cases v with
  | doc entries =>
    obtain ⟨coerced, hcoerced, h⟩ := Result.bind_eq_ok.mp h
    refine ⟨entries, coerced, rfl, (Except.ok.inj h).symm, keys_coerceEntries hcoerced, ?_, ?_⟩
    · intro definition u u' hstands
      exact (hstands.coerces hcoerced).becomes
    · rintro rfl definition u u' hstands
      exact (hstands.coerces hcoerced).becomes.eq_of_undeclared
  | _ =>
    obtain ⟨entries, -, h⟩ := Result.bind_eq_ok.mp h
    cases h

/-- The price of a line, and what it is stored as, stand at one position of the order. -/
theorem standsAt_price :
    ∃ definition, StandsAt orders order storedOrder definition (.text "0.00")
      (.decimal128 (.zero false (-2))) := by
  have hlines : StandsAt orders order storedOrder (Table.get? orders "lines") _ _ :=
    .entry List.mem_cons_self
  have hline := StandsAt.element hlines rfl List.mem_cons_self
  exact ⟨_, StandsAt.member hline rfl List.mem_cons_self⟩

theorem converts_leaves_order :
    coerceDocument true orders (.doc order) = .ok (.doc storedOrder) ∧
      Table.keys storedOrder = Table.keys order ∧
      ∃ definition, StandsAt orders order storedOrder definition (.text "0.00")
          (.decimal128 (.zero false (-2))) ∧
        Becomes true definition (.text "0.00") (.decimal128 (.zero false (-2))) := by
  have hcoerced : coerceDocument true orders (.doc order) = .ok (.doc storedOrder) := rfl
  obtain ⟨entries, coerced, hgiven, hstored, hkeys, hbecomes, -⟩ := converts_leaves hcoerced
  obtain rfl := Value.doc.inj hgiven
  obtain rfl := Value.doc.inj hstored
  obtain ⟨definition, hprice⟩ := standsAt_price
  exact ⟨hcoerced, hkeys, definition, hprice, hbecomes _ _ _ hprice⟩

end ModelStore.Coercion
