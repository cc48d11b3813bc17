import ModelStore.Proofs.Coercion.Document
import ModelStore.Proofs.Value.Parts

/-!
Declared storage types. Where the schema declares a decimal or an identifier a text should not be
left. Coercion leaves none in a value that it reads by the property it is declared with; the texts
that stay are those it passes over, in places of the value to which it does not come. This module
says what these places are, and settles values of properties without properties inside them.
-/
namespace ModelStore.Coercion

/-- Values of the property are stored as decimals or as identifiers. -/
def hasStoredType (p : Property) : Bool :=
  isDecimalProperty (some p) || isDeclaredObjectId (some p)

/-- Somewhere in a value of the property stands a text, not an empty one, where a decimal or an
identifier is declared. Elements are declared by the array itself or by its element property. -/
inductive HoldsText : Property → Value → Prop
  | here {p : Property} {s : String} : hasStoredType p = true → s ≠ "" → HoldsText p (.text s)
  | entry {p q : Property} {schema : Schema} {entries : Document} {key : String} {v : Value} :
      p.kind = .object → p.properties = some schema → Table.get? schema key = some q →
      Table.get? entries key = some v → HoldsText q v → HoldsText p (.doc entries)
  | typed {p : Property} {v : Value} {s : String} : p.kind = .array → hasStoredType p = true →
      .text s ∈ v.listed → s ≠ "" → HoldsText p v
  | element {p item : Property} {v w : Value} : p.kind = .array → p.items = some item →
      w ∈ v.listed → HoldsText item w → HoldsText p v

/-- Such a text stands where coercion along the schema does not come. -/
inductive PassesOver : Property → Value → Prop
  /-- A text in the place of an object, or of an array of them. -/
  | here {p : Property} {s : String} : p.nestedSchema.isSome = true → hasStoredType p = true →
      s ≠ "" → PassesOver p (.text s)
  | entry {p q : Property} {schema : Schema} {entries : Document} {key : String} {v : Value} :
      p.kind = .object → p.properties = some schema → Table.get? schema key = some q →
      Table.get? entries key = some v → PassesOver q v → PassesOver p (.doc entries)
  /-- A text among the objects of an array that has a storage type of its own. -/
  | typed {p : Property} {items : List Value} {s : String} : p.kind = .array →
      p.nestedSchema.isSome = true → hasStoredType p = true → .text s ∈ items → s ≠ "" →
      PassesOver p (.list items)
  | element {p item : Property} {items : List Value} {w : Value} : p.kind = .array →
      p.nestedSchema.isSome = true → p.items = some item → w ∈ items → PassesOver item w →
      PassesOver p (.list items)
  /-- Objects in a tuple. -/
  | tuple {p : Property} {items : List Value} : p.kind = .array → p.nestedSchema.isSome = true →
      HoldsText p (.tuple items) → PassesOver p (.tuple items)
  /-- Elements that are no objects, unless the array has a storage type: then it is the texts among
  them that are read. -/
  | beneath {p item : Property} {v w : Value} : p.kind = .array → p.nestedSchema = none →
      p.items = some item → w ∈ v.listed → (hasStoredType p = true → w.isText = false) →
      HoldsText item w → PassesOver p v

variable {p item : Property} {strict : Bool} {v w : Value}

/-- What is neither a text nor has parts holds no text. -/
theorem not_holdsText (hparts : v.parts = []) (htext : v.isText = false) : ¬ HoldsText p v := by
  have hlisted : v.listed = [] := by
    cases v <;> first | rfl | exact hparts
  intro h
  cases h with
  | here => simp [Value.isText] at htext
  | entry _ _ _ hv _ =>
    rw [Value.parts, List.map_eq_nil_iff] at hparts
    rw [hparts] at hv
    simp at hv
  | typed _ _ hmem _ => simp [hlisted] at hmem
  | element _ _ hmem _ => simp [hlisted] at hmem

theorem PassesOver.holdsText (h : PassesOver p v) : HoldsText p v := by
  induction h with
  | here _ htyped hset => exact .here htyped hset
  | entry hkind hproperties hq hv _ ih => exact .entry hkind hproperties hq hv ih
  | typed hkind _ htyped hmem hset => exact .typed hkind htyped hmem hset
  | element hkind _ hitem hmem _ ih => exact .element hkind hitem hmem ih
  | tuple _ _ h => exact h
  | beneath hkind _ hitem hmem _ h => exact .element hkind hitem hmem h

/-- A property without properties inside it passes over the elements that it does not read. -/
theorem passesOver_iff_of_nestedSchema_eq_none (hnested : p.nestedSchema = none) :
    PassesOver p v ↔ p.kind = .array ∧ ∃ item w, p.items = some item ∧ w ∈ v.listed ∧
      (hasStoredType p = true → w.isText = false) ∧ HoldsText item w := by
  constructor
  · intro h
    cases h with
    | beneath hkind _ hitem hmem hread h => exact ⟨hkind, _, _, hitem, hmem, hread, h⟩
    | entry hkind hproperties hq =>
      simp [Property.nestedSchema_of_object hkind hproperties hq] at hnested
    | here hsome => simp [hnested] at hsome
    | typed _ hsome => simp [hnested] at hsome
    | element _ hsome => simp [hnested] at hsome
    | tuple _ hsome => simp [hnested] at hsome
  · intro h
    obtain ⟨hkind, item, w, hitem, hmem, hread, h⟩ := h
    exact .beneath hkind hnested hitem hmem hread h

theorem holdsText_iff_of_nestedSchema_eq_none (hnested : p.nestedSchema = none) :
    HoldsText p v ↔ (hasStoredType p = true ∧ ∃ s, s ≠ "" ∧ (v = .text s ∨
        p.kind = .array ∧ .text s ∈ v.listed)) ∨
      p.kind = .array ∧ ∃ item w, p.items = some item ∧ w ∈ v.listed ∧ HoldsText item w := by
  constructor
  · intro h
    cases h with
    | here htyped hset => exact Or.inl ⟨htyped, _, hset, Or.inl rfl⟩
    | typed hkind htyped hmem hset => exact Or.inl ⟨htyped, _, hset, Or.inr ⟨hkind, hmem⟩⟩
    | element hkind hitem hmem h => exact Or.inr ⟨hkind, _, _, hitem, hmem, h⟩
    | entry hkind hproperties hq =>
      simp [Property.nestedSchema_of_object hkind hproperties hq] at hnested
  · intro h
    rcases h with ⟨htyped, s, hset, rfl | ⟨hkind, hmem⟩⟩ | ⟨hkind, item, w, hitem, hmem, h⟩
    · exact .here htyped hset
    · exact .typed hkind htyped hmem hset
    · exact .element hkind hitem hmem h

/-- An element that was read: replaced by a value without parts, or no text and kept. -/
def ReadAs (v w : Value) : Prop :=
  w.isText = false ∧ (v = w ∨ v.parts = [] ∧ w.parts = [])

theorem ReadAs.holdsText_iff (h : ReadAs v w) :
    HoldsText p w ↔ v.isText = false ∧ HoldsText p v := by
  obtain ⟨htext, rfl | ⟨hv, hw⟩⟩ := h
  · simp [htext]
  · constructor
    · intro hholds
      exact absurd hholds (not_holdsText hw htext)
    · intro hholds
      exact absurd hholds.2 (not_holdsText hv hholds.1)

theorem readAs_of_toDecimal128 (h : toDecimal128 v = .ok w) : ReadAs v w := by
  cases v with
  | decimal d =>
    obtain ⟨stored, rfl⟩ := storeDecimal_eq_ok h
    exact ⟨rfl, Or.inr ⟨rfl, rfl⟩⟩
  | text s =>
    obtain ⟨stored, rfl⟩ := readDecimal_eq_ok h
    exact ⟨rfl, Or.inr ⟨rfl, rfl⟩⟩
  | _ =>
    obtain rfl := Except.ok.inj h
    exact ⟨rfl, Or.inl rfl⟩

theorem readAs_of_requireObjectId (h : requireObjectId v = .ok w) : ReadAs v w := by
  obtain ⟨id, rfl⟩ := requireObjectId_eq_ok h
  refine ⟨rfl, Or.inr ⟨?_, rfl⟩⟩
  cases v with
  | doc | list | tuple => simp [requireObjectId] at h
  | _ => rfl

/-- A value that was read, with its elements: no text is left in its place or among them. -/
def ReadThrough (v w : Value) : Prop :=
  (∀ s, w = .text s → s = "") ∧ List.Forall₂ ReadAs v.listed w.listed

private theorem ReadThrough.of_mapM {f : Value → Result Value} {items : List Value}
    (hf : ∀ v w, f v = .ok w → ReadAs v w) (hv : v.listed = items)
    (h : (do .ok (Value.list (← items.mapM f))) = Except.ok w) : ReadThrough v w := by
  obtain ⟨coerced, hcoerced, h⟩ := Result.bind_eq_ok.mp h
  obtain rfl := Except.ok.inj h
  refine ⟨by simp, ?_⟩
  rw [hv]
  exact (Result.mapM_eq_ok.mp hcoerced).imp hf

private theorem ReadThrough.of_readAs (hv : v.listed = []) (h : ReadAs v w) : ReadThrough v w := by
  obtain ⟨htext, hkept⟩ := h
  constructor
  · rintro s rfl
    simp [Value.isText] at htext
  · rcases hkept with rfl | ⟨-, hw⟩
    · rw [hv]
      exact .nil
    · rw [hv, Value.listed_of_parts hw]
      exact .nil

theorem readThrough_coerceDecimal (h : coerceDecimal v = .ok w) : ReadThrough v w := by
  cases v with
  | list items => exact .of_mapM (fun _ _ => readAs_of_toDecimal128) rfl h
  | tuple items => exact .of_mapM (fun _ _ => readAs_of_toDecimal128) rfl h
  | _ => exact .of_readAs rfl (readAs_of_toDecimal128 h)

theorem readThrough_coerceReference (hdeclared : isDeclaredObjectId (some p) = true)
    (h : coerceReference (some p) v strict = .ok w) : ReadThrough v w := by
  unfold coerceReference at h
  rw [if_pos hdeclared] at h
  cases v with
  | list items => exact .of_mapM (fun _ _ => readAs_of_requireObjectId) rfl h
  | tuple items => exact .of_mapM (fun _ _ => readAs_of_requireObjectId) rfl h
  | _ => exact .of_readAs rfl (readAs_of_requireObjectId h)

/-- Where a storage type is declared no text is left, nor any among the elements of a list. -/
theorem readThrough_coerceValue (htyped : hasStoredType p = true)
    (h : coerceValue (some p) strict v = .ok w) : ReadThrough v w := by
  unfold coerceValue at h
  dsimp only at h
  split_ifs at h with hset hdecimal hdeclared
  · obtain rfl := Except.ok.inj h
    have hunset : v.truthy = false := by
      simpa using (Bool.and_eq_true_iff.mp hset).1
    constructor
    · rintro s rfl
      simpa [Value.truthy] using hunset
    · have hlisted : v.listed = [] := by
        cases v <;> first | rfl | simpa [Value.truthy, Value.listed] using hunset
      rw [hlisted]
      exact .nil
  · exact readThrough_coerceDecimal h
  · have hdeclared : isDeclaredObjectId (some p) = true := by
      simpa [hasStoredType, hdecimal] using htyped
    exact readThrough_coerceReference hdeclared h
  · have hreference : isDeclaredObjectId (some p) = true := by
      simpa [hasStoredType, hdecimal] using htyped
    simp [hreference] at hdeclared

/-- Where none is declared a text may become an identifier, and all else is kept. -/
theorem coerceValue_untyped (huntyped : hasStoredType p = false)
    (h : coerceValue (some p) strict v = .ok w) :
    w = v ∨ v.isText = true ∧ w.parts = [] := by
  cases v with
  | text s =>
    rcases coerceValue_scalar rfl h with rfl | ⟨d, rfl⟩ | ⟨id, rfl⟩
    · exact Or.inl rfl
    · exact Or.inr ⟨rfl, rfl⟩
    · exact Or.inr ⟨rfl, rfl⟩
  | _ =>
    have hparts : isDecimalProperty (some p) = false ∧ isDeclaredObjectId (some p) = false := by
      simpa [hasStoredType] using huntyped
    simp only [coerceValue, hparts.1, hparts.2, Value.isText] at h
    split_ifs at h <;> first | exact Or.inl (Except.ok.inj h).symm | contradiction

/-- In the value of a property without properties inside it, the texts that are left are those that
were passed over. -/
theorem holdsText_coerceValue_iff (hnested : p.nestedSchema = none)
    (h : coerceValue (some p) strict v = .ok w) : HoldsText p w ↔ PassesOver p v := by
  rw [holdsText_iff_of_nestedSchema_eq_none hnested, passesOver_iff_of_nestedSchema_eq_none hnested]
  cases htyped : hasStoredType p with
  | true =>
    obtain ⟨htext, hlisted⟩ := readThrough_coerceValue htyped h
    constructor
    · rintro (⟨-, s, hset, hs⟩ | ⟨hkind, item, u, hitem, hmem, hholds⟩)
      · rcases hs with rfl | ⟨-, hmem⟩
        · exact absurd (htext s rfl) hset
        · obtain ⟨x, -, hread⟩ := Result.exists_of_forall₂ hlisted.flip hmem
          simp [Value.isText] at hread
      · obtain ⟨x, hx, hread⟩ := Result.exists_of_forall₂ hlisted.flip hmem
        obtain ⟨htext, hholds⟩ := (ReadAs.holdsText_iff hread).mp hholds
        exact ⟨hkind, item, x, hitem, hx, fun _ => htext, hholds⟩
    · rintro ⟨hkind, item, x, hitem, hmem, htext, hholds⟩
      obtain ⟨u, hu, hread⟩ := Result.exists_of_forall₂ hlisted hmem
      exact Or.inr ⟨hkind, item, u, hitem, hu,
        (ReadAs.holdsText_iff hread).mpr ⟨htext rfl, hholds⟩⟩
  | false =>
    have hlisted : w.listed = v.listed := by
      rcases coerceValue_untyped htyped h with rfl | ⟨hv, hw⟩
      · rfl
      · cases v <;> simp [Value.isText] at hv
        exact Value.listed_of_parts hw
    simp [hlisted]

end ModelStore.Coercion
