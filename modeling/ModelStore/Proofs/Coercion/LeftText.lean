import ModelStore.Proofs.Coercion.StoredType

/-!
Texts that are left in a document. Documents and lists are walked as far as the schema has properties
inside properties, and the texts that are left at the end are exactly those that were passed over on
the way.
-/
namespace ModelStore.Coercion

variable {p item : Property} {strict : Bool} {v w : Value}

/-- An entry of a declared property holds a text after coercion. -/
def LeavesText (schema : Schema) (entries : Document) : Prop :=
  ∃ key p v, Table.get? schema key = some p ∧ Table.get? entries key = some v ∧ HoldsText p v

/-- An entry of a declared property has a text that coercion passes over. -/
def PassesOverText (schema : Schema) (entries : Document) : Prop :=
  ∃ key p v, Table.get? schema key = some p ∧ Table.get? entries key = some v ∧ PassesOver p v

theorem leavesText_iff_of_entries {schema : Schema} {entries coerced : Document}
    (h : coerceEntries strict schema entries = .ok coerced)
    (hentries : ∀ key p v w, Table.get? schema key = some p → Table.get? entries key = some v →
      coerceEntry strict schema (key, v) = .ok w → (HoldsText p w ↔ PassesOver p v)) :
    LeavesText schema coerced ↔ PassesOverText schema entries := by
  constructor
  · rintro ⟨key, p, w, hp, hw, hholds⟩
    obtain ⟨v, hv, hcoerced⟩ := get?_of_coerceEntries h hw
    exact ⟨key, p, v, hp, hv, (hentries key p v w hp hv hcoerced).mp hholds⟩
  · rintro ⟨key, p, v, hp, hv, hpasses⟩
    obtain ⟨w, hcoerced, hw⟩ := get?_coerceEntries h hv
    exact ⟨key, p, w, hp, hw, (hentries key p v w hp hv hcoerced).mpr hpasses⟩

theorem holdsText_doc_iff {schema : Schema} {entries : Document} (hkind : p.kind = .object)
    (hproperties : p.properties = some schema) :
    HoldsText p (.doc entries) ↔ LeavesText schema entries := by
  constructor
  · intro h
    cases h with
    | entry _ hschema hq hv hholds =>
      obtain rfl := Option.some.inj (hproperties.symm.trans hschema)
      exact ⟨_, _, _, hq, hv, hholds⟩
    | typed harray => simp [hkind] at harray
    | element harray => simp [hkind] at harray
  · rintro ⟨key, q, v, hq, hv, hholds⟩
    exact .entry hkind hproperties hq hv hholds

theorem passesOver_doc_iff {schema : Schema} {entries : Document} (hkind : p.kind = .object)
    (hproperties : p.properties = some schema) :
    PassesOver p (.doc entries) ↔ PassesOverText schema entries := by
  constructor
  · intro h
    cases h with
    | entry _ hschema hq hv hpasses =>
      obtain rfl := Option.some.inj (hproperties.symm.trans hschema)
      exact ⟨_, _, _, hq, hv, hpasses⟩
    | beneath harray => simp [hkind] at harray
  · rintro ⟨key, q, v, hq, hv, hpasses⟩
    exact .entry hkind hproperties hq hv hpasses

theorem not_holdsText_doc_of_array {entries : Document} (hkind : p.kind = .array) :
    ¬ HoldsText p (.doc entries) := by
  intro h
  cases h with
  | entry hobject => simp [hkind] at hobject
  | typed _ _ hmem => simp [Value.listed] at hmem
  | element _ _ hmem => simp [Value.listed] at hmem

theorem holdsText_list_iff {items : List Value} (hkind : p.kind = .array)
    (hitem : p.items = some item) :
    HoldsText p (.list items) ↔ (hasStoredType p = true ∧ ∃ s, s ≠ "" ∧ .text s ∈ items) ∨
      ∃ v ∈ items, HoldsText item v := by
  constructor
  · intro h
    cases h with
    | typed _ htyped hmem hset => exact Or.inl ⟨htyped, _, hset, hmem⟩
    | element _ hitem' hmem hholds =>
      obtain rfl := Option.some.inj (hitem.symm.trans hitem')
      exact Or.inr ⟨_, hmem, hholds⟩
  · rintro (⟨htyped, s, hset, hmem⟩ | ⟨v, hmem, hholds⟩)
    · exact .typed hkind htyped hmem hset
    · exact .element hkind hitem hmem hholds

theorem passesOver_list_iff {items : List Value} (hkind : p.kind = .array)
    (hnested : p.nestedSchema.isSome = true) (hitem : p.items = some item) :
    PassesOver p (.list items) ↔ (hasStoredType p = true ∧ ∃ s, s ≠ "" ∧ .text s ∈ items) ∨
      ∃ v ∈ items, PassesOver item v := by
  constructor
  · intro h
    cases h with
    | typed _ _ htyped hmem hset => exact Or.inl ⟨htyped, _, hset, hmem⟩
    | element _ _ hitem' hmem hpasses =>
      obtain rfl := Option.some.inj (hitem.symm.trans hitem')
      exact Or.inr ⟨_, hmem, hpasses⟩
    | beneath _ hnone => simp [hnone] at hnested
  · rintro (⟨htyped, s, hset, hmem⟩ | ⟨v, hmem, hpasses⟩)
    · exact .typed hkind hnested htyped hmem hset
    · exact .element hkind hnested hitem hmem hpasses

theorem coerceNested_eq_text {nested : Schema} {s : String}
    (h : coerceNested strict nested v = .ok w) : w = .text s ↔ v = .text s := by
  cases v with
  | doc entries =>
    obtain ⟨coerced, -, h⟩ := Result.bind_eq_ok.mp h
    simp [← Except.ok.inj h]
  | list items =>
    obtain ⟨coerced, -, h⟩ := Result.bind_eq_ok.mp h
    simp [← Except.ok.inj h]
  | _ => rw [← Except.ok.inj h]

/-- What is neither a document nor a list is not walked. -/
theorem holdsText_iff_of_not_walked (hnested : p.nestedSchema.isSome = true)
    (hdoc : ∀ entries, v ≠ .doc entries) (hlist : ∀ items, v ≠ .list items) :
    HoldsText p v ↔ PassesOver p v := by
  constructor
  · intro h
    have htuple : ∀ {u : Value}, u ∈ v.listed → ∃ items, v = .tuple items := by
      intro u hu
      cases v with
      | list items => exact absurd rfl (hlist items)
      | tuple items => exact ⟨items, rfl⟩
      | _ => simp [Value.listed] at hu
    cases h with
    | here htyped hset => exact .here hnested htyped hset
    | entry => exact absurd rfl (hdoc _)
    | typed hkind htyped hmem hset =>
      obtain ⟨items, rfl⟩ := htuple hmem
      exact .tuple hkind hnested (.typed hkind htyped hmem hset)
    | element hkind hitem hmem hholds =>
      obtain ⟨items, rfl⟩ := htuple hmem
      exact .tuple hkind hnested (.element hkind hitem hmem hholds)
  · exact PassesOver.holdsText

/-- The elements of a list are in no place of an object. -/
theorem holdsText_list_iff_of_object {items items' : List Value} (hkind : p.kind = .object) :
    HoldsText p (.list items) ↔ PassesOver p (.list items') := by
  have hnone : ∀ items, ¬ HoldsText p (.list items) := by
    intro items h
    cases h with
    | typed harray => simp [hkind] at harray
    | element harray => simp [hkind] at harray
  constructor
  · intro h
    exact absurd h (hnone items)
  · intro h
    exact absurd h.holdsText (hnone items')

/-- An array is not walked into a document. -/
theorem holdsText_doc_iff_of_array {entries entries' : Document} (hkind : p.kind = .array) :
    HoldsText p (.doc entries) ↔ PassesOver p (.doc entries') := by
  constructor
  · intro h
    exact absurd h (not_holdsText_doc_of_array hkind)
  · intro h
    exact absurd h.holdsText (not_holdsText_doc_of_array hkind)

theorem holdsText_coerceEntry_iff {schema : Schema} {key : String}
    (hp : Table.get? schema key = some p) (h : coerceEntry strict schema (key, v) = .ok w)
    (hwalked : ∀ nested, p.nestedSchema = some nested → coerceNested strict nested v = .ok w →
      (HoldsText p w ↔ PassesOver p v)) : HoldsText p w ↔ PassesOver p v := by
  simp only [coerceEntry, hp, Option.bind_some] at h
  cases hnested : p.nestedSchema with
  | none =>
    rw [hnested] at h
    exact holdsText_coerceValue_iff hnested h
  | some nested =>
    rw [hnested] at h
    cases v with
    | doc entries =>
      by_cases hkind : p.kind = .array
      · obtain rfl : Value.doc entries = w := by
          simpa [coerceMember, hkind] using h
        exact holdsText_doc_iff_of_array hkind
      · refine hwalked nested hnested ?_
        simpa [coerceMember, coerceNested, hkind] using h
    | _ => exact hwalked nested hnested h

/-- In a value that is walked, the texts that are left are those that were passed over. -/
theorem holdsText_coerceNested_iff {nested : Schema} (hnested : p.nestedSchema = some nested)
    (h : coerceNested strict nested v = .ok w) : HoldsText p w ↔ PassesOver p v := by
  induction v using Value.partsInduction generalizing p nested w with
  | step v ih =>
    have hsome : p.nestedSchema.isSome = true := by rw [hnested]; rfl
    cases v with
    | doc entries =>
      obtain ⟨coerced, hcoerced, h⟩ := Result.bind_eq_ok.mp h
      obtain rfl := Except.ok.inj h
      rcases Property.nestedSchema_cases hnested with ⟨hkind, hproperties⟩ | ⟨hkind, -⟩
      · rw [holdsText_doc_iff hkind hproperties, passesOver_doc_iff hkind hproperties]
        apply leavesText_iff_of_entries hcoerced
        intro key q u w hq hu hw
        have hpart : u ∈ (Value.doc entries).parts :=
          List.mem_map_of_mem (f := Prod.snd) (Table.mem_of_get? hu)
        exact holdsText_coerceEntry_iff hq hw fun nested hnested => ih u hpart hnested
      · exact holdsText_doc_iff_of_array hkind
    | list items =>
      obtain ⟨coerced, hcoerced, h⟩ := Result.bind_eq_ok.mp h
      obtain rfl := Except.ok.inj h
      rcases Property.nestedSchema_cases hnested with ⟨hkind, -⟩ | ⟨hkind, item, hitem, hinner⟩
      · exact holdsText_list_iff_of_object hkind
      · have hitems := coerceItems_eq_ok.mp hcoerced
        have htexts : ∀ s, .text s ∈ coerced ↔ .text s ∈ items := by
          intro s
          have hsame := Result.exists_mem_iff hitems fun x _ u hu => coerceNested_eq_text (s := s) hu
          simpa using hsame
        have hinside : (∃ u ∈ coerced, HoldsText item u) ↔ ∃ x ∈ items, PassesOver item x :=
          Result.exists_mem_iff hitems fun x hx u hu => ih x hx hinner hu
        simp only [holdsText_list_iff hkind hitem, passesOver_list_iff hkind hsome hitem, htexts,
          hinside]
    | _ =>
      obtain rfl := Except.ok.inj h
      exact holdsText_iff_of_not_walked hsome (by simp) (by simp)

/-- Whatever is coerced, no text is left where a decimal or an identifier is declared if and only if
none stands there where coercion does not come. -/
theorem leavesNoText_iff {schema : Schema} {entries coerced : Document}
    (h : coerceDocument strict schema (.doc entries) = .ok (.doc coerced)) :
    ¬ LeavesText schema coerced ↔ ¬ PassesOverText schema entries := by
  obtain ⟨walked, hwalked, h⟩ := Result.bind_eq_ok.mp h
  obtain rfl := Value.doc.inj (Except.ok.inj h)
  rw [leavesText_iff_of_entries hwalked]
  intro key p v w hp _ hcoerced
  exact holdsText_coerceEntry_iff hp hcoerced fun nested => holdsText_coerceNested_iff

def orders : Schema :=
  [("lines", .arrayOf "lines" (some (.objectOf "lines" "object"
    [("price", .node { name := "price", typeName := "string", dataType := .text "Decimal128" }
      none none),
     ("authors", .arrayOf "authors" (some (.plain "authors" .reference "objectid")))])))]

def order : Document :=
  [("lines", .list [.doc [("price", .text "0.00"),
    ("authors", .tuple [.text "0123456789abcdef01234567"])]])]

def storedLine : Document :=
  [("price", .decimal128 (.zero false (-2))),
   ("authors", .list [.objectId (.ofNumber 0x0123456789abcdef01234567)])]

def storedOrder : Document := [("lines", .list [.doc storedLine])]

theorem leavesNoText_iff_order :
    coerceDocument true orders (.doc order) = .ok (.doc storedOrder) ∧
    ¬ PassesOverText orders order := by
  have hcoerced : coerceDocument true orders (.doc order) = .ok (.doc storedOrder) := rfl
  refine ⟨hcoerced, (leavesNoText_iff hcoerced).mp ?_⟩
  rintro ⟨key, p, v, hp, hv, hholds⟩
  obtain ⟨rfl, rfl⟩ : "lines" = key ∧ Value.list [.doc storedLine] = v := by
    simpa [storedOrder, Table.get?] using hv
  obtain rfl := Option.some.inj hp
  obtain ⟨htyped, -⟩ | ⟨line, hline, hholds⟩ := (holdsText_list_iff rfl rfl).mp hholds
  · cases htyped
  obtain rfl := List.mem_singleton.mp hline
  obtain ⟨key, q, v, hq, hv, hholds⟩ := (holdsText_doc_iff rfl rfl).mp hholds
  have hkey : (key = "price" ∧ v = .decimal128 (.zero false (-2))) ∨ (key = "authors" ∧
      v = .list [.objectId (.ofNumber 0x0123456789abcdef01234567)]) := by
    simpa [storedLine] using Table.mem_of_get? hv
  rcases hkey with ⟨rfl, rfl⟩ | ⟨rfl, rfl⟩
  · exact not_holdsText rfl rfl hholds
  · obtain rfl := Option.some.inj hq
    obtain ⟨htyped, s, -, hmem⟩ | ⟨id, hid, hholds⟩ := (holdsText_list_iff rfl rfl).mp hholds
    · simp at hmem
    · rw [List.mem_singleton.mp hid] at hholds
      exact not_holdsText rfl rfl hholds

def prices : Schema :=
  [("prices", .arrayOf "prices" (some (.node
    { name := "prices", typeName := "string", dataType := .text "decimal128" } none none)))]

/-- Prices are passed over, and stay texts. -/
theorem leavesText_of_typed_elements :
    ¬ ∀ (strict : Bool) (schema : Schema) (entries coerced : Document),
      coerceDocument strict schema (.doc entries) = .ok (.doc coerced) →
        ¬ LeavesText schema coerced := by
  intro hnone
  have hleft : LeavesText prices [("prices", .list [.text "1.5"])] :=
    ⟨"prices", _, _, rfl, rfl, .element rfl rfl List.mem_cons_self (.here rfl (by decide))⟩
  exact hnone false prices [("prices", .list [.text "1.5"])] _ rfl hleft

end ModelStore.Coercion
