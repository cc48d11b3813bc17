import ModelStore.Connector.Basic
import ModelStore.Proofs.Storage.Loading

/-!
How a document is made of data. Every entry but the identifier is coerced and stored by itself, so
an identifier in the document comes from the last entry under the column of identifiers.
-/
namespace ModelStore.Connector

variable {c : Connector} {model : Model} {data options : Value}

def Becomes (model : Model) (strict : Bool) (entry after : String × Value) : Prop :=
  ∃ coerced, Coercion.coerceEntry strict model.properties entry = .ok coerced ∧
    Storage.Stores model (entry.1, coerced) after

/-- The identifier that data brings along besides the one that it names: what the last of its
other entries under the column of identifiers becomes. -/
def Brings (c : Connector) (model : Model) (data options w : Value) : Prop :=
  ∃ strict before entry later, c.isStrict model options = .ok strict ∧
    payload model data = .ok (before ++ entry :: later) ∧ Becomes model strict entry (idField, w) ∧
    ∀ other ∈ later, model.columnName other.1 ≠ .text idField

theorem Becomes.unique {strict : Bool} {entry after other : String × Value}
    (h : Becomes model strict entry after) (h' : Becomes model strict entry other) :
    after = other := by
  obtain ⟨coerced, hcoerced, hstored⟩ := h
  obtain ⟨coerced', hcoerced', hstored'⟩ := h'
  obtain rfl := Except.ok.inj (hcoerced.symm.trans hcoerced')
  exact hstored.unique hstored'

theorem Becomes.columnName_eq {strict : Bool} {entry after : String × Value}
    (h : Becomes model strict entry after) : model.columnName entry.1 = .text after.1 := by
  obtain ⟨coerced, -, hstored⟩ := h
  exact hstored.2

theorem forall₂_becomes {strict : Bool} {entries coerced written : Document}
    (hcoerced : List.Forall₂ (fun entry after =>
      Coercion.coerceEntry strict model.properties entry = .ok after.2 ∧ entry.1 = after.1)
      entries coerced)
    (hwritten : List.Forall₂ (Storage.Stores model) coerced written) :
    List.Forall₂ (Becomes model strict) entries written := by
  induction hcoerced generalizing written with
  | nil =>
    obtain rfl := List.forall₂_nil_left_iff.mp hwritten
    exact .nil
  | @cons entry coerced _ _ hentry _ ih =>
    obtain ⟨after, rest, hafter, hrest, rfl⟩ := List.forall₂_cons_left_iff.mp hwritten
    refine .cons ⟨coerced.2, hentry.1, ?_⟩ (ih hrest)
    rw [hentry.2]
    exact hafter

/-- A document is made entry by entry. -/
theorem documentOf_eq_ok {document : Document} (h : c.documentOf model data options = .ok document) :
    ∃ entries strict written, payload model data = .ok entries ∧
      c.isStrict model options = .ok strict ∧
      List.Forall₂ (Becomes model strict) entries written ∧ document = Table.ofList written := by
  obtain ⟨entries, hentries, h⟩ := Result.bind_eq_ok.mp h
  obtain ⟨strict, hstrict, h⟩ := Result.bind_eq_ok.mp h
  obtain ⟨coerced, hcoerced, h⟩ := Result.bind_eq_ok.mp h
  obtain ⟨written, hwritten, rfl⟩ := Storage.storeInto_eq_ok.mp h
  exact ⟨entries, strict, written, hentries, hstrict,
    forall₂_becomes (Coercion.coerceEntries_eq_ok.mp hcoerced) hwritten, rfl⟩

/-- The identifier in a document is the one that data brings along. -/
theorem get?_documentOf_iff {document : Document}
    (h : c.documentOf model data options = .ok document) (w : Value) :
    Table.get? document idField = some w ↔ c.Brings model data options w := by
  obtain ⟨entries, strict, written, hentries, hstrict, hwritten, rfl⟩ := documentOf_eq_ok h
  have hmem : (idField, w) ∈ Table.ofList written ↔
      ∃ entry, Table.IsLast (fun entry => model.columnName entry.1) entries entry ∧
        Becomes model strict entry (idField, w) :=
    Table.mem_ofList_iff_isLast (fun _ _ htext => Value.text.inj htext)
      (fun _ _ hbecomes => hbecomes.columnName_eq) (fun _ _ _ hbecomes => hbecomes.unique) hwritten
  rw [Table.get?_eq_some_iff_mem (Table.nodup_keys_ofList written), hmem]
  constructor
  · rintro ⟨entry, ⟨before, later, rfl, hlast⟩, hentry⟩
    exact ⟨strict, before, entry, later, hstrict, hentries, hentry, hentry.columnName_eq ▸ hlast⟩
  · intro hbrings
    obtain ⟨strict', before, entry, later, hstrict', hentries', hentry, hlast⟩ := hbrings
    obtain rfl := Except.ok.inj (hstrict.symm.trans hstrict')
    obtain rfl := Except.ok.inj (hentries.symm.trans hentries')
    rw [← hentry.columnName_eq] at hlast
    exact ⟨entry, ⟨before, later, rfl, hlast⟩, hentry⟩

/-- The document is empty if data has nothing besides the identifier that it names. -/
theorem documentOf_eq_nil_iff {document : Document}
    (h : c.documentOf model data options = .ok document) :
    document = [] ↔ payload model data = .ok [] := by
  obtain ⟨entries, strict, written, hentries, -, hwritten, rfl⟩ := documentOf_eq_ok h
  rw [Table.ofList_eq_nil_iff, Result.eq_nil_iff_of_forall₂ hwritten, hentries, Except.ok.injEq]

end ModelStore.Connector
