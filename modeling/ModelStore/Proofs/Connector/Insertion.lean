import ModelStore.Proofs.Connector.Issued

/-!
Insertions. An insertion calls the database once, with the stored form of its data; observers who
are registered before the call can change the document that is inserted, and nobody else can.
-/
namespace ModelStore.Connector

open Act Coercion

variable {c : Connector} {model : Model} {name data options : Value} {given stored : Document}

/-- How an inserted document is made: data without the identifier is coerced and stored, and the
identifier is written last. -/
theorem insertionOf_eq_ok (h : c.insertionOf model (.doc given) options = .ok stored) :
    ∃ strict coerced document, c.isStrict model options = .ok strict ∧
      coerceEntries strict model.properties (Table.erase given model.idName) = .ok coerced ∧
      Storage.store model coerced = .ok document ∧
      (stored = document ∨ ∃ id, stored = Table.insert document idField id) := by
  obtain ⟨document, hdocument, h⟩ := Result.bind_eq_ok.mp h
  obtain ⟨payload, hpayload, hdocument⟩ := Result.bind_eq_ok.mp hdocument
  obtain rfl : Table.erase given model.idName = payload := Except.ok.inj hpayload
  obtain ⟨strict, hstrict, hdocument⟩ := Result.bind_eq_ok.mp hdocument
  obtain ⟨coerced, hcoerced, hdocument⟩ := Result.bind_eq_ok.mp hdocument
  refine ⟨strict, coerced, document, hstrict, hcoerced, hdocument, ?_⟩
  obtain ⟨id, hid, h⟩ := Result.bind_eq_ok.mp h
  split at h
  · exact Or.inl (Except.ok.inj h).symm
  · obtain ⟨coercedId, -, h⟩ := Result.bind_eq_ok.mp h
    exact Or.inr ⟨coercedId, (Except.ok.inj h).symm⟩

/-- The event, if it is a call, inserts the stored form of the data, as those who were registered
hand it on. -/
def Inserts (c : Connector) (name data options : Value) (registered : List Observer) (e : Event) :
    Prop :=
  e.isCall = true → ∃ model stored collection session, c.models.find name = .ok model ∧
    c.insertionOf model data options = .ok stored ∧
      c.observing.HandsOn registered
        (.native collection "insert_one" [.doc stored] session) e

/-- An insertion makes no other call. -/
theorem inserts_create (c : Connector) (name data options : Value) (s : Datasource) :
    s.Extends (Inserts c name data options s.watching)
      (outcome (c.create name data options) s).2 := by
  have hissues : Issues
      (fun sending => ∃ model stored session, c.models.find name = .ok model ∧
        c.insertionOf model data options = .ok stored ∧
        sending = { command := "insert_one", arguments := [.doc stored], keywords := session })
      name c.observing (c.create name data options) s := by
    refine comesTo_create.issues (fun sending h => ?_) s
    obtain ⟨model, hmodel, h⟩ := Result.bind_eq_ok.mp h
    obtain ⟨stored, hstored, h⟩ := Result.bind_eq_ok.mp h
    obtain ⟨session, -, h⟩ := Result.bind_eq_ok.mp h
    exact ⟨model, stored, session, hmodel, hstored, (Except.ok.inj h).symm⟩
  refine hissues.mono fun e he hcall => ?_
  obtain ⟨sending, collection, ⟨model, stored, session, hmodel, hstored, rfl⟩, hhanded⟩ := he hcall
  exact ⟨model, stored, collection, session, hmodel, hstored, hhanded⟩

/-- An insertion is only answered if its data can be stored. -/
theorem exists_insertionOf {v : Value} {s : Datasource}
    (h : (outcome (c.create name data options) s).1 = .ok v) :
    ∃ model stored, c.models.find name = .ok model ∧
      c.insertionOf model data options = .ok stored := by
  have hcreate : ComesTo c name _ (c.create name data options) := comesTo_create
  cases hmodel : c.models.find name with
  | error f =>
    rw [hmodel] at hcreate
    rw [hcreate s] at h
    cases h
  | ok model =>
    cases hstored : c.insertionOf model data options with
    | error f =>
      rw [hmodel] at hcreate
      simp only [bind, Except.bind, hstored] at hcreate
      rw [hcreate s] at h
      cases h
    | ok stored => exact ⟨model, stored, rfl, hstored⟩

end ModelStore.Connector
