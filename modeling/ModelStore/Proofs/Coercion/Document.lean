import ModelStore.Proofs.Coercion.Value
import ModelStore.Proofs.Schema.Model
import ModelStore.Proofs.Table

/-!
Coercion of a document, place by place. Entries keep their keys and their order, and each is coerced
by itself, so what stands at the end of a path depends on the properties along it alone: a path
that leads through declared objects ends in a coerced value, any other in the value as it was.
-/
namespace ModelStore

def Value.at? : Value → List String → Option Value
  | v, [] => some v
  | .doc entries, key :: path => (Table.get? entries key).bind fun v => v.at? path
  | _, _ :: _ => none

theorem Value.eq_doc_of_at? {v w : Value} {path : List String} (h : v.at? path = some w)
    (hpath : path ≠ []) : ∃ entries, v = .doc entries := by
  cases path with
  | nil => exact absurd rfl hpath
  | cons key path => cases v <;> simp [Value.at?] at h ⊢

/-- Values that are set and hold no others: texts, numbers, truth values and identifiers. -/
def Value.isScalar : Value → Bool
  | .bool _ | .int _ | .float _ | .text _ | .decimal _ | .decimal128 _ | .objectId _ => true
  | _ => false

namespace Coercion

def coerceEntry (strict : Bool) (schema : Schema) (entry : String × Value) : Result Value :=
  match (Table.get? schema entry.1).bind Property.nestedSchema with
  | some nested => coerceMember strict (Table.get? schema entry.1) nested entry.2
  | none => coerceValue (Table.get? schema entry.1) strict entry.2

theorem coerceEntries_cons (strict : Bool) (schema : Schema) (key : String) (v : Value)
    (rest : Document) :
    coerceEntries strict schema ((key, v) :: rest) =
      coerceEntry strict schema (key, v) >>= fun w =>
        (fun tail => (key, w) :: tail) <$> coerceEntries strict schema rest := by
  rw [coerceEntries, coerceEntry]
  cases (Table.get? schema key).bind Property.nestedSchema <;> rfl

theorem coerceEntries_eq_ok {strict : Bool} {schema : Schema} {entries coerced : Document} :
    coerceEntries strict schema entries = .ok coerced ↔
      List.Forall₂ (fun entry after => coerceEntry strict schema entry = .ok after.2 ∧
        entry.1 = after.1) entries coerced := by
  induction entries generalizing coerced with
  | nil => cases coerced <;> simp [coerceEntries]
  | cons entry rest ih =>
    obtain ⟨key, v⟩ := entry
    rw [coerceEntries_cons, Result.bind_eq_ok, List.forall₂_cons_left_iff]
    constructor
    · intro hcoerced
      obtain ⟨w, hw, h⟩ := hcoerced
      obtain ⟨tail, htail, rfl⟩ := Result.map_eq_ok.mp h
      exact ⟨(key, w), tail, ⟨hw, rfl⟩, ih.mp htail, rfl⟩
    · intro hcoerced
      obtain ⟨⟨_, w⟩, tail, ⟨hw, rfl⟩, htail, rfl⟩ := hcoerced
      exact ⟨w, hw, Result.map_eq_ok.mpr ⟨tail, ih.mpr htail, rfl⟩⟩

/-- Entries before others that are coerced do not affect what becomes of those. -/
theorem coerceEntries_append {strict : Bool} {schema : Schema} {before coerced : Document}
    (h : coerceEntries strict schema before = .ok coerced) (rest : Document) :
    coerceEntries strict schema (before ++ rest) =
      (coerced ++ ·) <$> coerceEntries strict schema rest := by
  have hbefore := coerceEntries_eq_ok.mp h
  clear h
  induction hbefore with
  | nil => exact (id_map _).symm
  | @cons entry after before coerced hhead _ ih =>
    obtain ⟨key, v⟩ := entry
    obtain ⟨_, w⟩ := after
    obtain ⟨hw, rfl⟩ := hhead
    rw [List.cons_append, coerceEntries_cons, hw, ih]
    cases coerceEntries strict schema rest <;> rfl

theorem coerceEntries_singleton (strict : Bool) (schema : Schema) (key : String) (v : Value) :
    coerceEntries strict schema [(key, v)] =
      (fun w => [(key, w)]) <$> coerceEntry strict schema (key, v) := by
  rw [coerceEntries_cons]
  cases coerceEntry strict schema (key, v) <;> rfl

theorem keys_coerceEntries {strict : Bool} {schema : Schema} {entries coerced : Document}
    (h : coerceEntries strict schema entries = .ok coerced) :
    Table.keys coerced = Table.keys entries := by
  have hkeys :
      List.Forall₂ (fun entry after : String × Value => entry.1 = after.1) entries coerced :=
    (coerceEntries_eq_ok.mp h).imp fun _ _ hentry => hentry.2
  clear h
  induction hkeys with
  | nil => rfl
  | cons hhead _ ih => exact congrArg₂ List.cons hhead.symm ih

/-- A key that is looked up leads to the coerced value of its entry. -/
theorem get?_coerceEntries {strict : Bool} {schema : Schema} {entries coerced : Document}
    {key : String} {v : Value} (h : coerceEntries strict schema entries = .ok coerced)
    (hv : Table.get? entries key = some v) :
    ∃ w, coerceEntry strict schema (key, v) = .ok w ∧ Table.get? coerced key = some w := by
  have hentries := coerceEntries_eq_ok.mp h
  clear h
  induction hentries with
  | nil => simp at hv
  | @cons entry after rest tail hhead _ ih =>
    obtain ⟨k, u⟩ := entry
    obtain ⟨_, w⟩ := after
    obtain ⟨hw, rfl⟩ := hhead
    rw [Table.get?_cons] at hv ⊢
    by_cases hk : k = key
    · subst hk
      rw [if_pos rfl] at hv ⊢
      exact ⟨w, Option.some.inj hv ▸ hw, rfl⟩
    · rw [if_neg hk] at hv ⊢
      exact ih hv

theorem get?_of_coerceEntries {strict : Bool} {schema : Schema} {entries coerced : Document}
    {key : String} {w : Value}
    (h : coerceEntries strict schema entries = .ok coerced) (hw : Table.get? coerced key = some w) :
    ∃ v, Table.get? entries key = some v ∧ coerceEntry strict schema (key, v) = .ok w := by
  have hkey : key ∈ Table.keys coerced := List.mem_map_of_mem (Table.mem_of_get? hw)
  rw [keys_coerceEntries h] at hkey
  obtain ⟨v, hv⟩ := Table.exists_get? hkey
  obtain ⟨u, hu, hcoerced⟩ := get?_coerceEntries h hv
  obtain rfl : w = u := Option.some.inj (hw.symm.trans hcoerced)
  exact ⟨v, hv, hu⟩

theorem coerceItems_cons (strict : Bool) (nested : Schema) (v : Value) (rest : List Value) :
    coerceItems strict nested (v :: rest) =
      coerceNested strict nested v >>= fun w =>
        (fun tail => w :: tail) <$> coerceItems strict nested rest := rfl

/-- A list is walked element by element. -/
theorem coerceItems_eq_ok {strict : Bool} {nested : Schema} {items coerced : List Value} :
    coerceItems strict nested items = .ok coerced ↔
      List.Forall₂ (fun v w => coerceNested strict nested v = .ok w) items coerced := by
  induction items generalizing coerced with
  | nil => cases coerced <;> simp [coerceItems]
  | cons v rest ih =>
    rw [coerceItems_cons, Result.bind_eq_ok, List.forall₂_cons_left_iff]
    constructor
    · intro hcoerced
      obtain ⟨w, hw, h⟩ := hcoerced
      obtain ⟨tail, htail, rfl⟩ := Result.map_eq_ok.mp h
      exact ⟨w, tail, hw, ih.mp htail, rfl⟩
    · intro hcoerced
      obtain ⟨w, tail, hw, htail, rfl⟩ := hcoerced
      exact ⟨w, hw, Result.map_eq_ok.mpr ⟨tail, ih.mpr htail, rfl⟩⟩

/-- Elements before others that are coerced do not affect what becomes of those. -/
theorem coerceItems_append {strict : Bool} {nested : Schema} {before coerced : List Value}
    (h : coerceItems strict nested before = .ok coerced) (rest : List Value) :
    coerceItems strict nested (before ++ rest) =
      (coerced ++ ·) <$> coerceItems strict nested rest := by
  have hbefore := coerceItems_eq_ok.mp h
  clear h
  induction hbefore with
  | nil => exact (id_map _).symm
  | @cons v w before coerced hw _ ih =>
    rw [List.cons_append, coerceItems_cons, hw, ih]
    cases coerceItems strict nested rest <;> rfl

/-- A document that is coerced as a single value is left as it is, or refused. -/
theorem coerceValue_doc {definition : Option Property} {strict : Bool} {entries : Document}
    {w : Value} (h : coerceValue definition strict (.doc entries) = .ok w) : w = .doc entries := by
  unfold coerceValue at h
  dsimp only at h
  split_ifs at h with hset hdecimal hdeclared
  · exact (Except.ok.inj h).symm
  · exact (Except.ok.inj h).symm
  · have hdeclared : isDeclaredObjectId definition = true := by simpa [Value.isText] using hdeclared
    unfold coerceReference at h
    rw [if_pos hdeclared] at h
    exact (requireObjectId_eq_doc_iff h entries).mpr rfl
  · exact (Except.ok.inj h).symm

/-- A scalar is left as it is, or becomes a stored decimal or an identifier. -/
theorem coerceValue_scalar {definition : Option Property} {strict : Bool} {v w : Value}
    (hscalar : v.isScalar = true) (h : coerceValue definition strict v = .ok w) :
    w = v ∨ (∃ d, w = .decimal128 d) ∨ ∃ id, w = .objectId id := by
  unfold coerceValue at h
  dsimp only at h
  split_ifs at h
  · exact Or.inl (Except.ok.inj h).symm
  · cases v with
    | list => simp [Value.isScalar] at hscalar
    | tuple => simp [Value.isScalar] at hscalar
    | decimal d => exact Or.inr (Or.inl (storeDecimal_eq_ok h))
    | text s => exact Or.inr (Or.inl (readDecimal_eq_ok h))
    | _ => exact Or.inl (Except.ok.inj h).symm
  · unfold coerceReference at h
    split_ifs at h
    · cases v with
      | list => simp [Value.isScalar] at hscalar
      | tuple => simp [Value.isScalar] at hscalar
      | _ => exact Or.inr (Or.inr (requireObjectId_eq_ok h))
    · cases v with
      | text s =>
        rw [toObjectId] at h
        split_ifs at h
        · exact Or.inr (Or.inr (readObjectId_eq_ok h))
        · exact Or.inl (Except.ok.inj h).symm
      | _ => exact Or.inl (Except.ok.inj h).symm
    · exact Or.inl (Except.ok.inj h).symm
  · exact Or.inl (Except.ok.inj h).symm

theorem isScalar_coerceValue {definition : Option Property} {strict : Bool} {v w : Value}
    (hscalar : v.isScalar = true) (h : coerceValue definition strict v = .ok w) :
    w.isScalar = true := by
  rcases coerceValue_scalar hscalar h with rfl | ⟨d, rfl⟩ | ⟨id, rfl⟩
  · exact hscalar
  · rfl
  · rfl

/-- Coercion comes to the end of the path: every key before the last is declared with properties
of its own and is no array, and the last is not. -/
inductive Reaches : Schema → List String → Prop
  | leaf {schema : Schema} {key : String} :
      (Table.get? schema key).bind Property.nestedSchema = none → Reaches schema [key]
  | inner {schema nested : Schema} {key : String} {p : Property} {path : List String} :
      Table.get? schema key = some p → p.kind ≠ .array → p.nestedSchema = some nested →
      Reaches nested path → Reaches schema (key :: path)

theorem Reaches.ne_nil {schema : Schema} {path : List String} (h : Reaches schema path) :
    path ≠ [] := by
  cases h <;> simp

theorem coerceEntry_inner {strict : Bool} {schema nested : Schema} {key : String} {p : Property}
    {inner : Document} {w : Value} (hp : Table.get? schema key = some p) (hkind : p.kind ≠ .array)
    (hnested : p.nestedSchema = some nested)
    (h : coerceEntry strict schema (key, .doc inner) = .ok w) :
    ∃ coerced, coerceEntries strict nested inner = .ok coerced ∧ w = .doc coerced := by
  simp only [coerceEntry, hp, Option.bind_some, hnested, coerceMember, Option.any_some,
    decide_eq_true_eq, if_neg hkind] at h
  obtain ⟨coerced, hcoerced, h⟩ := Result.bind_eq_ok.mp h
  exact ⟨coerced, hcoerced, (Except.ok.inj h).symm⟩

/-- Inside a property everything is walked alike, except a document where a list is declared. -/
theorem coerceMember_eq_coerceNested {strict : Bool} {definition : Option Property}
    {nested : Schema} {v : Value}
    (h : definition.any (·.kind = .array) = true → ∀ entries, v ≠ .doc entries) :
    coerceMember strict definition nested v = coerceNested strict nested v := by
  cases v with
  | doc entries =>
    rw [coerceMember, if_neg fun hkind => h hkind entries rfl]
    rfl
  | _ => rfl

theorem coerceMember_scalar {strict : Bool} {definition : Option Property} {nested : Schema}
    {v : Value} (h : v.isScalar = true) : coerceMember strict definition nested v = .ok v := by
  cases v with
  | list => simp [Value.isScalar] at h
  | doc => simp [Value.isScalar] at h
  | _ => rfl

/-- The value at the end of a path that coercion reaches is coerced by the property there. -/
theorem at?_of_reaches {strict : Bool} {schema : Schema} {path : List String} {v : Value}
    (hreaches : Reaches schema path) {entries coerced : Document}
    (h : coerceEntries strict schema entries = .ok coerced)
    (hv : (Value.doc entries).at? path = some v) :
    ∃ w, coerceValue (Model.follow none (some schema) path) strict v = .ok w ∧
      (Value.doc coerced).at? path = some w := by
  induction hreaches generalizing entries coerced with
  | @leaf schema key hnested =>
    obtain ⟨u, hu, hv⟩ := Option.bind_eq_some_iff.mp hv
    obtain rfl : u = v := Option.some.inj hv
    obtain ⟨w, hw, hcoerced⟩ := get?_coerceEntries h hu
    simp only [coerceEntry, hnested] at hw
    exact ⟨w, by rw [Model.follow_singleton, hw], by rw [Value.at?, hcoerced]; rfl⟩
  | @inner schema nested key p path hp hkind hnested hrest ih =>
    obtain ⟨u, hu, hv⟩ := Option.bind_eq_some_iff.mp hv
    obtain ⟨inner, rfl⟩ := Value.eq_doc_of_at? hv hrest.ne_nil
    obtain ⟨after, hafter, hcoerced⟩ := get?_coerceEntries h hu
    obtain ⟨innerCoerced, hinner, rfl⟩ := coerceEntry_inner hp hkind hnested hafter
    obtain ⟨w, hw, hat⟩ := ih hinner hv
    have hfollow := Model.follow_inner hp hkind hnested hrest.ne_nil
    exact ⟨w, by rw [hfollow, hw], by rw [Value.at?, hcoerced]; exact hat⟩

/-- The value at the end of any other path is left as it is. -/
theorem at?_of_not_reaches {strict : Bool} {schema : Schema} {path : List String} {v : Value}
    (hreaches : ¬ Reaches schema path) {entries coerced : Document}
    (h : coerceEntries strict schema entries = .ok coerced)
    (hv : (Value.doc entries).at? path = some v) (hscalar : v.isScalar = true) :
    (Value.doc coerced).at? path = some v := by
  induction path generalizing schema entries coerced with
  | nil =>
    obtain rfl : Value.doc entries = v := Option.some.inj hv
    simp [Value.isScalar] at hscalar
  | cons key path ih =>
    obtain ⟨u, hu, hv⟩ := Option.bind_eq_some_iff.mp hv
    obtain ⟨after, hafter, hcoerced⟩ := get?_coerceEntries h hu
    -- It is enough that the entry on the path is left alone, or coerced inside.
    suffices hat : after.at? path = some v by
      rw [Value.at?, hcoerced]
      exact hat
    cases path with
    | nil =>
      obtain rfl : u = v := Option.some.inj hv
      cases hnested : (Table.get? schema key).bind Property.nestedSchema with
      | none => exact absurd (Reaches.leaf hnested) hreaches
      | some nested =>
        simp only [coerceEntry, hnested] at hafter
        rw [coerceMember_scalar hscalar] at hafter
        exact congrArg some (Except.ok.inj hafter).symm
    | cons next path =>
      obtain ⟨inner, rfl⟩ := Value.eq_doc_of_at? hv (List.cons_ne_nil next path)
      cases hnested : (Table.get? schema key).bind Property.nestedSchema with
      | none =>
        simp only [coerceEntry, hnested] at hafter
        rw [coerceValue_doc hafter]
        exact hv
      | some nested =>
        obtain ⟨p, hp, hproperty⟩ := Option.bind_eq_some_iff.mp hnested
        by_cases hkind : p.kind = .array
        · simp only [coerceEntry, hp, Option.bind_some, hproperty, coerceMember, Option.any_some,
            decide_eq_true_eq, if_pos hkind] at hafter
          rw [← Except.ok.inj hafter]
          exact hv
        · obtain ⟨innerCoerced, hinner, rfl⟩ := coerceEntry_inner hp hkind hproperty hafter
          have hrest : ¬ Reaches nested (next :: path) := by
            intro hrest
            exact hreaches (.inner hp hkind hproperty hrest)
          exact ih hrest hinner hv

end Coercion

end ModelStore
