import ModelStore.Projection
import ModelStore.Proofs.Result
import ModelStore.Sort

/-!
Paths in orders and projections. A path is read for its storage field alone: what is made of an item
or of a request with one path is made of the field, and fails as the field does.
-/
namespace ModelStore

variable {model : Model} {path : String} {item : Value} {sign : Int}

/-- The item of an order names the path with the sign of a direction, in a pair or in words. -/
inductive Sort.Names (path : String) : Value → Int → Prop
  | pair (direction : Value) (more : List Value) :
      Names path (.tuple (.text path :: direction :: more)) (readDirection direction)
  | words {item : Value} {sign : Int} : (∀ items, item ≠ .tuple items) →
      Text.trim item.plain.toList ≠ [] →
      readItem (Text.trim item.plain.toList) = (path, sign) → Names path item sign

theorem Sort.ofItem_eq (h : Names path item sign) :
    ofItem model item = (fun field => some (field, sign)) <$> model.fieldName path := by
  cases h with
  | pair direction more =>
    rw [ofItem]
    change (model.fieldName path >>= _) = _
    cases model.fieldName path <;> rfl
  | words hsingle hset hread =>
    unfold ofItem
    split
    · exact absurd rfl (hsingle _)
    · exact absurd rfl (hsingle _)
    · split
      · rename_i hblank
        exact absurd hblank hset
      · rw [hread]
        dsimp only
        cases model.fieldName path <;> rfl

theorem Sort.build_eq {settings : Settings} {options order : Value}
    (hitems : items order = .ok [item]) (h : Names path item sign) :
    build model settings options order =
      (fun field => [(field, sign)]) <$> model.fieldName path := by
  have hwritten : written model order =
      (fun field => [(field, sign)]) <$> model.fieldName path := by
    rw [written, hitems]
    change (do .ok ((← [item].mapM (ofItem model)).filterMap id)) = _
    rw [List.mapM_cons, List.mapM_nil, ofItem_eq h]
    cases model.fieldName path <;> rfl
  rw [build, hwritten]
  cases model.fieldName path <;> rfl

theorem Projection.add_eq (projection : Document) (b : Bool) :
    add model projection (.text path) b =
      (fun field => Table.insert projection field (wanted b)) <$> model.fieldName path := by
  rw [add, Value.path]
  change (model.fieldName path >>= _) = _
  cases model.fieldName path <;> rfl

theorem Projection.build_list_eq :
    build model (.list [.text path]) =
      (fun field => some [(field, wanted true)]) <$> model.fieldName path := by
  have hset : (Value.list [.text path]).truthy = true := rfl
  simp only [build, hset, List.foldlM_cons, List.foldlM_nil, add_eq]
  cases model.fieldName path <;> rfl

theorem Projection.build_table_eq (v : Value) :
    build model (.doc [(path, v)]) =
      (fun field => some [(field, wanted v.truthy)]) <$> model.fieldName path := by
  have hbuild : build model (.doc [(path, v)]) = (do
      .ok (some (← [(path, v)].foldlM
        (fun projection entry => add model projection (.text entry.1) entry.2.truthy) []))) := rfl
  simp only [hbuild, List.foldlM_cons, List.foldlM_nil, add_eq]
  cases model.fieldName path <;> rfl

end ModelStore
