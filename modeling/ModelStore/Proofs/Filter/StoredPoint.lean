import ModelStore.Connector.Basic
import ModelStore.Proofs.Coercion.Kept
import ModelStore.Proofs.Filter.Conditions
import ModelStore.Proofs.Storage.Loading
import ModelStore.Proofs.Update.Operand

/-!
Points asked for and points stored. Storing a point converts it, a condition on its property does
not. So a filter asks for what is stored only if it is given that already.
-/
namespace ModelStore.Filter

open Coercion Storage

variable {model : Model} {settings : Settings} {options v stored : Value} {key column : String}
  {target : Target} {definition : Option Property}

/-- The value is asked for as it is stored: null, if the condition on null is null, or a document
that is marked as a stored point, if the property does not refuse it. -/
inductive AskedAsStored (nullAsAbsent : Bool) (definition : Option Property) : Value → Prop
  | null : nullAsAbsent = true → AskedAsStored nullAsAbsent definition .null
  | marked {v : Value} : IsMarked v → takesOnlyIds definition = false →
      AskedAsStored nullAsAbsent definition v

theorem nullCondition_eq_null_iff {nullAsAbsent : Bool} :
    nullCondition nullAsAbsent = .null ↔ nullAsAbsent = true := by
  cases nullAsAbsent <;> simp [nullCondition]

/-- Null apart, what a point is stored as is marked as a stored point. -/
theorem isMarked_of_storePoint (hnull : v ≠ .null) (h : storePoint v = .ok stored) :
    IsMarked stored := by
  by_cases hmarked : IsMarked v
  · obtain ⟨point, rfl, hgeo⟩ := hmarked
    rw [storePoint, if_pos hgeo] at h
    exact ⟨point, (Except.ok.inj h).symm, hgeo⟩
  · rw [storePoint_eq hnull hmarked] at h
    obtain ⟨coordinates, -, h⟩ := Result.bind_eq_ok.mp h
    exact ⟨_, (Except.ok.inj h).symm, rfl⟩

theorem nativeOf_value (hnull : v ≠ .null) (hvalue : specOf definition v = none) :
    nativeOf target definition v = coerceValue definition target.strict v := by
  have hset : ¬ v.isNull = true := by
    cases v with
    | null => exact absurd rfl hnull
    | _ => exact Bool.false_ne_true
  rw [nativeOf, hvalue]
  exact if_neg hset

/-- Coercion makes no documents, so the condition is the stored point only if the value is. -/
theorem nativeOf_eq_storePoint_iff (hstored : storePoint v = .ok stored)
    (hvalue : specOf definition v = none) :
    nativeOf target definition v = .ok stored ↔
      AskedAsStored target.nullAsAbsent definition v := by
  by_cases hnull : v = .null
  · subst hnull
    obtain rfl : Value.null = stored := Except.ok.inj hstored
    have hnative : nativeOf target definition .null = .ok (nullCondition target.nullAsAbsent) := rfl
    rw [hnative, Except.ok.injEq, nullCondition_eq_null_iff]
    constructor
    · exact .null
    · rintro (habsent | ⟨⟨_, hdoc, _⟩, _⟩)
      · exact habsent
      · cases hdoc
  · rw [nativeOf_value hnull hvalue]
    obtain ⟨point, rfl, hgeo⟩ := isMarked_of_storePoint hnull hstored
    have hmarked : point ≠ [] := by
      rintro rfl
      cases hgeo
    have hkept : coerceValue definition target.strict (.doc point) = .ok (.doc point) ↔
        takesOnlyIds definition = false :=
      coerceValue_eq_self_iff.trans (isKept_iff_of_foreign (isForeign_doc hmarked))
    constructor
    · intro h
      obtain rfl := eq_doc_of_coerceValue h
      exact .marked ⟨point, rfl, hgeo⟩ (hkept.mp h)
    · rintro (_ | ⟨⟨given, rfl, hgiven⟩, hids⟩)
      · exact absurd rfl hnull
      · rw [storePoint, if_pos hgiven] at hstored
        obtain rfl := Value.doc.inj (Except.ok.inj hstored)
        exact hkept.mpr hids

/-- The key reaches the column, and what is asked for under it is there as it is stored. -/
structure ReachesStored (model : Model) (settings : Settings) (key column : String) (v : Value) :
    Prop where
  kept : isForbidden key = false
  field : model.fieldName key = .ok column
  asked : ∃ definition, definitionOf model column key = .ok definition ∧
    AskedAsStored settings.nullAsAbsent definition v

theorem conditionOf_eq_storePoint_iff (hstored : storePoint v = .ok stored)
    (hvalue : ∀ definition, definitionOf target.model column key = .ok definition →
      specOf definition v = none) :
    conditionOf target (key, v) = .ok (column, stored) ↔
      target.model.fieldName key = .ok column ∧
        ∃ definition, definitionOf target.model column key = .ok definition ∧
          AskedAsStored target.nullAsAbsent definition v := by
  cases hbranches : branchesOf? (key, v) with
  | none =>
    simp only [conditionOf, hbranches, compileLeaf_eq_ok]
    refine and_congr_right fun _ => exists_congr fun definition => and_congr_right fun h => ?_
    exact nativeOf_eq_storePoint_iff hstored (hvalue definition h)
  | some branches =>
    -- A list of filters is compiled to a list, and a point is neither given nor stored as one.
    constructor
    · intro h
      rw [conditionOf_of_branches hbranches] at h
      obtain ⟨queries, -, h⟩ := Result.map_eq_ok.mp h
      have hlist : stored = .list queries := (Prod.mk.inj h).2.symm
      have hnull : v ≠ .null := by
        rintro rfl
        cases hbranches
      obtain ⟨point, hpoint, -⟩ := isMarked_of_storePoint hnull hstored
      cases hlist.symm.trans hpoint
    · rintro ⟨-, definition, -, habsent | ⟨⟨point, rfl, -⟩, -⟩⟩
      · cases hbranches
      · cases hbranches

/-- For any value that is stored as a point, the condition on the property is what is stored under
its column exactly if the key reaches that column and the value is given as it is stored. -/
theorem build_eq_store_iff {strict : Bool} (hstrict : isStrict model settings options = .ok strict)
    (hpoint : isPoint model key = true) (hstored : store model [(key, v)] = .ok [(column, stored)])
    (hvalue : ∀ definition, definitionOf model column key = .ok definition →
      specOf definition v = none) :
    build model settings options (.doc [(key, v)]) = .ok [(column, stored)] ↔
      ReachesStored model settings key column v := by
  have hpointStored : storePoint v = .ok stored := by
    obtain ⟨w, written, hw, hwritten, h⟩ := storeInto_cons_eq_ok.mp hstored
    obtain ⟨⟨-, rfl⟩, -⟩ := List.cons.inj (Except.ok.inj h)
    rwa [storeValue, if_pos hpoint] at hw
  rw [build_doc hstrict]
  constructor
  · intro h
    have hkept : isForbidden key = false := by
      by_contra hforbidden
      have hnil := (compile_eq_nil_iff h).mpr (by simpa using hforbidden)
      cases hnil
    obtain ⟨hfield, hasked⟩ :=
      (conditionOf_eq_storePoint_iff hpointStored hvalue).mp ((compile_singleton hkept).mp h)
    exact ⟨hkept, hfield, hasked⟩
  · rintro ⟨hkept, hfield, hasked⟩
    exact (compile_singleton hkept).mpr
      ((conditionOf_eq_storePoint_iff hpointStored hvalue).mpr ⟨hfield, hasked⟩)

def places : Model :=
  .ofSchema "Place"
    [("spot", .node { name := "spot", kind := .geopoint, fieldName := .text "at" } none none)] {}

def lampPost : Value := geoPoint [.int 2, .int 1]

theorem build_eq_store_iff_marked :
    (isStrict places {} .null = .ok false ∧ isPoint places "spot" = true ∧
      store places [("spot", lampPost)] = .ok [("at", lampPost)] ∧
      ∀ definition, definitionOf places "at" "spot" = .ok definition →
        specOf definition lampPost = none) ∧
    build places {} .null (.doc [("spot", lampPost)]) = .ok [("at", lampPost)] ∧
    ReachesStored places {} "spot" "at" lampPost := by
  have hvalue : ∀ definition, definitionOf places "at" "spot" = .ok definition →
      specOf definition lampPost = none := by
    intro definition hdefinition
    obtain rfl := Except.ok.inj hdefinition
    rfl
  have hbuilt : build places {} .null (.doc [("spot", lampPost)]) = .ok [("at", lampPost)] := rfl
  exact ⟨⟨rfl, rfl, rfl, hvalue⟩, hbuilt, (build_eq_store_iff rfl rfl rfl hvalue).mp hbuilt⟩

/-- A point that is created from its latitude and longitude is not found by them. -/
theorem not_build_eq_store_of_latLng :
    ¬ ∀ (c : Connector) (model : Model) (options v stored : Value) (key column : String)
      (document : Document), isPoint model key = true →
      c.insertionOf model (.doc [(key, v)]) options = .ok document →
      store model [(key, v)] = .ok [(column, stored)] → v ≠ .null →
      (∀ definition, definitionOf model column key = .ok definition →
        specOf definition v = none) →
      build model c.settings options (.doc [(key, v)]) = .ok [(column, stored)] := by
  intro hall
  have hasked := hall { settings := {}, models := [] } places .null (.doc [("lat", .int 1), ("lng", .int 2)]) lampPost
    "spot" "at" [("at", lampPost)] rfl rfl rfl (by simp) (by
      intro definition hdefinition
      obtain rfl := Except.ok.inj hdefinition
      rfl)
  have hgiven : build places {} .null (.doc [("spot", .doc [("lat", .int 1), ("lng", .int 2)])]) =
      .ok [("at", .doc [("lat", .int 1), ("lng", .int 2)])] := rfl
  have hsame := (List.cons.inj (Except.ok.inj (hgiven.symm.trans hasked))).1
  simp [lampPost, geoPoint] at hsame

end ModelStore.Filter
