import ModelStore.Proofs.Schema.Columns
import ModelStore.Proofs.Sort.Forms

/-!
Sort keys given back as an order. A pair names its direction by a word, and any other direction is
ascending; so the signs of sort keys are not read back, and keys come back as they were exactly if
all of them are ascending and name fields that stand for themselves.
-/
namespace ModelStore.Sort

variable {model : Model} {settings : Settings} {options order : Value} {keys : List Key}

theorem readItem_sign (item : List Char) :
    (readItem item).2 = ascending ∨ (readItem item).2 = descending := by
  unfold readItem
  dsimp only
  split
  · exact Or.inr rfl
  · split <;> exact Or.inl rfl

theorem readDirection_sign (v : Value) : readDirection v = ascending ∨ readDirection v = descending := by
  unfold readDirection
  split
  · exact Or.inr rfl
  · exact Or.inl rfl

/-- A key is the field of a path with a sign. -/
structure IsKey (model : Model) (key : Key) : Prop where
  field : ∃ path, model.fieldName path = .ok key.1
  sign : key.2 = ascending ∨ key.2 = descending

theorem isKey_idField (model : Model) : IsKey model (idField, ascending) :=
  ⟨⟨idField, if_pos (Or.inr rfl)⟩, Or.inl rfl⟩

theorem isKey_of_ofItem {item : Value} {key : Key} (h : ofItem model item = .ok (some key)) :
    IsKey model key := by
  unfold ofItem at h
  split at h
  · obtain ⟨path, -, h⟩ := Result.bind_eq_ok.mp h
    obtain ⟨field, hfield, h⟩ := Result.bind_eq_ok.mp h
    obtain rfl := Option.some.inj (Except.ok.inj h)
    exact ⟨⟨path, hfield⟩, readDirection_sign _⟩
  · cases h
  · split at h
    · cases h
    · obtain ⟨field, hfield, h⟩ := Result.bind_eq_ok.mp h
      obtain rfl := Option.some.inj (Except.ok.inj h)
      exact ⟨⟨_, hfield⟩, readItem_sign _⟩

theorem isKey_of_written (h : written model order = .ok keys) : ∀ key ∈ keys, IsKey model key := by
  obtain ⟨values, -, h⟩ := Result.bind_eq_ok.mp h
  obtain ⟨made, hmade, h⟩ := Result.bind_eq_ok.mp h
  obtain rfl := Except.ok.inj h
  intro key hkey
  obtain ⟨found, hfound, hsome⟩ := List.mem_filterMap.mp hkey
  obtain ⟨item, -, hitem⟩ := Result.exists_of_forall₂ (Result.mapM_eq_ok.mp hmade).flip hfound
  exact isKey_of_ofItem (hitem.trans (congrArg Except.ok hsome))

/-- An order without a key is sorted by default. -/
theorem build_eq_ok (h : build model settings options order = .ok keys) :
    (written model order = .ok [] ∧ byDefault model settings options = .ok keys) ∨
      (written model order = .ok keys ∧ keys ≠ []) := by
  obtain ⟨made, hmade, h⟩ := Result.bind_eq_ok.mp h
  cases made with
  | nil => exact Or.inl ⟨hmade, h⟩
  | cons key rest =>
    obtain rfl := Except.ok.inj h
    exact Or.inr ⟨hmade, List.cons_ne_nil key rest⟩

theorem isKey_of_build (h : build model settings options order = .ok keys) :
    ∀ key ∈ keys, IsKey model key := by
  rcases build_eq_ok h with ⟨-, hdefault⟩ | ⟨hwritten, -⟩
  · obtain ⟨call, -, hdefault⟩ := Result.bind_eq_ok.mp hdefault
    obtain rfl := Except.ok.inj hdefault
    intro key hkey
    split at hkey
    · cases hkey
    · rw [List.mem_singleton.mp hkey]
      exact isKey_idField model
  · exact isKey_of_written hwritten

/-- The sign of a key is no word, so as a direction it is ascending. -/
theorem readDirection_of_sign {sign : Int} (h : sign = ascending ∨ sign = descending) :
    readDirection (.int sign) = ascending := by
  rcases h with rfl | rfl
  · exact if_neg (by decide +kernel)
  · exact if_neg (by decide +kernel)

def allAscending (keys : List Key) : List Wish := keys.map fun key => (key.1, ascending)

theorem lists_toValue (hkeys : ∀ key ∈ keys, IsKey model key) :
    Lists Names (allAscending keys) (keys.map fun key => .tuple [.text key.1, .int key.2]) := by
  induction keys with
  | nil => exact .nil
  | cons key rest ih =>
    refine .item ?_ (ih fun other hother => hkeys other (List.mem_cons_of_mem key hother))
    rw [← readDirection_of_sign (hkeys key List.mem_cons_self).sign]
    exact .pair _ []

theorem build_toValue (hkeys : ∀ key ∈ keys, IsKey model key) :
    build model settings options (toValue keys) =
      sorted model settings options (allAscending keys) :=
  build_of_written (written_of_lists (items_list _) (lists_toValue hkeys))

theorem keysOf_allAscending_iff :
    keysOf model (allAscending keys) = .ok keys ↔
      ∀ key ∈ keys, key.2 = ascending ∧ model.fieldName key.1 = .ok key.1 := by
  rw [keysOf, allAscending, List.mapM_map, Result.mapM_eq_self_iff]
  refine forall_congr' fun key => imp_congr_right fun _ => ?_
  rw [Function.comp_apply, Result.map_eq_ok]
  constructor
  · intro h
    obtain ⟨field, hfield, hkey⟩ := h
    obtain ⟨rfl, hsign⟩ := Prod.ext_iff.mp hkey
    exact ⟨hsign.symm, hfield⟩
  · intro h
    exact ⟨key.1, h.2, Prod.ext rfl h.1.symm⟩

/-- Where fields stand for themselves, all keys come back ascending. -/
theorem keysOf_allAscending (hfields : ∀ key ∈ keys, model.fieldName key.1 = .ok key.1) :
    keysOf model (allAscending keys) = .ok (allAscending keys) := by
  have hmapped : keysOf model (allAscending (allAscending keys)) = .ok (allAscending keys) := by
    refine keysOf_allAscending_iff.mpr fun key hkey => ?_
    obtain ⟨given, hgiven, rfl⟩ := List.mem_map.mp hkey
    exact ⟨rfl, hfields given hgiven⟩
  have htwice : allAscending (allAscending keys) = allAscending keys := by
    simp [allAscending]
  rwa [htwice] at hmapped

/-- Sort keys that are given back as an order come back as they were exactly if all of them are
ascending and name fields that stand for themselves. Where every property is stored under its own
name the fields do, and it is the directions alone that get lost. -/
theorem sortedAgain_iff (h : build model settings options order = .ok keys) :
    (build model settings options (toValue keys) = .ok keys ↔
        ∀ key ∈ keys, key.2 = ascending ∧ model.fieldName key.1 = .ok key.1) ∧
      (model.OwnColumns →
        (∀ key ∈ keys, model.fieldName key.1 = .ok key.1) ∧
          build model settings options (toValue keys) = .ok (allAscending keys)) := by
  have hkeys := isKey_of_build h
  have hown : model.OwnColumns → ∀ key ∈ keys, model.fieldName key.1 = .ok key.1 := by
    intro hcolumns key hkey
    obtain ⟨path, hpath⟩ := (hkeys key hkey).field
    exact hcolumns.fieldName_fixed hpath
  rw [build_toValue hkeys]
  cases keys with
  | nil =>
    have hdefault : sorted model settings options (allAscending []) = .ok [] := by
      rcases build_eq_ok h with ⟨-, hdefault⟩ | ⟨-, hset⟩
      · exact hdefault
      · exact absurd rfl hset
    exact ⟨iff_of_true hdefault (fun _ hkey => nomatch hkey),
      fun hcolumns => ⟨hown hcolumns, hdefault⟩⟩
  | cons key rest =>
    exact ⟨keysOf_allAscending_iff, fun hcolumns =>
      ⟨hown hcolumns, keysOf_allAscending (hown hcolumns)⟩⟩

theorem ownColumns_bare : (Model.bare "Post").OwnColumns := by
  have hproperties : (Model.bare "Post").properties = [("id", Model.generatedId)] := rfl
  intro entry hentry
  rw [hproperties] at hentry
  rw [List.mem_singleton.mp hentry]
  rfl

/-- Of two keys the descending one is turned round. -/
theorem sortedAgain_iff_mixed :
    build (.bare "Post") {} .null (.text "id DESC,rank") = .ok [("_id", -1), ("rank", 1)] ∧
      build (.bare "Post") {} .null (toValue [("_id", -1), ("rank", 1)]) =
        .ok [("_id", 1), ("rank", 1)] ∧
      ¬ build (.bare "Post") {} .null (toValue [("_id", -1), ("rank", 1)]) =
        .ok [("_id", -1), ("rank", 1)] := by
  have hbuilt : build (.bare "Post") {} .null (.text "id DESC,rank") =
      .ok [("_id", -1), ("rank", 1)] := rfl
  obtain ⟨hagain, hown⟩ := sortedAgain_iff hbuilt
  refine ⟨hbuilt, (hown ownColumns_bare).2, ?_⟩
  rw [hagain]
  intro hall
  exact absurd (hall ("_id", -1) List.mem_cons_self).1 (by decide)

/-- A descending key does not come back. -/
theorem not_sortedAgain_of_descending :
    ¬ ∀ (model : Model) (settings : Settings) (options order : Value) (keys : List Key),
      model.OwnColumns → build model settings options order = .ok keys →
      build model settings options (toValue keys) = .ok keys := by
  intro hall
  have hagain := hall (.bare "Post") {} .null (.text "title DESC") [("title", -1)]
    ownColumns_bare rfl
  have hturned : build (.bare "Post") {} .null (toValue [("title", -1)]) = .ok [("title", 1)] := rfl
  rw [hturned] at hagain
  cases hagain

end ModelStore.Sort
