import ModelStore.Proofs.Storage.FieldName
import ModelStore.Proofs.Table

/-!
Requested fields. A list asks for each of its paths, and a table says of each path whether it is
wanted. A projection and the test for the identifier are made from the same requests; but requests
are written into a projection by their fields, and the test looks for one name alone.
-/
namespace ModelStore.Projection

variable {model : Model} {fields : Value} {idName : String}

abbrev Request := String × Bool

def allWanted (paths : List String) : List Request := paths.map fun path => (path, true)

/-- The fields make these requests. -/
inductive Requests : Value → List Request → Prop
  | nothing {fields : Value} : fields.truthy = false → Requests fields []
  | list {paths : List String} : paths ≠ [] → Requests (.list (paths.map .text)) (allWanted paths)
  | tuple {paths : List String} : paths ≠ [] → Requests (.tuple (paths.map .text)) (allWanted paths)
  | table {entries : Document} : entries ≠ [] → (Table.keys entries).Nodup →
      Requests (.doc entries) (Table.mapValues Value.truthy entries)

def marked (model : Model) (requests : List Request) : Result (List (String × Value)) :=
  requests.mapM fun request => (fun field => (field, wanted request.2)) <$> model.fieldName request.1

/-- The entry is the field of the request, marked as that is wanted or not. -/
structure Marks (model : Model) (request : Request) (entry : String × Value) : Prop where
  field : model.fieldName request.1 = .ok entry.1
  mark : entry.2 = wanted request.2

theorem Marks.unique {request : Request} {entry entry' : String × Value}
    (h : Marks model request entry) (h' : Marks model request entry') : entry = entry' :=
  Prod.ext (Except.ok.inj (h.field.symm.trans h'.field)) (h.mark.trans h'.mark.symm)

theorem marked_eq_ok {requests : List Request} {written : List (String × Value)} :
    marked model requests = .ok written ↔ List.Forall₂ (Marks model) requests written := by
  rw [marked, Result.mapM_eq_ok]
  refine iff_of_eq (congrArg (List.Forall₂ · requests written) ?_)
  funext request entry
  rw [Result.map_eq_ok, eq_iff_iff]
  constructor
  · intro h
    obtain ⟨field, hfield, rfl⟩ := h
    exact ⟨hfield, rfl⟩
  · intro h
    exact ⟨entry.1, h.field, Prod.ext rfl h.mark.symm⟩

theorem foldlM_add (model : Model) (requests : List Request) (projection : Document) :
    requests.foldlM (fun projection request => add model projection (.text request.1) request.2)
      projection = Table.merge projection <$> marked model requests := by
  induction requests generalizing projection with
  | nil => rfl
  | cons request rest ih =>
    have hmarked : marked model (request :: rest) = (do
        let entry ← (fun field => (field, wanted request.2)) <$> model.fieldName request.1
        .ok (entry :: (← marked model rest))) := List.mapM_cons
    rw [List.foldlM_cons, add_eq, hmarked]
    cases model.fieldName request.1 with
    | error failure => rfl
    | ok field =>
      change rest.foldlM _ (Table.insert projection field (wanted request.2)) = _
      rw [ih]
      cases marked model rest <;> rfl

theorem foldlM_paths (paths : List String) :
    (paths.map Value.text).foldlM (fun projection path => add model projection path true) [] =
      Table.ofList <$> marked model (allWanted paths) := by
  rw [List.foldlM_map]
  have hadded := foldlM_add model (allWanted paths) []
  rw [allWanted, List.foldlM_map] at hadded
  exact hadded

theorem foldlM_entries (entries : Document) :
    entries.foldlM (fun projection entry => add model projection (.text entry.1) entry.2.truthy) [] =
      Table.ofList <$> marked model (Table.mapValues Value.truthy entries) := by
  have hadded := foldlM_add model (Table.mapValues Value.truthy entries) []
  rw [Table.mapValues, List.foldlM_map] at hadded
  exact hadded

/-- Fields are set exactly if they make a request. -/
theorem Requests.truthy_iff {requests : List Request} (h : Requests fields requests) :
    fields.truthy = true ↔ requests ≠ [] := by
  cases h with
  | nothing hunset => simp [hunset]
  | list hpaths => simp [Value.truthy, allWanted]
  | tuple hpaths => simp [Value.truthy, allWanted]
  | table hentries => simp [Value.truthy, Table.mapValues]

theorem some_ofList_eq (x : Result (List (String × Value))) :
    (do .ok (some (← Table.ofList <$> x)) : Result (Option Document)) =
      (fun written => some (Table.ofList written)) <$> x := by
  cases x <;> rfl

theorem build_eq {requests : List Request} (h : Requests fields requests) (hset : requests ≠ []) :
    build model fields = (fun written => some (Table.ofList written)) <$> marked model requests := by
  unfold build
  rw [h.truthy_iff.mpr hset, ← some_ofList_eq]
  cases h with
  | nothing => exact absurd rfl hset
  | list => rw [← foldlM_paths]; rfl
  | tuple => rw [← foldlM_paths]; rfl
  | table => rw [← foldlM_entries]; rfl

/-- A projection holds the fields of its requests, the last request for a field deciding. -/
theorem build_eq_ok {requests : List Request} {projection : Option Document}
    (h : Requests fields requests) (hset : requests ≠ []) :
    build model fields = .ok projection ↔
      ∃ written, List.Forall₂ (Marks model) requests written ∧
        projection = some (Table.ofList written) := by
  rw [build_eq h hset, Result.map_eq_ok]
  exact exists_congr fun written => and_congr marked_eq_ok eq_comm

theorem build_of_nothing (h : Requests fields []) : build model fields = .ok none := by
  have hunset : fields.truthy = false := by simpa using h.truthy_iff
  unfold build
  rw [hunset]
  rfl

/-- The answer of the test for the identifier: that of the request for its name, and without one the
opposite of the first request. -/
def tested (idName : String) (requests : List Request) : Bool :=
  match Table.get? requests idName with
  | some b => b
  | none => ((requests.head?.map Prod.snd).map not).getD true

theorem get?_allWanted (paths : List String) :
    Table.get? (allWanted paths) idName = if idName ∈ paths then some true else none := by
  induction paths with
  | nil => rfl
  | cons path rest ih =>
    have hcons : Table.get? (allWanted (path :: rest)) idName =
        if path = idName then some true else Table.get? (allWanted rest) idName := rfl
    rw [hcons, ih]
    by_cases h : path = idName
    · simp [h]
    · simp [h, Ne.symm h]

theorem any_isName (paths : List String) :
    (paths.map Value.text).any (isName idName) = decide (idName ∈ paths) := by
  induction paths with
  | nil => rfl
  | cons path rest ih =>
    rw [List.map_cons, List.any_cons, ih]
    simp [isName, eq_comm]

theorem tested_allWanted {paths : List String} (h : paths ≠ []) :
    tested idName (allWanted paths) = decide (idName ∈ paths) := by
  rw [tested, get?_allWanted]
  by_cases hmem : idName ∈ paths
  · simp [hmem]
  · obtain ⟨path, rest, rfl⟩ := List.exists_cons_of_ne_nil h
    simp [hmem, allWanted]

theorem get?_mapValues (entries : Document) :
    Table.get? (Table.mapValues Value.truthy entries) idName =
      (Table.get? entries idName).map Value.truthy := by
  induction entries with
  | nil => rfl
  | cons entry rest ih =>
    have hcons : Table.get? (Table.mapValues Value.truthy (entry :: rest)) idName =
        if entry.1 = idName then some entry.2.truthy
        else Table.get? (Table.mapValues Value.truthy rest) idName := rfl
    rw [hcons, ih, Table.get?_cons]
    split <;> rfl

/-- The test answers whenever the fields are requests. -/
theorem includesId_eq {requests : List Request} (h : Requests fields requests) :
    includesId fields idName = .ok (tested idName requests) := by
  have htruthy := h.truthy_iff
  unfold includesId
  cases h with
  | nothing hunset =>
    rw [hunset]
    rfl
  | @list paths hpaths =>
    rw [htruthy.mpr (by simpa [allWanted] using hpaths), tested_allWanted hpaths, ← any_isName]
    rfl
  | @tuple paths hpaths =>
    rw [htruthy.mpr (by simpa [allWanted] using hpaths), tested_allWanted hpaths, ← any_isName]
    rfl
  | @table entries hentries hkeys =>
    rw [htruthy.mpr (by simpa [Table.mapValues] using hentries), tested, get?_mapValues]
    obtain ⟨first, rest, rfl⟩ := List.exists_cons_of_ne_nil hentries
    cases hfound : Table.get? (first :: rest) idName <;>
      simp [Value.lookups, bind, Except.bind, hfound, Table.mapValues]

end ModelStore.Projection
