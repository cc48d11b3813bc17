import ModelStore.Proofs.Coercion.Value
import ModelStore.Proofs.Filter.Conditions
import ModelStore.Proofs.Filter.NativeForm

/-!
Server-side code in a query. Forbidden keys are erased where logical keys lead, but a condition can
be stored under a forbidden column, and a list stored under a native logical key is handed on as it
is. The query runs no code exactly when no entry that stands does either.
-/
namespace ModelStore.Filter

/-- Native keys under which lists of queries stand. -/
def nativeLogicalKeys : List String := ["$and", "$or", "$nor"]

def isNativeLogical (key : String) : Bool := nativeLogicalKeys.contains key

/-- The documents that stand in the place of a query. -/
inductive Position (query : Document) : Document → Prop
  | top : Position query query
  | branch {position inner : Document} {key : String} {v : Value} :
      Position query position → (key, v) ∈ position → isNativeLogical key = true →
      .doc inner ∈ v.listed → Position query inner

/-- No query position has a key that carries code for the server. -/
def RunsNoCode (query : Document) : Prop :=
  ∀ position, Position query position → ∀ entry ∈ position, isForbidden entry.1 = false

theorem Position.trans {query position inner : Document} (h : Position query position)
    (h' : Position position inner) : Position query inner := by
  induction h' with
  | top => exact h
  | branch _ hmem hlogical hinner ih => exact .branch ih hmem hlogical hinner

/-- Positions below the top stand below one of the lists of the query. -/
theorem Position.cases_top {query position : Document} (h : Position query position) :
    position = query ∨ ∃ key v inner, (key, v) ∈ query ∧ isNativeLogical key = true ∧
      .doc inner ∈ v.listed ∧ Position inner position := by
  induction h with
  | top => exact Or.inl rfl
  | @branch position inner key v _ hmem hlogical hinner ih =>
    rcases ih with rfl | ⟨key', v', inner', hmem', hlogical', hinner', hpos⟩
    · exact Or.inr ⟨key, v, inner, hmem, hlogical, hinner, .top⟩
    · exact Or.inr ⟨key', v', inner', hmem', hlogical', hinner',
        .branch hpos hmem hlogical hinner⟩

theorem runsNoCode_iff {query : Document} :
    RunsNoCode query ↔ ∀ entry ∈ query, isForbidden entry.1 = false ∧
      (isNativeLogical entry.1 = true → ∀ inner, .doc inner ∈ entry.2.listed →
        RunsNoCode inner) := by
  constructor
  · intro h entry hentry
    constructor
    · exact h query .top entry hentry
    · intro hlogical inner hinner position hposition
      have hbelow : Position query inner := .branch .top hentry hlogical hinner
      exact h position (hbelow.trans hposition)
  · intro h position hposition
    rcases hposition.cases_top with rfl | ⟨key, v, inner, hmem, hlogical, hinner, hpos⟩
    · intro entry hentry
      exact (h entry hentry).1
    · have hclean : RunsNoCode inner := (h (key, v) hmem).2 hlogical inner hinner
      exact hclean position hpos

theorem doc_mem_listed_compileLeaf {target : Target} {key field : String} {v native : Value}
    (h : compileLeaf target key v = .ok (field, native)) (inner : Document) :
    .doc inner ∈ native.listed ↔ .doc inner ∈ v.listed := by
  obtain ⟨-, definition, -, hnative⟩ := compileLeaf_eq_ok.mp h
  unfold nativeOf at hnative
  split at hnative
  · rename_i spec hspec
    obtain ⟨operand, -, hcondition⟩ := Result.bind_eq_ok.mp hnative
    obtain ⟨entries, rfl⟩ := (nativeForm_of_applyOperator hcondition).exists_eq_doc
    cases v with
    | doc _ => exact Iff.rfl
    | _ => simp [specOf] at hspec
  · split at hnative
    · rename_i hnull
      obtain rfl := Except.ok.inj hnative
      have hlisted : (nullCondition target.nullAsAbsent).listed = [] := by
        unfold nullCondition
        split <;> rfl
      cases v with
      | null =>
        rw [hlisted]
        exact Iff.rfl
      | _ => simp [Value.isNull] at hnull
    · exact Coercion.doc_mem_listed_coerceValue hnative inner

theorem isNativeLogical_of_isLogical {key : String} (h : isLogical key = true) :
    isNativeLogical ("$" ++ key) = true ∧ isForbidden ("$" ++ key) = false := by
  have hkey : key = "and" ∨ key = "or" ∨ key = "nor" := by
    simpa [isLogical, logicalKeys] using h
  rcases hkey with rfl | rfl | rfl <;> exact ⟨rfl, rfl⟩

/-- The column of an entry carries no code, and neither do the documents of a list that is stored
under a native logical key. -/
def StoresNoCode (model : Model) (entry : String × Value) : Prop :=
  ∀ field, model.fieldName entry.1 = .ok field → isForbidden field = false ∧
    (isNativeLogical field = true → ∀ inner, .doc inner ∈ entry.2.listed → RunsNoCode inner)

section Target

variable {target : Target} {filter level query : Document}

theorem RunsNoCode.storesNoCode (h : compile target level = .ok query) (hquery : RunsNoCode query)
    {entry : String × Value} (hentry : Stands target.model level entry)
    (hleaf : branchesOf? entry = none) : StoresNoCode target.model entry := by
  intro field hfield
  obtain ⟨condition, hcondition⟩ := exists_conditionOf h hentry.mem
  have hmem : condition ∈ query := (mem_compile h).mpr ⟨entry, hentry, hcondition⟩
  have hclean := runsNoCode_iff.mp hquery condition hmem
  simp only [conditionOf, hleaf] at hcondition
  have hwritten := fieldName_of_compileLeaf hcondition
  obtain rfl : field = condition.1 := Except.ok.inj (hfield.symm.trans hwritten)
  constructor
  · exact hclean.1
  · intro hlogical inner hinner
    have hlisted := (doc_mem_listed_compileLeaf hcondition inner).mpr hinner
    exact hclean.2 hlogical inner hlisted

theorem RunsNoCode.inner (h : compile target level = .ok query) (hquery : RunsNoCode query)
    {entry : String × Value} (hentry : Stands target.model level entry) {branches : List Value}
    (hbranches : branchesOf? entry = some branches) {inner : Document}
    (hinner : .doc inner ∈ branches) :
    ∃ innerQuery, compile target inner = .ok innerQuery ∧ RunsNoCode innerQuery := by
  obtain ⟨condition, hcondition⟩ := exists_conditionOf h hentry.mem
  have hmem : condition ∈ query := (mem_compile h).mpr ⟨entry, hentry, hcondition⟩
  have hclean := runsNoCode_iff.mp hquery condition hmem
  simp only [conditionOf, hbranches] at hcondition
  obtain ⟨compiled, hcompiled, hcondition⟩ := Result.bind_eq_ok.mp hcondition
  obtain rfl := Except.ok.inj hcondition
  obtain ⟨v, hzip, innerQuery, hinnerQuery, rfl⟩ :=
    Result.exists_mem_zip (compileEach_eq_ok.mp hcompiled) hinner
  have hlogical := isNativeLogical_of_isLogical (isLogical_of_branchesOf? hbranches)
  have hlisted : .doc innerQuery ∈ compiled := (List.of_mem_zip hzip).2
  exact ⟨innerQuery, hinnerQuery, hclean.2 hlogical.1 innerQuery hlisted⟩

/-- What stands below a compiled level is a compiled level again, or was handed on as it is. -/
theorem compiled_or_runsNoCode (h : compile target level = .ok query)
    (hlevel : Level (Stands target.model) filter level)
    (hstores : ∀ entry, Stands target.model level entry → branchesOf? entry = none →
      StoresNoCode target.model entry)
    {key : String} {v : Value} (hmem : (key, v) ∈ query) (hlogical : isNativeLogical key = true)
    {inner : Document} (hinner : .doc inner ∈ v.listed) :
    (∃ deeper, Level (Stands target.model) filter deeper ∧ compile target deeper = .ok inner) ∨
      RunsNoCode inner := by
  obtain ⟨entry, hentry, hcondition⟩ := (mem_compile h).mp hmem
  cases hbranches : branchesOf? entry with
  | none =>
    simp only [conditionOf, hbranches] at hcondition
    have hclean := hstores entry hentry hbranches key (fieldName_of_compileLeaf hcondition)
    have hgiven := (doc_mem_listed_compileLeaf hcondition inner).mp hinner
    exact Or.inr (hclean.2 hlogical inner hgiven)
  | some branches =>
    simp only [conditionOf, hbranches] at hcondition
    obtain ⟨compiled, hcompiled, hcondition⟩ := Result.bind_eq_ok.mp hcondition
    obtain ⟨-, rfl⟩ := Prod.mk.inj (Except.ok.inj hcondition)
    obtain ⟨branch, hzip, innerQuery, hinnerQuery, hdoc⟩ :=
      Result.exists_mem_zip (compileEach_eq_ok.mp hcompiled).flip hinner
    obtain rfl := Value.doc.inj hdoc
    cases branch with
    | doc deeper =>
      have hdeeper : .doc deeper ∈ branches := (List.of_mem_zip hzip).2
      exact Or.inl ⟨deeper, .branch hlevel hentry hbranches hdeeper, hinnerQuery⟩
    | _ =>
      obtain rfl := Except.ok.inj hinnerQuery
      exact Or.inr (runsNoCode_iff.mpr (by simp))

end Target

/-- A query runs no code if and only if no entry that stands, at a level that standing entries lead
to, stores any. -/
theorem runsNoCode_iff_storesNoCode {model : Model} {settings : Settings} {options : Value}
    {filter query : Document} (h : build model settings options (.doc filter) = .ok query) :
    RunsNoCode query ↔
      ∀ level, Level (Stands model) filter level → ∀ entry, Stands model level entry →
        branchesOf? entry = none → StoresNoCode model entry := by
  obtain ⟨strict, hstrict⟩ := isStrict_of_build h
  rw [build_doc hstrict] at h
  constructor
  · intro hquery
    have hlevels : ∀ level, Level (Stands model) filter level →
        ∃ conditions, compile ⟨model, settings.nullAsAbsent, strict⟩ level = .ok conditions ∧
          RunsNoCode conditions := by
      intro level hlevel
      induction hlevel with
      | top => exact ⟨query, h, hquery⟩
      | branch _ hentry hbranches hinner ih =>
        obtain ⟨conditions, hconditions, hclean⟩ := ih
        exact hclean.inner hconditions hentry hbranches hinner
    intro level hlevel entry hentry hleaf
    obtain ⟨conditions, hconditions, hclean⟩ := hlevels level hlevel
    exact hclean.storesNoCode hconditions hentry hleaf
  · intro hstores
    -- Every position is a compiled level, or stands inside a list that was handed on as it is.
    have hpositions : ∀ position, Position query position →
        (∃ level, Level (Stands model) filter level ∧
          compile ⟨model, settings.nullAsAbsent, strict⟩ level = .ok position) ∨
        RunsNoCode position := by
      intro position hposition
      induction hposition with
      | top => exact Or.inl ⟨filter, .top, h⟩
      | @branch position inner key v _ hmem hlogical hinner ih =>
        rcases ih with ⟨level, hlevel, hcompile⟩ | hclean
        · exact compiled_or_runsNoCode hcompile hlevel (hstores level hlevel) hmem hlogical hinner
        · exact Or.inr ((runsNoCode_iff.mp hclean (key, v) hmem).2 hlogical inner hinner)
    intro position hposition condition hmem
    rcases hpositions position hposition with ⟨level, hlevel, hcompile⟩ | hclean
    · obtain ⟨entry, hentry, hcondition⟩ := (mem_compile hcompile).mp hmem
      cases hbranches : branchesOf? entry with
      | none =>
        simp only [conditionOf, hbranches] at hcondition
        have hwritten := fieldName_of_compileLeaf hcondition
        exact (hstores level hlevel entry hentry hbranches condition.1 hwritten).1
      | some branches =>
        simp only [conditionOf, hbranches] at hcondition
        obtain ⟨compiled, -, hcondition⟩ := Result.bind_eq_ok.mp hcondition
        obtain rfl := Except.ok.inj hcondition
        have hlogical := isLogical_of_branchesOf? hbranches
        exact (isNativeLogical_of_isLogical hlogical).2
    · exact hclean position .top condition hmem

theorem runsNoCode_singleton {key : String} {v : Value} (hkey : isForbidden key = false)
    (hlogical : isNativeLogical key = false) : RunsNoCode [(key, v)] := by
  rw [runsNoCode_iff, List.forall_mem_singleton]
  exact ⟨hkey, fun htrue => absurd (htrue.symm.trans hlogical) (by simp)⟩

/-- Code in a logical list and beside it, and a native list without any. -/
def guardedFilter : Document :=
  [("and", .list [.doc [("$where", .text "1"), ("title", .text "a")]]),
   ("mapReduce", .text "1"), ("$or", .list [.doc [("rating", .int 1)], .null])]

def guardedQuery : Document :=
  [("$and", .list [.doc [("title", .text "a")]]), ("$or", .list [.doc [("rating", .int 1)], .null])]

theorem runsNoCode_iff_storesNoCode_guarded :
    build (.bare "Post") {} .null (.doc guardedFilter) = .ok guardedQuery ∧
    RunsNoCode guardedQuery ∧
    ∀ level, Level (Stands (.bare "Post")) guardedFilter level →
      ∀ entry, Stands (.bare "Post") level entry → branchesOf? entry = none →
        StoresNoCode (.bare "Post") entry := by
  have h : build (.bare "Post") {} .null (.doc guardedFilter) = .ok guardedQuery := rfl
  have hquery : RunsNoCode guardedQuery := by
    rw [runsNoCode_iff, guardedQuery, List.forall_mem_cons, List.forall_mem_singleton]
    refine ⟨⟨by decide, fun _ inner hinner => ?_⟩, by decide, fun _ inner hinner => ?_⟩
    · obtain rfl : inner = [("title", .text "a")] := by simpa [Value.listed] using hinner
      exact runsNoCode_singleton (by decide) (by decide)
    · obtain rfl : inner = [("rating", .int 1)] := by simpa [Value.listed] using hinner
      exact runsNoCode_singleton (by decide) (by decide)
  exact ⟨h, hquery, (runsNoCode_iff_storesNoCode h).mp hquery⟩

/-- Code in a native list reaches the query. -/
theorem not_runsNoCode_of_native_list :
    ¬ ∀ (model : Model) (settings : Settings) (options : Value) (filter query : Document),
      build model settings options (.doc filter) = .ok query → RunsNoCode query := by
  intro hclean
  have hquery := hclean (.bare "Post") {} .null [("$and", .list [.doc [("$where", .text "1")]])]
    [("$and", .list [.doc [("$where", .text "1")]])] rfl
  have hposition : Position [("$and", .list [.doc [("$where", .text "1")]])]
      [("$where", .text "1")] :=
    .branch .top List.mem_cons_self rfl List.mem_cons_self
  have hkey : isForbidden "$where" = false := hquery _ hposition _ List.mem_cons_self
  exact absurd hkey (by decide)

end ModelStore.Filter
