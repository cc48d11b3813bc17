import ModelStore.Proofs.Filter.Recompiled
import ModelStore.Proofs.Schema.Columns

/-!
Queries compiled again. A query is a filter too, and where every property is stored under its own
name it is compiled to itself if each of its conditions is. What stands in a query was one entry of
the filter, so the entries tell whether it is: those that ask a property of identifiers for
something else are refused the second time. The filters inside a query are not compiled again,
because a logical key is not one under its native name.
-/
namespace ModelStore.Filter

open Coercion

/-- A query with distinct keys is compiled to itself exactly if each of its conditions is. -/
theorem compile_eq_self_iff {target : Target} {query : Document}
    (hnodup : (Table.keys query).Nodup) :
    compile target query = .ok query ↔
      ∀ condition ∈ query, isForbidden condition.1 = false ∧
        conditionOf target condition = .ok condition := by
  rw [compile_eq_ok]
  constructor
  · intro hcompiled
    obtain ⟨conditions, hconditions, hwritten⟩ := hcompiled
    -- Nothing was erased and nothing was overwritten, since as much came out as went in.
    have herased : (sanitize query).length ≤ query.length := List.length_filter_le _ _
    have hlost := Table.length_ofList_le conditions
    have hlength := hconditions.length_eq
    rw [hwritten] at hlost
    have hlive : (sanitize query).length = query.length := by omega
    have hall : sanitize query = query := List.filter_sublist.eq_of_length hlive
    have hsame : conditions = query := by
      rw [← hwritten]
      exact (Table.ofList_of_length (by rw [hwritten]; omega)).symm
    rw [hall, hsame, List.forall₂_same] at hconditions
    intro condition hcondition
    have hmem : condition ∈ sanitize query := by rwa [hall]
    exact ⟨(mem_sanitize.mp hmem).2, hconditions condition hcondition⟩
  · intro heach
    have hall : sanitize query = query := by
      refine List.filter_eq_self.mpr fun condition hcondition => ?_
      simp [(heach condition hcondition).1]
    refine ⟨query, ?_, Table.ofList_of_nodup hnodup⟩
    rw [hall, List.forall₂_same]
    exact fun condition hcondition => (heach condition hcondition).2

/-- Entries with a condition that is not compiled to itself, where every property has its own name
for a column. -/
inductive Unsettled (model : Model) (nullAsAbsent : Bool) : String × Value → Prop
  /-- A property of identifiers is asked for something else. -/
  | foreign {key field : String} {asked : Value} {definition : Option Property} :
      branchesOf? (key, asked) = none → model.fieldName key = .ok field →
      definitionOf model field key = .ok definition → takesOnlyIds definition = true →
      leavesForeign nullAsAbsent definition asked = true → Unsettled model nullAsAbsent (key, asked)
  /-- The native name of a logical key is that of the identifier. -/
  | renamed {entry : String × Value} {branches : List Value} :
      branchesOf? entry = some branches → "$" ++ entry.1 = model.idName →
      Unsettled model nullAsAbsent entry
  /-- The native name of a logical key is that of a property of identifiers. -/
  | refused {entry : String × Value} {branches : List Value} :
      branchesOf? entry = some branches → branches ≠ [] →
      takesOnlyIds (Table.get? model.properties ("$" ++ entry.1)) = true →
      Unsettled model nullAsAbsent entry

theorem unsettled_leaf_iff {model : Model} {nullAsAbsent : Bool} {key field : String}
    {asked : Value} {definition : Option Property} (hleaf : branchesOf? (key, asked) = none)
    (hfield : model.fieldName key = .ok field)
    (hdefinition : definitionOf model field key = .ok definition) :
    Unsettled model nullAsAbsent (key, asked) ↔
      takesOnlyIds definition = true ∧ leavesForeign nullAsAbsent definition asked = true := by
  constructor
  · intro hunsettled
    cases hunsettled with
    | foreign _ hfield' hdefinition' hids hforeign =>
      obtain rfl := Except.ok.inj (hfield.symm.trans hfield')
      obtain rfl := Except.ok.inj (hdefinition.symm.trans hdefinition')
      exact ⟨hids, hforeign⟩
    | renamed hbranches =>
      rw [hleaf] at hbranches
      cases hbranches
    | refused hbranches =>
      rw [hleaf] at hbranches
      cases hbranches
  · rintro ⟨hids, hforeign⟩
    exact .foreign hleaf hfield hdefinition hids hforeign

theorem unsettled_branches_iff {model : Model} {nullAsAbsent : Bool} {entry : String × Value}
    {branches : List Value} (hbranches : branchesOf? entry = some branches) :
    Unsettled model nullAsAbsent entry ↔ "$" ++ entry.1 = model.idName ∨
      (branches ≠ [] ∧
        takesOnlyIds (Table.get? model.properties ("$" ++ entry.1)) = true) := by
  constructor
  · intro hunsettled
    cases hunsettled with
    | foreign hleaf =>
      rw [hbranches] at hleaf
      cases hleaf
    | renamed _ hid => exact .inl hid
    | refused hbranches' hinner hids =>
      obtain rfl := Option.some.inj (hbranches.symm.trans hbranches')
      exact .inr ⟨hinner, hids⟩
  · rintro (hid | ⟨hinner, hids⟩)
    · exact .renamed hbranches hid
    · exact .refused hbranches hinner hids

section Entry

variable {target : Target} {entry condition : String × Value}

theorem branchesOf?_eq_none_iff : branchesOf? entry = none ↔
    isLogical entry.1 = false ∨ isSequence entry.2 = false := by
  obtain ⟨key, v⟩ := entry
  cases v <;> simp [branchesOf?, isSequence]

theorem isSequence_of_nativeOf {definition : Option Property} {asked native : Value}
    (h : nativeOf target definition asked = .ok native) (hnative : isSequence native = true) :
    isSequence asked = true := by
  unfold nativeOf at h
  split at h
  · obtain ⟨operand, -, h⟩ := Result.bind_eq_ok.mp h
    cases nativeForm_of_applyOperator h <;> cases hnative
  · split at h
    · obtain rfl := Except.ok.inj h
      rw [nullCondition] at hnative
      split at hnative <;> cases hnative
    · exact isSequence_of_coerceValue h hnative

/-- The condition of an entry that asks something of a property, compiled again. -/
theorem leaf_fixed_iff (hown : target.model.OwnColumns) (hforbidden : isForbidden entry.1 = false)
    (hleaf : branchesOf? entry = none) (h : conditionOf target entry = .ok condition) :
    (isForbidden condition.1 = false ∧ conditionOf target condition = .ok condition) ↔
      ¬ Unsettled target.model target.nullAsAbsent entry := by
  obtain ⟨key, asked⟩ := entry
  obtain ⟨field, native⟩ := condition
  simp only [conditionOf, hleaf] at h
  obtain ⟨hfield, definition, hdefinition, hnative⟩ := compileLeaf_eq_ok.mp h
  dsimp only at hforbidden hfield hdefinition hnative
  have hstays : isForbidden field = false ∧ branchesOf? (field, native) = none ∧
      definitionOf target.model field field = .ok definition := by
    rcases hown.fieldName_eq_ok.mp hfield with ⟨-, rfl⟩ | ⟨-, rfl⟩
    · exact ⟨rfl, branchesOf?_eq_none_iff.mpr (.inl rfl), hdefinition⟩
    · refine ⟨hforbidden, branchesOf?_eq_none_iff.mpr ?_, hdefinition⟩
      refine (branchesOf?_eq_none_iff.mp hleaf).imp_right fun hsingle => ?_
      rw [← Bool.not_eq_true]
      intro hsequence
      rw [isSequence_of_nativeOf hnative hsequence] at hsingle
      cases hsingle
  obtain ⟨hallowed, hleaf', hdefinition'⟩ := hstays
  have hiff : conditionOf target (field, native) = .ok (field, native) ↔
      nativeOf target definition native = .ok native := by
    simp only [conditionOf, hleaf', compileLeaf_eq_ok, hown.fieldName_fixed hfield, hdefinition',
      Except.ok.injEq, true_and, exists_eq_left']
  rw [and_iff_right hallowed, hiff, nativeOf_fixed_iff hnative,
    unsettled_leaf_iff hleaf hfield hdefinition]
  simp

/-- The native name of a logical key is the name of a field like any other. -/
theorem logicalName_spec {key : String} (h : isLogical key = true) :
    isForbidden ("$" ++ key) = false ∧ isLogical ("$" ++ key) = false ∧
      Text.hasDot ("$" ++ key) = false ∧ "$" ++ key ≠ idField := by
  have hall : ∀ key ∈ logicalKeys, isForbidden ("$" ++ key) = false ∧
      isLogical ("$" ++ key) = false ∧ Text.hasDot ("$" ++ key) = false ∧
      "$" ++ key ≠ idField := by decide
  exact hall key (by simpa [isLogical] using h)

/-- A list of filters under a native logical key is compiled as a value of the property with that
name, if there is one. -/
theorem conditionOf_logicalName_iff (hown : target.model.OwnColumns) {key : String}
    (hkey : isLogical key = true) {inner : List Value}
    (hdocs : ∀ v ∈ inner, ∃ entries, v = .doc entries) :
    conditionOf target ("$" ++ key, .list inner) = .ok ("$" ++ key, .list inner) ↔
      "$" ++ key ≠ target.model.idName ∧
        (takesOnlyIds (Table.get? target.model.properties ("$" ++ key)) = true → inner = []) := by
  obtain ⟨-, hlogical, hdot, hfield⟩ := logicalName_spec hkey
  have hleaf : branchesOf? ("$" ++ key, .list inner) = none :=
    branchesOf?_eq_none_iff.mpr (.inl hlogical)
  have hname : target.model.fieldName ("$" ++ key) = .ok ("$" ++ key) ↔
      "$" ++ key ≠ target.model.idName := by
    rw [hown.fieldName_eq_ok]
    simp [hfield]
  have hdefinition : definitionOf target.model ("$" ++ key) ("$" ++ key) =
      .ok (Table.get? target.model.properties ("$" ++ key)) := by
    rw [definitionOf, if_neg hfield, Model.propertyAt_of_undotted hdot hfield]
  have hvalue : ∀ definition, nativeOf target definition (.list inner) = .ok (.list inner) ↔
      (takesOnlyIds definition = true → inner = []) := by
    intro definition
    have hkept : IsKept definition target.strict (.list inner) ↔
        (takesOnlyIds definition = true → inner = []) := isKept_docs_iff hdocs
    rw [← hkept, ← coerceValue_eq_self_iff]
    rfl
  simp only [conditionOf, hleaf, compileLeaf_eq_ok, hname, hdefinition, hvalue, Except.ok.injEq,
    exists_eq_left']

/-- The condition of an entry with filters inside, compiled again. -/
theorem branches_fixed_iff (hown : target.model.OwnColumns) {branches : List Value}
    (hbranches : branchesOf? entry = some branches) (h : conditionOf target entry = .ok condition) :
    (isForbidden condition.1 = false ∧ conditionOf target condition = .ok condition) ↔
      ¬ Unsettled target.model target.nullAsAbsent entry := by
  have hlogical : isLogical entry.1 = true := isLogical_of_branchesOf? hbranches
  simp only [conditionOf, hbranches] at h
  obtain ⟨compiled, hcompiled, h⟩ := Result.bind_eq_ok.mp h
  obtain rfl := Except.ok.inj h
  have hdocs : ∀ v ∈ compiled, ∃ inner, v = .doc inner := by
    intro v hv
    obtain ⟨branch, -, inner, -, hinner⟩ :=
      Result.exists_of_forall₂ (compileEach_eq_ok.mp hcompiled).flip hv
    exact ⟨inner, hinner.symm⟩
  have hempty : compiled = [] ↔ branches = [] := by
    rw [← List.length_eq_zero_iff, ← List.length_eq_zero_iff,
      (compileEach_eq_ok.mp hcompiled).length_eq]
  rw [and_iff_right (logicalName_spec hlogical).1, conditionOf_logicalName_iff hown hlogical hdocs,
    hempty, unsettled_branches_iff hbranches, not_or, not_and', not_ne_iff]

end Entry

section Build

variable {model : Model} {settings : Settings} {options : Value} {filter query : Document}

/-- A query is compiled to itself, where every property is stored under its own name, if and only
if no condition that stands in it asks a property of identifiers for something else, and no logical
key has the native name of such a property. -/
theorem build_fixed_iff (hown : model.OwnColumns)
    (h : build model settings options (.doc filter) = .ok query) :
    build model settings options (.doc query) = .ok query ↔
      ∀ entry, Stands model filter entry → ¬ Unsettled model settings.nullAsAbsent entry := by
  obtain ⟨strict, hstrict⟩ := isStrict_of_build h
  rw [build_doc hstrict] at h ⊢
  have hnodup : (Table.keys query).Nodup := by
    obtain ⟨conditions, -, rfl⟩ := compile_eq_ok.mp h
    exact Table.nodup_keys_ofList conditions
  have hfixed : ∀ {entry condition : String × Value}, Stands model filter entry →
      conditionOf ⟨model, settings.nullAsAbsent, strict⟩ entry = .ok condition →
      ((isForbidden condition.1 = false ∧
        conditionOf ⟨model, settings.nullAsAbsent, strict⟩ condition = .ok condition) ↔
      ¬ Unsettled model settings.nullAsAbsent entry) := by
    intro entry condition hstands hcondition
    have hforbidden := (mem_sanitize.mp hstands.mem).2
    cases hbranches : branchesOf? entry with
    | none => exact leaf_fixed_iff hown hforbidden hbranches hcondition
    | some branches => exact branches_fixed_iff hown hbranches hcondition
  rw [compile_eq_self_iff hnodup]
  constructor
  · intro hall entry hstands
    obtain ⟨condition, hcondition⟩ := exists_conditionOf h hstands.mem
    have hmem : condition ∈ query := (mem_compile h).mpr ⟨entry, hstands, hcondition⟩
    exact (hfixed hstands hcondition).mp (hall condition hmem)
  · intro hall condition hmem
    obtain ⟨entry, hstands, hcondition⟩ := (mem_compile h).mp hmem
    exact (hfixed hstands hcondition).mpr (hall entry hstands)

def replies : Model :=
  .ofSchema "Reply" [("author", .plain "author" .reference objectIdMarker)] {}

theorem ownColumns_replies : replies.OwnColumns := by
  intro entry hentry
  have hproperties : replies.properties =
      [("author", .plain "author" .reference objectIdMarker), ("id", Model.generatedId)] := rfl
  rw [hproperties, List.mem_cons, List.mem_singleton] at hentry
  rcases hentry with rfl | rfl <;> rfl

/-- Conditions of several forms, none of them foreign to an identifier. -/
def settledFilter : Document :=
  [("author", .doc [("neq", .text "0123456789abcdef01234567")]),
   ("rating", .doc [("between", .tuple [.int 1, .int 2])]), ("title", .null),
   ("or", .tuple [.doc [("author", .null)], .doc [("title", .doc [("like", .text "^a")])]])]

def settledQuery : Document :=
  [("author", .doc [("$ne", .objectId (.ofNumber 0x0123456789abcdef01234567))]),
   ("rating", .doc [("$gte", .int 1), ("$lte", .int 2)]), ("title", .doc [("$type", .int 10)]),
   ("$or", .list [.doc [("author", .doc [("$type", .int 10)])],
     .doc [("title", .doc [("$regex", .text "^a"), ("$options", .text "")])]])]

theorem build_fixed_iff_settled :
    replies.OwnColumns ∧
    build replies {} .null (.doc settledFilter) = .ok settledQuery ∧
    ∀ entry, Stands replies settledFilter entry → ¬ Unsettled replies false entry := by
  have hagain : build replies {} .null (.doc settledQuery) = .ok settledQuery := rfl
  exact ⟨ownColumns_replies, rfl, (build_fixed_iff ownColumns_replies rfl).mp hagain⟩

/-- Replies without an author are asked for by the type of their author, and a type is no
identifier. -/
theorem not_fixed_of_null_author :
    ¬ ∀ (model : Model) (settings : Settings) (options : Value) (filter query : Document),
      model.OwnColumns → build model settings options (.doc filter) = .ok query →
      build model settings options (.doc query) = .ok query := by
  intro hall
  have hagain := hall replies {} .null [("author", .null)]
    [("author", .doc [("$type", .int 10)])] ownColumns_replies rfl
  have hrefused : build replies {} .null (.doc [("author", .doc [("$type", .int 10)])]) =
      .error (.notObjectId (.int 10)) := rfl
  rw [hrefused] at hagain
  cases hagain

end Build

end ModelStore.Filter
