import ModelStore.Filter.Compile
import ModelStore.Proofs.Result
import ModelStore.Proofs.Table

/-!
A filter as a list of conditions. Every entry that is not erased is compiled by itself, and the
conditions are written into the query one after the other, so the query is exactly what is left of
them when a later condition takes the native key of an earlier one.
-/
namespace ModelStore.Filter

/-- The filters that an entry leads to: those in a list under a logical key. -/
def branchesOf? : String × Value → Option (List Value)
  | (key, .list branches) => if isLogical key then some branches else none
  | (key, .tuple branches) => if isLogical key then some branches else none
  | _ => none

theorem compileBranches?_eq (target : Target) (key : String) (condition : Value) :
    compileBranches? target key condition =
      match branchesOf? (key, condition) with
      | some branches => some <$> compileEach target branches
      | none => .ok none := by
  cases condition <;> simp only [compileBranches?, branchesOf?] <;> split <;> rfl

/-- What one entry is compiled to by itself. -/
def conditionOf (target : Target) (entry : String × Value) : Result (String × Value) :=
  match branchesOf? entry with
  | some branches => do .ok ("$" ++ entry.1, .list (← compileEach target branches))
  | none => compileLeaf target entry.1 entry.2

theorem conditionOf_of_branches {target : Target} {entry : String × Value} {branches : List Value}
    (h : branchesOf? entry = some branches) :
    conditionOf target entry =
      (fun queries => ("$" ++ entry.1, .list queries)) <$> compileEach target branches := by
  simp only [conditionOf, h]
  rfl

theorem mem_sanitize {level : Document} {entry : String × Value} :
    entry ∈ sanitize level ↔ entry ∈ level ∧ isForbidden entry.1 = false := by
  simp [sanitize]

theorem isForbidden_of_isLogical {key : String} (h : isLogical key = true) :
    isForbidden key = false := by
  have hkey : key = "and" ∨ key = "or" ∨ key = "nor" := by
    simpa [isLogical, logicalKeys] using h
  rcases hkey with rfl | rfl | rfl <;> rfl

theorem isLogical_of_branchesOf? {entry : String × Value} {branches : List Value}
    (h : branchesOf? entry = some branches) : isLogical entry.1 = true := by
  obtain ⟨key, v⟩ := entry
  cases v <;> simp_all [branchesOf?]

theorem compileInto_cons (target : Target) (query : Document) (entry : String × Value)
    (rest : List (String × Value)) (h : isForbidden entry.1 = false) :
    compileInto target query (entry :: rest) =
      conditionOf target entry >>= fun condition =>
        compileInto target (Table.insert query condition.1 condition.2) rest := by
  obtain ⟨key, v⟩ := entry
  rw [compileInto, if_neg (by simpa using h), conditionOf, compileBranches?_eq]
  cases branchesOf? (key, v) with
  | some branches => cases hcompiled : compileEach target branches <;> simp only [hcompiled] <;> rfl
  | none => cases compileLeaf target key v <;> rfl

theorem compileInto_eq (target : Target) (query : Document) (entries : List (String × Value)) :
    compileInto target query entries =
      Table.merge query <$> (sanitize entries).mapM (conditionOf target) := by
  induction entries generalizing query with
  | nil => rfl
  | cons entry rest ih =>
    cases hforbidden : isForbidden entry.1 with
    | true =>
      have herased : sanitize (entry :: rest) = sanitize rest := by simp [sanitize, hforbidden]
      rw [compileInto, if_pos hforbidden, ih, herased]
    | false =>
      have hkept : sanitize (entry :: rest) = entry :: sanitize rest := by
        simp [sanitize, hforbidden]
      rw [compileInto_cons target query entry rest hforbidden, hkept, List.mapM_cons]
      cases conditionOf target entry with
      | error f => rfl
      | ok condition =>
        show compileInto target (Table.insert query condition.1 condition.2) rest = _
        rw [ih]
        cases (sanitize rest).mapM (conditionOf target) <;> rfl

theorem compile_eq_ok {target : Target} {filter query : Document} :
    compile target filter = .ok query ↔
      ∃ conditions,
        List.Forall₂ (fun entry condition => conditionOf target entry = .ok condition)
          (sanitize filter) conditions ∧
        Table.ofList conditions = query := by
  rw [compile, compileInto_eq, Result.map_eq_ok]
  simp only [Result.mapM_eq_ok]
  rfl

/-- An entry that is not erased has, as a filter of its own, its own condition. -/
theorem compile_singleton {target : Target} {entry condition : String × Value}
    (h : isForbidden entry.1 = false) :
    compile target [entry] = .ok [condition] ↔ conditionOf target entry = .ok condition := by
  rw [compile, compileInto_cons target [] entry [] h, Result.bind_eq_ok]
  constructor
  · intro hcompiled
    obtain ⟨own, hown, hwritten⟩ := hcompiled
    have heq : [(own.1, own.2)] = [condition] := Except.ok.inj hwritten
    rw [hown, (List.cons.inj heq).1.symm]
  · intro hcondition
    exact ⟨condition, hcondition, rfl⟩

theorem exists_conditionOf {target : Target} {level query : Document} {entry : String × Value}
    (h : compile target level = .ok query) (hentry : entry ∈ sanitize level) :
    ∃ condition, conditionOf target entry = .ok condition := by
  obtain ⟨conditions, hconditions, -⟩ := compile_eq_ok.mp h
  obtain ⟨condition, -, hcondition⟩ := Result.exists_mem_zip hconditions hentry
  exact ⟨condition, hcondition⟩

def nativeOf (target : Target) (definition : Option Property) (asked : Value) : Result Value :=
  match specOf definition asked with
  | some spec => do
      let operand ← prepareOperand definition target.strict spec
      applyOperator spec.tag operand spec.modifiers
  | none =>
      if asked.isNull then .ok (nullCondition target.nullAsAbsent)
      else Coercion.coerceValue definition target.strict asked

theorem compileLeaf_eq (target : Target) (key : String) (asked : Value) :
    compileLeaf target key asked =
      target.model.fieldName key >>= fun field =>
        definitionOf target.model field key >>= fun definition =>
          Prod.mk field <$> nativeOf target definition asked := by
  refine bind_congr fun field => bind_congr fun definition => ?_
  rw [nativeOf]
  cases specOf definition asked with
  | some spec =>
    refine (Result.map_bind_congr fun operand _ => ?_).symm
    cases applyOperator spec.tag operand spec.modifiers <;> rfl
  | none =>
    dsimp only
    split
    · rfl
    · cases Coercion.coerceValue definition target.strict asked <;> rfl

theorem compileLeaf_eq_ok {target : Target} {key : String} {asked : Value}
    {condition : String × Value} :
    compileLeaf target key asked = .ok condition ↔
      target.model.fieldName key = .ok condition.1 ∧
        ∃ definition, definitionOf target.model condition.1 key = .ok definition ∧
          nativeOf target definition asked = .ok condition.2 := by
  rw [compileLeaf_eq, Result.bind_eq_ok]
  constructor
  · intro hleaf
    obtain ⟨field, hfield, h⟩ := hleaf
    obtain ⟨definition, hdefinition, h⟩ := Result.bind_eq_ok.mp h
    obtain ⟨native, hnative, rfl⟩ := Result.map_eq_ok.mp h
    exact ⟨hfield, definition, hdefinition, hnative⟩
  · intro hleaf
    obtain ⟨hfield, definition, hdefinition, hnative⟩ := hleaf
    refine ⟨condition.1, hfield, Result.bind_eq_ok.mpr ⟨definition, hdefinition, ?_⟩⟩
    rw [hnative]
    rfl

theorem fieldName_of_compileLeaf {target : Target} {key : String} {v : Value}
    {condition : String × Value} (h : compileLeaf target key v = .ok condition) :
    target.model.fieldName key = .ok condition.1 :=
  (compileLeaf_eq_ok.mp h).1

def nativeKey? (model : Model) (entry : String × Value) : Option String :=
  match branchesOf? entry with
  | some _ => some ("$" ++ entry.1)
  | none => (model.fieldName entry.1).toOption

theorem nativeKey?_of_conditionOf {target : Target} {entry condition : String × Value}
    (h : conditionOf target entry = .ok condition) :
    nativeKey? target.model entry = some condition.1 := by
  unfold conditionOf at h
  unfold nativeKey?
  cases hbranches : branchesOf? entry with
  | some branches =>
    simp only [hbranches] at h
    obtain ⟨compiled, -, h⟩ := Result.bind_eq_ok.mp h
    exact congrArg (some ∘ Prod.fst) (Except.ok.inj h)
  | none =>
    simp only [hbranches] at h
    rw [fieldName_of_compileLeaf h]
    rfl

theorem map_nativeKey? {target : Target} {entries conditions : List (String × Value)}
    (h : List.Forall₂ (fun entry condition => conditionOf target entry = .ok condition)
      entries conditions) :
    entries.map (nativeKey? target.model) = (Table.keys conditions).map some := by
  induction h with
  | nil => rfl
  | cons hhead _ ih =>
    rw [List.map_cons, nativeKey?_of_conditionOf hhead, ih]
    rfl

/-- The entry is not erased, and no later one that is not erased has its native key. -/
def Stands (model : Model) (level : Document) (entry : String × Value) : Prop :=
  ∃ before after, sanitize level = before ++ entry :: after ∧
    ∀ later ∈ after, nativeKey? model later ≠ nativeKey? model entry

theorem Stands.mem {model : Model} {level : Document} {entry : String × Value}
    (h : Stands model level entry) : entry ∈ sanitize level :=
  Table.IsLast.mem h

/-- A query holds the conditions of the entries that stand, and nothing else. -/
theorem mem_compile {target : Target} {level query : Document} {condition : String × Value}
    (h : compile target level = .ok query) :
    condition ∈ query ↔
      ∃ entry, Stands target.model level entry ∧ conditionOf target entry = .ok condition := by
  obtain ⟨conditions, hconditions, rfl⟩ := compile_eq_ok.mp h
  refine Table.mem_ofList_iff_isLast (fun _ _ hkey => Option.some.inj hkey)
    (fun _ _ hcondition => nativeKey?_of_conditionOf hcondition) ?_ hconditions
  intro _ _ _ hcondition hcondition'
  exact Except.ok.inj (hcondition.symm.trans hcondition')

theorem compile_eq_nil_iff {target : Target} {filter query : Document}
    (h : compile target filter = .ok query) :
    query = [] ↔ ∀ entry ∈ filter, isForbidden entry.1 = true := by
  obtain ⟨conditions, hconditions, rfl⟩ := compile_eq_ok.mp h
  rw [Table.ofList_eq_nil_iff, Result.eq_nil_iff_of_forall₂ hconditions, sanitize,
    List.filter_eq_nil_iff]
  simp

theorem compileEach_eq_ok {target : Target} {branches compiled : List Value} :
    compileEach target branches = .ok compiled ↔
      List.Forall₂ (fun branch v => ∃ query, compileBranch target branch = .ok query ∧
        .doc query = v) branches compiled := by
  induction branches generalizing compiled with
  | nil => cases compiled <;> simp [compileEach]
  | cons branch rest ih =>
    rw [compileEach, List.forall₂_cons_left_iff, Result.bind_eq_ok]
    constructor
    · intro hcompiled
      obtain ⟨query, hquery, h⟩ := hcompiled
      obtain ⟨tail, htail, h⟩ := Result.bind_eq_ok.mp h
      exact ⟨.doc query, tail, ⟨query, hquery, rfl⟩, ih.mp htail, (Except.ok.inj h).symm⟩
    · intro hcompiled
      obtain ⟨v, tail, ⟨query, hquery, rfl⟩, htail, rfl⟩ := hcompiled
      exact ⟨query, hquery, Result.bind_eq_ok.mpr ⟨tail, ih.mpr htail, rfl⟩⟩

/-- The filters inside a filter, as far as the entries that lead on reach. -/
inductive Level (leads : Document → String × Value → Prop) (filter : Document) : Document → Prop
  | top : Level leads filter filter
  | branch {level inner : Document} {entry : String × Value} {branches : List Value} :
      Level leads filter level → leads level entry → branchesOf? entry = some branches →
      .doc inner ∈ branches → Level leads filter inner

theorem build_doc {model : Model} {settings : Settings} {options : Value} {strict : Bool}
    (hstrict : isStrict model settings options = .ok strict) (filter : Document) :
    build model settings options (.doc filter) =
      compile ⟨model, settings.nullAsAbsent, strict⟩ filter := by
  rw [build, hstrict]
  rfl

theorem isStrict_of_build {model : Model} {settings : Settings} {options : Value}
    {filter query : Document} (h : build model settings options (.doc filter) = .ok query) :
    ∃ strict, isStrict model settings options = .ok strict := by
  obtain ⟨strict, hstrict, -⟩ := Result.bind_eq_ok.mp h
  exact ⟨strict, hstrict⟩

end ModelStore.Filter
