import ModelStore.Proofs.Filter.Conditions
import Mathlib.Data.Option.Basic

/-!
A filter asks for all of its conditions at once. At each of its levels the query keeps one
condition for every key that is not erased, the one that the key is compiled to by itself, exactly
when no two keys of any level are compiled to the same native key.
-/
namespace ModelStore.Filter

/-- The levels of a filter, each with the part of the query that it is compiled to. -/
inductive Compiled (filter query : Document) : Document → Document → Prop
  | top : Compiled filter query filter query
  | branch {level conditions inner innerQuery : Document} {entry : String × Value}
      {branches compiled : List Value} :
      Compiled filter query level conditions → entry ∈ level →
      branchesOf? entry = some branches → ("$" ++ entry.1, .list compiled) ∈ conditions →
      (.doc inner, .doc innerQuery) ∈ branches.zip compiled →
      Compiled filter query inner innerQuery

/-- Each entry that is not erased has a condition of its own, in the order of the entries. -/
def Kept (model : Model) (settings : Settings) (options : Value) (level conditions : Document) :
    Prop :=
  List.Forall₂ (fun entry condition =>
    build model settings options (.doc [entry]) = .ok [condition]) (sanitize level) conditions

/-- No two entries that are not erased are written under one native key. -/
def NativeKeysDistinct (model : Model) (level : Document) : Prop :=
  ((sanitize level).map (nativeKey? model)).Nodup

instance (model : Model) (level : Document) : Decidable (NativeKeysDistinct model level) :=
  inferInstanceAs (Decidable (List.Nodup _))

theorem kept_iff_forall₂ {model : Model} {settings : Settings} {options : Value} {strict : Bool}
    (hstrict : isStrict model settings options = .ok strict) (level conditions : Document) :
    Kept model settings options level conditions ↔
      List.Forall₂ (fun entry condition =>
        conditionOf ⟨model, settings.nullAsAbsent, strict⟩ entry = .ok condition)
        (sanitize level) conditions := by
  rw [Kept, List.forall₂_iff_zip, List.forall₂_iff_zip]
  refine and_congr_right fun _ => forall₂_congr fun entry condition => ?_
  refine forall_congr' fun hzip => ?_
  have hentry : entry ∈ sanitize level := (List.of_mem_zip hzip).1
  rw [build_doc hstrict, compile_singleton (mem_sanitize.mp hentry).2]

section Target

variable {target : Target} {level conditions : Document}

/-- One level: its conditions are kept if and only if its native keys are distinct. -/
theorem forall₂_conditionOf_iff (h : compile target level = .ok conditions) :
    List.Forall₂ (fun entry condition => conditionOf target entry = .ok condition)
      (sanitize level) conditions ↔ NativeKeysDistinct target.model level := by
  obtain ⟨own, hown, rfl⟩ := compile_eq_ok.mp h
  have hkeys : NativeKeysDistinct target.model level ↔ (Table.keys own).Nodup := by
    rw [NativeKeysDistinct, map_nativeKey? hown]
    exact List.nodup_map_iff (Option.some_injective String)
  rw [hkeys]
  constructor
  · intro hkept
    have heq : (Table.keys own).map some = (Table.keys (Table.ofList own)).map some := by
      rw [← map_nativeKey? hown, ← map_nativeKey? hkept]
    rw [List.map_injective_iff.mpr (Option.some_injective String) heq]
    exact Table.nodup_keys_ofList own
  · intro hnodup
    rw [Table.ofList_of_nodup hnodup]
    exact hown

/-- The list that the condition of a logical entry holds, where conditions are kept. -/
theorem exists_compiledEach {entry : String × Value} {branches : List Value}
    (hkept : List.Forall₂ (fun entry condition => conditionOf target entry = .ok condition)
      (sanitize level) conditions)
    (hentry : entry ∈ level) (hbranches : branchesOf? entry = some branches) :
    ∃ compiled, compileEach target branches = .ok compiled ∧
      ("$" ++ entry.1, .list compiled) ∈ conditions := by
  have hlive : entry ∈ sanitize level :=
    mem_sanitize.mpr ⟨hentry, isForbidden_of_isLogical (isLogical_of_branchesOf? hbranches)⟩
  obtain ⟨condition, hzip, hcondition⟩ := Result.exists_mem_zip hkept hlive
  simp only [conditionOf, hbranches] at hcondition
  obtain ⟨compiled, hcompiled, h⟩ := Result.bind_eq_ok.mp hcondition
  exact ⟨compiled, hcompiled, Except.ok.inj h ▸ (List.of_mem_zip hzip).2⟩

/-- Where conditions are kept, a filter inside is compiled to the query that stands in its place. -/
theorem compile_inner {entry : String × Value} {branches compiled : List Value}
    {inner innerQuery : Document} (h : compile target level = .ok conditions)
    (hkept : List.Forall₂ (fun entry condition => conditionOf target entry = .ok condition)
      (sanitize level) conditions)
    (hentry : entry ∈ level) (hbranches : branchesOf? entry = some branches)
    (hcompiled : ("$" ++ entry.1, .list compiled) ∈ conditions)
    (hinner : (.doc inner, .doc innerQuery) ∈ branches.zip compiled) :
    compile target inner = .ok innerQuery := by
  obtain ⟨own, hown, hmem⟩ := exists_compiledEach hkept hentry hbranches
  obtain ⟨written, -, hwritten⟩ := compile_eq_ok.mp h
  have hnodup : (Table.keys conditions).Nodup := hwritten ▸ Table.nodup_keys_ofList written
  have heq : some (Value.list own) = some (.list compiled) := by
    rw [← (Table.get?_eq_some_iff_mem hnodup).mpr hmem,
      ← (Table.get?_eq_some_iff_mem hnodup).mpr hcompiled]
  obtain rfl : own = compiled := Value.list.inj (Option.some.inj heq)
  obtain ⟨query, hquery, hdoc⟩ := List.forall₂_zip (compileEach_eq_ok.mp hown) hinner
  rw [← Value.doc.inj hdoc]
  exact hquery

end Target

variable {model : Model} {settings : Settings} {options : Value} {filter query : Document}

theorem Compiled.level {level conditions : Document} (h : Compiled filter query level conditions) :
    Level (fun level entry => entry ∈ level) filter level := by
  induction h with
  | top => exact .top
  | branch _ hentry hbranches _ hinner ih =>
    exact .branch ih hentry hbranches (List.of_mem_zip hinner).1

/-- No condition of a filter is lost, at any level of it, if and only if the native keys of each
level are distinct. -/
theorem kept_iff_nativeKeysDistinct
    (h : build model settings options (.doc filter) = .ok query) :
    (∀ level conditions, Compiled filter query level conditions →
      Kept model settings options level conditions) ↔
    ∀ level, Level (fun level entry => entry ∈ level) filter level →
      NativeKeysDistinct model level := by
  obtain ⟨strict, hstrict⟩ := isStrict_of_build h
  rw [build_doc hstrict] at h
  simp only [kept_iff_forall₂ hstrict]
  constructor
  · intro hkept
    -- Along the levels of the filter their queries are found, each the compiled level itself.
    have hcompiled : ∀ level, Level (fun level entry => entry ∈ level) filter level →
        ∃ conditions, Compiled filter query level conditions ∧
          compile ⟨model, settings.nullAsAbsent, strict⟩ level = .ok conditions := by
      intro level hlevel
      induction hlevel with
      | top => exact ⟨query, .top, h⟩
      | @branch level inner entry branches _ hentry hbranches hinner ih =>
        obtain ⟨conditions, hconditions, hcompile⟩ := ih
        have hlevel := hkept level conditions hconditions
        obtain ⟨compiled, heach, hmem⟩ := exists_compiledEach hlevel hentry hbranches
        obtain ⟨v, hzip, innerQuery, hinnerQuery, rfl⟩ :=
          Result.exists_mem_zip (compileEach_eq_ok.mp heach) hinner
        exact ⟨innerQuery, .branch hconditions hentry hbranches hmem hzip, hinnerQuery⟩
    intro level hlevel
    obtain ⟨conditions, hconditions, hcompile⟩ := hcompiled level hlevel
    exact (forall₂_conditionOf_iff hcompile).mp (hkept level conditions hconditions)
  · intro hdistinct level conditions hconditions
    have hcompile : compile ⟨model, settings.nullAsAbsent, strict⟩ level = .ok conditions := by
      induction hconditions with
      | top => exact h
      | branch hlevel hentry hbranches hmem hinner ih =>
        have hkept := (forall₂_conditionOf_iff ih).mpr (hdistinct _ hlevel.level)
        exact compile_inner ih hkept hentry hbranches hmem hinner
    exact (forall₂_conditionOf_iff hcompile).mpr (hdistinct level hconditions.level)

def nestedFilter : Document :=
  [("title", .text "a"), ("$where", .text "1"),
   ("or", .list [.doc [("rating", .doc [("gt", .int 3)]),
     ("nor", .tuple [.doc [("id", .int 5)], .null])]])]

def nestedQuery : Document :=
  [("title", .text "a"),
   ("$or", .list [.doc [("rating", .doc [("$gt", .int 3)]),
     ("$nor", .list [.doc [("_id", .int 5)], .doc []])]])]

theorem kept_iff_nativeKeysDistinct_nested :
    build (.bare "Post") {} .null (.doc nestedFilter) = .ok nestedQuery ∧
    ((∀ level conditions, Compiled nestedFilter nestedQuery level conditions →
      Kept (.bare "Post") {} .null level conditions) ↔
    ∀ level, Level (fun level entry => entry ∈ level) nestedFilter level →
      NativeKeysDistinct (.bare "Post") level) :=
  ⟨rfl, kept_iff_nativeKeysDistinct rfl⟩

/-- The identifier under its name and under its storage field: the first of the two is lost. -/
theorem not_kept_of_two_identifier_keys :
    ¬ ∀ (model : Model) (settings : Settings) (options : Value) (filter query : Document),
      build model settings options (.doc filter) = .ok query →
      ∀ level conditions, Compiled filter query level conditions →
        Kept model settings options level conditions := by
  intro hkept
  have hlost := hkept (.bare "Post") {} .null [("id", .int 1), ("_id", .int 2)] [("_id", .int 2)]
    rfl _ _ .top
  have hlength : (sanitize [("id", .int 1), ("_id", .int 2)]).length = 1 := hlost.length_eq
  exact absurd hlength (by decide)

end ModelStore.Filter
