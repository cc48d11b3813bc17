import ModelStore.Filter.InPlace
import ModelStore.Proofs.Filter.Conditions
import ModelStore.Proofs.Value.Parts

/-!
Sanitizing is erasing. A filter is built to the query of the filter without its forbidden keys, or
fails as that one does. The caller's filter is left without those keys, at every level that logical
keys lead to, and loses nothing else; so it can be built again, and comes to the same.
-/
namespace ModelStore.Filter

mutual

/-- A filter without forbidden keys at any level that logical keys lead to. -/
def erase : List (String × Value) → Document
  | [] => []
  | (key, condition) :: rest =>
      if isForbidden key then erase rest
      else (key, if isLogical key then eraseBranches condition else condition) :: erase rest

def eraseBranches : Value → Value
  | .list branches => .list (eraseEach branches)
  | .tuple branches => .tuple (eraseEach branches)
  | v => v

def eraseEach : List Value → List Value
  | [] => []
  | .doc entries :: rest => .doc (erase entries) :: eraseEach rest
  | v :: rest => v :: eraseEach rest

end

def eraseBranch : Value → Value
  | .doc entries => .doc (erase entries)
  | v => v

def eraseCondition (key : String) (condition : Value) : Value :=
  if isLogical key then eraseBranches condition else condition

def eraseEntry (entry : String × Value) : String × Value :=
  (entry.1, eraseCondition entry.1 entry.2)

theorem eraseEach_eq_map (branches : List Value) :
    eraseEach branches = branches.map eraseBranch := by
  induction branches with
  | nil => rfl
  | cons branch rest ih => cases branch <;> simp [eraseEach, eraseBranch, ih]

theorem erase_cons (entry : String × Value) (rest : Document) :
    erase (entry :: rest) = if isForbidden entry.1 then erase rest
      else eraseEntry entry :: erase rest := rfl

theorem erase_eq_map (entries : Document) :
    erase entries = (sanitize entries).map eraseEntry := by
  induction entries with
  | nil => rfl
  | cons entry rest ih =>
    rw [erase_cons]
    cases hforbidden : isForbidden entry.1 with
    | true => simp [sanitize, hforbidden, ih]
    | false => simp [sanitize, hforbidden, ih]

/-- Keys are erased or kept, so nothing is left to sanitize. -/
theorem sanitize_erase (entries : Document) : sanitize (erase entries) = erase entries := by
  refine List.filter_eq_self.mpr fun entry hentry => ?_
  rw [erase_eq_map] at hentry
  obtain ⟨given, hgiven, rfl⟩ := List.mem_map.mp hentry
  simp [eraseEntry, (mem_sanitize.mp hgiven).2]

theorem erase_sanitize (entries : Document) : erase (sanitize entries) = erase entries := by
  rw [erase_eq_map, erase_eq_map, sanitize, sanitize, List.filter_filter]
  simp only [Bool.and_self]

theorem eraseCondition_list {key : String} (h : isLogical key = true) (branches : List Value) :
    eraseCondition key (.list branches) = .list (branches.map eraseBranch) := by
  simp only [eraseCondition, h, if_true, eraseBranches, eraseEach_eq_map]

theorem eraseCondition_tuple {key : String} (h : isLogical key = true) (branches : List Value) :
    eraseCondition key (.tuple branches) = .tuple (branches.map eraseBranch) := by
  simp only [eraseCondition, h, if_true, eraseBranches, eraseEach_eq_map]

/-- The lists of filters are those under a logical key; nothing else is looked into. -/
theorem branches_cases {motive : String × Value → Prop} (entry : String × Value)
    (list : ∀ key branches, isLogical key = true → motive (key, .list branches))
    (tuple : ∀ key branches, isLogical key = true → motive (key, .tuple branches))
    (leaf : ∀ entry, branchesOf? entry = none → motive entry) : motive entry := by
  obtain ⟨key, v⟩ := entry
  cases hkey : isLogical key with
  | true =>
    cases v with
    | list branches => exact list key branches hkey
    | tuple branches => exact tuple key branches hkey
    | _ => exact leaf _ rfl
  | false => exact leaf _ (by cases v <;> simp [branchesOf?, hkey])

/-- A condition that leads to no filters is kept as it is. -/
theorem eraseCondition_of_leaf {entry : String × Value} (h : branchesOf? entry = none) :
    eraseCondition entry.1 entry.2 = entry.2 := by
  obtain ⟨key, v⟩ := entry
  cases hkey : isLogical key with
  | true =>
    cases v with
    | list branches => simp [branchesOf?, hkey] at h
    | tuple branches => simp [branchesOf?, hkey] at h
    | _ => rw [eraseCondition, if_pos hkey]; rfl
  | false => simp only [eraseCondition, hkey, Bool.false_eq_true, if_false]

theorem eraseEntry_of_leaf {entry : String × Value} (h : branchesOf? entry = none) :
    eraseEntry entry = entry :=
  Prod.ext rfl (eraseCondition_of_leaf h)

theorem branchesOf?_eraseEntry (entry : String × Value) :
    branchesOf? (eraseEntry entry) = (branchesOf? entry).map (·.map eraseBranch) := by
  cases entry using branches_cases with
  | list key branches h => simp [eraseEntry, eraseCondition_list h, branchesOf?, h]
  | tuple key branches h => simp [eraseEntry, eraseCondition_tuple h, branchesOf?, h]
  | leaf entry h => rw [eraseEntry_of_leaf h, h, Option.map_none]

/-- Induction on filters: what holds of a filter whenever it holds of all in its lists, and of
everything that is no filter, holds of whatever can stand in such a list. -/
theorem branchInduction {motive : Value → Prop}
    (other : ∀ v, (∀ entries, v ≠ .doc entries) → motive v)
    (filter : ∀ entries, (∀ entry ∈ entries, ∀ branches, branchesOf? entry = some branches →
      ∀ branch ∈ branches, motive branch) → motive (.doc entries)) (v : Value) : motive v := by
  suffices hboth : motive v ∧ ∀ w ∈ v.listed, motive w from hboth.1
  induction v using Value.partsInduction with
  | step v ih =>
    cases v with
    | doc entries =>
      refine ⟨filter entries fun entry hentry branches hbranches => ?_, List.forall_mem_nil _⟩
      have hlisted := (ih entry.2 (List.mem_map_of_mem hentry)).2
      cases entry using branches_cases with
      | list key items hkey => exact (Option.some.inj ((if_pos hkey).symm.trans hbranches)) ▸ hlisted
      | tuple key items hkey =>
        exact (Option.some.inj ((if_pos hkey).symm.trans hbranches)) ▸ hlisted
      | leaf entry hleaf => cases hleaf.symm.trans hbranches
    | list items =>
      refine ⟨other _ fun entries hdoc => ?_, fun w hw => (ih w hw).1⟩
      cases hdoc
    | tuple items =>
      refine ⟨other _ fun entries hdoc => ?_, fun w hw => (ih w hw).1⟩
      cases hdoc
    | _ =>
      refine ⟨other _ fun entries hdoc => ?_, List.forall_mem_nil _⟩
      cases hdoc

theorem eraseEntry_eraseEntry {entry : String × Value}
    (h : ∀ branches, branchesOf? entry = some branches →
      ∀ branch ∈ branches, eraseBranch (eraseBranch branch) = eraseBranch branch) :
    eraseEntry (eraseEntry entry) = eraseEntry entry := by
  have hmap : ∀ branches, branchesOf? entry = some branches →
      (branches.map eraseBranch).map eraseBranch = branches.map eraseBranch := by
    intro branches hbranches
    rw [List.map_map]
    exact List.map_congr_left (h branches hbranches)
  cases entry using branches_cases with
  | list key branches hkey =>
    simp only [eraseEntry, eraseCondition_list hkey]
    rw [hmap branches (if_pos hkey)]
  | tuple key branches hkey =>
    simp only [eraseEntry, eraseCondition_tuple hkey]
    rw [hmap branches (if_pos hkey)]
  | leaf entry hleaf => rw [eraseEntry_of_leaf hleaf, eraseEntry_of_leaf hleaf]

theorem eraseBranch_eraseBranch (v : Value) : eraseBranch (eraseBranch v) = eraseBranch v := by
  induction v using branchInduction with
  | other v hv =>
    cases v with
    | doc entries => exact absurd rfl (hv entries)
    | _ => rfl
  | filter entries ih =>
    refine congrArg Value.doc ?_
    rw [erase_eq_map (erase entries), sanitize_erase, erase_eq_map, List.map_map]
    refine List.map_congr_left fun entry hentry => ?_
    exact eraseEntry_eraseEntry (ih entry (mem_sanitize.mp hentry).1)

/-- Nothing is left to erase. -/
theorem erase_erase (entries : Document) : erase (erase entries) = erase entries :=
  Value.doc.inj (eraseBranch_eraseBranch (.doc entries))

section Compile

variable {target : Target} {entry : String × Value} {branches : List Value} {v : Value}

theorem compileEach_map_eraseBranch
    (h : ∀ branch ∈ branches, compileBranch target (eraseBranch branch) =
      compileBranch target branch) :
    compileEach target (branches.map eraseBranch) = compileEach target branches := by
  induction branches with
  | nil => rfl
  | cons branch rest ih =>
    rw [List.map_cons, compileEach, compileEach, h branch List.mem_cons_self,
      ih fun later hlater => h later (List.mem_cons_of_mem _ hlater)]

theorem conditionOf_eraseEntry
    (h : ∀ branches, branchesOf? entry = some branches → ∀ branch ∈ branches,
      compileBranch target (eraseBranch branch) = compileBranch target branch) :
    conditionOf target (eraseEntry entry) = conditionOf target entry := by
  cases hbranches : branchesOf? entry with
  | none => rw [eraseEntry_of_leaf hbranches]
  | some branches =>
    have herased : branchesOf? (eraseEntry entry) = some (branches.map eraseBranch) := by
      rw [branchesOf?_eraseEntry, hbranches, Option.map_some]
    rw [conditionOf_of_branches herased, conditionOf_of_branches hbranches,
      compileEach_map_eraseBranch (h branches hbranches)]
    rfl

theorem compileBranch_eraseBranch (target : Target) (v : Value) :
    compileBranch target (eraseBranch v) = compileBranch target v := by
  induction v using branchInduction with
  | other v hv =>
    cases v with
    | doc entries => exact absurd rfl (hv entries)
    | _ => rfl
  | filter entries ih =>
    have hconditions : (erase entries).mapM (conditionOf target) =
        (sanitize entries).mapM (conditionOf target) := by
      rw [erase_eq_map, List.mapM_map]
      refine Result.mapM_congr fun entry hentry => ?_
      exact conditionOf_eraseEntry (ih entry (mem_sanitize.mp hentry).1)
    change compileInto target [] (erase entries) = compileInto target [] entries
    rw [compileInto_eq, compileInto_eq, sanitize_erase, hconditions]

/-- What is erased has no part in the query, nor in a failure. -/
theorem compile_erase (target : Target) (filter : Document) :
    compile target (erase filter) = compile target filter :=
  compileBranch_eraseBranch target (.doc filter)

end Compile

/-- The walk comes to the result. It leaves what was given without what is erased if it succeeds,
and has erased nothing else if it fails. -/
structure Walk.Sanitizes {α β : Type} (walk : Walk α β) (erase : β → β) (given : β)
    (result : Result α) : Prop where
  outcome : walk.result = result
  erased : ∀ a, result = .ok a → walk.left = erase given
  only : erase walk.left = erase given

section Walk

/-- A walk whose outcome and leftovers are put into something more. -/
theorem Walk.Sanitizes.map {α β γ δ : Type} {walk : Walk α β} {erase : β → β} {given : β}
    {result : Result α} {f : α → γ} {wrap : β → δ} {eraseWrapped : δ → δ}
    (h : walk.Sanitizes erase given result)
    (hwrap : ∀ b, eraseWrapped (wrap b) = wrap (erase b)) :
    Walk.Sanitizes ⟨f <$> walk.result, wrap walk.left⟩ eraseWrapped (wrap given) (f <$> result) := by
  refine ⟨congrArg (f <$> ·) h.outcome, fun c hc => ?_, ?_⟩
  · obtain ⟨a, ha, -⟩ := Result.map_eq_ok.mp hc
    rw [hwrap, h.erased a ha]
  · rw [hwrap, hwrap, h.only]

variable {target : Target} {query : Document} {entry : String × Value} {branch : Value}
  {branches : List Value} {entries rest : Document}

theorem walkBranches_cons_ok (h : (walkBranch target branch).result = .ok query) :
    walkBranches target (branch :: branches) =
      ⟨(fun queries => .doc query :: queries) <$> (walkBranches target branches).result,
        (walkBranch target branch).left :: (walkBranches target branches).left⟩ := by
  simp only [walkBranches, h]

theorem walkBranches_cons_error {failure : Failure}
    (h : (walkBranch target branch).result = .error failure) :
    walkBranches target (branch :: branches) =
      ⟨.error failure, (walkBranch target branch).left :: branches⟩ := by
  simp only [walkBranches, h]

theorem walkLevel_cons_ok {condition : String × Value} (hkept : isForbidden entry.1 = false)
    (h : (walkCondition target entry.1 entry.2).result = .ok condition) :
    walkLevel target query (entry :: rest) =
      ⟨(walkLevel target (Table.insert query condition.1 condition.2) rest).result,
        (entry.1, (walkCondition target entry.1 entry.2).left) ::
          (walkLevel target (Table.insert query condition.1 condition.2) rest).left⟩ := by
  obtain ⟨key, v⟩ := entry
  simp only [walkLevel, hkept, h, Bool.false_eq_true, if_false]

theorem walkLevel_cons_error {failure : Failure} (hkept : isForbidden entry.1 = false)
    (h : (walkCondition target entry.1 entry.2).result = .error failure) :
    walkLevel target query (entry :: rest) =
      ⟨.error failure, (entry.1, (walkCondition target entry.1 entry.2).left) :: sanitize rest⟩ := by
  obtain ⟨key, v⟩ := entry
  simp only [walkLevel, hkept, h, Bool.false_eq_true, if_false]

theorem walkBranches_sanitizes
    (h : ∀ branch ∈ branches, (walkBranch target branch).Sanitizes eraseBranch branch
      (compileBranch target branch)) :
    (walkBranches target branches).Sanitizes (List.map eraseBranch) branches
      (compileEach target branches) := by
  induction branches with
  | nil => exact ⟨rfl, fun _ _ => rfl, rfl⟩
  | cons branch rest ih =>
    have hfirst := h branch List.mem_cons_self
    have hrest := ih fun later hlater => h later (List.mem_cons_of_mem _ hlater)
    rw [compileEach]
    cases hquery : compileBranch target branch with
    | error failure =>
      rw [walkBranches_cons_error (hfirst.outcome.trans hquery)]
      refine ⟨rfl, fun _ hfails => ?_, ?_⟩
      · cases hfails
      · rw [List.map_cons, hfirst.only, List.map_cons]
    | ok query =>
      rw [walkBranches_cons_ok (hfirst.outcome.trans hquery)]
      refine ⟨?_, fun queries hqueries => ?_, ?_⟩
      · rw [hrest.outcome]
        cases compileEach target rest <;> rfl
      · obtain ⟨_, hfound, hqueries⟩ := Result.bind_eq_ok.mp hqueries
        obtain ⟨others, hothers, -⟩ := Result.bind_eq_ok.mp hqueries
        rw [hfirst.erased query hquery, hrest.erased others hothers, List.map_cons]
      · rw [List.map_cons, hfirst.only, hrest.only, List.map_cons]

theorem walkCondition_of_leaf (h : branchesOf? entry = none) :
    walkCondition target entry.1 entry.2 = ⟨compileLeaf target entry.1 entry.2, entry.2⟩ := by
  obtain ⟨key, v⟩ := entry
  cases v with
  | list branches => simp_all [branchesOf?, walkCondition]
  | tuple branches => simp_all [branchesOf?, walkCondition]
  | _ => rfl

theorem walkCondition_sanitizes
    (h : ∀ branches, branchesOf? entry = some branches → ∀ branch ∈ branches,
      (walkBranch target branch).Sanitizes eraseBranch branch (compileBranch target branch)) :
    (walkCondition target entry.1 entry.2).Sanitizes (eraseCondition entry.1) entry.2
      (conditionOf target entry) := by
  cases entry using branches_cases with
  | list key branches hkey =>
    have hbranches : branchesOf? (key, .list branches) = some branches := if_pos hkey
    have hwalk : walkCondition target key (.list branches) =
        ⟨(fun queries => ("$" ++ key, .list queries)) <$> (walkBranches target branches).result,
          .list (walkBranches target branches).left⟩ := if_pos hkey
    rw [hwalk, conditionOf_of_branches hbranches]
    exact (walkBranches_sanitizes (h branches hbranches)).map (eraseCondition_list hkey)
  | tuple key branches hkey =>
    have hbranches : branchesOf? (key, .tuple branches) = some branches := if_pos hkey
    have hwalk : walkCondition target key (.tuple branches) =
        ⟨(fun queries => ("$" ++ key, .list queries)) <$> (walkBranches target branches).result,
          .tuple (walkBranches target branches).left⟩ := if_pos hkey
    rw [hwalk, conditionOf_of_branches hbranches]
    exact (walkBranches_sanitizes (h branches hbranches)).map (eraseCondition_tuple hkey)
  | leaf entry hleaf =>
    rw [walkCondition_of_leaf hleaf, conditionOf, hleaf]
    exact ⟨rfl, fun _ _ => (eraseCondition_of_leaf hleaf).symm, rfl⟩

theorem walkLevel_sanitizes
    (h : ∀ entry ∈ entries, ∀ branches, branchesOf? entry = some branches → ∀ branch ∈ branches,
      (walkBranch target branch).Sanitizes eraseBranch branch (compileBranch target branch))
    (query : Document) :
    (walkLevel target query entries).Sanitizes erase entries (compileInto target query entries) := by
  induction entries generalizing query with
  | nil => exact ⟨rfl, fun _ _ => rfl, rfl⟩
  | cons entry rest ih =>
    have hfirst := walkCondition_sanitizes (h entry List.mem_cons_self)
    have hrest := ih fun later hlater => h later (List.mem_cons_of_mem _ hlater)
    cases hforbidden : isForbidden entry.1 with
    | true =>
      have hlevel : walkLevel target query (entry :: rest) = walkLevel target query rest :=
        if_pos hforbidden
      have hcompiled : compileInto target query (entry :: rest) = compileInto target query rest :=
        if_pos hforbidden
      have herased : erase (entry :: rest) = erase rest := if_pos hforbidden
      rw [hlevel, hcompiled]
      exact ⟨(hrest query).outcome, herased ▸ (hrest query).erased, herased ▸ (hrest query).only⟩
    | false =>
      have herased : ∀ left rest, erase ((entry.1, left) :: rest) =
          (entry.1, eraseCondition entry.1 left) :: erase rest := fun _ _ =>
        if_neg (by simp [hforbidden])
      rw [compileInto_cons target query entry rest hforbidden]
      cases hcondition : conditionOf target entry with
      | error failure =>
        rw [walkLevel_cons_error hforbidden (hfirst.outcome.trans hcondition)]
        refine ⟨rfl, fun _ hfails => ?_, ?_⟩
        · cases hfails
        · rw [herased, herased, hfirst.only, erase_sanitize]
      | ok condition =>
        rw [walkLevel_cons_ok hforbidden (hfirst.outcome.trans hcondition)]
        have hothers := hrest (Table.insert query condition.1 condition.2)
        refine ⟨hothers.outcome, fun built hbuilt => ?_, ?_⟩
        · rw [herased, hfirst.erased condition hcondition, hothers.erased built hbuilt]
        · rw [herased, herased, hfirst.only, hothers.only]

theorem walkBranch_sanitizes (target : Target) (v : Value) :
    (walkBranch target v).Sanitizes eraseBranch v (compileBranch target v) := by
  induction v using branchInduction with
  | other v hv =>
    cases v with
    | doc entries => exact absurd rfl (hv entries)
    | _ => exact ⟨rfl, fun _ _ => rfl, rfl⟩
  | filter entries ih =>
    have hlevel := walkLevel_sanitizes ih []
    refine ⟨hlevel.outcome, fun query hquery => ?_, ?_⟩
    · exact congrArg Value.doc (hlevel.erased query hquery)
    · exact congrArg Value.doc hlevel.only

end Walk

section Build

variable {model : Model} {settings : Settings} {options : Value}

/-- The walk over a filter comes to what the filter without its forbidden keys comes to, and a
second walk over what it leaves comes to the same. A walk that succeeds leaves the filter without
its forbidden keys, which a second walk leaves as it is. -/
structure SanitizesByErasing (model : Model) (settings : Settings) (options : Value)
    (filter : Document) (walk : Walk Document Value) : Prop where
  built : walk.result = build model settings options (.doc filter)
  outcome : walk.result = (buildInPlace model settings options (.doc (erase filter))).result
  erased : ∀ query, walk.result = .ok query → walk.left = .doc (erase filter)
  again : (buildInPlace model settings options walk.left).result = walk.result
  settled : ∀ query, walk.result = .ok query → buildInPlace model settings options walk.left = walk

theorem build_erase (model : Model) (settings : Settings) (options : Value) (filter : Document) :
    build model settings options (.doc (erase filter)) =
      build model settings options (.doc filter) := by
  cases hstrict : isStrict model settings options with
  | error failure => simp only [build, hstrict]; rfl
  | ok strict => rw [build_doc hstrict, build_doc hstrict, compile_erase]

theorem buildInPlace_sanitizes (model : Model) (settings : Settings) (options : Value)
    (filter : Document) :
    (buildInPlace model settings options (.doc filter)).Sanitizes eraseBranch (.doc filter)
      (build model settings options (.doc filter)) := by
  cases hstrict : isStrict model settings options with
  | error failure =>
    simp only [buildInPlace, build, hstrict]
    exact ⟨rfl, fun _ hfails => (by cases hfails), rfl⟩
  | ok strict =>
    rw [build_doc hstrict, buildInPlace, hstrict]
    exact walkBranch_sanitizes _ (.doc filter)

theorem buildInPlace_result (model : Model) (settings : Settings) (options v : Value) :
    (buildInPlace model settings options v).result = build model settings options v := by
  cases v with
  | doc filter => exact (buildInPlace_sanitizes model settings options filter).outcome
  | _ => rfl

/-- What is left of a filter is a filter that erases to the same. -/
theorem exists_buildInPlace_left (model : Model) (settings : Settings) (options : Value)
    (filter : Document) :
    ∃ left, (buildInPlace model settings options (.doc filter)).left = .doc left ∧
      erase left = erase filter := by
  have honly := (buildInPlace_sanitizes model settings options filter).only
  cases hleft : (buildInPlace model settings options (.doc filter)).left with
  | doc left =>
    rw [hleft] at honly
    exact ⟨left, rfl, Value.doc.inj honly⟩
  | _ => simp [hleft, eraseBranch] at honly

/-- Without its forbidden keys, a filter that can be built is walked over as it is with them. -/
theorem buildInPlace_erase {filter query : Document}
    (h : build model settings options (.doc filter) = .ok query) :
    buildInPlace model settings options (.doc (erase filter)) =
      buildInPlace model settings options (.doc filter) := by
  have hbuilt : build model settings options (.doc (erase filter)) = .ok query :=
    (build_erase model settings options filter).trans h
  refine Walk.ext ?_ ?_
  · rw [buildInPlace_result, buildInPlace_result, build_erase]
  · rw [(buildInPlace_sanitizes model settings options filter).erased query h,
      (buildInPlace_sanitizes model settings options (erase filter)).erased query hbuilt,
      eraseBranch, eraseBranch, erase_erase]

theorem buildInPlace_sanitizesByErasing (model : Model) (settings : Settings) (options : Value)
    (filter : Document) :
    SanitizesByErasing model settings options filter
      (buildInPlace model settings options (.doc filter)) := by
  have hwalk := buildInPlace_sanitizes model settings options filter
  obtain ⟨left, hleft, hsame⟩ := exists_buildInPlace_left model settings options filter
  have hagain : (buildInPlace model settings options (.doc left)).result =
      (buildInPlace model settings options (.doc filter)).result := by
    rw [buildInPlace_result, buildInPlace_result, ← build_erase, hsame, build_erase]
  refine ⟨hwalk.outcome, ?_, fun query hquery => ?_, hleft ▸ hagain, fun query hquery => ?_⟩
  · rw [buildInPlace_result, buildInPlace_result, build_erase]
  · exact hwalk.erased query (hwalk.outcome.symm.trans hquery)
  · rw [hwalk.erased query (hwalk.outcome.symm.trans hquery)]
    exact buildInPlace_erase (hwalk.outcome.symm.trans hquery)

/-- Code beside a list of filters and inside one of them, and in a document that no logical key
leads to. -/
def spoiledFilter : Document :=
  [("$where", .text "1"), ("meta", .doc [("$where", .text "1"), ("x", .int 1)]),
   ("or", .tuple [.doc [("and", .list [.doc [("mapReduce", .text "1"), ("title", .text "a")]])],
     .null])]

theorem buildInPlace_sanitizesByErasing_spoiled :
    buildInPlace (.bare "Post") {} .null (.doc spoiledFilter) =
      ⟨.ok [("meta", .doc [("$where", .text "1"), ("x", .int 1)]),
          ("$or", .list [.doc [("$and", .list [.doc [("title", .text "a")]])], .doc []])],
        .doc [("meta", .doc [("$where", .text "1"), ("x", .int 1)]),
          ("or", .tuple [.doc [("and", .list [.doc [("title", .text "a")]])], .null])]⟩ ∧
    SanitizesByErasing (.bare "Post") {} .null spoiledFilter
      (buildInPlace (.bare "Post") {} .null (.doc spoiledFilter)) :=
  ⟨rfl, buildInPlace_sanitizesByErasing (.bare "Post") {} .null spoiledFilter⟩

end Build

end ModelStore.Filter
