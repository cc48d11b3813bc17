import ModelStore.Filter.Compile
import ModelStore.Proofs.Result

/-!
The form of a native condition. Operators that compare leave a document with one native name and
the operand under it. Ranges, patterns and points leave something else: a document of bounds or of
pattern and flags, or a name with an operand that no field holds.
-/
namespace ModelStore.Filter

/-- What an operator is compiled to. -/
inductive NativeForm (tag : String) (operand : Value) : Value → Prop
  | passed : Operator.ofTag? tag = none → NativeForm tag operand (native tag operand)
  | unequal : Operator.ofTag? tag = some .neq → NativeForm tag operand (.doc [("$ne", operand)])
  | among : Operator.ofTag? tag = some .inq →
      NativeForm tag operand (.doc [("$in", .list (candidates operand))])
  | notAmong : Operator.ofTag? tag = some .nin →
      NativeForm tag operand (.doc [("$nin", .list (candidates operand))])
  | range {low high : Value} : Operator.ofTag? tag = some .between →
      NativeForm tag operand (.doc [("$gte", low), ("$lte", high)])
  | written {op : Operator} {source flags : String} : Operator.ofTag? tag = some op →
      op = .regexp ∨ op = .like →
      NativeForm tag operand (.doc [("$regex", .text source), ("$options", .text flags)])
  | ready : Operator.ofTag? tag = some .like → isPattern operand = true →
      NativeForm tag operand (.doc [("$regex", operand)])
  | negated {pattern : Value} : Operator.ofTag? tag = some .nlike → isPattern pattern = true →
      NativeForm tag operand (.doc [("$not", pattern)])
  | near {search : Document} : Operator.ofTag? tag = some .near → search ≠ [] →
      NativeForm tag operand (.doc [("$near", .doc search)])

variable {tag : String} {operand condition : Value} {modifiers : Document}

theorem NativeForm.exists_eq_doc (h : NativeForm tag operand condition) :
    ∃ entries, condition = .doc entries := by
  cases h <;> exact ⟨_, rfl⟩

theorem nativeForm_of_comparison? (h : comparison? tag operand = .ok (some condition)) :
    NativeForm tag operand condition := by
  unfold comparison? at h
  split at h
  · rename_i htag
    obtain ⟨⟨low, high⟩, -, h⟩ := Result.bind_eq_ok.mp h
    obtain rfl := Option.some.inj (Except.ok.inj h)
    exact .range htag
  · rename_i htag
    obtain rfl := Option.some.inj (Except.ok.inj h)
    exact .unequal htag
  · cases h

theorem nativeForm_of_membership? (h : membership? tag operand = some condition) :
    NativeForm tag operand condition := by
  unfold membership? at h
  split at h
  · rename_i htag
    obtain rfl := Option.some.inj h
    exact .among htag
  · rename_i htag
    obtain rfl := Option.some.inj h
    exact .notAmong htag
  · cases h

/-- A text under `like` or `nlike` is searched for as it is written; only a pattern is ready. -/
theorem isPattern_of_searched? {op : Operator} (htag : Operator.ofTag? tag = some op)
    (hop : op = .like ∨ op = .nlike) (h : searched? tag operand modifiers = .ok none) :
    isPattern operand = true := by
  unfold searched? at h
  rcases hop with rfl | rfl
  all_goals
    simp only [htag] at h
    split at h
    · assumption
    · cases h

theorem nativeForm_of_search? (h : search? tag operand modifiers = .ok (some condition)) :
    NativeForm tag operand condition := by
  obtain ⟨written, hwritten, h⟩ := Result.bind_eq_ok.mp h
  split at h
  · rename_i htag
    obtain rfl := Option.some.inj (Except.ok.inj h)
    exact .written htag (.inl rfl)
  · rename_i htag
    obtain rfl := Option.some.inj (Except.ok.inj h)
    exact .written htag (.inr rfl)
  · rename_i htag
    obtain rfl := Option.some.inj (Except.ok.inj h)
    exact .negated htag rfl
  · rename_i htag
    obtain rfl := Option.some.inj (Except.ok.inj h)
    exact .ready htag (isPattern_of_searched? htag (.inl rfl) hwritten)
  · rename_i htag
    obtain rfl := Option.some.inj (Except.ok.inj h)
    exact .negated htag (isPattern_of_searched? htag (.inr rfl) hwritten)
  · cases h

theorem nativeForm_of_proximity? (h : proximity? tag operand modifiers = .ok (some condition)) :
    NativeForm tag operand condition := by
  unfold proximity? at h
  split at h
  · rename_i htag
    obtain ⟨center, -, h⟩ := Result.bind_eq_ok.mp h
    obtain ⟨most, -, h⟩ := Result.bind_eq_ok.mp h
    obtain ⟨least, -, h⟩ := Result.bind_eq_ok.mp h
    obtain rfl := Option.some.inj (Except.ok.inj h)
    exact .near htag (by simp)
  · cases h

/-- Each operator belongs to a family: a tag that none of the families knows is no operator. -/
theorem ofTag?_eq_none_of_families (hcomparison : comparison? tag operand = .ok none)
    (hmembership : membership? tag operand = none)
    (hsearch : search? tag operand modifiers = .ok none)
    (hproximity : proximity? tag operand modifiers = .ok none) : Operator.ofTag? tag = none := by
  cases htag : Operator.ofTag? tag with
  | none => rfl
  | some op =>
    simp only [comparison?, htag] at hcomparison
    simp only [membership?, htag] at hmembership
    simp only [proximity?, htag] at hproximity
    obtain ⟨written, hwritten, hsearched⟩ := Result.bind_eq_ok.mp hsearch
    simp only [htag] at hsearched
    cases op with
    | between =>
      obtain ⟨bounds, -, h⟩ := Result.bind_eq_ok.mp hcomparison
      cases h
    | neq => cases hcomparison
    | inq => cases hmembership
    | nin => cases hmembership
    | near =>
      obtain ⟨center, -, h⟩ := Result.bind_eq_ok.mp hproximity
      obtain ⟨most, -, h⟩ := Result.bind_eq_ok.mp h
      obtain ⟨least, -, h⟩ := Result.bind_eq_ok.mp h
      cases h
    | like => cases written <;> cases hsearched
    | nlike => cases written <;> cases hsearched
    | regexp =>
      cases written with
      | some p => cases hsearched
      | none =>
        simp only [searched?, htag] at hwritten
        obtain ⟨p, -, hp⟩ := Result.map_eq_ok.mp hwritten
        cases hp

theorem nativeForm_of_applyOperator (h : applyOperator tag operand modifiers = .ok condition) :
    NativeForm tag operand condition := by
  obtain ⟨compared, hcompared, h⟩ := Result.bind_eq_ok.mp h
  cases compared with
  | some compared =>
    obtain rfl := Except.ok.inj h
    exact nativeForm_of_comparison? hcompared
  | none =>
    dsimp only at h
    split at h
    · rename_i hmember
      obtain rfl := Except.ok.inj h
      exact nativeForm_of_membership? hmember
    · rename_i hmember
      obtain ⟨searched, hsearched, h⟩ := Result.bind_eq_ok.mp h
      cases searched with
      | some searched =>
        obtain rfl := Except.ok.inj h
        exact nativeForm_of_search? hsearched
      | none =>
        obtain ⟨near, hnear, h⟩ := Result.bind_eq_ok.mp h
        cases near with
        | some near =>
          obtain rfl := Except.ok.inj h
          exact nativeForm_of_proximity? hnear
        | none =>
          obtain rfl := Except.ok.inj h
          exact .passed (ofTag?_eq_none_of_families hcompared hmember hsearched hnear)

end ModelStore.Filter
