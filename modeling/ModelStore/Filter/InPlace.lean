import ModelStore.Filter.Compile

/-!
Filters compiled in place. The caller's filter itself is sanitized, and so is each filter in a list
under a logical key once it is reached. A failure ends the walk: the level where it happens is
sanitized already, and what had not been reached is left as it was.
-/
namespace ModelStore.Filter

/-- What a walk comes to, and what it leaves of what it walked over. -/
@[ext]
structure Walk (α β : Type) where
  result : Result α
  left : β

mutual

/-- Compiles the conditions of a level one by one, as they stand after the level is sanitized. -/
def walkLevel (target : Target) (query : Document) :
    List (String × Value) → Walk Document Document
  | [] => ⟨.ok query, []⟩
  | (key, condition) :: rest =>
      if isForbidden key then walkLevel target query rest
      else
        let first := walkCondition target key condition
        match first.result with
        | .ok (field, native) =>
            let others := walkLevel target (Table.insert query field native) rest
            ⟨others.result, (key, first.left) :: others.left⟩
        | .error failure => ⟨.error failure, (key, first.left) :: sanitize rest⟩

/-- Only the filters in a list under a logical key are changed by compiling their condition. -/
def walkCondition (target : Target) (key : String) : Value → Walk (String × Value) Value
  | .list branches =>
      if isLogical key then
        let inner := walkBranches target branches
        ⟨(fun queries => ("$" ++ key, .list queries)) <$> inner.result, .list inner.left⟩
      else ⟨compileLeaf target key (.list branches), .list branches⟩
  | .tuple branches =>
      if isLogical key then
        let inner := walkBranches target branches
        ⟨(fun queries => ("$" ++ key, .list queries)) <$> inner.result, .tuple inner.left⟩
      else ⟨compileLeaf target key (.tuple branches), .tuple branches⟩
  | condition => ⟨compileLeaf target key condition, condition⟩

def walkBranches (target : Target) : List Value → Walk (List Value) (List Value)
  | [] => ⟨.ok [], []⟩
  | branch :: rest =>
      let first := walkBranch target branch
      match first.result with
      | .ok query =>
          let others := walkBranches target rest
          ⟨(fun queries => .doc query :: queries) <$> others.result, first.left :: others.left⟩
      | .error failure => ⟨.error failure, first.left :: rest⟩

def walkBranch (target : Target) : Value → Walk Document Value
  | .doc entries =>
      let level := walkLevel target [] entries
      ⟨level.result, .doc level.left⟩
  | v => ⟨.ok [], v⟩

end

/-- Builds the native query of a filter, and leaves the filter as compiling it does. -/
def buildInPlace (model : Model) (settings : Settings) (options filter : Value) :
    Walk Document Value :=
  match filter with
  | .doc entries =>
      match isStrict model settings options with
      | .ok strict => walkBranch ⟨model, settings.nullAsAbsent, strict⟩ (.doc entries)
      | .error failure => ⟨.error failure, .doc entries⟩
  | v => ⟨.ok [], v⟩

end ModelStore.Filter
