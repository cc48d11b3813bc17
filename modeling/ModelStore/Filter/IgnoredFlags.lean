import ModelStore.Filter.Compile
import ModelStore.Notice

/-!
Notices of a filter. Every pattern that asks for the flag of repeated matching is reported under
its native field, in the order in which the conditions are compiled and up to the first one that
fails; a condition that fails reports nothing.
-/
namespace ModelStore.Filter

/-- What was reported, and whether the walk came to its end. -/
structure Report where
  fields : List String
  finished : Bool
  deriving Inhabited

namespace Report

def none : Report := ⟨[], true⟩

def failed : Report := ⟨[], false⟩

def andThen (first : Report) (second : Report) : Report :=
  if first.finished then ⟨first.fields ++ second.fields, second.finished⟩ else first

end Report

def reportLeaf (target : Target) (key : String) (condition : Value) : Report :=
  match compileLeaf target key condition, target.model.fieldName key with
  | .ok _, .ok field =>
      match definitionOf target.model field key with
      | .ok definition =>
          match specOf definition condition with
          | some spec =>
              if asksForGlobal spec.tag spec.operand spec.modifiers then ⟨[field], true⟩
              else .none
          | none => .none
      | .error _ => .failed
  | _, _ => .failed

mutual

def report (target : Target) : List (String × Value) → Report
  | [] => .none
  | (key, condition) :: rest =>
      if isForbidden key then report target rest
      else
        (match reportBranches? target key condition with
          | some branches => branches
          | none => reportLeaf target key condition).andThen (report target rest)

def reportBranches? (target : Target) (key : String) : Value → Option Report
  | .list branches => if isLogical key then some (reportEach target branches) else none
  | .tuple branches => if isLogical key then some (reportEach target branches) else none
  | _ => none

def reportEach (target : Target) : List Value → Report
  | [] => .none
  | .doc entries :: rest => (report target entries).andThen (reportEach target rest)
  | _ :: rest => reportEach target rest

end

def notices (model : Model) (settings : Settings) (options filter : Value) : List Notice :=
  match filter, isStrict model settings options with
  | .doc entries, .ok strict =>
      (report ⟨model, settings.nullAsAbsent, strict⟩ entries).fields.map Notice.ignoredFlag
  | _, _ => []

end ModelStore.Filter
