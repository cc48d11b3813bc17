import ModelStore.Value.Access
import ModelStore.Text.Path

/-!
Operators of the filter language. Eight tags have rules of their own; any other tag stands for the
native operator of the same name. Modifiers travel beside a tag and are no operators.
-/
namespace ModelStore.Filter

inductive Operator where
  | between
  | inq
  | nin
  | neq
  | like
  | nlike
  | regexp
  | near
  deriving DecidableEq, Inhabited

namespace Operator

def all : List Operator := [between, inq, nin, neq, like, nlike, regexp, near]

def tag : Operator → String
  | between => "between"
  | inq => "inq"
  | nin => "nin"
  | neq => "neq"
  | like => "like"
  | nlike => "nlike"
  | regexp => "regexp"
  | near => "near"

def ofTag? (tag : String) : Option Operator := all.find? (·.tag = tag)

/-- Operands that are patterns or points and no property values. -/
def takesRawOperand : Operator → Bool
  | like | nlike | regexp | near => true
  | _ => false

end Operator

def modifierKeys : List String := ["options", "maxDistance", "minDistance", "unit"]

def isModifier (key : String) : Bool := modifierKeys.contains key

/-- An operator with its operand and modifiers. -/
structure Spec where
  tag : String
  operand : Value
  modifiers : Document

/-- A document is an operator specification when exactly one of its keys is no modifier. -/
def Spec.ofDocument? (entries : Document) : Option Spec :=
  match entries.filter fun entry => !isModifier entry.1 with
  | [(tag, operand)] => some ⟨tag, operand, entries.filter fun entry => isModifier entry.1⟩
  | _ => none

def nativeName (tag : String) : String := if tag.toList.head? = some '$' then tag else "$" ++ tag

def native (tag : String) (operand : Value) : Value := .doc [(nativeName tag, operand)]

def rangeBounds : Value → Result (Value × Value)
  | .list [low, high] => .ok (low, high)
  | .tuple [low, high] => .ok (low, high)
  | _ => .error .notRange

def comparison? (tag : String) (operand : Value) : Result (Option Value) :=
  match Operator.ofTag? tag with
  | some .between => do
      let (low, high) ← rangeBounds operand
      .ok (some (.doc [("$gte", low), ("$lte", high)]))
  | some .neq => .ok (some (.doc [("$ne", operand)]))
  | _ => .ok none

/-- A list of candidates: the elements of a list or tuple, or the value alone. -/
def candidates : Value → List Value
  | .list items => items
  | .tuple items => items
  | v => [v]

def membership? (tag : String) (operand : Value) : Option Value :=
  match Operator.ofTag? tag with
  | some .inq => some (.doc [("$in", .list (candidates operand))])
  | some .nin => some (.doc [("$nin", .list (candidates operand))])
  | _ => none

end ModelStore.Filter
