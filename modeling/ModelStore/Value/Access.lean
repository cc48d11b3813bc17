import ModelStore.Failure
import ModelStore.Text.Integer

/-!
Values used as something in particular: as a table, as a sequence, as an integer, as a path. Each
use succeeds for the shapes that allow it and is refused for the others.
-/
namespace ModelStore.Value

open Text

/-- Asks a value for an operation under a name. Native results have members but no operations. -/
def refuse {α : Type} (v : Value) (name : String) : Result α :=
  if (v.member? name).isSome then wrongType else noMember

def entries : Value → Result Document
  | .doc entries => .ok entries
  | v => v.refuse "items"

def lookups : Value → Result Document
  | .doc entries => .ok entries
  | v => v.refuse "get"

/-- Call options: a document, or nothing at all. -/
def options (v : Value) : Result Document := if v.truthy then v.lookups else .ok []

def member (v : Value) (name : String) : Result Value :=
  match v.member? name with
  | some w => .ok w
  | none => noMember

/-- The elements of a value in order; the elements of a document are its keys. -/
def elements : Value → Result (List Value)
  | .list items => .ok items
  | .tuple items => .ok items
  | .text s => .ok (s.toList.map fun c => .text (String.singleton c))
  | .bytes bs => .ok (bs.map fun b => .int b.toNat)
  | .doc entries => .ok (entries.map fun entry => .text entry.1)
  | _ => wrongType

def keyedPair (v : Value) : Result (String × Value) := do
  match ← v.elements with
  | [key, value] =>
      match key with
      | .text k => .ok (k, value)
      | key => if key.isContainer then wrongType else noMember
  | _ => badContents

/-- A document, or a sequence of pairs read as one. -/
def toDocument : Value → Result Document
  | .doc entries => .ok entries
  | v => do
      let pairs ← (← v.elements).mapM keyedPair
      .ok (Table.ofList pairs)

def path : Value → Result String
  | .text s => .ok s
  | .bytes _ => wrongType
  | _ => noMember

/-- The integer a value stands for: fractions are cut off and texts are read. -/
def toInteger : Value → Result Int
  | .bool b => .ok (if b then 1 else 0)
  | .int n => .ok n
  | .float .nan => badContents
  | .float x =>
      match x.truncate? with
      | some n => .ok n
      | none => tooLarge
  | .decimal (.nan _ _ _) => badContents
  | .decimal d =>
      match d.truncate? with
      | some n => .ok n
      | none => tooLarge
  | .text s =>
      match readInteger? s.toList with
      | some n => .ok n
      | none => badContents
  | .bytes bs =>
      match readInteger? (bs.map fun b => Char.ofNat b.toNat) with
      | some n => .ok n
      | none => badContents
  | _ => wrongType

def column : Value → Result String
  | .text s => .ok s
  | _ => wrongType

end ModelStore.Value
