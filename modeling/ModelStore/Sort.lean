import ModelStore.Schema.Model
import ModelStore.Settings.Basic
import ModelStore.Text.Blank

/-!
Sort orders. An order is written as a text with commas or as a list; each item names a path and
may end in a direction, or is a pair of the two. Without an item the identifier orders the result,
unless the default sort is disabled.
-/
namespace ModelStore.Sort

open Text

abbrev Key := String × Int

def ascending : Int := 1
def descending : Int := -1

/-- The letter matches in either case; the long s counts as an s. -/
def matchesLetter (letter c : Char) : Bool :=
  c = letter || c = letter.toLower || (letter = 'S' && c = 'ſ')

/-- What is left after a word, both read from their ends. -/
def dropWord? : List Char → List Char → Option (List Char)
  | [], cs => some cs
  | _ :: _, [] => none
  | letter :: word, c :: cs => if matchesLetter letter c then dropWord? word cs else none

def beforeWord? (word reversed : List Char) : Option (List Char) :=
  match dropWord? word reversed with
  | some (c :: rest) => if isBlank c then some (rest.dropWhile isBlank) else none
  | _ => none

/-- The path and the direction of a trimmed item; ascending when it names none. -/
def readItem (item : List Char) : String × Int :=
  let reversed := item.reverse
  match beforeWord? "CSED".toList reversed with
  | some before => (String.ofList (trim before.reverse), descending)
  | none =>
      match beforeWord? "CSA".toList reversed with
      | some before => (String.ofList (trim before.reverse), ascending)
      | none => (String.ofList item, ascending)

def readDirection (v : Value) : Int := if lower v.plain = "desc" then descending else ascending

def ofItem (model : Model) : Value → Result (Option Key)
  | .tuple (name :: direction :: _) => do
      .ok (some (← model.fieldName (← name.path), readDirection direction))
  | .tuple _ => outOfBounds
  | v => do
      match trim v.plain.toList with
      | [] => .ok none
      | item => do
          let (path, sign) := readItem item
          .ok (some (← model.fieldName path, sign))

def items : Value → Result (List Value)
  | .text s => .ok ((cutAt ',' s.toList).map fun item => .text (String.ofList item))
  | v => if v.truthy then v.elements else .ok []

def written (model : Model) (order : Value) : Result (List Key) := do
  .ok ((← (← items order).mapM (ofItem model)).filterMap id)

/-- The order by identifier, unless the call, the model or the datasource disables it. -/
def byDefault (model : Model) (settings : Settings) (options : Value) : Result (List Key) := do
  let call ← options.options
  let disabled := Settings.firstSet
    [(Table.get? call "disable_default_sort").getD .null, model.settings.defaultSortDisabled,
     Settings.ofBool? settings.defaultSortDisabled] (.bool false)
  .ok (if disabled.truthy then [] else [(idField, ascending)])

def build (model : Model) (settings : Settings) (options order : Value) : Result (List Key) := do
  match ← written model order with
  | [] => byDefault model settings options
  | keys => .ok keys

def toValue (keys : List Key) : Value :=
  .list (keys.map fun key => .tuple [.text key.1, .int key.2])

end ModelStore.Sort
