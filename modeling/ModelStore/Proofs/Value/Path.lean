import ModelStore.Proofs.Coercion.Value
import ModelStore.Proofs.Table
import ModelStore.Text.Digit

/-!
Paths into values, and values with a hole in them. A segment of a path is a key of a document, or the
position of an element of a list. A value that stands inside documents and lists is found at the path
that names its place in each of them.
-/
namespace ModelStore

def Text.index? (segment : String) : Option Nat :=
  if allDigits segment.toList && segment.toList.all isDecimal then some (value segment.toList)
  else none

theorem Text.allDigits_of_index? {segment : String} {i : Nat} (h : index? segment = some i) :
    allDigits segment.toList = true := by
  rw [index?] at h
  split at h
  · rename_i hdigits
    exact (Bool.and_eq_true_iff.mp hdigits).1
  · cases h

namespace Value

def child? : Value → String → Option Value
  | .doc entries, key => Table.get? entries key
  | v, segment => (Text.index? segment).bind fun i => v.listed[i]?

def found? : Value → List String → Option Value
  | v, [] => some v
  | v, segment :: path => (v.child? segment).bind fun w => w.found? path

/-- A document or a list with one place left open. -/
inductive Layer where
  | entry (before : Document) (key : String) (after : Document)
  | element (before after : List Value)

namespace Layer

def fill : Layer → Value → Value
  | entry before key after, v => .doc (before ++ (key, v) :: after)
  | element before after, v => .list (before ++ v :: after)

def OpenAt (segment : String) : Layer → Prop
  | entry before key _ => segment = key ∧ key ∉ Table.keys before
  | element before _ => Text.index? segment = some before.length

theorem child?_fill {segment : String} {layer : Layer} (h : layer.OpenAt segment) (v : Value) :
    (layer.fill v).child? segment = some v := by
  cases layer with
  | entry before key after =>
    obtain ⟨rfl, hkey⟩ := h
    induction before with
    | nil => simp [fill, child?, Table.get?_cons]
    | cons entry rest ih =>
      have hparts : segment ≠ entry.1 ∧ segment ∉ Table.keys rest := by
        simpa [Table.keys] using hkey
      change Table.get? (entry :: (rest ++ (segment, v) :: after)) segment = some v
      rw [Table.get?_cons, if_neg hparts.1.symm]
      exact ih hparts.2
  | element before after =>
    have hindex : Text.index? segment = some before.length := h
    simp [fill, child?, hindex, listed]

end Layer

/-- A value inside layers, the outermost first. -/
def nest (layers : List Layer) (v : Value) : Value := layers.foldr Layer.fill v

theorem found?_nest {path : List String} {layers : List Layer}
    (h : List.Forall₂ (fun segment layer => layer.OpenAt segment) path layers) (v : Value) :
    (nest layers v).found? path = some v := by
  induction h with
  | nil => rfl
  | @cons segment layer path layers hopen _ ih =>
    change ((layer.fill (nest layers v)).child? segment).bind (fun w => w.found? path) = some v
    rw [Layer.child?_fill hopen, Option.bind_some, ih]

end Value

end ModelStore
