/-!
Texts cut at a separator. A dotted path names a place inside a document: its head is a property,
its rest leads on from there. Joining what a cut produces gives the text back.
-/
namespace ModelStore.Text

/-- The pieces between the separators; a text without one is its own single piece. -/
def cutAt (separator : Char) : List Char → List (List Char)
  | [] => [[]]
  | c :: cs =>
      if c = separator then [] :: cutAt separator cs
      else match cutAt separator cs with
        | [] => [[c]]
        | piece :: pieces => (c :: piece) :: pieces

def joinWith (separator : Char) : List (List Char) → List Char
  | [] => []
  | [piece] => piece
  | piece :: pieces => piece ++ separator :: joinWith separator pieces

def segments (path : String) : List String :=
  (cutAt '.' path.toList).map String.ofList

def pathHead (path : String) : String :=
  String.ofList (path.toList.takeWhile (· ≠ '.'))

/-- The first dot and everything after it; empty when there is no dot. -/
def pathRest (path : String) : String :=
  String.ofList (path.toList.dropWhile (· ≠ '.'))

def hasDot (path : String) : Bool := path.toList.contains '.'

theorem pathHead_append_pathRest (path : String) : pathHead path ++ pathRest path = path := by
  rw [pathHead, pathRest, ← String.ofList_append, List.takeWhile_append_dropWhile,
    String.ofList_toList]

end ModelStore.Text
