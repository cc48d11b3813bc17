/-!
Identifiers of twelve bytes, written as 24 hexadecimal digits. Reading ignores the case of the
letters and writing uses small ones, so two texts name the same identifier exactly when they
differ in case only.
-/
namespace ModelStore

structure ObjectId where
  digits : List (Fin 16)
  length_digits : digits.length = 24
  deriving DecidableEq

namespace ObjectId

def hexValue? (c : Char) : Option (Fin 16) :=
  if '0' ≤ c ∧ c ≤ '9' then some (Fin.ofNat 16 (c.toNat - 48))
  else if 'a' ≤ c ∧ c ≤ 'f' then some (Fin.ofNat 16 (c.toNat - 87))
  else if 'A' ≤ c ∧ c ≤ 'F' then some (Fin.ofNat 16 (c.toNat - 55))
  else none

def isHex (c : Char) : Bool := (hexValue? c).isSome

def ofChars? (cs : List Char) : Option ObjectId :=
  match cs.mapM hexValue? with
  | some digits => if h : digits.length = 24 then some ⟨digits, h⟩ else none
  | none => none

def ofText? (s : String) : Option ObjectId := ofChars? s.toList

def text (id : ObjectId) : String :=
  String.ofList (id.digits.map fun d => Nat.digitChar d.val)

def ofNumber (n : Nat) : ObjectId :=
  ⟨(List.range 24).map fun i => Fin.ofNat 16 (n / Nat.pow 16 (23 - i)), by simp⟩

instance : Inhabited ObjectId := ⟨ofNumber 0⟩

/-- A text is taken for an identifier when it has 24 hexadecimal digits and at most a line end
after them. -/
def isIdText (s : String) : Bool :=
  let cs := s.toList
  let digits := cs.take 24
  digits.length = 24 && digits.all isHex && (cs.drop 24 = [] || cs.drop 24 = ['\n'])

theorem hexValue?_digitChar (d : Fin 16) : hexValue? (Nat.digitChar d.val) = some d := by
  revert d
  decide

theorem ofText?_text (id : ObjectId) : ofText? id.text = some id := by
  obtain ⟨digits, h⟩ := id
  have hmap : ∀ ds : List (Fin 16),
      (ds.map fun d => Nat.digitChar d.val).mapM hexValue? = some ds := by
    intro ds
    induction ds with
    | nil => rfl
    | cons d ds ih => simp [hexValue?_digitChar, ih]
  simp [ofText?, ofChars?, text, hmap, h]

end ObjectId

end ModelStore
