/-!
Tables that remember the order in which their keys were first written. Writing a key that is
already there changes its value in place; looking a key up finds the value written last.
-/
namespace ModelStore

abbrev Table (α : Type) := List (String × α)

namespace Table

variable {α β : Type}

def get? : Table α → String → Option α
  | [], _ => none
  | (k, v) :: rest, key => if k = key then some v else get? rest key

def contains (t : Table α) (key : String) : Bool := (get? t key).isSome

def keys (t : Table α) : List String := t.map Prod.fst

def insert : Table α → String → α → Table α
  | [], key, value => [(key, value)]
  | (k, v) :: rest, key, value =>
      if k = key then (key, value) :: rest else (k, v) :: insert rest key value

def erase (t : Table α) (key : String) : Table α := t.filter (·.1 ≠ key)

/-- Writes the entries of the second table over the first, one after the other. -/
def merge (t : Table α) (entries : Table α) : Table α :=
  entries.foldl (fun t entry => insert t entry.1 entry.2) t

def ofList (entries : List (String × α)) : Table α := merge [] entries

def mapValues (f : α → β) (t : Table α) : Table β := t.map fun entry => (entry.1, f entry.2)

@[simp] theorem get?_nil (key : String) : get? ([] : Table α) key = none := rfl

theorem get?_cons (k : String) (v : α) (rest : Table α) (key : String) :
    get? ((k, v) :: rest) key = if k = key then some v else get? rest key := rfl

@[simp] theorem get?_insert_self (t : Table α) (key : String) (value : α) :
    get? (insert t key value) key = some value := by
  induction t with
  | nil => simp [insert, get?]
  | cons entry rest ih =>
    obtain ⟨k, v⟩ := entry
    by_cases h : k = key
    · simp [insert, get?, h]
    · simp [insert, get?, h, ih]

theorem get?_insert_of_ne (t : Table α) {key other : String} (value : α) (h : key ≠ other) :
    get? (insert t key value) other = get? t other := by
  induction t with
  | nil => simp [insert, get?, h]
  | cons entry rest ih =>
    obtain ⟨k, v⟩ := entry
    by_cases hk : k = key
    · subst hk
      simp [insert, get?, h]
    · simp only [insert, if_neg hk, get?, ih]

theorem keys_insert (t : Table α) (key : String) (value : α) :
    keys (insert t key value) = if (keys t).contains key then keys t else keys t ++ [key] := by
  induction t with
  | nil => simp [insert, keys]
  | cons entry rest ih =>
    obtain ⟨k, v⟩ := entry
    by_cases h : k = key
    · simp [insert, keys, h]
    · have h' : key ≠ k := fun e => h e.symm
      have hrest : keys (insert ((k, v) :: rest) key value) =
          k :: keys (insert rest key value) := by simp [insert, keys, h]
      rw [hrest, ih]
      by_cases hm : (keys rest).contains key
      · have : (keys ((k, v) :: rest)).contains key := by
          simp only [keys, List.map_cons, List.contains_cons, Bool.or_eq_true]
          exact .inr hm
        rw [if_pos hm, if_pos this]
        rfl
      · have : ¬(keys ((k, v) :: rest)).contains key := by
          simp only [keys, List.map_cons, List.contains_cons, Bool.or_eq_true, not_or]
          exact ⟨by simpa using h', hm⟩
        rw [if_neg hm, if_neg this]
        rfl

end Table

end ModelStore
