import ModelStore.Text.Path
import Mathlib.Data.List.TakeWhile

/-!
The segments of a path whose head is put in another's place. The first segment is everything before
the first dot, so a head without a dot becomes the first segment and leaves the others alone. A path
without a dot is all head.
-/
namespace ModelStore.Text

theorem forall_ne_of_not_mem {separator : Char} {cs : List Char} (h : separator ∉ cs) :
    ∀ c ∈ cs, decide (c ≠ separator) = true := by
  intro c hc
  have hne : c ≠ separator := by
    rintro rfl
    exact h hc
  simpa using hne

theorem cutAt_of_not_mem {separator : Char} {cs : List Char} (h : separator ∉ cs) :
    cutAt separator cs = [cs] := by
  induction cs with
  | nil => rfl
  | cons c cs ih =>
    have hparts : separator ≠ c ∧ separator ∉ cs := by simpa using h
    rw [cutAt, if_neg hparts.1.symm, ih hparts.2]

theorem cutAt_append {separator : Char} {cs : List Char} (rest : List Char) (h : separator ∉ cs) :
    cutAt separator (cs ++ separator :: rest) = cs :: cutAt separator rest := by
  induction cs with
  | nil => simp [cutAt]
  | cons c cs ih =>
    have hparts : separator ≠ c ∧ separator ∉ cs := by simpa using h
    rw [List.cons_append, cutAt, if_neg hparts.1.symm, ih hparts.2]

/-- The first separator parts a text in one way only. -/
theorem append_separator_inj {separator : Char} {cs ds rest rest' : List Char}
    (hcs : separator ∉ cs) (hds : separator ∉ ds)
    (h : cs ++ separator :: rest = ds ++ separator :: rest') : cs = ds ∧ rest = rest' := by
  have hpieces := congrArg (cutAt separator) h
  rw [cutAt_append rest hcs, cutAt_append rest' hds] at hpieces
  obtain rfl := (List.cons.inj hpieces).1
  exact ⟨rfl, (List.cons.inj (List.append_cancel_left h)).2⟩

/-- Pieces without a separator are cut apart again where they were joined. -/
theorem cutAt_joinWith {separator : Char} {pieces : List (List Char)} (hset : pieces ≠ [])
    (hpieces : ∀ piece ∈ pieces, separator ∉ piece) :
    cutAt separator (joinWith separator pieces) = pieces := by
  induction pieces with
  | nil => exact absurd rfl hset
  | cons piece rest ih =>
    have hpiece : separator ∉ piece := hpieces piece List.mem_cons_self
    cases rest with
    | nil => exact cutAt_of_not_mem hpiece
    | cons next rest =>
      have hjoined : joinWith separator (piece :: next :: rest) =
          piece ++ separator :: joinWith separator (next :: rest) := rfl
      rw [hjoined, cutAt_append _ hpiece, ih (by simp) fun piece' hpiece' =>
        hpieces piece' (List.mem_cons_of_mem piece hpiece')]

theorem hasDot_pathHead (path : String) : hasDot (pathHead path) = false := by
  have hmem : '.' ∉ path.toList.takeWhile (· ≠ '.') := by
    intro hdot
    simpa using List.mem_takeWhile_imp hdot
  simpa [hasDot, pathHead] using hmem

/-- What follows the head is nothing, or a dot and a path of its own. -/
theorem pathRest_eq (path : String) :
    (pathRest path).toList = [] ∨ ∃ rest, (pathRest path).toList = '.' :: rest := by
  rw [pathRest, String.toList_ofList]
  cases hrest : path.toList.dropWhile (· ≠ '.') with
  | nil => exact Or.inl rfl
  | cons c rest =>
    have hhead : decide (c ≠ '.') = false := by
      have h := List.head?_dropWhile_not (fun c : Char => decide (c ≠ '.')) path.toList
      rwa [hrest] at h
    have hc : c = '.' := by simpa using hhead
    exact Or.inr ⟨rest, by rw [hc]⟩

/-- The segments after the head are the same for every head without a dot. -/
theorem exists_segments_append (path : String) :
    ∃ rest, segments path = pathHead path :: rest ∧
      ∀ head, hasDot head = false → segments (head ++ pathRest path) = head :: rest := by
  suffices hall : ∃ rest, ∀ head, hasDot head = false →
      segments (head ++ pathRest path) = head :: rest by
    obtain ⟨rest, hrest⟩ := hall
    have hhead := hrest (pathHead path) (hasDot_pathHead path)
    exact ⟨rest, by rwa [pathHead_append_pathRest] at hhead, hrest⟩
  have hmem : ∀ {head : String}, hasDot head = false → '.' ∉ head.toList := by
    intro head hhead
    simpa [hasDot] using hhead
  rcases pathRest_eq path with hrest | ⟨rest, hrest⟩
  · refine ⟨[], fun head hhead => ?_⟩
    rw [segments, String.toList_append, hrest, List.append_nil, cutAt_of_not_mem (hmem hhead),
      List.map_singleton, String.ofList_toList]
  · refine ⟨(cutAt '.' rest).map String.ofList, fun head hhead => ?_⟩
    rw [segments, String.toList_append, hrest, cutAt_append rest (hmem hhead), List.map_cons,
      String.ofList_toList]

private theorem not_mem_of_undotted {path : String} (h : hasDot path = false) :
    '.' ∉ path.toList := by
  simpa [hasDot] using h

theorem segments_of_undotted {path : String} (h : hasDot path = false) :
    segments path = [path] := by
  rw [segments, cutAt_of_not_mem (not_mem_of_undotted h), List.map_singleton,
    String.ofList_toList]

/-- A head without a dot is the head of what it is put in front of. -/
theorem pathHead_append {head rest : String} (hhead : hasDot head = false)
    (hrest : rest.toList = [] ∨ ∃ cs, rest.toList = '.' :: cs) : pathHead (head ++ rest) = head := by
  have hall := forall_ne_of_not_mem (not_mem_of_undotted hhead)
  have hnone : rest.toList.takeWhile (· ≠ '.') = [] := by
    rcases hrest with hrest | ⟨cs, hrest⟩
    · rw [hrest, List.takeWhile_nil]
    · rw [hrest, List.takeWhile_cons_of_neg (by simp)]
  rw [pathHead, String.toList_append, List.takeWhile_append_of_pos hall, hnone, List.append_nil,
    String.ofList_toList]

theorem pathHead_of_undotted {path : String} (h : hasDot path = false) : pathHead path = path := by
  have happend : pathHead (path ++ "") = path := pathHead_append h (Or.inl rfl)
  rwa [String.append_empty] at happend

theorem pathRest_of_undotted {path : String} (h : hasDot path = false) : pathRest path = "" := by
  have hall := pathHead_append_pathRest path
  rw [pathHead_of_undotted h] at hall
  exact (String.append_right_inj path).mp (hall.trans String.append_empty.symm)

end ModelStore.Text
