import ModelStore.Proofs.Storage.FieldName
import Mathlib.Data.Bool.AllAny

/-!
Items of an order in words. A path is parted by blanks from the direction behind it, and blanks
around the two do not count. An item is read from its end, so the path comes back whole unless it
ends in such a direction itself; without a direction it is ascending.
-/
namespace ModelStore.Sort

open Text

def AllBlank (cs : List Char) : Prop := ∀ c ∈ cs, isBlank c = true

instance (cs : List Char) : Decidable (AllBlank cs) := List.decidableBAll (isBlank · = true) cs

/-- There is no blank at either end. -/
structure IsTrimmed (cs : List Char) : Prop where
  head : ∀ c ∈ cs.head?, isBlank c = false
  last : ∀ c ∈ cs.getLast?, isBlank c = false

theorem isTrimmed_iff {cs : List Char} : IsTrimmed cs ↔
    cs.head?.all (!isBlank ·) = true ∧ cs.getLast?.all (!isBlank ·) = true := by
  have hend (o : Option Char) : (∀ c ∈ o, isBlank c = false) ↔ o.all (!isBlank ·) = true := by
    cases o <;> simp
  rw [← hend, ← hend]
  constructor
  · intro h
    exact ⟨h.head, h.last⟩
  · intro h
    exact ⟨h.1, h.2⟩

instance (cs : List Char) : Decidable (IsTrimmed cs) := decidable_of_iff _ isTrimmed_iff.symm

/-- Blanks are dropped up to the first character that is none. -/
theorem dropWhile_blanks {before rest : List Char} (hbefore : AllBlank before)
    (hrest : ∀ c ∈ rest.head?, isBlank c = false) : (before ++ rest).dropWhile isBlank = rest := by
  rw [List.dropWhile_append_of_pos hbefore]
  cases rest with
  | nil => rfl
  | cons c rest => exact List.dropWhile_cons_of_neg (by simp [hrest c rfl])

/-- Blanks around a trimmed text are all that trimming takes away. -/
theorem trim_padded {before core after : List Char} (hbefore : AllBlank before)
    (hcore : IsTrimmed core) (hafter : AllBlank after) : trim (before ++ core ++ after) = core := by
  by_cases hempty : core = []
  · have hall : AllBlank (before ++ after) := by
      intro c hc
      rcases List.mem_append.mp hc with hc | hc
      · exact hbefore c hc
      · exact hafter c hc
    have hnone : (before ++ after ++ []).dropWhile isBlank = [] := dropWhile_blanks hall (by simp)
    rw [List.append_nil] at hnone
    rw [hempty, List.append_nil, trim, trimWhere, trimStart, hnone]
    rfl
  · have hstart : (before ++ (core ++ after)).dropWhile isBlank = core ++ after := by
      apply dropWhile_blanks hbefore
      rw [List.head?_append_of_ne_nil core hempty]
      exact hcore.head
    have hend : (after.reverse ++ core.reverse).dropWhile isBlank = core.reverse := by
      apply dropWhile_blanks fun c hc => hafter c (List.mem_reverse.mp hc)
      rw [List.head?_reverse]
      exact hcore.last
    rw [trim, trimWhere, trimStart, List.append_assoc, hstart, trimEnd, List.reverse_append, hend,
      List.reverse_reverse]

/-- The characters match the letters of a word as an item is read. -/
def Matches (letters cs : List Char) : Prop :=
  List.Forall₂ (fun letter c => matchesLetter letter c = true) letters cs

/-- The characters are the letters of a word, each as a capital or as a small letter. -/
def Spells (letters cs : List Char) : Prop :=
  List.Forall₂ (fun letter c => c = letter ∨ c = letter.toLower) letters cs

theorem Spells.matches {letters cs : List Char} (h : Spells letters cs) : Matches letters cs := by
  refine List.Forall₂.imp ?_ h
  intro letter c hc
  rcases hc with rfl | rfl <;> simp [matchesLetter]

theorem dropWord?_eq_some_iff {word cs rest : List Char} :
    dropWord? word cs = some rest ↔ ∃ matched, Matches word matched ∧ cs = matched ++ rest := by
  induction word generalizing cs with
  | nil =>
    rw [dropWord?, Option.some.injEq]
    constructor
    · intro h
      exact ⟨[], .nil, h⟩
    · intro h
      obtain ⟨matched, hmatched, rfl⟩ := h
      obtain rfl := List.forall₂_nil_left_iff.mp hmatched
      rfl
  | cons letter word ih =>
    cases cs with
    | nil =>
      refine iff_of_false (by simp [dropWord?]) ?_
      intro h
      obtain ⟨matched, hmatched, hnil⟩ := h
      obtain ⟨rfl, -⟩ := List.append_eq_nil_iff.mp hnil.symm
      cases hmatched
    | cons c cs =>
      rw [dropWord?]
      constructor
      · intro h
        split at h
        · rename_i hc
          obtain ⟨matched, hmatched, rfl⟩ := ih.mp h
          exact ⟨c :: matched, .cons hc hmatched, rfl⟩
        · cases h
      · intro h
        obtain ⟨matched, hmatched, hcs⟩ := h
        obtain ⟨d, tail, hd, htail, rfl⟩ := List.forall₂_cons_left_iff.mp hmatched
        obtain ⟨rfl, rfl⟩ := List.cons.inj hcs
        rw [if_pos hd]
        exact ih.mpr ⟨tail, htail, rfl⟩

/-- Read from the end, a word that blanks part from what is before it leaves that. -/
theorem beforeWord?_eq_some_iff {letters cs before : List Char} :
    beforeWord? letters.reverse cs.reverse = some before ↔
      ∃ front gap word, Matches letters word ∧ isBlank gap = true ∧ cs = front ++ gap :: word ∧
        before = front.reverse.dropWhile isBlank := by
  have hsplit : ∀ rest, dropWord? letters.reverse cs.reverse = some rest ↔
      ∃ word, Matches letters word ∧ cs = rest.reverse ++ word := by
    intro rest
    rw [dropWord?_eq_some_iff]
    constructor
    · intro h
      obtain ⟨matched, hmatched, hcs⟩ := h
      refine ⟨matched.reverse, ?_, ?_⟩
      · exact List.forall₂_reverse_iff.mp (by rwa [List.reverse_reverse])
      · rw [← List.reverse_append, ← hcs, List.reverse_reverse]
    · intro h
      obtain ⟨word, hword, rfl⟩ := h
      exact ⟨word.reverse, List.forall₂_reverse_iff.mpr hword, by simp⟩
  unfold beforeWord?
  constructor
  · intro h
    split at h
    · rename_i gap rest hrest
      split at h
      · rename_i hgap
        obtain ⟨word, hword, hcs⟩ := (hsplit (gap :: rest)).mp hrest
        refine ⟨rest.reverse, gap, word, hword, hgap, by simpa using hcs, ?_⟩
        rw [List.reverse_reverse]
        exact (Option.some.inj h).symm
      · cases h
    · cases h
  · intro h
    obtain ⟨front, gap, word, hword, hgap, hcs, rfl⟩ := h
    have hrest : dropWord? letters.reverse cs.reverse = some (gap :: front.reverse) :=
      (hsplit _).mpr ⟨word, hword, by simp [hcs]⟩
    rw [hrest]
    exact if_pos hgap

/-- The characters are the word of a direction, in any mixture of capitals and small letters. -/
inductive Directs : List Char → Int → Prop
  | ascending {word : List Char} : Spells "ASC".toList word → Directs word ascending
  | descending {word : List Char} : Spells "DESC".toList word → Directs word descending

def EndsUndirected (cs : List Char) : Prop :=
  ∀ front gap word, cs = front ++ gap :: word → isBlank gap = true →
    ¬ Matches "ASC".toList word ∧ ¬ Matches "DESC".toList word

theorem reverse_asc : "CSA".toList = "ASC".toList.reverse := by decide

theorem reverse_desc : "CSED".toList = "DESC".toList.reverse := by decide

/-- The two directions differ in the third letter from the end. -/
theorem beforeWord?_desc_of_asc {word : List Char} (h : Matches "ASC".toList word)
    (rest : List Char) : beforeWord? "CSED".toList (word.reverse ++ rest) = none := by
  have hletters : Matches ['A', 'S', 'C'] word := h
  obtain ⟨a, sc, ha, hsc, rfl⟩ := List.forall₂_cons_left_iff.mp hletters
  obtain ⟨s, c', hs, hc', rfl⟩ := List.forall₂_cons_left_iff.mp hsc
  obtain ⟨c, none, hc, hnone, rfl⟩ := List.forall₂_cons_left_iff.mp hc'
  obtain rfl := List.forall₂_nil_left_iff.mp hnone
  have he : matchesLetter 'E' a = false := by
    have hcases : a = 'A' ∨ a = 'a' := by simpa [matchesLetter] using ha
    rcases hcases with rfl | rfl <;> decide
  have hdrop : dropWord? "CSED".toList (c :: s :: a :: rest) = Option.none := by
    change dropWord? ['C', 'S', 'E', 'D'] (c :: s :: a :: rest) = Option.none
    rw [dropWord?, if_pos hc, dropWord?, if_pos hs, dropWord?, if_neg (by simp [he])]
  have hreversed : [a, s, c].reverse ++ rest = c :: s :: a :: rest := rfl
  rw [hreversed, beforeWord?, hdrop]

section Reading

variable {path gap word item : List Char} {sign : Int}

/-- What stands before a word and the blanks in front of it is what is before the direction. -/
theorem beforeWord?_append {letters : List Char} (hpath : IsTrimmed path) (hgap : AllBlank gap)
    (hset : gap ≠ []) (hword : Matches letters word) :
    beforeWord? letters.reverse (path ++ gap ++ word).reverse = some path.reverse := by
  obtain ⟨blanks, last, rfl⟩ := (List.eq_nil_or_concat gap).resolve_left hset
  refine beforeWord?_eq_some_iff.mpr
    ⟨path ++ blanks, last, word, hword, hgap last (by simp), by simp, ?_⟩
  rw [List.reverse_append, dropWhile_blanks]
  · intro c hc
    exact hgap c (by simpa using Or.inl hc)
  · rw [List.head?_reverse]
    exact hpath.last

theorem trim_of_isTrimmed (h : IsTrimmed path) : trim path = path := by
  have hpadded : trim ([] ++ path ++ []) = path :=
    trim_padded (by decide) h (by decide)
  rwa [List.nil_append, List.append_nil] at hpadded

/-- A path with a direction behind it is read back with the sign of the direction. -/
theorem readItem_directed (hpath : IsTrimmed path) (hgap : AllBlank gap) (hset : gap ≠ [])
    (hword : Directs word sign) :
    readItem (path ++ gap ++ word) = (String.ofList path, sign) := by
  unfold readItem
  cases hword with
  | descending hword =>
    have hsome : beforeWord? "CSED".toList (path ++ gap ++ word).reverse = some path.reverse := by
      rw [reverse_desc]
      exact beforeWord?_append hpath hgap hset hword.matches
    simp only [hsome]
    rw [List.reverse_reverse, trim_of_isTrimmed hpath]
  | ascending hword =>
    have hnone : beforeWord? "CSED".toList (path ++ gap ++ word).reverse = none := by
      rw [List.reverse_append]
      exact beforeWord?_desc_of_asc hword.matches _
    have hsome : beforeWord? "CSA".toList (path ++ gap ++ word).reverse = some path.reverse := by
      rw [reverse_asc]
      exact beforeWord?_append hpath hgap hset hword.matches
    simp only [hnone, hsome]
    rw [List.reverse_reverse, trim_of_isTrimmed hpath]

theorem beforeWord?_eq_none_iff {letters cs : List Char} :
    beforeWord? letters.reverse cs.reverse = none ↔
      ∀ front gap word, cs = front ++ gap :: word → isBlank gap = true → ¬ Matches letters word := by
  rw [Option.eq_none_iff_forall_ne_some]
  constructor
  · intro h front gap word hcs hgap hword
    exact h _ (beforeWord?_eq_some_iff.mpr ⟨front, gap, word, hword, hgap, hcs, rfl⟩)
  · intro h before hbefore
    obtain ⟨front, gap, word, hword, hgap, hcs, -⟩ := beforeWord?_eq_some_iff.mp hbefore
    exact h front gap word hcs hgap hword

theorem endsUndirected_iff : EndsUndirected path ↔
    beforeWord? "CSA".toList path.reverse = none ∧
      beforeWord? "CSED".toList path.reverse = none := by
  rw [reverse_asc, reverse_desc, beforeWord?_eq_none_iff, beforeWord?_eq_none_iff]
  constructor
  · intro h
    exact ⟨fun front gap word hpath hgap => (h front gap word hpath hgap).1,
      fun front gap word hpath hgap => (h front gap word hpath hgap).2⟩
  · intro h front gap word hpath hgap
    exact ⟨h.1 front gap word hpath hgap, h.2 front gap word hpath hgap⟩

/-- A path without a direction is read back whole, ascending. -/
theorem readItem_undirected (h : EndsUndirected path) :
    readItem path = (String.ofList path, ascending) := by
  obtain ⟨hasc, hdesc⟩ := endsUndirected_iff.mp h
  simp only [readItem, hasc, hdesc]

end Reading

/-- A path that can stand in an order in words: no comma cuts it, no blanks around it get lost, and
it does not end in a direction. -/
structure IsPlainPath (path : String) : Prop where
  ne_empty : path ≠ ""
  uncut : ',' ∉ path.toList
  trimmed : IsTrimmed path.toList
  undirected : EndsUndirected path.toList

/-- The item is the path and a direction of the sign, parted by blanks; without a direction it is
ascending. Blanks may stand around it. -/
inductive Words (path : String) : List Char → Int → Prop
  | alone {before after : List Char} : AllBlank before → AllBlank after →
      Words path (before ++ path.toList ++ after) ascending
  | directed {before gap word after : List Char} {sign : Int} : AllBlank before → AllBlank gap →
      gap ≠ [] → Directs word sign → AllBlank after →
      Words path (before ++ (path.toList ++ gap ++ word) ++ after) sign

section Items

variable {path : String} {word item : List Char} {sign : Int}

theorem forall_mem_of_spells {letters : List Char} {P : Char → Prop} (h : Spells letters word)
    (hletters : ∀ letter ∈ letters, P letter ∧ P letter.toLower) : ∀ c ∈ word, P c := by
  intro c hc
  obtain ⟨letter, hletter, hspelled⟩ := Result.exists_of_forall₂ h.flip hc
  rcases hspelled with rfl | rfl
  · exact (hletters _ hletter).1
  · exact (hletters letter hletter).2

theorem Directs.ne_nil (h : Directs word sign) : word ≠ [] := by
  rintro rfl
  cases h with
  | ascending h => cases h
  | descending h => cases h

/-- A direction is made of letters. -/
theorem Directs.letters (h : Directs word sign) : ∀ c ∈ word, isBlank c = false ∧ c ≠ ',' := by
  cases h with
  | ascending h => exact forall_mem_of_spells h (List.all_iff_forall_prop.mp (by decide))
  | descending h => exact forall_mem_of_spells h (List.all_iff_forall_prop.mp (by decide))

theorem isTrimmed_directed {gap : List Char} (hpath : IsPlainPath path) (h : Directs word sign) :
    IsTrimmed (path.toList ++ gap ++ word) where
  head := by
    have hset : path.toList ≠ [] := by simpa using hpath.ne_empty
    rw [List.append_assoc, List.head?_append_of_ne_nil _ hset]
    exact hpath.trimmed.head
  last := by
    rw [List.getLast?_append_of_ne_nil _ h.ne_nil]
    intro c hc
    exact (h.letters c (List.mem_of_getLast? hc)).1

/-- An item in words is read as the path that it names, with the sign of its direction. -/
theorem Words.names {text : String} (hpath : IsPlainPath path) (h : Words path text.toList sign) :
    Names path (.text text) sign := by
  have hset : path.toList ≠ [] := by simpa using hpath.ne_empty
  have hread : trim text.toList ≠ [] ∧ readItem (trim text.toList) = (path, sign) := by
    generalize text.toList = item at h
    cases h with
    | alone hbefore hafter =>
      rw [trim_padded hbefore hpath.trimmed hafter, readItem_undirected hpath.undirected,
        String.ofList_toList]
      exact ⟨hset, rfl⟩
    | directed hbefore hgap hparted hword hafter =>
      rw [trim_padded hbefore (isTrimmed_directed hpath hword) hafter,
        readItem_directed hpath.trimmed hgap hparted hword, String.ofList_toList]
      exact ⟨by simp [hset], rfl⟩
  exact .words (fun items => by simp) hread.1 hread.2

theorem AllBlank.uncut {cs : List Char} (h : AllBlank cs) : ',' ∉ cs := by
  intro hc
  exact absurd (h ',' hc) (by decide)

/-- An item in words stays in one piece where an order is cut at its commas. -/
theorem Words.uncut (hpath : IsPlainPath path) (h : Words path item sign) : ',' ∉ item := by
  cases h with
  | alone hbefore hafter => simp [hbefore.uncut, hpath.uncut, hafter.uncut]
  | directed hbefore hgap _ hword hafter =>
    have hletters : ',' ∉ _ := fun hc => (hword.letters _ hc).2 rfl
    simp [hbefore.uncut, hpath.uncut, hgap.uncut, hletters, hafter.uncut]

end Items

end ModelStore.Sort
