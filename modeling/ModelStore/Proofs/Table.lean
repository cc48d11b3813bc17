import ModelStore.Proofs.Result
import ModelStore.Table
import Mathlib.Data.List.Nodup
import Mathlib.Data.List.Perm.Subperm

/-!
Tables that are written entry by entry. Writing keeps the keys distinct, and of all entries that
were written exactly those last that no later entry takes the key of. Entries with distinct keys
are all kept, in their order.
-/
namespace ModelStore.Table

variable {α : Type}

theorem merge_cons (t : Table α) (entry : String × α) (entries : Table α) :
    merge t (entry :: entries) = merge (insert t entry.1 entry.2) entries := rfl

theorem nodup_keys_insert {t : Table α} (key : String) (value : α) (h : (keys t).Nodup) :
    (keys (insert t key value)).Nodup := by
  rw [keys_insert]
  split
  · exact h
  · rename_i hfresh
    have hnot : key ∉ keys t := by simpa using hfresh
    refine List.nodup_append.mpr ⟨h, List.nodup_singleton key, ?_⟩
    intro k hk k' hk' heq
    rw [List.mem_singleton] at hk'
    rw [heq, hk'] at hk
    exact hnot hk

theorem nodup_keys_merge {t : Table α} (entries : Table α) (h : (keys t).Nodup) :
    (keys (merge t entries)).Nodup := by
  induction entries generalizing t with
  | nil => exact h
  | cons entry rest ih => exact ih (nodup_keys_insert entry.1 entry.2 h)

theorem nodup_keys_ofList (entries : List (String × α)) : (keys (ofList entries)).Nodup :=
  nodup_keys_merge entries List.nodup_nil

theorem mem_insert {t : Table α} {key : String} {value : α} {entry : String × α}
    (h : (keys t).Nodup) :
    entry ∈ insert t key value ↔ entry = (key, value) ∨ (entry ∈ t ∧ entry.1 ≠ key) := by
  induction t with
  | nil => simp [insert]
  | cons head rest ih =>
    obtain ⟨k, v⟩ := head
    have hk : k ∉ keys rest := (List.nodup_cons.mp h).1
    have hrest : (keys rest).Nodup := (List.nodup_cons.mp h).2
    by_cases hkey : k = key
    · subst hkey
      have hne : ∀ e ∈ rest, e.1 ≠ k := by
        intro e he heq
        exact hk (heq ▸ List.mem_map_of_mem he)
      simp only [insert, if_pos, List.mem_cons]
      constructor
      · intro hmem
        rcases hmem with rfl | he
        · exact Or.inl rfl
        · exact Or.inr ⟨Or.inr he, hne entry he⟩
      · intro hmem
        rcases hmem with rfl | ⟨rfl | he, hother⟩
        · exact Or.inl rfl
        · exact absurd rfl hother
        · exact Or.inr he
    · simp only [insert, if_neg hkey, List.mem_cons, ih hrest]
      constructor
      · intro hmem
        rcases hmem with rfl | rfl | ⟨he, hother⟩
        · exact Or.inr ⟨Or.inl rfl, hkey⟩
        · exact Or.inl rfl
        · exact Or.inr ⟨Or.inr he, hother⟩
      · intro hmem
        rcases hmem with rfl | ⟨rfl | he, hother⟩
        · exact Or.inr (Or.inl rfl)
        · exact Or.inl rfl
        · exact Or.inr (Or.inr ⟨he, hother⟩)

/-- An entry of a merged table was written after all others of its key, or it was there before and
no entry has its key. -/
theorem mem_merge {t : Table α} {entries : Table α} {entry : String × α} (h : (keys t).Nodup) :
    entry ∈ merge t entries ↔
      (∃ before after, entries = before ++ entry :: after ∧ entry.1 ∉ keys after) ∨
        (entry ∈ t ∧ entry.1 ∉ keys entries) := by
  induction entries generalizing t with
  | nil => simp [merge, keys]
  | cons head rest ih =>
    rw [merge_cons, ih (nodup_keys_insert head.1 head.2 h), mem_insert h]
    constructor
    · intro hmem
      rcases hmem with ⟨before, after, rfl, hlast⟩ | ⟨rfl | ⟨ht, hne⟩, hrest⟩
      · exact Or.inl ⟨head :: before, after, rfl, hlast⟩
      · exact Or.inl ⟨[], rest, rfl, hrest⟩
      · refine Or.inr ⟨ht, ?_⟩
        simpa [keys] using ⟨hne, by simpa [keys] using hrest⟩
    · intro hmem
      rcases hmem with ⟨before, after, hsplit, hlast⟩ | ⟨ht, hkeys⟩
      · cases before with
        | nil =>
          obtain ⟨rfl, rfl⟩ := List.cons.inj hsplit
          exact Or.inr ⟨Or.inl rfl, hlast⟩
        | cons first before =>
          obtain ⟨rfl, rfl⟩ := List.cons.inj hsplit
          exact Or.inl ⟨before, after, rfl, hlast⟩
      · have hne : entry.1 ≠ head.1 ∧ entry.1 ∉ keys rest := by
          simpa [keys] using hkeys
        exact Or.inr ⟨Or.inr ⟨ht, hne.1⟩, hne.2⟩

theorem mem_ofList {entries : List (String × α)} {entry : String × α} :
    entry ∈ ofList entries ↔
      ∃ before after, entries = before ++ entry :: after ∧ entry.1 ∉ keys after := by
  rw [ofList, mem_merge (t := []) List.nodup_nil]
  simp

/-- The item is in the list, and no later one has its key. -/
def IsLast {β κ : Type} (keyOf : β → κ) (items : List β) (item : β) : Prop :=
  ∃ before after, items = before ++ item :: after ∧ ∀ later ∈ after, keyOf later ≠ keyOf item

theorem IsLast.mem {β κ : Type} {keyOf : β → κ} {items : List β} {item : β}
    (h : IsLast keyOf items item) : item ∈ items := by
  obtain ⟨before, after, rfl, -⟩ := h
  simp

theorem isLast_cons {β κ : Type} {keyOf : β → κ} {first item : β} {rest : List β} :
    IsLast keyOf (first :: rest) item ↔
      (item = first ∧ ∀ later ∈ rest, keyOf later ≠ keyOf item) ∨ IsLast keyOf rest item := by
  constructor
  · intro h
    obtain ⟨before, after, hsplit, hafter⟩ := h
    cases before with
    | nil =>
      obtain ⟨rfl, rfl⟩ := List.cons.inj hsplit
      exact Or.inl ⟨rfl, hafter⟩
    | cons _ before =>
      obtain ⟨rfl, rfl⟩ := List.cons.inj hsplit
      exact Or.inr ⟨before, after, rfl, hafter⟩
  · intro h
    rcases h with ⟨rfl, hrest⟩ | ⟨before, after, rfl, hafter⟩
    · exact ⟨[], rest, rfl, hrest⟩
    · exact ⟨first :: before, after, rfl, hafter⟩

/-- Of the items with the key of a given one there is a last. -/
theorem exists_isLast {β κ : Type} (keyOf : β → κ) {items : List β} {item : β} (h : item ∈ items) :
    ∃ last, IsLast keyOf items last ∧ keyOf last = keyOf item := by
  induction items generalizing item with
  | nil => cases h
  | cons first rest ih =>
    by_cases hlater : ∃ later ∈ rest, keyOf later = keyOf item
    · obtain ⟨later, hlater, hkey⟩ := hlater
      obtain ⟨last, hlast, hkey'⟩ := ih hlater
      exact ⟨last, isLast_cons.mpr (Or.inr hlast), hkey'.trans hkey⟩
    · have hnone : ∀ later ∈ rest, keyOf later ≠ keyOf item := by simpa using hlater
      obtain rfl | hrest := List.mem_cons.mp h
      · exact ⟨item, isLast_cons.mpr (Or.inl ⟨rfl, hnone⟩), rfl⟩
      · exact absurd rfl (hnone item hrest)

theorem IsLast.unique {β κ : Type} {keyOf : β → κ} {items : List β} {item item' : β}
    (h : IsLast keyOf items item) (h' : IsLast keyOf items item') (hkey : keyOf item = keyOf item') :
    item = item' := by
  induction items with
  | nil => cases h.mem
  | cons first rest ih =>
    rcases isLast_cons.mp h with ⟨rfl, hrest⟩ | hlast
    · rcases isLast_cons.mp h' with ⟨rfl, -⟩ | hlast'
      · rfl
      · exact absurd hkey.symm (hrest item' hlast'.mem)
    · rcases isLast_cons.mp h' with ⟨rfl, hrest'⟩ | hlast'
      · exact absurd hkey (hrest' item hlast.mem)
      · exact ih hlast hlast'

/-- A table written from the items of a list, each of which decides its entry, holds the entries of
the last items of their keys. -/
theorem mem_ofList_iff_isLast {β κ : Type} {R : β → String × α → Prop} {keyOf : β → κ}
    {toKey : String → κ} (htoKey : Function.Injective toKey)
    (hkey : ∀ item entry, R item entry → keyOf item = toKey entry.1)
    (hunique : ∀ item entry entry', R item entry → R item entry' → entry = entry')
    {items : List β} {written : List (String × α)} (h : List.Forall₂ R items written)
    {entry : String × α} :
    entry ∈ ofList written ↔ ∃ item, IsLast keyOf items item ∧ R item entry := by
  have hlast : ∀ {item after after'}, R item entry → List.Forall₂ R after after' →
      (entry.1 ∉ keys after' ↔ ∀ later ∈ after, keyOf later ≠ keyOf item) := by
    intro item after after' hitem hafter
    have hsame : (∃ other ∈ after', other.1 = entry.1) ↔
        ∃ later ∈ after, keyOf later = keyOf item := by
      refine Result.exists_mem_iff hafter fun later _ other hother => ?_
      rw [hkey later other hother, hkey item entry hitem, htoKey.eq_iff]
    rw [keys, List.mem_map, hsame]
    simp
  rw [mem_ofList]
  constructor
  · intro hmem
    obtain ⟨before', after', rfl, hfree⟩ := hmem
    obtain ⟨before, item, after, rfl, hitem, hafter⟩ := Result.forall₂_split h
    exact ⟨item, ⟨before, after, rfl, (hlast hitem hafter).mp hfree⟩, hitem⟩
  · intro hmem
    obtain ⟨item, ⟨before, after, rfl, hfree⟩, hitem⟩ := hmem
    obtain ⟨before', other, after', rfl, hother, hafter⟩ := Result.forall₂_split h.flip
    obtain rfl := hunique item entry other hitem hother
    exact ⟨before', after', rfl, (hlast hitem hafter.flip).mpr hfree⟩

theorem mem_keys_insert {t : Table α} {key other : String} {value : α} :
    other ∈ keys (insert t key value) ↔ other = key ∨ other ∈ keys t := by
  rw [keys_insert]
  split
  · rename_i hkey
    constructor
    · exact Or.inr
    · intro hmem
      rcases hmem with rfl | hother
      · simpa using hkey
      · exact hother
  · rw [List.mem_append, List.mem_singleton, or_comm]

theorem mem_keys_merge {t entries : Table α} {key : String} :
    key ∈ keys (merge t entries) ↔ key ∈ keys t ∨ key ∈ keys entries := by
  induction entries generalizing t with
  | nil => simp [merge, keys]
  | cons entry rest ih =>
    have hkeys : key ∈ keys (entry :: rest) ↔ key = entry.1 ∨ key ∈ keys rest := List.mem_cons
    rw [merge_cons, ih, mem_keys_insert, hkeys, or_assoc, or_left_comm]

theorem mem_keys_of_ofList {entries : List (String × α)} {key : String}
    (h : key ∈ keys (ofList entries)) : key ∈ keys entries :=
  (mem_keys_merge.mp h).resolve_left List.not_mem_nil

theorem insert_of_not_mem {t : Table α} {key : String} (value : α) (h : key ∉ keys t) :
    insert t key value = t ++ [(key, value)] := by
  induction t with
  | nil => rfl
  | cons head rest ih =>
    obtain ⟨k, v⟩ := head
    have hparts : key ≠ k ∧ key ∉ keys rest := by simpa [keys] using h
    rw [insert, if_neg hparts.1.symm, ih hparts.2, List.cons_append]

theorem merge_of_nodup {t entries : Table α} (h : (keys (t ++ entries)).Nodup) :
    merge t entries = t ++ entries := by
  induction entries generalizing t with
  | nil => simp [merge]
  | cons head rest ih =>
    have hfresh : head.1 ∉ keys t := by
      intro hmem
      rw [keys, List.map_append, List.nodup_append] at h
      exact h.2.2 head.1 hmem head.1 (by simp) rfl
    have hinsert : insert t head.1 head.2 = t ++ [head] := insert_of_not_mem head.2 hfresh
    rw [merge_cons, hinsert, ih (by simpa using h), List.append_assoc, List.singleton_append]

/-- Entries with distinct keys are all kept. -/
theorem ofList_of_nodup {entries : List (String × α)} (h : (keys entries).Nodup) :
    ofList entries = entries :=
  merge_of_nodup (t := []) h

theorem subperm_keys_ofList (entries : List (String × α)) :
    (keys (ofList entries)).Subperm (keys entries) :=
  List.Nodup.subperm (nodup_keys_ofList entries) fun _ => mem_keys_of_ofList

theorem length_ofList_le (entries : List (String × α)) :
    (ofList entries).length ≤ entries.length := by
  simpa [keys] using (subperm_keys_ofList entries).length_le

/-- Where no entry is lost, the table is the list it was written from. -/
theorem ofList_of_length {entries : List (String × α)}
    (h : entries.length ≤ (ofList entries).length) : ofList entries = entries := by
  have hperm : (keys (ofList entries)).Perm (keys entries) :=
    (subperm_keys_ofList entries).perm_of_length_le (by simpa [keys] using h)
  exact ofList_of_nodup (hperm.nodup_iff.mp (nodup_keys_ofList entries))

theorem insert_insert (t : Table α) (key : String) (value value' : α) :
    insert (insert t key value) key value' = insert t key value' := by
  induction t with
  | nil => simp [insert]
  | cons head rest ih =>
    obtain ⟨k, v⟩ := head
    by_cases hkey : k = key
    · simp [insert, hkey]
    · simp [insert, hkey, ih]

theorem insert_ne_nil (t : Table α) (key : String) (value : α) : insert t key value ≠ [] := by
  cases t with
  | nil => simp [insert]
  | cons head rest =>
    rw [insert]
    split <;> simp

theorem merge_ne_nil {t : Table α} (entries : Table α) (h : t ≠ []) : merge t entries ≠ [] := by
  induction entries generalizing t with
  | nil => exact h
  | cons head rest ih => exact ih (insert_ne_nil t head.1 head.2)

theorem merge_eq_nil_iff {t entries : Table α} : merge t entries = [] ↔ t = [] ∧ entries = [] := by
  constructor
  · intro h
    have ht : t = [] := by
      by_contra hset
      exact merge_ne_nil entries hset h
    cases entries with
    | nil => exact ⟨ht, rfl⟩
    | cons head rest => exact absurd h (merge_ne_nil rest (insert_ne_nil t head.1 head.2))
  · rintro ⟨rfl, rfl⟩
    rfl

theorem ofList_eq_nil_iff {entries : List (String × α)} : ofList entries = [] ↔ entries = [] := by
  rw [ofList, merge_eq_nil_iff]
  simp

theorem erase_cons_of_eq {entry : String × α} {key : String} (entries : Table α)
    (h : entry.1 = key) : erase (entry :: entries) key = erase entries key := by
  simp [erase, h]

theorem erase_cons_of_ne {entry : String × α} {key : String} (entries : Table α)
    (h : entry.1 ≠ key) : erase (entry :: entries) key = entry :: erase entries key := by
  simp [erase, h]

theorem erase_erase (t : Table α) (key : String) : erase (erase t key) key = erase t key := by
  simp [erase]

theorem keys_erase_sublist (t : Table α) (key : String) :
    (keys (erase t key)).Sublist (keys t) :=
  List.filter_sublist.map Prod.fst

theorem mem_keys_erase {t : Table α} {key other : String} :
    other ∈ keys (erase t key) ↔ other ∈ keys t ∧ other ≠ key := by
  simp only [keys, erase, List.mem_map, List.mem_filter, decide_eq_true_eq]
  constructor
  · intro hmem
    obtain ⟨entry, ⟨hentry, hne⟩, rfl⟩ := hmem
    exact ⟨⟨entry, hentry, rfl⟩, hne⟩
  · intro hmem
    obtain ⟨⟨entry, hentry, rfl⟩, hne⟩ := hmem
    exact ⟨entry, ⟨hentry, hne⟩, rfl⟩

theorem get?_erase_of_ne (t : Table α) {key other : String} (h : other ≠ key) :
    get? (erase t key) other = get? t other := by
  induction t with
  | nil => rfl
  | cons head rest ih =>
    obtain ⟨k, v⟩ := head
    by_cases hkey : k = key
    · have hother : k ≠ other := by
        rintro rfl
        exact h hkey
      have herase : erase ((k, v) :: rest) key = erase rest key := by simp [erase, hkey]
      rw [herase, ih, get?_cons, if_neg hother]
    · have herase : erase ((k, v) :: rest) key = (k, v) :: erase rest key := by
        simp [erase, hkey]
      rw [herase, get?_cons, get?_cons, ih]

theorem mem_of_get? {t : Table α} {key : String} {value : α} (h : get? t key = some value) :
    (key, value) ∈ t := by
  induction t with
  | nil => simp at h
  | cons head rest ih =>
    obtain ⟨k, v⟩ := head
    rw [get?_cons] at h
    split at h
    · rename_i hkey
      rw [hkey, Option.some.inj h]
      exact List.mem_cons_self
    · exact List.mem_cons_of_mem _ (ih h)

theorem exists_get? {t : Table α} {key : String} (h : key ∈ keys t) :
    ∃ value, get? t key = some value := by
  induction t with
  | nil => simp [keys] at h
  | cons head rest ih =>
    obtain ⟨k, v⟩ := head
    rw [get?_cons]
    split
    · exact ⟨v, rfl⟩
    · rename_i hkey
      rcases List.mem_cons.mp h with rfl | h
      · exact absurd rfl hkey
      · exact ih h

theorem contains_iff_mem_keys {t : Table α} {key : String} :
    contains t key = true ↔ key ∈ keys t := by
  rw [contains, Option.isSome_iff_exists]
  constructor
  · intro hfound
    obtain ⟨value, hvalue⟩ := hfound
    exact List.mem_map_of_mem (mem_of_get? hvalue)
  · exact exists_get?

theorem get?_eq_none_iff {t : Table α} {key : String} : get? t key = none ↔ key ∉ keys t := by
  rw [← contains_iff_mem_keys, contains, Bool.not_eq_true, Option.isSome_eq_false_iff,
    Option.isNone_iff_eq_none]

/-- Where keys are distinct, what comes after an entry has other keys. -/
theorem ne_key_of_mem_after {before after : Table α} {entry later : String × α}
    (h : (keys (before ++ entry :: after)).Nodup) (hlater : later ∈ after) : later.1 ≠ entry.1 := by
  rw [keys, List.map_append, List.map_cons] at h
  have hfresh := (List.nodup_cons.mp (List.nodup_append.mp h).2.1).1
  intro hsame
  exact hfresh (hsame ▸ List.mem_map_of_mem hlater)

/-- In a table with distinct keys an entry is what its key is looked up to. -/
theorem get?_eq_some_iff_mem {t : Table α} (h : (keys t).Nodup) {key : String} {value : α} :
    get? t key = some value ↔ (key, value) ∈ t := by
  constructor
  · exact mem_of_get?
  · intro hmem
    have hkey : key ∈ keys t := List.mem_map_of_mem hmem
    obtain ⟨found, hfound⟩ := exists_get? hkey
    have hsame : (key, found) = (key, value) :=
      List.inj_on_of_nodup_map h (mem_of_get? hfound) hmem rfl
    rw [hfound, (Prod.mk.inj hsame).2]

end ModelStore.Table
