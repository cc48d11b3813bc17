import ModelStore.Proofs.Storage.Loading
import ModelStore.Proofs.Update.Operand

/-!
Updates and the identifier. An operand loses the entry under the name of the identifier and no other
one, and new names of fields are not looked at. So the identifier stays out of an update that names
it in no other way.
-/
namespace ModelStore

/-- The field is where identifiers are stored or the column of the identifier, or lies inside. -/
def IsIdAddress (model : Model) (field : String) : Prop :=
  ∃ root, (root = idField ∨ model.columnName model.idName = .text root) ∧
    (field = root ∨ ∃ rest, field = root ++ "." ++ rest)

def NamesId (model : Model) (path : String) : Prop :=
  ∃ field, model.storagePath path = .ok field ∧ IsIdAddress model field

/-- A path leads to the identifier exactly if its head has the column of the identifier, or the
field of all identifiers for a column. -/
theorem namesId_iff {model : Model} {path column idColumn : String}
    (hcolumn : model.columnName (Text.pathHead path) = .text column)
    (hid : model.columnName model.idName = .text idColumn)
    (hdots : Text.hasDot column = false ∧ Text.hasDot idColumn = false) :
    NamesId model path ↔ column = idField ∨ column = idColumn := by
  have hpath := Model.storagePath_of_columnName hcolumn
  have hhead : Text.pathHead (column ++ Text.pathRest path) = column :=
    Text.pathHead_append hdots.1 (Text.pathRest_eq path)
  constructor
  · rintro ⟨field, hfield, root, hroot, hunder⟩
    obtain rfl : column ++ Text.pathRest path = field := Except.ok.inj (hpath.symm.trans hfield)
    have hroots : root = idField ∨ root = idColumn := by
      rcases hroot with rfl | hroot
      · exact Or.inl rfl
      · exact Or.inr (Value.text.inj (hroot.symm.trans hid))
    have hdot : Text.hasDot root = false := by
      rcases hroots with rfl | rfl
      · decide
      · exact hdots.2
    have hsame : column = root := by
      rcases hunder with hunder | ⟨rest, hunder⟩
      · rw [← hhead, hunder, Text.pathHead_of_undotted hdot]
      · rw [← hhead, hunder, String.append_assoc]
        exact Text.pathHead_append hdot (Or.inr ⟨rest.toList, by simp⟩)
    exact hsame ▸ hroots
  · intro hroots
    have hroot : column = idField ∨ model.columnName model.idName = .text column := by
      rcases hroots with hfield | rfl
      · exact Or.inl hfield
      · exact Or.inr hid
    refine ⟨_, hpath, column, hroot, ?_⟩
    rcases Text.pathRest_eq path with hrest | ⟨rest, hrest⟩
    · exact Or.inl (String.toList_injective (by rw [String.toList_append, hrest, List.append_nil]))
    · refine Or.inr ⟨String.ofList rest, String.toList_injective ?_⟩
      simp [String.toList_append, hrest]

namespace Update

variable {model : Model} {strict : Bool} {operator field : String}
  {entries operand stored : Document} {convert : String → Value → Result Value}

/-- No operand of the stored update has the identifier for a key, and no field is renamed to it. -/
structure IdFree (model : Model) (stored : Document) : Prop where
  keys : ∀ operator operand, (operator, Value.doc operand) ∈ stored →
    ∀ field ∈ Table.keys operand, ¬ IsIdAddress model field
  targets : ∀ operand, ("$rename", Value.doc operand) ∈ stored →
    ∀ field target, (field, Value.text target) ∈ operand → ¬ IsIdAddress model target

/-- The entry has a storage path that no later one has. -/
def Stands (model : Model) (entries : Document) (entry : String × Value) : Prop :=
  Table.IsLast (fun entry => model.storagePath entry.1) entries entry

def withoutId (model : Model) (operand : Document) : Document :=
  operand.filter fun entry => entry.1 ≠ model.idName

/-- Steps that write one entry each write them all, one over the other. -/
theorem foldlM_writes {step : Document → String × Value → Result Document}
    {R : String × Value → String × Value → Prop}
    (hstep : ∀ {into entry after}, step into entry = .ok after →
      ∃ written, R entry written ∧ after = Table.insert into written.1 written.2)
    {into : Document} (h : entries.foldlM step into = .ok stored) :
    ∃ written, List.Forall₂ R entries written ∧ stored = Table.merge into written := by
  induction entries generalizing into with
  | nil => exact ⟨[], .nil, (Except.ok.inj h).symm⟩
  | cons entry rest ih =>
    rw [List.foldlM_cons] at h
    obtain ⟨after, hafter, h⟩ := Result.bind_eq_ok.mp h
    obtain ⟨first, hfirst, rfl⟩ := hstep hafter
    obtain ⟨written, hwritten, rfl⟩ := ih h
    exact ⟨first :: written, .cons hfirst hwritten, rfl⟩

theorem mapEntries_writes (h : mapEntries model convert entries = .ok stored) :
    ∃ written, List.Forall₂ (fun entry written => model.storagePath entry.1 = .ok written.1 ∧
        convert entry.1 entry.2 = .ok written.2) entries written ∧
      stored = Table.ofList written := by
  refine foldlM_writes (fun hstep => ?_) h
  obtain ⟨path, hpath, hstep⟩ := Result.bind_eq_ok.mp hstep
  obtain ⟨v, hv, hstep⟩ := Result.bind_eq_ok.mp hstep
  exact ⟨(path, v), ⟨hpath, hv⟩, (Except.ok.inj hstep).symm⟩

/-- The keys that entries are written under are their storage paths. -/
theorem mem_keys_of_writes {R : String × Value → String × Value → Prop}
    {written : List (String × Value)} (h : List.Forall₂ R entries written)
    (hR : ∀ entry ∈ entries, ∀ after, R entry after → model.storagePath entry.1 = .ok after.1) :
    field ∈ Table.keys written ↔ ∃ entry ∈ entries, model.storagePath entry.1 = .ok field := by
  have hsame : (∃ after ∈ written, after.1 = field) ↔
      ∃ entry ∈ entries, model.storagePath entry.1 = .ok field := by
    refine Result.exists_mem_iff h fun entry hentry after hafter => ?_
    rw [hR entry hentry after hafter, Except.ok.injEq]
  rw [← hsame]
  simp [Table.keys]

theorem mem_keys_mapEntries (h : mapEntries model convert entries = .ok stored) :
    field ∈ Table.keys stored ↔ ∃ entry ∈ entries, model.storagePath entry.1 = .ok field := by
  obtain ⟨written, hwritten, rfl⟩ := mapEntries_writes h
  rw [Table.ofList, Table.mem_keys_merge, mem_keys_of_writes hwritten fun _ _ _ hw => hw.1]
  simp [Table.keys]

/-- Undotted entries are stored together under their columns, which are their storage paths, and
coercing them together leaves their keys. -/
theorem mem_keys_store_coerced {top coerced : Document}
    (htop : ∀ entry ∈ top, Text.hasDot entry.1 = false)
    (hcoerced : Coercion.coerceEntries strict model.properties top = .ok coerced)
    (h : Storage.store model coerced = .ok stored) :
    field ∈ Table.keys stored ↔ ∃ entry ∈ top, model.storagePath entry.1 = .ok field := by
  have hkeys : Table.keys coerced = Table.keys top := Coercion.keys_coerceEntries hcoerced
  have hexists : ∀ entries : Document, (∃ entry ∈ entries, model.storagePath entry.1 = .ok field) ↔
      ∃ key ∈ Table.keys entries, model.storagePath key = .ok field := by
    intro entries
    simp [Table.keys]
  have hundotted : ∀ entry ∈ coerced, Text.hasDot entry.1 = false := by
    intro entry hentry
    have hkey : entry.1 ∈ Table.keys top := hkeys ▸ List.mem_map_of_mem hentry
    obtain ⟨given, hgiven, hsame⟩ := List.mem_map.mp hkey
    exact hsame ▸ htop given hgiven
  obtain ⟨written, hwritten, rfl⟩ := Storage.storeInto_eq_ok.mp h
  have hstored : field ∈ Table.keys written ↔
      ∃ entry ∈ coerced, model.storagePath entry.1 = .ok field :=
    mem_keys_of_writes hwritten fun entry hentry after hafter =>
      (Model.storagePath_undotted_eq_ok_iff (hundotted entry hentry)).mpr hafter.2
  rw [Table.mem_keys_merge, hstored, hexists, hkeys, ← hexists]
  simp [Table.keys]

/-- Whole values are written together where they have no dot, and over those one by one. -/
theorem storeValues_writes (h : storeValues model strict entries = .ok stored) :
    ∃ coerced together dotted,
      Coercion.coerceEntries strict model.properties
        (entries.filter fun entry => !Text.hasDot entry.1) = .ok coerced ∧
      Storage.store model coerced = .ok together ∧
      List.Forall₂ (fun entry written => model.storagePath entry.1 = .ok written.1)
        (entries.filter fun entry => Text.hasDot entry.1) dotted ∧
      stored = Table.merge together dotted := by
  obtain ⟨coerced, hcoerced, h⟩ := Result.bind_eq_ok.mp h
  obtain ⟨together, htogether, h⟩ := Result.bind_eq_ok.mp h
  obtain ⟨dotted, hdotted, hstored⟩ := foldlM_writes
    (R := fun entry written => model.storagePath entry.1 = .ok written.1) (fun hstep => by
      obtain ⟨definition, -, hstep⟩ := Result.bind_eq_ok.mp hstep
      obtain ⟨v, -, hstep⟩ := Result.bind_eq_ok.mp hstep
      obtain ⟨path, hpath, hstep⟩ := Result.bind_eq_ok.mp hstep
      exact ⟨(path, v), hpath, (Except.ok.inj hstep).symm⟩) h
  exact ⟨coerced, together, dotted, hcoerced, htogether, hdotted, hstored⟩

theorem mem_keys_storeValues (h : storeValues model strict entries = .ok stored) :
    field ∈ Table.keys stored ↔ ∃ entry ∈ entries, model.storagePath entry.1 = .ok field := by
  obtain ⟨coerced, together, written, hcoerced, htogether, hwritten, rfl⟩ := storeValues_writes h
  rw [Table.mem_keys_merge, mem_keys_of_writes hwritten fun _ _ _ hw => hw,
    mem_keys_store_coerced (by simp) hcoerced htogether]
  constructor
  · rintro (⟨entry, hentry, hpath⟩ | ⟨entry, hentry, hpath⟩)
    · exact ⟨entry, (List.mem_filter.mp hentry).1, hpath⟩
    · exact ⟨entry, (List.mem_filter.mp hentry).1, hpath⟩
  · rintro ⟨entry, hentry, hpath⟩
    cases hdot : Text.hasDot entry.1 with
    | false => exact Or.inl ⟨entry, List.mem_filter.mpr ⟨hentry, by simp [hdot]⟩, hpath⟩
    | true => exact Or.inr ⟨entry, List.mem_filter.mpr ⟨hentry, hdot⟩, hpath⟩

theorem mem_keys_storeOperand (h : storeOperand model strict operator operand = .ok stored) :
    field ∈ Table.keys stored ↔
      ∃ entry ∈ withoutId model operand, model.storagePath entry.1 = .ok field := by
  unfold storeOperand at h
  dsimp only at h
  split at h
  · exact mem_keys_mapEntries h
  · exact mem_keys_mapEntries h
  · exact mem_keys_mapEntries h
  · exact mem_keys_storeValues h

theorem mem_mapEntries {written : String × Value}
    (h : mapEntries model convert entries = .ok stored) :
    written ∈ stored ↔ ∃ entry, Stands model entries entry ∧
      model.storagePath entry.1 = .ok written.1 ∧ convert entry.1 entry.2 = .ok written.2 := by
  obtain ⟨all, hall, rfl⟩ := mapEntries_writes h
  refine Table.mem_ofList_iff_isLast (fun _ _ hpath => Except.ok.inj hpath)
    (fun _ _ hwritten => hwritten.1) ?_ hall
  intro entry after after' hafter hafter'
  exact Prod.ext (Except.ok.inj (hafter.1.symm.trans hafter'.1))
    (Except.ok.inj (hafter.2.symm.trans hafter'.2))

theorem renameTarget_eq_text {v : Value} {target : String} :
    renameTarget model v = .ok (.text target) ↔
      ∃ name, v = .text name ∧ model.storagePath name = .ok target := by
  cases v with
  | text name =>
    have hrenamed : renameTarget model (.text name) = Value.text <$> model.storagePath name := by
      rw [renameTarget]
      cases model.storagePath name <;> rfl
    rw [hrenamed, Result.map_eq_ok_iff_of_injective fun a b h => Value.text.inj h]
    simp
  | _ => simp [renameTarget]

/-- The new names in a stored renaming. -/
theorem exists_mem_storeOperand_rename {target : String}
    (h : storeOperand model strict "$rename" operand = .ok stored) :
    (∃ field, (field, Value.text target) ∈ stored) ↔
      ∃ key name, Stands model (withoutId model operand) (key, .text name) ∧
        model.storagePath name = .ok target := by
  have hrenamed : mapEntries model (fun _ v => renameTarget model v) (withoutId model operand) =
      .ok stored := h
  simp only [mem_mapEntries hrenamed]
  constructor
  · rintro ⟨field, ⟨key, v⟩, hstands, -, htarget⟩
    obtain ⟨name, hname, hpath⟩ := renameTarget_eq_text.mp htarget
    obtain rfl : v = .text name := hname
    exact ⟨key, name, hstands, hpath⟩
  · rintro ⟨key, name, hstands, hpath⟩
    obtain ⟨written, hwritten, -⟩ := mapEntries_writes hrenamed
    obtain ⟨after, -, hkey, -⟩ := Result.exists_of_forall₂ hwritten hstands.mem
    exact ⟨after.1, (key, .text name), hstands, hkey, renameTarget_eq_text.mpr ⟨name, rfl, hpath⟩⟩

/-- What an operator and its operand are stored as. -/
inductive StoredAs (model : Model) (strict : Bool) : String × Value → String × Value → Prop
  | operand {operator : String} {operand stored : Document} :
      storeOperand model strict operator operand = .ok stored →
      StoredAs model strict (operator, .doc operand) (operator, .doc stored)
  | kept {operator : String} {v : Value} : (∀ operand, v ≠ .doc operand) →
      StoredAs model strict (operator, v) (operator, v)

theorem storedAs_of_store {update : Document} (h : store model strict update = .ok stored) :
    List.Forall₂ (StoredAs model strict) update stored := by
  induction update generalizing stored with
  | nil =>
    obtain rfl := Except.ok.inj h
    exact .nil
  | cons first rest ih =>
    obtain ⟨operator, v⟩ := first
    have hrest : ∀ {w}, (do .ok ((operator, w) :: (← store model strict rest))) = Except.ok stored →
        StoredAs model strict (operator, v) (operator, w) →
        List.Forall₂ (StoredAs model strict) ((operator, v) :: rest) stored := by
      intro w h hfirst
      obtain ⟨others, hothers, h⟩ := Result.bind_eq_ok.mp h
      obtain rfl := Except.ok.inj h
      exact .cons hfirst (ih hothers)
    cases v with
    | doc operand =>
      rw [store] at h
      obtain ⟨written, hwritten, h⟩ := Result.bind_eq_ok.mp h
      exact hrest h (.operand hwritten)
    | _ => exact hrest h (.kept fun operand hdoc => by cases hdoc)

/-- An operand of the stored update comes from one of the update. -/
theorem exists_operand_of_store {update : Document} (h : store model strict update = .ok stored)
    {written : Document} (hwritten : (operator, Value.doc written) ∈ stored) :
    ∃ operand, (operator, Value.doc operand) ∈ update ∧
      storeOperand model strict operator operand = .ok written := by
  obtain ⟨given, hgiven, hstored⟩ := Result.exists_of_forall₂ (storedAs_of_store h).flip hwritten
  cases hstored with
  | operand hstored => exact ⟨_, hgiven, hstored⟩
  | kept hother => exact absurd rfl (hother written)

theorem exists_stored_of_operand {update : Document} (h : store model strict update = .ok stored)
    (hoperand : (operator, Value.doc operand) ∈ update) :
    ∃ written, (operator, Value.doc written) ∈ stored ∧
      storeOperand model strict operator operand = .ok written := by
  obtain ⟨after, hafter, hstored⟩ := Result.exists_of_forall₂ (storedAs_of_store h) hoperand
  cases hstored with
  | operand hstored => exact ⟨_, hafter, hstored⟩
  | kept hother => exact absurd rfl (hother operand)

/-- No key but the name of the identifier leads to it, and no entry of a renaming that stands has
its name or a path to it for the new name. -/
structure SparesId (model : Model) (update : Document) : Prop where
  keys : ∀ operator operand, (operator, Value.doc operand) ∈ update →
    ∀ entry ∈ withoutId model operand, ¬ NamesId model entry.1
  targets : ∀ operand, ("$rename", Value.doc operand) ∈ update →
    ∀ key name, Stands model (withoutId model operand) (key, .text name) → ¬ NamesId model name

/-- The identifier stays out of a stored update exactly if the update names it by its name alone,
and not as a new name. -/
theorem idFree_store_iff {update : Document} (h : store model strict update = .ok stored) :
    IdFree model stored ↔ SparesId model update := by
  constructor
  · intro hfree
    refine ⟨fun operator operand hoperand entry hentry hnames => ?_,
      fun operand hoperand key name hstands hnames => ?_⟩
    · obtain ⟨field, hpath, hid⟩ := hnames
      obtain ⟨written, hwritten, hstored⟩ := exists_stored_of_operand h hoperand
      have hkey := (mem_keys_storeOperand hstored).mpr ⟨entry, hentry, hpath⟩
      exact hfree.keys operator written hwritten field hkey hid
    · obtain ⟨target, hpath, hid⟩ := hnames
      obtain ⟨written, hwritten, hstored⟩ := exists_stored_of_operand h hoperand
      obtain ⟨field, hmem⟩ :=
        (exists_mem_storeOperand_rename hstored).mpr ⟨key, name, hstands, hpath⟩
      exact hfree.targets written hwritten field target hmem hid
  · intro hspares
    refine ⟨fun operator written hwritten field hfield hid => ?_,
      fun written hwritten field target htarget hid => ?_⟩
    · obtain ⟨operand, hoperand, hstored⟩ := exists_operand_of_store h hwritten
      obtain ⟨entry, hentry, hpath⟩ := (mem_keys_storeOperand hstored).mp hfield
      exact hspares.keys operator operand hoperand entry hentry ⟨field, hpath, hid⟩
    · obtain ⟨operand, hoperand, hstored⟩ := exists_operand_of_store h hwritten
      obtain ⟨key, name, hstands, hpath⟩ :=
        (exists_mem_storeOperand_rename hstored).mp ⟨field, htarget⟩
      exact hspares.targets operand hoperand key name hstands ⟨target, hpath, hid⟩

def retitling : Document :=
  [("$set", .doc [("id", .int 5), ("title", .text "a")]),
    ("$rename", .doc [("name", .text "title")])]

theorem sparesId_retitling : SparesId (.bare "Post") retitling := by
  have hnames : ∀ name ∈ ["title", "name"], ¬ NamesId (.bare "Post") name := by
    intro name hname
    rcases List.mem_pair.mp hname with rfl | rfl
    · exact (namesId_iff rfl rfl ⟨by decide, by decide⟩).not.mpr (by decide)
    · exact (namesId_iff rfl rfl ⟨by decide, by decide⟩).not.mpr (by decide)
  have hset : withoutId (.bare "Post") [("id", .int 5), ("title", .text "a")] =
      [("title", .text "a")] := rfl
  have hrename : withoutId (.bare "Post") [("name", .text "title")] = [("name", .text "title")] :=
    rfl
  constructor
  · intro operator operand hoperand entry hentry
    rcases List.mem_pair.mp hoperand with hoperand | hoperand
    · obtain ⟨rfl, rfl⟩ : operator = "$set" ∧ operand = _ := by simpa using hoperand
      rw [hset, List.mem_singleton] at hentry
      exact hentry ▸ hnames "title" (by simp)
    · obtain ⟨rfl, rfl⟩ : operator = "$rename" ∧ operand = _ := by simpa using hoperand
      rw [hrename, List.mem_singleton] at hentry
      exact hentry ▸ hnames "name" (by simp)
  · intro operand hoperand key name hstands
    rcases List.mem_pair.mp hoperand with hoperand | hoperand
    · simp at hoperand
    · obtain rfl : operand = _ := by simpa using hoperand
      have hentry := hstands.mem
      rw [hrename, List.mem_singleton] at hentry
      obtain ⟨rfl, hname⟩ := Prod.mk.inj hentry
      rw [Value.text.inj hname]
      exact hnames "title" (by simp)

theorem idFree_store_iff_named :
    ∃ stored, store (.bare "Post") false retitling = .ok stored ∧
      IdFree (.bare "Post") stored := by
  have h : store (.bare "Post") false retitling =
      .ok [("$set", .doc [("title", .text "a")]), ("$rename", .doc [("name", .text "title")])] := rfl
  exact ⟨_, h, (idFree_store_iff h).mpr sparesId_retitling⟩

/-- Under the field of all identifiers the identifier is set like any other value. -/
theorem not_idFree_store :
    ¬ ∀ (model : Model) (strict : Bool) (update stored : Document),
      store model strict update = .ok stored → IdFree model stored := by
  intro hall
  have hfree := hall (.bare "Post") false [("$set", .doc [("_id", .int 5)])]
    [("$set", .doc [("_id", .int 5)])] rfl
  exact hfree.keys "$set" [("_id", .int 5)] List.mem_cons_self "_id" List.mem_cons_self
    ⟨idField, Or.inl rfl, Or.inl rfl⟩

end Update

end ModelStore
