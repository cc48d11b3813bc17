import ModelStore.Proofs.Schema.Columns
import ModelStore.Schema.Declaration

/-!
Models that are made from declarations. A declaration gives a property with the name of its key,
unless it is a property already, which keeps the name that it has. A model keeps all of them, except
that its generated identifier, where none is declared, takes the place of what is declared as `id`.
So a model agrees with its declarations exactly where neither happens, and then its look-ups by
identifier, by name and by storage name lead into one table.
-/
namespace ModelStore

namespace Declaration

variable {registry : Registry} {key : String} {d : Declaration} {p : Property}
  {entries : List (String × Declaration)} {schema : Schema}

theorem name_ofTypeName (name : String) (cs : List Char) : (ofTypeName name cs).name = name := by
  rw [ofTypeName]
  split <;> rfl

theorem ofTypeName_of_unbracketed {name : String} {cs : List Char} (h : unbracket? cs = none) :
    ofTypeName name cs = .plain name (kindOfType (.ofList cs)) (.ofList cs) := by
  rw [ofTypeName]
  split
  · simp_all
  · rfl

theorem parse_integer (registry : Registry) (key : String) :
    parse registry key (.dataClass .integer) = .ok (.plain key .scalar "number") := by
  rw [parse, ofTypeName_of_unbracketed rfl]
  rfl

theorem name_ofTypeText (registry : Registry) (name text : String) :
    (ofTypeText registry name text).name = name := by
  unfold ofTypeText
  split
  · split
    · rfl
    · exact name_ofTypeName name _
  · split
    · rfl
    · exact name_ofTypeName name _

theorem name_of_withTraits {name : String} {base : Property} {entries : Document}
    (h : withTraits name base entries = .ok p) : p.name = name := by
  obtain ⟨section_, -, h⟩ := Result.bind_eq_ok.mp h
  exact Except.ok.inj h ▸ rfl

/-- A declaration gives a property with the name of its key, unless it is a property already. -/
theorem name_of_parse (h : parse registry key d = .ok p) : p.name = key ∨ d = .property p := by
  cases d with
  | property q =>
    rw [parse] at h
    exact Or.inr (congrArg _ (Except.ok.inj h))
  | dataClass c =>
    rw [parse] at h
    exact Or.inl (Except.ok.inj h ▸ name_ofTypeName key c.typeName.toList)
  | model m =>
    rw [parse] at h
    exact Or.inl (Except.ok.inj h ▸ rfl)
  | value v =>
    by_cases htext : ∃ text, v = .text text
    · obtain ⟨text, rfl⟩ := htext
      rw [parse] at h
      exact Or.inl (Except.ok.inj h ▸ name_ofTypeText registry key text)
    · rw [parse] at h
      · exact Or.inl (Except.ok.inj h ▸ rfl)
      · exact fun text hv => htext ⟨text, hv⟩
  | list items =>
    cases items with
    | nil =>
      rw [parse] at h
      exact Or.inl (Except.ok.inj h ▸ rfl)
    | cons first rest =>
      rw [parse] at h
      obtain ⟨item, -, h⟩ := Result.bind_eq_ok.mp h
      exact Or.inl (Except.ok.inj h ▸ rfl)
  | mapping entries =>
    rw [parse] at h
    obtain ⟨base, -, h⟩ := Result.bind_eq_ok.mp h
    cases base with
    | some base => exact Or.inl (name_of_withTraits h)
    | none =>
      obtain ⟨nested, -, h⟩ := Result.bind_eq_ok.mp h
      exact Or.inl (Except.ok.inj h ▸ rfl)

def Gives (registry : Registry) (declared : String × Declaration) (entry : String × Property) :
    Prop :=
  declared.1 = entry.1 ∧ parse registry declared.1 declared.2 = .ok entry.2

theorem parseEntries_eq_ok :
    parseEntries registry entries = .ok schema ↔ List.Forall₂ (Gives registry) entries schema := by
  induction entries generalizing schema with
  | nil =>
    rw [parseEntries]
    cases schema <;> simp
  | cons declared rest ih =>
    obtain ⟨key, d⟩ := declared
    rw [parseEntries, Result.bind_eq_ok, List.forall₂_cons_left_iff]
    constructor
    · intro h
      obtain ⟨p, hp, h⟩ := h
      obtain ⟨tail, htail, h⟩ := Result.bind_eq_ok.mp h
      exact ⟨(key, p), tail, ⟨rfl, hp⟩, ih.mp htail, (Except.ok.inj h).symm⟩
    · intro h
      obtain ⟨⟨_, p⟩, tail, ⟨rfl, hp⟩, htail, rfl⟩ := h
      exact ⟨p, hp, Result.bind_eq_ok.mpr ⟨tail, ih.mpr htail, rfl⟩⟩

def DeclaresId (registry : Registry) (entries : List (String × Declaration)) : Prop :=
  ∃ declared ∈ entries, ∃ p, parse registry declared.1 declared.2 = .ok p ∧ p.isId = true

section Given

variable (h : List.Forall₂ (Gives registry) entries schema)
include h

theorem keys_eq_of_gives : Table.keys schema = Table.keys entries := by
  induction h with
  | nil => rfl
  | cons hfirst _ ih =>
    simp only [Table.keys, List.map_cons] at ih ⊢
    rw [hfirst.1, ih]

theorem mem_iff_of_gives :
    (key, p) ∈ schema ↔ ∃ d, (key, d) ∈ entries ∧ parse registry key d = .ok p := by
  constructor
  · intro hmem
    obtain ⟨⟨_, d⟩, hd, rfl, hparse⟩ := Result.exists_of_forall₂ h.flip hmem
    exact ⟨d, hd, hparse⟩
  · intro hmem
    obtain ⟨d, hd, hparse⟩ := hmem
    obtain ⟨⟨_, q⟩, hq, rfl, hparse'⟩ := Result.exists_of_forall₂ h hd
    rwa [Except.ok.inj (hparse.symm.trans hparse')]

theorem hasId_iff_of_gives : schema.HasId ↔ DeclaresId registry entries := by
  rw [Schema.HasId, List.any_eq_true]
  constructor
  · intro hid
    obtain ⟨⟨key, p⟩, hp, hid⟩ := hid
    obtain ⟨d, hd, hparse⟩ := (mem_iff_of_gives h).mp hp
    exact ⟨(key, d), hd, p, hparse, hid⟩
  · intro hid
    obtain ⟨⟨key, d⟩, hd, p, hparse, hid⟩ := hid
    exact ⟨(key, p), (mem_iff_of_gives h).mpr ⟨d, hd, hparse⟩, hid⟩

end Given

end Declaration

namespace Model

open Declaration

variable {m : Model}

def Named (m : Model) : Prop := ∀ entry ∈ m.properties, entry.2.name = entry.1

def FindsId (m : Model) : Prop := ∃ p, m.idProperty = .ok p ∧ p.isId = true

/-- All look-ups lead into one table of properties by their names. -/
structure OneTable (m : Model) : Prop where
  /-- Under the name of the identifier there is the identifier. -/
  identifier : m.idProperty = .ok m.firstId
  /-- The column of the name of a property is the column of this property. -/
  column : ∀ entry ∈ m.properties, m.columnName entry.2.name = entry.2.column
  /-- A column leads to the key of a property with this storage name, and to itself if there is
  no such property. -/
  property : ∀ column,
    (∃ p, Table.get? m.properties (m.propertyName column) = some p ∧
        p.traits.fieldName = .text column) ∨
      (m.propertyName column = column ∧
        ∀ entry ∈ m.properties, entry.2.traits.fieldName ≠ .text column)

theorem Named.oneTable (hnamed : m.Named) (hkeys : (Table.keys m.properties).Nodup) :
    m.OneTable := by
  have hfound : ∀ entry ∈ m.properties,
      Table.get? m.properties entry.2.name = some entry.2 := by
    intro entry hentry
    rw [hnamed entry hentry]
    exact (Table.get?_eq_some_iff_mem hkeys).mpr hentry
  refine ⟨?_, ?_, ?_⟩
  · obtain ⟨entry, hentry, hfirst⟩ := List.mem_map.mp m.firstId_mem.1
    rw [idProperty_eq_ok, idName, ← hfirst]
    exact hfound entry hentry
  · intro entry hentry
    rw [columnName, hfound entry hentry]
  · intro column
    rcases m.propertyName_cases column with ⟨entry, hentry, hfield, hname⟩ | hnone
    · exact Or.inl ⟨entry.2, by rw [hname, hfound entry hentry], hfield⟩
    · exact Or.inr hnone

theorem OneTable.findsId (h : m.OneTable) : m.FindsId :=
  ⟨m.firstId, h.identifier, m.firstId_mem.2⟩

/-- The keys of the properties are those of the declarations, followed by that of the generated
identifier only if no identifier is declared. -/
def AddsOnlyId (registry : Registry) (entries : List (String × Declaration)) (m : Model) : Prop :=
  Table.keys m.properties = Table.keys entries ∨
    (¬ DeclaresId registry entries ∧
      Table.keys m.properties = Table.keys entries ++ [defaultIdName])

/-- A model agrees with its declarations: it keeps what is declared under each key, and has an
identifier under one of them. -/
structure AgreesWith (registry : Registry) (entries : List (String × Declaration)) (m : Model) :
    Prop where
  kept : ∀ key d, (key, d) ∈ entries →
    ∃ p, parse registry key d = .ok p ∧ Table.get? m.properties key = some p
  added : m.AddsOnlyId registry entries
  named : m.Named
  identified : m.FindsId
  oneTable : m.OneTable

/-- The properties are those that the declarations give, with distinct keys, and a generated
identifier where none of them is one. -/
def MadeOf (registry : Registry) (entries : List (String × Declaration)) (m : Model) : Prop :=
  ∃ schema : Schema, List.Forall₂ (Gives registry) entries schema ∧ (Table.keys schema).Nodup ∧
    m.properties =
      if schema.HasId then schema else Table.insert schema defaultIdName generatedId

namespace MadeOf

variable {registry : Registry} {entries : List (String × Declaration)} {key : String}
  {d : Declaration} {p : Property} (h : m.MadeOf registry entries)
include h

theorem addsOnlyId : m.AddsOnlyId registry entries := by
  obtain ⟨schema, hgives, -, hproperties⟩ := h
  rw [AddsOnlyId, hproperties, ← keys_eq_of_gives hgives, ← hasId_iff_of_gives hgives]
  split
  · exact Or.inl rfl
  · rename_i hnone
    rw [Table.keys_insert]
    split
    · exact Or.inl rfl
    · exact Or.inr ⟨hnone, rfl⟩

theorem nodup_keys : (Table.keys m.properties).Nodup := by
  obtain ⟨schema, -, hdistinct, hproperties⟩ := h
  rw [hproperties]
  split
  · exact hdistinct
  · exact Table.nodup_keys_insert _ _ hdistinct

/-- A model has the properties that are declared, but the generated identifier in the place of any
other property of its key if no identifier is declared. -/
theorem mem_properties :
    (key, p) ∈ m.properties ↔
      (∃ d, (key, d) ∈ entries ∧ parse registry key d = .ok p ∧
        (key = defaultIdName → DeclaresId registry entries)) ∨
      (¬ DeclaresId registry entries ∧ key = defaultIdName ∧ p = generatedId) := by
  obtain ⟨schema, hgives, hdistinct, hproperties⟩ := h
  rw [hproperties, ← hasId_iff_of_gives hgives]
  by_cases hid : schema.HasId
  · rw [if_pos hid, mem_iff_of_gives hgives]
    simp [hid]
  · -- writing the generated identifier drops what was declared under its key
    rw [if_neg hid, Table.mem_insert hdistinct, mem_iff_of_gives hgives, Prod.mk.injEq]
    simp only [hid, not_false_eq_true, true_and, imp_false]
    constructor
    · intro hmem
      rcases hmem with hgenerated | ⟨⟨d, hd, hparse⟩, hother⟩
      · exact Or.inr hgenerated
      · exact Or.inl ⟨d, hd, hparse, hother⟩
    · intro hmem
      rcases hmem with ⟨d, hd, hparse, hother⟩ | hgenerated
      · exact Or.inr ⟨⟨d, hd, hparse⟩, hother⟩
      · exact Or.inl hgenerated

theorem get?_eq_some : Table.get? m.properties key = some p ↔ (key, p) ∈ m.properties :=
  Table.get?_eq_some_iff_mem h.nodup_keys

/-- What is declared under a key is kept under it, unless the generated identifier takes its
place. -/
theorem kept_iff (hd : (key, d) ∈ entries) :
    ∃ p, parse registry key d = .ok p ∧
      (Table.get? m.properties key = some p ↔
        (key = defaultIdName → DeclaresId registry entries)) := by
  have hparsed : ∃ p, parse registry key d = .ok p := by
    obtain ⟨schema, hgives, -⟩ := h
    obtain ⟨⟨_, p⟩, -, rfl, hparse⟩ := Result.exists_of_forall₂ hgives hd
    exact ⟨p, hparse⟩
  obtain ⟨p, hparse⟩ := hparsed
  refine ⟨p, hparse, ?_⟩
  rw [h.get?_eq_some, h.mem_properties]
  constructor
  · intro hmem
    rcases hmem with ⟨-, -, -, hid⟩ | ⟨-, -, rfl⟩
    · exact hid
    · exact fun _ => ⟨_, hd, generatedId, hparse, rfl⟩
  · intro hid
    exact Or.inl ⟨d, hd, hparse, hid⟩

theorem named_iff :
    m.Named ↔ ∀ key p, (key, .property p) ∈ entries →
      p.name = key ∨ (key = defaultIdName ∧ ¬ DeclaresId registry entries) := by
  constructor
  · intro hnamed key p hdeclared
    by_cases hkept : key = defaultIdName → DeclaresId registry entries
    · have hmem := h.mem_properties.mpr (Or.inl ⟨.property p, hdeclared, by rw [parse], hkept⟩)
      exact Or.inl (hnamed _ hmem)
    · exact Or.inr (Classical.not_imp.mp hkept)
  · rintro hown ⟨key, p⟩ hmem
    rcases h.mem_properties.mp hmem with ⟨d, hd, hparse, hkept⟩ | ⟨-, rfl, rfl⟩
    · rcases name_of_parse hparse with hname | rfl
      · exact hname
      · rcases hown key p hd with hname | ⟨hid, hnone⟩
        · exact hname
        · exact absurd (hkept hid) hnone
    · rfl

/-- Where no identifier is declared, the identifier is the generated one. -/
theorem firstId_of_not_declaresId (hnone : ¬ DeclaresId registry entries) :
    m.firstId = generatedId := by
  obtain ⟨⟨key, p⟩, hp, hfirst⟩ := List.mem_map.mp m.firstId_mem.1
  obtain rfl : p = m.firstId := hfirst
  rcases h.mem_properties.mp hp with ⟨d, hd, hparse, -⟩ | ⟨-, -, hgenerated⟩
  · exact absurd ⟨(key, d), hd, m.firstId, hparse, m.firstId_mem.2⟩ hnone
  · exact hgenerated

/-- The name of the identifier leads to an identifier exactly if none is declared, or one is
declared under the name of the first. -/
theorem findsId_iff :
    m.FindsId ↔ (DeclaresId registry entries →
      ∃ d p, (m.idName, d) ∈ entries ∧ parse registry m.idName d = .ok p ∧ p.isId = true) := by
  simp only [FindsId, idProperty_eq_ok, h.get?_eq_some]
  constructor
  · intro hfound hdeclared
    obtain ⟨p, hp, hid⟩ := hfound
    rcases h.mem_properties.mp hp with ⟨d, hd, hparse, -⟩ | ⟨hnone, -⟩
    · exact ⟨d, p, hd, hparse, hid⟩
    · exact absurd hdeclared hnone
  · intro hnamed
    by_cases hdeclared : DeclaresId registry entries
    · obtain ⟨d, p, hd, hparse, hid⟩ := hnamed hdeclared
      exact ⟨p, h.mem_properties.mpr (Or.inl ⟨d, hd, hparse, fun _ => hdeclared⟩), hid⟩
    · have hname : m.idName = defaultIdName := by
        rw [idName, h.firstId_of_not_declaresId hdeclared]
        rfl
      exact ⟨generatedId, h.mem_properties.mpr (Or.inr ⟨hdeclared, hname, rfl⟩), rfl⟩

theorem agreesWith_iff :
    m.AgreesWith registry entries ↔
      (defaultIdName ∈ Table.keys entries → DeclaresId registry entries) ∧
        ∀ key p, (key, .property p) ∈ entries → p.name = key := by
  constructor
  · intro hagrees
    have hid : defaultIdName ∈ Table.keys entries → DeclaresId registry entries := by
      intro hkey
      obtain ⟨⟨_, d⟩, hd, rfl⟩ := List.mem_map.mp hkey
      obtain ⟨p, hparse, hfound⟩ := hagrees.kept defaultIdName d hd
      obtain ⟨q, hparse', hiff⟩ := h.kept_iff hd
      obtain rfl := Except.ok.inj (hparse.symm.trans hparse')
      exact hiff.mp hfound rfl
    refine ⟨hid, fun key p hdeclared => ?_⟩
    rcases h.named_iff.mp hagrees.named key p hdeclared with hname | ⟨rfl, hnone⟩
    · exact hname
    · exact absurd (hid (List.mem_map_of_mem hdeclared)) hnone
  · intro hdeclared
    obtain ⟨hid, hown⟩ := hdeclared
    have hnamed : m.Named := h.named_iff.mpr fun key p hp => Or.inl (hown key p hp)
    have htable : m.OneTable := hnamed.oneTable h.nodup_keys
    refine ⟨?_, h.addsOnlyId, hnamed, htable.findsId, htable⟩
    intro key d hd
    obtain ⟨p, hparse, hiff⟩ := h.kept_iff hd
    refine ⟨p, hparse, hiff.mpr ?_⟩
    rintro rfl
    exact hid (List.mem_map_of_mem hd)

end MadeOf

end Model

namespace Registry

open Declaration Model

variable {registry registry' : Registry} {name : String} {properties : Declaration}
  {settings : SettingsDeclaration} {entries : List (String × Declaration)} {m : Model}

theorem define_of_parseEntries {registry : Registry} {name : String}
    {entries : List (String × Declaration)} {schema : Schema}
    (h : parseEntries registry entries = .ok schema) :
    registry.define name (.mapping entries) (.declared .null) =
      .ok (.ofSchema name schema {}, Table.insert registry name (.ofSchema name schema {})) := by
  have hentries : (Declaration.mapping entries).entries = .ok entries := rfl
  rw [define, parseModel, hentries]
  simp only [bind, Except.bind, h]
  rfl

theorem madeOf_of_define (hentries : properties.entries = .ok entries)
    (hkeys : (Table.keys entries).Nodup)
    (h : registry.define name properties settings = .ok (m, registry')) :
    m.MadeOf registry entries := by
  obtain ⟨made, hmade, h⟩ := Result.bind_eq_ok.mp h
  obtain ⟨rfl, -⟩ := Prod.mk.inj (Except.ok.inj h)
  obtain ⟨entries', hentries', hmade⟩ := Result.bind_eq_ok.mp hmade
  obtain rfl := Except.ok.inj (hentries.symm.trans hentries')
  obtain ⟨schema, hschema, hmade⟩ := Result.bind_eq_ok.mp hmade
  obtain ⟨own, -, hmade⟩ := Result.bind_eq_ok.mp hmade
  have hgives : List.Forall₂ (Gives registry) entries schema := parseEntries_eq_ok.mp hschema
  refine ⟨schema, hgives, ?_, ?_⟩
  · rw [keys_eq_of_gives hgives]
    exact hkeys
  · rw [← Except.ok.inj hmade, properties_ofSchema]

/-- A defined model agrees with its declarations exactly if an identifier is declared or nothing is
declared as `id`, and every existing property is declared under its own name. In any case no key is
added but that of the generated identifier; what is declared under a key is kept unless the
generated identifier takes its place; no property but an existing one has another name than its key;
and the name of the identifier leads to an identifier exactly if none is declared, or one under this
name. -/
theorem define_agreesWith_iff (hentries : properties.entries = .ok entries)
    (hkeys : (Table.keys entries).Nodup)
    (h : registry.define name properties settings = .ok (m, registry')) :
    (m.AgreesWith registry entries ↔
      (defaultIdName ∈ Table.keys entries → DeclaresId registry entries) ∧
        ∀ key p, (key, .property p) ∈ entries → p.name = key) ∧
    m.AddsOnlyId registry entries ∧
    (∀ key d, (key, d) ∈ entries → ∃ p, parse registry key d = .ok p ∧
      (Table.get? m.properties key = some p ↔
        (key = defaultIdName → DeclaresId registry entries))) ∧
    (m.Named ↔ ∀ key p, (key, .property p) ∈ entries →
      p.name = key ∨ (key = defaultIdName ∧ ¬ DeclaresId registry entries)) ∧
    (m.FindsId ↔ (DeclaresId registry entries →
      ∃ d p, (m.idName, d) ∈ entries ∧ parse registry m.idName d = .ok p ∧ p.isId = true)) := by
  have hmade : m.MadeOf registry entries := madeOf_of_define hentries hkeys h
  refine ⟨hmade.agreesWith_iff, hmade.addsOnlyId, ?_, hmade.named_iff, hmade.findsId_iff⟩
  intro key d hd
  exact hmade.kept_iff hd

def isbn : Property :=
  .node { name := "isbn", typeName := "string", fieldName := .text "code", id := .bool true }
    none none

/-- A book is declared with its identifier and with a number as `id`, which is no identifier. -/
def bookEntries : List (String × Declaration) :=
  [("isbn", .property isbn), ("id", .dataClass .integer)]

def book : Model :=
  .ofSchema "Book" [("isbn", isbn), ("id", .plain "id" .scalar "number")] {}

def noteEntries : List (String × Declaration) := [("id", .dataClass .integer)]

def note : Model := .ofSchema "Note" [("id", .plain "id" .scalar "number")] {}

theorem define_agreesWith_iff_book :
    Registry.define [] "Book" (.mapping bookEntries) (.declared .null) =
        .ok (book, [("Book", book)]) ∧
      book.AgreesWith [] bookEntries ∧
      Registry.define [] "Note" (.mapping noteEntries) (.declared .null) =
        .ok (note, [("Note", note)]) ∧
      ¬ note.AgreesWith [] noteEntries := by
  have hbook : Registry.define [] "Book" (.mapping bookEntries) (.declared .null) =
      .ok (book, [("Book", book)]) := by
    have hparsed : parseEntries [] bookEntries =
        .ok [("isbn", isbn), ("id", .plain "id" .scalar "number")] := by
      rw [bookEntries, parseEntries, parseEntries, parse_integer]
      rfl
    exact define_of_parseEntries hparsed
  have hnote : Registry.define [] "Note" (.mapping noteEntries) (.declared .null) =
      .ok (note, [("Note", note)]) := by
    have hparsed : parseEntries [] noteEntries = .ok [("id", .plain "id" .scalar "number")] := by
      rw [noteEntries, parseEntries, parse_integer]
      rfl
    exact define_of_parseEntries hparsed
  refine ⟨hbook, ?_, hnote, ?_⟩
  · refine (define_agreesWith_iff rfl (by decide) hbook).1.mpr ⟨fun _ => ?_, ?_⟩
    · exact ⟨("isbn", .property isbn), List.mem_cons_self, isbn, by rw [parse], rfl⟩
    · intro key p hp
      simp only [bookEntries, List.mem_cons, List.not_mem_nil, or_false, Prod.mk.injEq] at hp
      rcases hp with ⟨rfl, hp⟩ | ⟨-, hp⟩
      · rw [Declaration.property.inj hp]
        rfl
      · cases hp
  · intro hagrees
    obtain ⟨declared, hdeclared, p, hparse, hid⟩ :=
      ((define_agreesWith_iff rfl (by decide) hnote).1.mp hagrees).1 List.mem_cons_self
    obtain rfl := List.mem_singleton.mp hdeclared
    rw [parse_integer] at hparse
    rw [← Except.ok.inj hparse] at hid
    cases hid

def code : Property :=
  .node { name := "code", typeName := "string", id := .bool true } none none

/-- An identifier kept under a key that is not its name cannot be found. -/
theorem not_define_agreesWith :
    ¬ ∀ (registry registry' : Registry) (name : String) (properties : Declaration)
        (settings : SettingsDeclaration) (entries : List (String × Declaration)) (m : Model),
      properties.entries = .ok entries → (Table.keys entries).Nodup →
      registry.define name properties settings = .ok (m, registry') →
      m.AgreesWith registry entries := by
  intro hagrees
  have hpost : Registry.define [] "Post" (.mapping [("pk", .property code)]) (.declared .null) =
      .ok (.ofSchema "Post" [("pk", code)] {},
        [("Post", .ofSchema "Post" [("pk", code)] {})]) := rfl
  obtain ⟨p, hp, -⟩ := (hagrees [] _ "Post" _ _ _ _ rfl (by decide) hpost).identified
  cases hp

end Registry
end ModelStore
