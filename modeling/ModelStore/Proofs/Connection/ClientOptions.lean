import ModelStore.Proofs.Connection.Lifecycle
import ModelStore.Proofs.Table

/-!
The options that a connection hands to the driver. Every key of the settings that no field reads
and that the driver knows is an option of the client, and the first connection hands all of them
over under their own names. The timeouts are handed over with them, and the driver takes no option
twice. So the first connection depends on the names of the options: it reaches the driver exactly
if no key of the settings is spelled like one of the two timeouts.
-/
namespace ModelStore

variable {entries : Document} {settings : Settings} {driver : List String}

namespace Settings

theorem extra_of_ofDocument (h : ofDocument entries = .ok settings) :
    settings.extra = extras entries := by
  rw [ofDocument] at h
  dsimp only at h
  split at h
  · exact (congrArg Settings.extra (Except.ok.inj h)).symm
  · cases h

/-- The options of the client are entries of the settings with names that the driver knows. -/
theorem mem_clientOptions (h : ofDocument entries = .ok settings) {option : String × Value} :
    option ∈ settings.clientOptions driver ↔
      option ∈ entries ∧ (∀ names ∈ fieldNames.all, writtenName? entries names ≠ some option.1) ∧
        isClientOption driver option.1 = true := by
  rw [clientOptions, extra_of_ofDocument h, extras]
  simp only [List.mem_filter, Bool.not_eq_true', and_assoc]
  simp

theorem nodup_keys_clientOptions (h : ofDocument entries = .ok settings)
    (hentries : (Table.keys entries).Nodup) : (Table.keys (settings.clientOptions driver)).Nodup := by
  have hsublist : (settings.clientOptions driver).Sublist entries := by
    rw [clientOptions, extra_of_ofDocument h]
    exact List.filter_sublist.trans List.filter_sublist
  exact hentries.sublist (hsublist.map Prod.fst)

/-- A key that no field has among its names is an option wherever the driver knows it. -/
theorem mem_keys_clientOptions {key : String} (h : ofDocument entries = .ok settings)
    (hfields : ∀ names ∈ fieldNames.all, key ∉ names) (hknown : isClientOption driver key = true) :
    key ∈ Table.keys (settings.clientOptions driver) ↔ key ∈ Table.keys entries := by
  have hunread : ∀ names ∈ fieldNames.all, writtenName? entries names ≠ some key := by
    intro names hnames hwritten
    exact hfields names hnames (List.mem_of_find?_eq_some hwritten)
  simp only [Table.keys, List.mem_map]
  constructor
  · intro hkey
    obtain ⟨option, hoption, rfl⟩ := hkey
    exact ⟨option, ((mem_clientOptions h).mp hoption).1, rfl⟩
  · intro hkey
    obtain ⟨option, hoption, rfl⟩ := hkey
    exact ⟨option, (mem_clientOptions h).mpr ⟨hoption, hunread, hknown⟩, rfl⟩

end Settings

namespace Connection

open Act Datasource

variable {s : Datasource}

theorem keys_timeouts (settings : Settings) :
    Table.keys (timeouts settings) = ["serverSelectionTimeoutMS", "connectTimeoutMS"] := rfl

theorem not_hasDuplicates_iff :
    hasDuplicates settings driver = false ↔
      ∀ key ∈ Table.keys (timeouts settings), key ∉ Table.keys (settings.clientOptions driver) := by
  rw [hasDuplicates, List.any_eq_false]
  simp only [Table.contains_iff_mem_keys]
  constructor
  · intro hdistinct key htimeout hkey
    obtain ⟨option, hoption, rfl⟩ := List.mem_map.mp hkey
    exact hdistinct option hoption htimeout
  · intro hdistinct option hoption htimeout
    exact hdistinct option.1 htimeout (List.mem_map_of_mem hoption)

/-- The driver knows the options of the two timeouts. -/
structure KnowsTimeouts (driver : List String) : Prop where
  selection : "serverselectiontimeoutms" ∈ driver
  connecting : "connecttimeoutms" ∈ driver

theorem KnowsTimeouts.isClientOption (h : KnowsTimeouts driver) :
    Settings.isClientOption driver "serverSelectionTimeoutMS" = true ∧
      Settings.isClientOption driver "connectTimeoutMS" = true := by
  have hselection : Text.lower "serverSelectionTimeoutMS" = "serverselectiontimeoutms" := by decide
  have hconnecting : Text.lower "connectTimeoutMS" = "connecttimeoutms" := by decide
  simp [Settings.isClientOption, hselection, hconnecting, h.selection, h.connecting]

/-- No field reads a key that is spelled like a timeout of the client. -/
theorem hasDuplicates_eq_false_iff (hdriver : KnowsTimeouts driver)
    (h : Settings.ofDocument entries = .ok settings) :
    hasDuplicates settings driver = false ↔
      "serverSelectionTimeoutMS" ∉ Table.keys entries ∧ "connectTimeoutMS" ∉ Table.keys entries := by
  obtain ⟨hselection, hconnecting⟩ := hdriver.isClientOption
  rw [not_hasDuplicates_iff, keys_timeouts]
  simp only [List.forall_mem_cons, List.not_mem_nil, false_imp_iff, implies_true, and_true]
  rw [Settings.mem_keys_clientOptions h (by decide) hselection,
    Settings.mem_keys_clientOptions h (by decide) hconnecting]

/-- Options that are given once each are found in the keywords under their own names. -/
theorem get?_clientKeywords (hdistinct : hasDuplicates settings driver = false)
    (hnodup : (Table.keys (settings.clientOptions driver)).Nodup) :
    (Table.keys (clientKeywords settings driver)).Nodup ∧
      ∀ option ∈ settings.clientOptions driver,
        Table.get? (clientKeywords settings driver) option.1 = some option.2 := by
  have hkeywords : (Table.keys (clientKeywords settings driver)).Nodup := by
    have htimeouts : (Table.keys (timeouts settings)).Nodup := by
      rw [keys_timeouts]
      decide
    rw [clientKeywords, Table.keys, List.map_append]
    refine List.nodup_append.mpr ⟨htimeouts, hnodup, ?_⟩
    intro key htimeout option hoption hsame
    rw [← hsame] at hoption
    exact not_hasDuplicates_iff.mp hdistinct key htimeout hoption
  refine ⟨hkeywords, ?_⟩
  intro option hoption
  exact (Table.get?_eq_some_iff_mem hkeywords).mpr (List.mem_append_right _ hoption)

/-- The connection constructs a client with every option under its own name. What the driver makes
of the options is all that it can end with. -/
structure HandsOver (settings : Settings) (s : Datasource) : Prop where
  constructed : ∃ keywords,
    (outcome (connect settings) s).2.events =
        s.events ++ [.construct [.text settings.resolvedUrl] keywords] ∧
      (Table.keys keywords).Nodup ∧
      ∀ option ∈ settings.clientOptions s.driverOptions,
        Table.get? keywords option.1 = some option.2
  kept : s.constructions.head?.join = none →
    (outcome (connect settings) s).1 = .ok (s.clients.length + 1) ∧
      (outcome (connect settings) s).2.client = some (s.clients.length + 1)
  failed : ∀ f, s.constructions.head?.join = some f →
    (outcome (connect settings) s).1 = .error (if f.isError then .unreachable f else f)

/-- The first connection hands all options over exactly if the settings have no key that is spelled
like one of the timeouts; otherwise it fails, and nothing is constructed. -/
theorem handsOver_iff (hentries : (Table.keys entries).Nodup)
    (hsettings : Settings.ofDocument entries = .ok settings) (hnothing : s.client = none)
    (hdriver : s.driverMissing = false) (htimeouts : KnowsTimeouts s.driverOptions) :
    HandsOver settings s ↔
      "serverSelectionTimeoutMS" ∉ Table.keys entries ∧ "connectTimeoutMS" ∉ Table.keys entries := by
  rw [← hasDuplicates_eq_false_iff htimeouts hsettings]
  have hconnect : outcome (connect settings) s = outcome (construct settings) s :=
    outcome_connect_nothing hnothing
  constructor
  · intro hhanded
    by_contra hrepeated
    obtain ⟨keywords, hevents, -⟩ := hhanded.constructed
    rw [hconnect, outcome_construct_repeated hdriver (by simpa using hrepeated)] at hevents
    -- Nothing was added to the record.
    have hlength := congrArg List.length hevents
    simp at hlength
  · intro hdistinct
    have hnodup : (Table.keys (settings.clientOptions s.driverOptions)).Nodup :=
      Settings.nodup_keys_clientOptions hsettings hentries
    obtain ⟨hkeywords, hoptions⟩ := get?_clientKeywords hdistinct hnodup
    rw [outcome_construct_distinct hdriver hdistinct] at hconnect
    refine ⟨⟨clientKeywords settings s.driverOptions, ?_, hkeywords, hoptions⟩, ?_, ?_⟩
    · rw [hconnect]
      cases s.constructions.head?.join with
      | none => rfl
      | some cause =>
        obtain ⟨f, after, hfailed, -, -, hevents⟩ :=
          constructionFailed_cases settings cause (tried settings s)
        dsimp only
        rw [hfailed]
        exact hevents
    · intro haccepted
      rw [hconnect, haccepted]
      exact ⟨rfl, rfl⟩
    · intro f hrefused
      rw [hconnect, hrefused]
      dsimp only
      unfold constructionFailed
      split <;> rfl

def described : Document :=
  [("name", .text "mongoDs"), ("database", .text "app"), ("replicaSet", .text "rs0"),
    ("MAXPOOLSIZE", .int 3), ("connect_timeout_ms", .int 20000)]

def describedSettings : Settings :=
  { database := some "app", connectTimeout := 20000
    extra := [("name", .text "mongoDs"), ("replicaSet", .text "rs0"), ("MAXPOOLSIZE", .int 3)] }

def driven : Datasource :=
  { driverOptions := ["serverselectiontimeoutms", "connecttimeoutms", "replicaset", "maxpoolsize"] }

theorem handsOver_iff_described :
    (Table.keys described).Nodup ∧ Settings.ofDocument described = .ok describedSettings ∧
      KnowsTimeouts driven.driverOptions ∧
      describedSettings.clientOptions driven.driverOptions =
        [("replicaSet", .text "rs0"), ("MAXPOOLSIZE", .int 3)] ∧
      HandsOver describedSettings driven := by
  have hnodup : (Table.keys described).Nodup := by decide
  have hsettings : Settings.ofDocument described = .ok describedSettings := rfl
  have htimeouts : KnowsTimeouts driven.driverOptions := ⟨by decide, by decide⟩
  refine ⟨hnodup, hsettings, htimeouts, rfl, ?_⟩
  exact (handsOver_iff hnodup hsettings rfl rfl htimeouts).mpr (by decide)

def respelled : Document := [("serverSelectionTimeoutMS", .int 1)]

/-- The first connection fails over the name of an option alone. -/
theorem not_handsOver_respelled :
    Settings.ofDocument respelled = .ok { extra := respelled } ∧
      ({ extra := respelled } : Settings).clientOptions driven.driverOptions = respelled ∧
      (outcome (connect { extra := respelled }) driven).1 =
        .error (.unreachable (.misuse .wrongType)) ∧
      (outcome (connect { extra := respelled }) driven).2.events = [] ∧
      ¬ HandsOver { extra := respelled } driven := by
  have hevents : (outcome (connect { extra := respelled }) driven).2.events = [] := rfl
  refine ⟨rfl, rfl, rfl, hevents, ?_⟩
  intro hhanded
  obtain ⟨keywords, hconstructed, -⟩ := hhanded.constructed
  rw [hevents] at hconstructed
  cases hconstructed

end Connection
end ModelStore
