import ModelStore.Connector.Read
import ModelStore.Proofs.Coercion.Point
import ModelStore.Proofs.Command.Unobserved
import ModelStore.Proofs.Connector.Insertion

/-!
Data read back. What was created is found again as it was coerced, under the names that it was given
by, with its points as latitude and longitude and the identifier that it was stored with. The two
exceptions are an empty column that leads back to another property, and a point that is only
marked as a stored one.
-/
namespace ModelStore

open Act Coercion Storage

namespace Connector

variable {c : Connector} {model : Model} {data coerced : Document}

/-- Data over declared properties, each once, in which whatever stands for a point but the
identifier is null or a point with two coordinates. -/
structure IsData (model : Model) (data : Document) : Prop where
  keys : (Table.keys data).Nodup
  declared : ∀ key ∈ Table.keys data, key ∈ Table.keys model.properties
  points : ∀ entry ∈ data, entry.1 ≠ model.idName → isPoint model entry.1 = true →
    IsPointValue entry.2

/-- Coerced data without the identifier is fit to be stored. -/
theorem isPayload_coerced {strict : Bool} (hdata : IsData model data)
    (h : coerceEntries strict model.properties (Table.erase data model.idName) = .ok coerced) :
    IsPayload model coerced := by
  have hkeys := keys_coerceEntries h
  have hmem : ∀ entry ∈ coerced, entry.1 ∈ Table.keys data ∧ entry.1 ≠ model.idName := by
    intro entry hentry
    have hkey : entry.1 ∈ Table.keys coerced := List.mem_map_of_mem hentry
    rw [hkeys] at hkey
    exact Table.mem_keys_erase.mp hkey
  refine ⟨?_, fun entry hentry => hdata.declared _ (hmem entry hentry).1,
    fun entry hentry => (hmem entry hentry).2, ?_⟩
  · rw [hkeys]
    exact hdata.keys.sublist (Table.keys_erase_sublist data model.idName)
  · intro entry hentry hkind
    obtain ⟨given, hgiven, hcoerced, hname⟩ :=
      Result.exists_of_forall₂ (coerceEntries_eq_ok.mp h).flip hentry
    have hkind' : isPoint model given.1 = true := hname ▸ hkind
    rw [coerceEntry, nestedSchema_of_isPoint hkind'] at hcoerced
    refine isPointValue_coerceValue (hdata.points given ?_ ?_ hkind') hcoerced
    · exact (List.mem_filter.mp hgiven).1
    · rw [hname]
      exact (hmem entry hentry).2

def FindsDocument (c : Connector) (model : Model) (name id options : Value) (s : Datasource)
    (found : Document) (after : Datasource) : Prop :=
  ∃ wanted session, c.coerceId model id options = .ok wanted ∧
    sessionKeywords options = .ok session ∧
    outcome (c.dispatcher.execute name "find_one" [.doc (byId wanted)] session) s =
      (.ok (.doc found), after)

variable {name id options : Value} {s after : Datasource} {found : Document}

theorem outcome_find (hmodel : c.models.find name = .ok model)
    (h : FindsDocument c model name id options s found after) :
    outcome (c.find name id options) s =
      (Value.doc <$> Storage.load model true found, after) := by
  obtain ⟨wanted, session, hwanted, hsession, hfound⟩ := h
  refine (outcome_bind_ok _ (outcome_settle_ok _ hmodel)).trans ?_
  refine (outcome_bind_ok _ (outcome_settle_ok _ hwanted)).trans ?_
  refine (outcome_bind_ok _ (outcome_settle_ok _ hsession)).trans ?_
  refine (outcome_bind_ok _ hfound).trans ?_
  have hview : view model (.doc found) true = Storage.load model true found := rfl
  dsimp only
  rw [hview]
  cases Storage.load model true found <;> rfl

/-- What was created is found as it was coerced, with its points as the model sees them and under
the identifier that it was stored with, exactly if every entry comes back. -/
theorem find_created_iff (hmodel : c.models.find name = .ok model)
    (hcolumns : model.ColumnsApart) (hdata : IsData model data) {i : Value} {created : Datasource}
    (hcreated : outcome (c.create name (.doc data) options) s = (.ok i, created)) :
    ∃ strict coerced inserted,
      c.isStrict model options = .ok strict ∧
      coerceEntries strict model.properties (Table.erase data model.idName) = .ok coerced ∧
      c.insertionOf model (.doc data) options = .ok inserted ∧
      (∃ added, created.events = s.events ++ added ∧
        ∀ e ∈ added, Inserts c name (.doc data) options s.watching e) ∧
      ∀ (found : Document) (wanted callOptions : Value) (later after : Datasource),
        found.Perm (Table.insert inserted idField i) →
        FindsDocument c model name wanted callOptions later found after →
        ((∃ view : Document,
            outcome (c.find name wanted callOptions) later = (.ok (.doc view), after) ∧
            view.Perm ((model.idName, i) :: coerced.map (shown model))) ↔
          ∀ entry ∈ coerced, ReadsBack model entry) := by
  obtain ⟨added, hevents, hadded⟩ := inserts_create c name (.doc data) options s
  obtain ⟨model', inserted, hmodel', hinserted⟩ :=
    exists_insertionOf (congrArg Prod.fst hcreated)
  rw [hcreated] at hevents
  obtain rfl : model' = model := Except.ok.inj (hmodel'.symm.trans hmodel)
  obtain ⟨strict, coerced, document, hstrict, hcoerced, hstored, hwritten⟩ :=
    insertionOf_eq_ok hinserted
  have hpayload := isPayload_coerced hdata hcoerced
  have hsame : Table.insert inserted idField i = Table.insert document idField i := by
    rcases hwritten with rfl | ⟨given, rfl⟩
    · rfl
    · exact Table.insert_insert document idField given i
  refine ⟨strict, coerced, inserted, hstrict, hcoerced, hinserted, ⟨added, hevents, hadded⟩, ?_⟩
  intro found wanted callOptions later after hfound hfinds
  rw [hsame] at hfound
  rw [outcome_find hmodel hfinds]
  constructor
  · intro hview
    obtain ⟨view, hanswer, hperm⟩ := hview
    obtain ⟨view', hload, hview'⟩ := Result.map_eq_ok.mp (Prod.mk.inj hanswer).1
    rw [Value.doc.inj hview'] at hload
    exact readsBack_of_load hcolumns hpayload hstored hfound hload hperm
  · intro hback
    obtain ⟨view, hload, hperm⟩ := load_of_readsBack hcolumns hpayload hstored hfound hback
    exact ⟨view, by rw [hload]; rfl, hperm⟩

def spot : Property :=
  .node { name := "spot", kind := .geopoint, fieldName := .text "label" } none none

def label : Property := .node { name := "label", fieldName := .text "spot" } none none

/-- A place, whose properties are stored under each other's names. -/
def place : Model := .ofSchema "Place" [("spot", spot), ("label", label)] {}

theorem define_place :
    Registry.define [] "Place" (.mapping [("spot", .property spot), ("label", .property label)])
      (.declared .null) = .ok (place, [("Place", place)]) := rfl

theorem columnsApart_place : place.ColumnsApart := by
  have hproperties : place.properties =
      [("spot", spot), ("label", label), ("id", Model.generatedId)] := rfl
  refine ⟨?_, ?_, ?_⟩
  · intro entry hentry
    rw [hproperties] at hentry
    simp only [List.mem_cons, List.not_mem_nil, or_false] at hentry
    rcases hentry with rfl | rfl | rfl <;> rfl
  · have hcolumns : place.properties.map (fun entry => entry.2.column) =
        [.text "label", .text "spot", .text "id"] := rfl
    simp [hcolumns]
  · intro entry hentry hid hcolumn
    rw [hproperties] at hentry
    simp only [List.mem_cons, List.not_mem_nil, or_false] at hentry
    rcases hentry with rfl | rfl | rfl
    · exact absurd (Value.text.inj hcolumn) (by decide)
    · exact absurd (Value.text.inj hcolumn) (by decide)
    · exact hid rfl

def places : Connector := { settings := {}, models := [("Place", place)] }

def accepting : Datasource :=
  { Datasource.quiet with replies := [.value (.record [("inserted_id", .int 7)])] }

def holding (document : Document) : Datasource :=
  { Datasource.quiet with replies := [.value (.doc document)] }

def asked : Datasource :=
  { Datasource.quiet with
    events := [.native (.text "Place") "find_one" [.doc [(idField, .int 7)]] []] }

def placed : Document :=
  [("spot", .doc [("lat", .int 1), ("lng", .int 2)]), ("label", .text "a")]

theorem isData_placed : IsData place placed := by
  refine ⟨by decide, by decide, ?_⟩
  intro entry hentry _ hkind
  simp only [placed, List.mem_cons, List.not_mem_nil, or_false] at hentry
  rcases hentry with rfl | rfl
  · exact Or.inr ⟨.int 2, .int 1, rfl⟩
  · cases hkind

def storedPlace : Document :=
  [("label", Filter.geoPoint [.int 2, .int 1]), ("spot", .text "a"), (idField, .int 7)]

theorem find_created_placed :
    place.ColumnsApart ∧ IsData place placed ∧
    (outcome (places.create (.text "Place") (.doc placed) .null) accepting).1 = .ok (.int 7) ∧
    ∃ view, (outcome (places.find (.text "Place") (.int 7) .null) (holding storedPlace)).1 =
        .ok (.doc view) ∧
      view.Perm [("id", .int 7), ("spot", .doc [("lat", .int 1), ("lng", .int 2)]),
        ("label", .text "a")] := by
  have hcreated : outcome (places.create (.text "Place") (.doc placed) .null) accepting =
      (.ok (.int 7),
        { Datasource.quiet with
          events := [.native (.text "Place") "insert_one"
            [.doc [("label", Filter.geoPoint [.int 2, .int 1]), ("spot", .text "a")]] []] }) := rfl
  obtain ⟨strict, coerced, inserted, hstrict, hcoerced, hinserted, -, hfinds⟩ :=
    find_created_iff (c := places) rfl columnsApart_place isData_placed hcreated
  obtain rfl : placed = coerced := by
    obtain rfl : false = strict := Except.ok.inj hstrict
    exact Except.ok.inj hcoerced
  obtain rfl : [("label", Filter.geoPoint [.int 2, .int 1]), ("spot", .text "a")] = inserted :=
    Except.ok.inj hinserted
  have hback : ∀ entry ∈ placed, ReadsBack place entry := by
    intro entry hentry
    simp only [placed, List.mem_cons, List.not_mem_nil, or_false] at hentry
    rcases hentry with rfl | rfl
    · refine ⟨fun hcolumn => absurd (Value.text.inj hcolumn) (by decide), ?_⟩
      intro _ point hpoint hmarked
      obtain rfl := Value.doc.inj hpoint
      cases hmarked
    · refine ⟨fun hcolumn => absurd (Value.text.inj hcolumn) (by decide), ?_⟩
      intro hkind
      cases hkind
  have hanswered : FindsDocument places place (.text "Place") (.int 7) .null
      (holding storedPlace) storedPlace asked := ⟨.int 7, [], rfl, rfl, rfl⟩
  obtain ⟨view, hview, hperm⟩ :=
    (hfinds storedPlace (.int 7) .null _ _ (List.Perm.of_eq rfl) hanswered).mpr hback
  exact ⟨columnsApart_place, isData_placed, rfl, view, congrArg Prod.fst hview, hperm⟩

/-- A point that is marked as a stored one but has no coordinates. -/
def marked : Value := .doc [("type", .text "Point"), ("lat", .int 1), ("lng", .int 2)]

def storedMarked : Document := [("label", marked), (idField, .int 7)]

theorem isData_marked : IsData place [("spot", marked)] := by
  refine ⟨by decide, by decide, ?_⟩
  intro entry hentry _ _
  rw [List.mem_singleton.mp hentry]
  exact Or.inr ⟨.int 2, .int 1, rfl⟩

/-- A point that is accepted when it is created can make it impossible to find it. -/
theorem not_found_of_marked :
    ¬ ∀ (registry : Registry) (declared : String) (properties : Declaration)
        (settings : SettingsDeclaration) (c : Connector) (model : Model) (name options i : Value)
        (data inserted : Document) (s created : Datasource),
      Registry.define registry declared properties settings = .ok (model, c.models) →
      c.models.find name = .ok model → model.ColumnsApart → IsData model data →
      outcome (c.create name (.doc data) options) s = (.ok i, created) →
      c.insertionOf model (.doc data) options = .ok inserted →
      ∀ (found : Document) (wanted callOptions : Value) (later after : Datasource),
        found.Perm (Table.insert inserted idField i) →
        FindsDocument c model name wanted callOptions later found after →
        ∃ view : Document,
          outcome (c.find name wanted callOptions) later = (.ok (.doc view), after) := by
  intro hfound
  have hanswered : FindsDocument places place (.text "Place") (.int 7) .null
      (holding storedMarked) storedMarked asked := ⟨.int 7, [], rfl, rfl, rfl⟩
  obtain ⟨view, hview⟩ := hfound [] "Place" _ _ places place (.text "Place") .null
    (.int 7) [("spot", marked)] [("label", marked)] accepting _ define_place rfl
    columnsApart_place isData_marked rfl rfl storedMarked (.int 7) .null _ _
    (List.Perm.of_eq rfl) hanswered
  cases (Prod.mk.inj hview).1

end Connector
end ModelStore
