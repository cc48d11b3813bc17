import ModelStore.Proofs.Connector.ReadBack
import ModelStore.Proofs.Storage.Readable

/-!
Reading what was created. An operation that finds documents by a filter loads all of them before it
answers, so one that cannot be loaded takes the others with it. Whether documents that were created
can be loaded is seen from the data that they were created from.
-/
namespace ModelStore.Connector

open Act Coercion Storage

variable {c : Connector} {model : Model} {coerced found : Document}

/-- The document is what some data was created as, which was coerced to this, with an identifier. -/
def Created (c : Connector) (model : Model) (coerced found : Document) : Prop :=
  ∃ data options strict inserted id,
    c.isStrict model options = .ok strict ∧
    coerceEntries strict model.properties (Table.erase data model.idName) = .ok coerced ∧
    c.insertionOf model (.doc data) options = .ok inserted ∧
    found.Perm (Table.insert inserted idField id)

/-- A document that was created can be loaded unless the data was unreadable. -/
theorem Created.exists_load_iff (h : Created c model coerced found) (showsId : Bool) :
    (∃ data, load model showsId found = .ok data) ↔ ¬ IsUnreadable model coerced := by
  obtain ⟨data, options, strict, inserted, id, hstrict, hcoerced, hinserted, hfound⟩ := h
  obtain ⟨strict', coerced', document, hstrict', hcoerced', hstored, hwritten⟩ :=
    insertionOf_eq_ok hinserted
  obtain rfl := Except.ok.inj (hstrict.symm.trans hstrict')
  obtain rfl := Except.ok.inj (hcoerced.symm.trans hcoerced')
  have hsame : Table.insert inserted idField id = Table.insert document idField id := by
    rcases hwritten with rfl | ⟨given, rfl⟩
    · rfl
    · exact Table.insert_insert document idField given id
  rw [hsame] at hfound
  exact exists_load_store_iff hstored hfound showsId

/-- What a search by a filter found, before it is loaded: the filter as it was read, the documents,
and whether their identifiers are shown. -/
structure Listing where
  model : Model
  filter : Document
  found : List Value
  showsId : Bool

def listing (c : Connector) (name filter options : Value) : Act Listing := do
  let model ← settle (c.models.find name)
  let filter ← settle (filterOf filter)
  let query ← c.queryOf model (part filter "where") options
  let projection ← settle (Projection.build model (part filter "fields"))
  let session ← settle (sessionKeywords options)
  let cursor ← c.dispatcher.execute name "find"
    [.doc query, (projection.map Value.doc).getD .null] session
  let sort ← settle (Sort.build model c.settings options (part filter "order"))
  if !sort.isEmpty then askCursor cursor "sort" (.ok (.sort sort))
  if (part filter "limit").truthy then
    askCursor cursor "limit" (CursorStep.limit <$> (part filter "limit").toInteger)
  let skip := (part filter "skip").orElse (part filter "offset")
  if skip.truthy then askCursor cursor "skip" (CursorStep.skip <$> skip.toInteger)
  if (part filter "collation").truthy then
    askCursor cursor "collation" (.ok (.collation (part filter "collation")))
  let found ← iterate cursor
  let showsId ← settle (Projection.includesId (part filter "fields") model.idName)
  pure { model, filter, found, showsId }

/-- Answers a search with the documents as the model sees them, and with what is to be included. -/
def answer (c : Connector) (name options : Value) (listing : Listing) : Act Value := do
  let documents ← settle (listing.found.mapM fun document =>
    view listing.model document listing.showsId)
  let documents ←
    if (part listing.filter "include").truthy then
      resolveInclusion c.inclusions name documents (part listing.filter "include") options
    else pure documents
  pure (.list (documents.map Value.doc))

/-- An optional step comes before what follows, with whatever follows that. -/
theorem optionally_bind {α β : Type} {asked : Prop} [Decidable asked] {step : Act Unit}
    {next : Unit → Act β} {first : Unit → Act α} {last : α → Act β}
    (h : next () = first () >>= last) :
    (if asked then step >>= next else next ()) =
      (if asked then step >>= first else first ()) >>= last := by
  have hnext : next = fun answered => first answered >>= last := funext fun _ => h
  subst hnext
  split
  · rw [bind_assoc]
  · rfl

/-- A search by a filter finds its documents first and answers with them afterwards. -/
theorem all_eq (c : Connector) (name filter options : Value) :
    c.all name filter options = c.listing name filter options >>= c.answer name options := by
  unfold all listing
  simp only [bind_assoc]
  refine bind_congr fun model => ?_
  refine bind_congr fun entries => ?_
  refine bind_congr fun query => ?_
  refine bind_congr fun projection => ?_
  refine bind_congr fun session => ?_
  refine bind_congr fun cursor => ?_
  refine bind_congr fun sort => ?_
  -- What follows an optional step is shared by its two branches, so these are passed one by one.
  refine optionally_bind ?_
  refine optionally_bind ?_
  refine optionally_bind ?_
  refine optionally_bind ?_
  simp only [bind_assoc]
  refine bind_congr fun found => ?_
  refine bind_congr fun includeId => ?_
  rw [pure_bind]
  rfl

/-- Whatever is to be included, the resolver includes it. -/
def AnswersInclusions (c : Connector) : Prop :=
  ∀ resolve, c.inclusions = some resolve → ∀ name documents inclusion options,
    ∃ included, resolve name documents inclusion options = .ok included

theorem exists_resolveInclusion (hanswers : c.AnswersInclusions) (name : Value)
    (documents : List Document) (inclusion options : Value) (s : Datasource) :
    ∃ included,
      (outcome (resolveInclusion c.inclusions name documents inclusion options) s).1 =
        .ok included := by
  cases hresolver : c.inclusions with
  | none => exact ⟨documents, rfl⟩
  | some resolve =>
    obtain ⟨included, hincluded⟩ := hanswers resolve hresolver name documents inclusion options
    refine ⟨included, ?_⟩
    rw [resolveInclusion, outcome_bind_ok _ (outcome_log _ s), hincluded, outcome_settle]

/-- A search is answered unless one of the documents cannot be loaded. -/
theorem exists_answer_iff (name options : Value) (listing : Listing) (s : Datasource)
    (hincludes : (part listing.filter "include").truthy = true → c.AnswersInclusions) :
    (∃ v, (outcome (c.answer name options listing) s).1 = .ok v) ↔
      ∀ document ∈ listing.found,
        ∃ data, view listing.model document listing.showsId = .ok data := by
  rw [← Result.exists_mapM_eq_ok]
  unfold answer
  cases hviews : listing.found.mapM fun document =>
      view listing.model document listing.showsId with
  | error f =>
    rw [outcome_bind_error _ (outcome_settle _ s)]
    simp
  | ok documents =>
    rw [outcome_bind_ok _ (outcome_settle _ s)]
    dsimp only
    refine iff_of_true ?_ ⟨documents, rfl⟩
    split
    · rename_i hasked
      obtain ⟨included, hincluded⟩ := exists_resolveInclusion (hincludes hasked) name documents
        (part listing.filter "include") options s
      rw [outcome_bind_ok _ (Prod.ext hincluded rfl)]
      exact ⟨_, rfl⟩
    · exact ⟨_, rfl⟩

/-- Data that is accepted when it is created makes a document that can be loaded, with any
identifier and whether that is shown or not, unless the data is unreadable. Such a document is found
unless its own data is unreadable, and a search whose inclusions are answered is answered unless it
finds one whose data is. -/
theorem reads_created_iff (c : Connector) (model : Model) :
    (∀ (data : Document) (options : Value) (inserted : Document),
        c.insertionOf model (.doc data) options = .ok inserted →
        ∃ strict coerced, c.isStrict model options = .ok strict ∧
          coerceEntries strict model.properties (Table.erase data model.idName) = .ok coerced ∧
          ∀ (id : Value) (found : Document) (showsId : Bool),
            found.Perm (Table.insert inserted idField id) →
            ((∃ view, load model showsId found = .ok view) ↔ ¬ IsUnreadable model coerced)) ∧
      (∀ (name wanted options : Value) (s after : Datasource) (coerced found : Document),
        c.models.find name = .ok model → Created c model coerced found →
        FindsDocument c model name wanted options s found after →
        ((∃ v, (outcome (c.find name wanted options) s).1 = .ok v) ↔
          ¬ IsUnreadable model coerced)) ∧
      ∀ (name filter options : Value) (s after : Datasource) (entries : Document) (showsId : Bool)
        (created documents : List Document),
        List.Forall₂ (Created c model) created documents →
        outcome (c.listing name filter options) s =
          (.ok { model, filter := entries, found := documents.map .doc, showsId }, after) →
        ((part entries "include").truthy = true → c.AnswersInclusions) →
        ((∃ v, (outcome (c.all name filter options) s).1 = .ok v) ↔
          ∀ coerced ∈ created, ¬ IsUnreadable model coerced) := by
  refine ⟨?_, ?_, ?_⟩
  · intro data options inserted hinserted
    obtain ⟨strict, coerced, document, hstrict, hcoerced, -, -⟩ := insertionOf_eq_ok hinserted
    refine ⟨strict, coerced, hstrict, hcoerced, fun id found showsId hfound => ?_⟩
    have hcreated : Created c model coerced found :=
      ⟨data, options, strict, inserted, id, hstrict, hcoerced, hinserted, hfound⟩
    exact hcreated.exists_load_iff showsId
  · intro name wanted options s after coerced found hmodel hcreated hfinds
    rw [outcome_find hmodel hfinds, ← hcreated.exists_load_iff true]
    constructor
    · intro hfound
      obtain ⟨v, hv⟩ := hfound
      obtain ⟨data, hdata, -⟩ := Result.map_eq_ok.mp hv
      exact ⟨data, hdata⟩
    · intro hloaded
      obtain ⟨data, hdata⟩ := hloaded
      exact ⟨.doc data, Result.map_eq_ok.mpr ⟨data, hdata, rfl⟩⟩
  · intro name filter options s after entries showsId created documents hcreated hlisting hincludes
    rw [all_eq, outcome_bind_ok _ hlisting, exists_answer_iff _ _ _ _ hincludes,
      List.forall_mem_map]
    constructor
    · intro hloaded coerced hcoerced
      obtain ⟨found, hfound, h⟩ := Result.exists_of_forall₂ hcreated hcoerced
      exact (h.exists_load_iff showsId).mp (hloaded found hfound)
    · intro hreadable found hfound
      obtain ⟨coerced, hcoerced, h⟩ := Result.exists_of_forall₂ hcreated.flip hfound
      exact (Created.exists_load_iff h showsId).mpr (hreadable coerced hcoerced)

theorem not_isUnreadable_placed : ¬ IsUnreadable place placed := by
  intro hunreadable
  obtain ⟨entry, column, hremains, -, -, hbad⟩ := hunreadable
  have hentry := hremains.mem
  simp only [placed, List.mem_cons, List.not_mem_nil, or_false] at hentry
  rcases hentry with rfl | rfl
  · rcases hbad with ⟨point, hpoint, hmarked, -⟩ | ⟨-, point, given, items, hpoint, -, hgiven, -⟩
    · obtain rfl := Value.doc.inj hpoint
      cases hmarked
    · obtain rfl := Value.doc.inj hpoint
      cases hgiven
  · rcases hbad with ⟨point, hpoint, -⟩ | ⟨hkind, -⟩
    · cases hpoint
    · cases hkind

def insertedPlace : Document :=
  [("label", Filter.geoPoint [.int 2, .int 1]), ("spot", .text "a")]

theorem created_placed : Created places place placed storedPlace :=
  ⟨placed, .null, false, insertedPlace, .int 7, rfl, rfl, rfl, .of_eq rfl⟩

def finding (documents : List Document) : Datasource :=
  { Datasource.quiet with replies := [.value (.list (documents.map Value.doc))] }

theorem reads_created_placed :
    places.insertionOf place (.doc placed) .null = .ok insertedPlace ∧
      Created places place placed storedPlace ∧
      (∃ view, load place false storedPlace = .ok view) ∧
      (∃ v, (outcome (places.find (.text "Place") (.int 7) .null) (holding storedPlace)).1 =
        .ok v) ∧
      ∃ v, (outcome (places.all (.text "Place") .null .null) (finding [storedPlace])).1 =
        .ok v := by
  obtain ⟨hloads, hfinds, hanswers⟩ := reads_created_iff places place
  refine ⟨rfl, created_placed, ?_, ?_, ?_⟩
  · obtain ⟨strict, coerced, hstrict, hcoerced, hloaded⟩ := hloads placed .null insertedPlace rfl
    obtain rfl : false = strict := Except.ok.inj hstrict
    obtain rfl : placed = coerced := Except.ok.inj hcoerced
    exact (hloaded (.int 7) storedPlace false (.of_eq rfl)).mpr not_isUnreadable_placed
  · have hanswered : FindsDocument places place (.text "Place") (.int 7) .null
        (holding storedPlace) storedPlace asked := ⟨.int 7, [], rfl, rfl, rfl⟩
    exact (hfinds _ _ _ _ _ placed storedPlace rfl created_placed hanswered).mpr
      not_isUnreadable_placed
  · have hlisting : outcome (places.listing (.text "Place") .null .null) (finding [storedPlace]) =
        (.ok { model := place, filter := [], found := [.doc storedPlace], showsId := true },
          (outcome (places.listing (.text "Place") .null .null) (finding [storedPlace])).2) := rfl
    refine (hanswers _ _ _ _ _ _ _ [placed] [storedPlace] (.cons created_placed .nil)
      hlisting (fun hasked => by cases hasked)).mpr ?_
    intro coerced hcoerced
    rw [List.mem_singleton.mp hcoerced]
    exact not_isUnreadable_placed

/-- A point with too few coordinates is accepted when it is created, and cannot be loaded. -/
theorem not_readable_of_short :
    ¬ ∀ (registry : Registry) (declared : String) (properties : Declaration)
        (settings : SettingsDeclaration) (c : Connector) (model : Model) (options id : Value)
        (data inserted : Document) (showsId : Bool),
      Registry.define registry declared properties settings = .ok (model, c.models) →
      c.insertionOf model (.doc data) options = .ok inserted →
      ∃ view, load model showsId (Table.insert inserted idField id) = .ok view := by
  intro hreadable
  obtain ⟨view, hview⟩ := hreadable [] "Place" _ _ places place .null (.int 7)
    [("spot", .doc [("coordinates", .list [.int 1])])]
    [("label", Filter.geoPoint [.int 1])] true define_place rfl
  cases hview

end ModelStore.Connector
