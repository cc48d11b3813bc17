import ModelStore.Proofs.Projection.Requests

/-!
Whether the identifier is shown. A projection asks for the field of the identifier, under whatever
name that was requested, while the test looks for the identifier's own name. So the two agree as
long as a request under another name does not say something else than the test.
-/
namespace ModelStore.Projection

variable {model : Model} {fields : Value} {requests : List Request} {request last : Request}
  {projection : Option Document} {paths : List String}

/-- The projection asks for the identifier: there is none, it wants the field of the identifier, or
it does not mention that field and wants no other. -/
def AsksForId : Option Document → Prop
  | none => True
  | some projection => Table.get? projection idField = some (wanted true) ∨
      (idField ∉ Table.keys projection ∧ ∀ entry ∈ projection, entry.2 ≠ wanted true)

/-- The request is for the identifier, by its name or by another. -/
def IsForId (model : Model) (request : Request) : Prop := model.fieldName request.1 = .ok idField

/-- Apart from those for the identifier, all requests are wanted or none is. -/
def Even (model : Model) (requests : List Request) : Prop :=
  ∃ b, ∀ request ∈ requests, ¬ IsForId model request → request.2 = b

/-- No later request is for the identifier. -/
structure IsLastForId (model : Model) (requests : List Request) (last : Request) : Prop where
  forId : IsForId model last
  isLast : Table.IsLast (fun request => model.fieldName request.1) requests last

/-- The last request for the identifier says what the one under its own name does; if there is none
under that name, it is wanted exactly if the first request is not. -/
structure AgreesOnId (model : Model) (requests : List Request) : Prop where
  named : ∀ request ∈ requests, request.1 = model.idName →
    ∀ last, IsLastForId model requests last → last.2 = request.2
  unnamed : (∀ request ∈ requests, request.1 ≠ model.idName) →
    ∀ last, IsLastForId model requests last → ∀ first ∈ requests.head?, last.2 = !first.2

theorem isForId_of_named (h : request.1 = model.idName) : IsForId model request := if_pos (Or.inl h)

theorem wanted_inj {b b' : Bool} : wanted b = wanted b' ↔ b = b' := by
  cases b <;> cases b' <;> simp [wanted]

/-- The request of a name is the one that is found under it. -/
theorem Requests.get?_eq (h : Requests fields requests) (hrequest : request ∈ requests) :
    Table.get? requests request.1 = some request.2 := by
  have hwanted : ∀ paths, request ∈ allWanted paths →
      Table.get? (allWanted paths) request.1 = some request.2 := by
    intro paths hmem
    obtain ⟨path, hpath, rfl⟩ := List.mem_map.mp hmem
    rw [get?_allWanted, if_pos hpath]
  cases h with
  | nothing => cases hrequest
  | list => exact hwanted _ hrequest
  | tuple => exact hwanted _ hrequest
  | @table entries _ hkeys =>
    have hnodup : (Table.keys (Table.mapValues Value.truthy entries)).Nodup := by
      simpa [Table.keys, Table.mapValues, Function.comp_def] using hkeys
    exact (Table.get?_eq_some_iff_mem hnodup).mpr hrequest

theorem Requests.tested_of_named (h : Requests fields requests) (hrequest : request ∈ requests)
    (hname : request.1 = model.idName) : tested model.idName requests = request.2 := by
  rw [tested, ← hname, h.get?_eq hrequest]

theorem tested_of_unnamed {first : Request} {rest : List Request}
    (h : ∀ request ∈ first :: rest, request.1 ≠ model.idName) :
    tested model.idName (first :: rest) = !first.2 := by
  have hnone : Table.get? (first :: rest) model.idName = none := by
    refine Table.get?_eq_none_iff.mpr fun hkey => ?_
    obtain ⟨request, hrequest, hname⟩ := List.mem_map.mp hkey
    exact h request hrequest hname
  rw [tested, hnone]
  rfl

/-- Of the requests for one field the last one is in the projection. -/
theorem mem_build (h : Requests fields requests) (hset : requests ≠ []) {document : Document}
    (hbuild : build model fields = .ok (some document)) {entry : String × Value} :
    entry ∈ document ↔
      ∃ request, Table.IsLast (fun request => model.fieldName request.1) requests request ∧
        Marks model request entry := by
  obtain ⟨written, hwritten, hdocument⟩ := (build_eq_ok h hset).mp hbuild
  obtain rfl := Option.some.inj hdocument
  have hok : Function.Injective (Except.ok : String → Result String) :=
    fun _ _ heq => Except.ok.inj heq
  exact Table.mem_ofList_iff_isLast hok (fun _ _ hmarks => hmarks.field)
    (fun _ _ _ hmarks hmarks' => hmarks.unique hmarks') hwritten

theorem nodup_keys_build (h : Requests fields requests) (hset : requests ≠ []) {document : Document}
    (hbuild : build model fields = .ok (some document)) : (Table.keys document).Nodup := by
  obtain ⟨written, -, hdocument⟩ := (build_eq_ok h hset).mp hbuild
  obtain rfl := Option.some.inj hdocument
  exact Table.nodup_keys_ofList written

/-- Every request for the identifier is overruled by the last one. -/
theorem exists_isLastForId (hrequest : request ∈ requests) (hid : IsForId model request) :
    ∃ last, IsLastForId model requests last := by
  obtain ⟨last, hlast, hsame⟩ :=
    Table.exists_isLast (fun request => model.fieldName request.1) hrequest
  exact ⟨last, hsame.trans hid, hlast⟩

theorem IsLastForId.unique (h : IsLastForId model requests request)
    (h' : IsLastForId model requests last) : request = last :=
  h.isLast.unique h'.isLast (h.forId.trans h'.forId.symm)

/-- Where the identifier is requested, the projection asks for it as the last of those requests
does. -/
theorem asksForId_iff_last (h : Requests fields requests) {document : Document}
    (hbuild : build model fields = .ok (some document)) (hlast : IsLastForId model requests last) :
    AsksForId (some document) ↔ last.2 = true := by
  have hset : requests ≠ [] := List.ne_nil_of_mem hlast.isLast.mem
  have hfound : Table.get? document idField = some (wanted last.2) := by
    rw [Table.get?_eq_some_iff_mem (nodup_keys_build h hset hbuild), mem_build h hset hbuild]
    exact ⟨last, hlast.isLast, ⟨hlast.forId, rfl⟩⟩
  constructor
  · intro hasks
    rcases hasks with hwanted | ⟨hkey, -⟩
    · rw [hfound] at hwanted
      exact wanted_inj.mp (Option.some.inj hwanted)
    · exact absurd (List.mem_map_of_mem (Table.mem_of_get? hfound)) hkey
  · intro hwanted
    rw [hwanted] at hfound
    exact Or.inl hfound

/-- Where the identifier is not requested, the projection asks for it exactly if it leaves out what
is. -/
theorem asksForId_iff_first {first : Request} {rest : List Request}
    (h : Requests fields (first :: rest)) (heven : Even model (first :: rest)) {document : Document}
    (hbuild : build model fields = .ok (some document))
    (hnone : ∀ request ∈ first :: rest, ¬ IsForId model request) :
    AsksForId (some document) ↔ first.2 = false := by
  have hset := List.cons_ne_nil first rest
  obtain ⟨b, hb⟩ := heven
  have hfirst : first.2 = b := hb first List.mem_cons_self (hnone first List.mem_cons_self)
  have hmarks : ∀ entry ∈ document, entry.1 ≠ idField ∧ entry.2 = wanted b := by
    intro entry hentry
    obtain ⟨request, hrequest, hmarks⟩ := (mem_build h hset hbuild).mp hentry
    have hother := hnone request hrequest.mem
    refine ⟨?_, by rw [hmarks.mark, hb request hrequest.mem hother]⟩
    intro hid
    exact hother (hmarks.field.trans (congrArg Except.ok hid))
  have hkey : idField ∉ Table.keys document := by
    intro hkey
    obtain ⟨entry, hentry, hid⟩ := List.mem_map.mp hkey
    exact (hmarks entry hentry).1 hid
  rw [hfirst]
  constructor
  · intro hasks
    rcases hasks with hwanted | ⟨-, hunwanted⟩
    · exact absurd (List.mem_map_of_mem (Table.mem_of_get? hwanted)) hkey
    · -- The projection is not empty, so one of its marks is left to tell.
      obtain ⟨entry, hentry⟩ : ∃ entry, entry ∈ document := by
        obtain ⟨written, hwritten, hdocument⟩ := (build_eq_ok h hset).mp hbuild
        obtain rfl := Option.some.inj hdocument
        refine List.exists_mem_of_ne_nil _ (mt Table.ofList_eq_nil_iff.mp ?_)
        rw [Result.eq_nil_iff_of_forall₂ hwritten]
        exact hset
      have hmark := hunwanted entry hentry
      rw [(hmarks entry hentry).2] at hmark
      cases b with
      | false => rfl
      | true => exact absurd rfl hmark
  · intro hfalse
    refine Or.inr ⟨hkey, fun entry hentry => ?_⟩
    rw [(hmarks entry hentry).2, hfalse]
    exact mt wanted_inj.mp (by decide)

/-- Where the identifier is requested, it is agreed on exactly if the test answers as the last of
those requests does. -/
theorem agreesOnId_iff_of_last (h : Requests fields requests)
    (hlast : IsLastForId model requests last) :
    AgreesOnId model requests ↔ tested model.idName requests = last.2 := by
  have hset : requests ≠ [] := List.ne_nil_of_mem hlast.isLast.mem
  obtain ⟨first, rest, rfl⟩ := List.exists_cons_of_ne_nil hset
  by_cases hnamed : ∃ own ∈ first :: rest, own.1 = model.idName
  · obtain ⟨own, hown, hname⟩ := hnamed
    rw [h.tested_of_named hown hname]
    constructor
    · intro hagrees
      exact (hagrees.named own hown hname last hlast).symm
    · intro hsame
      refine ⟨?_, fun hunnamed => absurd hname (hunnamed own hown)⟩
      intro other hother hname' last' hlast'
      rw [← hlast.unique hlast', ← hsame, ← h.tested_of_named hown hname,
        h.tested_of_named hother hname']
  · have hunnamed : ∀ own ∈ first :: rest, own.1 ≠ model.idName := by
      intro own hown hname
      exact hnamed ⟨own, hown, hname⟩
    rw [tested_of_unnamed hunnamed]
    constructor
    · intro hagrees
      exact (hagrees.unnamed hunnamed last hlast first rfl).symm
    · intro hsame
      refine ⟨fun own hown hname => absurd hname (hunnamed own hown), ?_⟩
      intro _ last' hlast' head hhead
      obtain rfl := Option.some.inj hhead
      rw [← hlast.unique hlast', hsame]

theorem agreesOnId_of_none (h : ∀ request ∈ requests, ¬ IsForId model request) :
    AgreesOnId model requests :=
  ⟨fun _ _ _ last hlast => absurd hlast.forId (h last hlast.isLast.mem),
    fun _ last hlast => absurd hlast.forId (h last hlast.isLast.mem)⟩

/-- The test answers as the projection asks exactly if they agree on the identifier. -/
theorem tested_iff_asks_iff (h : Requests fields requests) (heven : Even model requests)
    (hbuild : build model fields = .ok projection) :
    (tested model.idName requests = true ↔ AsksForId projection) ↔ AgreesOnId model requests := by
  cases requests with
  | nil =>
    rw [build_of_nothing h] at hbuild
    obtain rfl := Except.ok.inj hbuild
    exact iff_of_true (iff_of_true rfl trivial) (agreesOnId_of_none fun _ hmem => nomatch hmem)
  | cons first rest =>
    obtain ⟨written, -, rfl⟩ := (build_eq_ok h (List.cons_ne_nil first rest)).mp hbuild
    by_cases hrequested : ∃ request ∈ first :: rest, IsForId model request
    · obtain ⟨request, hrequest, hid⟩ := hrequested
      obtain ⟨last, hlast⟩ := exists_isLastForId hrequest hid
      rw [asksForId_iff_last h hbuild hlast]
      exact ((agreesOnId_iff_of_last h hlast).trans Bool.eq_iff_iff).symm
    · have hnone : ∀ request ∈ first :: rest, ¬ IsForId model request := by
        intro request hrequest hid
        exact hrequested ⟨request, hrequest, hid⟩
      have hunnamed : ∀ request ∈ first :: rest, request.1 ≠ model.idName := by
        intro request hrequest hname
        exact hnone request hrequest (isForId_of_named hname)
      rw [asksForId_iff_first h heven hbuild hnone, tested_of_unnamed hunnamed]
      exact iff_of_true (by simp) (agreesOnId_of_none hnone)

/-- An identifier that is requested by its own name alone is agreed on. -/
theorem agreesOnId_of_own (h : Requests fields requests)
    (hown : ∀ request ∈ requests, IsForId model request → request.1 = model.idName) :
    AgreesOnId model requests := by
  by_cases hrequested : ∃ request ∈ requests, IsForId model request
  · obtain ⟨request, hrequest, hid⟩ := hrequested
    obtain ⟨last, hlast⟩ := exists_isLastForId hrequest hid
    have hmem := hlast.isLast.mem
    exact (agreesOnId_iff_of_last h hlast).mpr
      (h.tested_of_named hmem (hown last hmem hlast.forId))
  · refine agreesOnId_of_none fun request hrequest hid => ?_
    exact hrequested ⟨request, hrequest, hid⟩

/-- The test for the identifier always answers, and it answers as the projection asks exactly if the
requests agree on the identifier. They do where it is requested by its own name alone. -/
theorem includesId_asks_iff (h : Requests fields requests) (heven : Even model requests)
    (hbuild : build model fields = .ok projection) :
    ∃ included, includesId fields model.idName = .ok included ∧
      ((included = true ↔ AsksForId projection) ↔ AgreesOnId model requests) ∧
      ((∀ request ∈ requests, IsForId model request → request.1 = model.idName) →
        AgreesOnId model requests) :=
  ⟨tested model.idName requests, includesId_eq h, tested_iff_asks_iff h heven hbuild,
    agreesOnId_of_own h⟩

/-- The title, and the identifier by both of its names: not wanted by that of its field, but wanted
by its own. -/
def bothNames : Document := [("title", .bool true), ("_id", .bool false), ("id", .bool true)]

def bothRequests : List Request := [("title", true), ("_id", false), ("id", true)]

theorem even_bothRequests : Even (.bare "Post") bothRequests := by
  refine ⟨true, fun request hrequest hother => ?_⟩
  simp only [bothRequests, List.mem_cons, List.not_mem_nil, or_false] at hrequest
  rcases hrequest with rfl | rfl | rfl
  · rfl
  · exact absurd rfl hother
  · rfl

theorem isLastForId_bothRequests : IsLastForId (.bare "Post") bothRequests ("id", true) where
  forId := rfl
  isLast := ⟨[("title", true), ("_id", false)], [], rfl, fun _ hlater => nomatch hlater⟩

/-- The later request, under its own name, counts for both. -/
theorem includesId_asks_iff_both :
    Requests (.doc bothNames) bothRequests ∧ Even (.bare "Post") bothRequests ∧
      build (.bare "Post") (.doc bothNames) = .ok (some [("title", .int 1), ("_id", .int 1)]) ∧
      ∃ included, includesId (.doc bothNames) (Model.bare "Post").idName = .ok included ∧
        (included = true ↔ AsksForId (some [("title", .int 1), ("_id", .int 1)])) := by
  have hrequests : Requests (.doc bothNames) bothRequests :=
    .table (List.cons_ne_nil _ _) (by decide)
  have hbuild : build (.bare "Post") (.doc bothNames) =
      .ok (some [("title", .int 1), ("_id", .int 1)]) := rfl
  have hagrees : AgreesOnId (.bare "Post") bothRequests :=
    (agreesOnId_iff_of_last hrequests isLastForId_bothRequests).mpr rfl
  obtain ⟨included, hincluded, hiff, -⟩ := includesId_asks_iff hrequests even_bothRequests hbuild
  exact ⟨hrequests, even_bothRequests, hbuild, included, hincluded, hiff.mpr hagrees⟩

/-- An identifier that is asked for by the name of its field is not shown. -/
theorem not_includesId_asks :
    ¬ ∀ (model : Model) (fields : Value) (requests : List Request) (projection : Option Document),
      Requests fields requests → Even model requests → build model fields = .ok projection →
      ∃ included, includesId fields model.idName = .ok included ∧
        (included = true ↔ AsksForId projection) := by
  intro hall
  have hrequests : Requests (.list [.text "_id"]) [("_id", true)] := .list (List.cons_ne_nil "_id" [])
  have heven : Even (.bare "Post") [("_id", true)] := by
    refine ⟨true, fun request hrequest _ => ?_⟩
    rw [List.mem_singleton.mp hrequest]
  obtain ⟨included, hincluded, hasks⟩ :=
    hall (.bare "Post") _ _ (some [("_id", .int 1)]) hrequests heven rfl
  have hhidden : includesId (.list [.text "_id"]) (Model.bare "Post").idName = .ok false := rfl
  obtain rfl := Except.ok.inj (hincluded.symm.trans hhidden)
  exact absurd (hasks.mpr (Or.inl rfl)) (by decide)

end ModelStore.Projection
