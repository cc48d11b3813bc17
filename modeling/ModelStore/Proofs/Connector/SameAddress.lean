import ModelStore.Proofs.Coercion.Identifier
import ModelStore.Proofs.Connector.ComesTo
import ModelStore.Proofs.Filter.Conditions

/-!
One document under one address. Every operation on the document of an identifier coerces it in its
own place, and so do the conditions of a filter; they all come to the same stored identifier, or
fail in the same way. Only a filter can be read otherwise: under the name of the identifier it does not
reach the document if that name belongs to the language of filters.
-/
namespace ModelStore

/-- The identifier that a command is about: that of its first document, or of its query. -/
def Sending.address? (sending : Sending) : Option Value :=
  match sending.arguments with
  | .doc first :: _ => Table.get? first idField
  | _ =>
      match Table.get? sending.keywords "query" with
      | some (.doc query) => Table.get? query idField
      | _ => none

namespace Connector

open Act Coercion

variable {c : Connector} {model : Model} {name options data v : Value}

/-- The data is accepted as a document, as far as it depends on the data. -/
def Storable (c : Connector) (model : Model) (options data : Value) : Prop :=
  ∀ strict, c.isStrict model options = .ok strict →
    ∃ document, c.documentOf model data options = .ok document

def Updatable (c : Connector) (model : Model) (options data : Value) : Prop :=
  ∀ strict, c.isStrict model options = .ok strict →
    ∃ update, c.updateOf model data options = .ok update

/-- The operations on the document of an identifier: it is named by accepted data, or given. -/
inductive IsAbout (c : Connector) (model : Model) (options v : Value) : Value → Operation → Prop
  | create {name data : Value} : namedId model data = .ok v → Storable c model options data →
      IsAbout c model options v name (.create name data options)
  | save {name data : Value} : namedId model data = .ok v → Storable c model options data →
      IsAbout c model options v name (.save name data options)
  | updateOrCreate {name data : Value} : namedId model data = .ok v →
      Updatable c model options data →
      IsAbout c model options v name (.updateOrCreate name data options)
  | replaceOrCreate {name data : Value} : namedId model data = .ok v →
      Storable c model options data →
      IsAbout c model options v name (.replaceOrCreate name data options)
  | find {name : Value} : IsAbout c model options v name (.find name v options)
  | contains {name : Value} : IsAbout c model options v name (.contains name v options)
  | destroy {name : Value} : IsAbout c model options v name (.destroy name v options)
  | updateAttributes {name data : Value} : Updatable c model options data →
      IsAbout c model options v name (.updateAttributes name v data options)
  | replaceById {name data : Value} : Storable c model options data →
      IsAbout c model options v name (.replaceById name v data options)

/-- The operation fails as the identifier does, or else as the session of the call does. Otherwise
it sends one command, about the identifier. -/
def Addresses (c : Connector) (name options : Value) (id : Result Value) (op : Operation) : Prop :=
  ∃ compiled, ComesTo c name compiled (op.run c) ∧
    Sending.address? <$> compiled =
      id >>= fun id => sessionKeywords options >>= fun _ => .ok (some id)

theorem address?_session {id : Value} {sending : Document → Sending}
    (h : ∀ session, (sending session).address? = some id) :
    Sending.address? <$> (sessionKeywords options >>= fun session => .ok (sending session)) =
      sessionKeywords options >>= fun _ => .ok (some id) :=
  Result.map_bind_congr fun session _ => congrArg Except.ok (h session)

theorem isStrict_of_coerceId {id : Value} (h : c.coerceId model v options = .ok id) :
    ∃ strict, c.isStrict model options = .ok strict := by
  obtain ⟨strict, hstrict, -⟩ := Result.bind_eq_ok.mp h
  exact ⟨strict, hstrict⟩

/-- Only documents have keys to look up. -/
theorem lookups_eq_ok {entries : Document} (h : data.lookups = .ok entries) :
    data = .doc entries := by
  have hrefused (v : Value) : v.refuse "get" ≠ .ok entries := by
    unfold Value.refuse
    split <;> simp [wrongType, noMember]
  cases data with
  | doc own => exact congrArg Value.doc (Except.ok.inj h)
  | _ => exact absurd h (hrefused _)

/-- An insertion coerces the identifier last, but nothing of accepted data can fail before it that
the identifier would not fail of too. -/
theorem insertionOf_eq (hdata : namedId model data = .ok v) (hv : v ≠ .null)
    (hstorable : Storable c model options data) :
    c.insertionOf model data options =
      c.coerceId model v options >>= fun id => c.documentOf model data options >>= fun document =>
        .ok (Table.insert document idField id) := by
  have hinserted : c.insertionOf model data options =
      c.documentOf model data options >>= fun document =>
        c.coerceId model v options >>= fun id => .ok (Table.insert document idField id) := by
    unfold insertionOf
    rw [hdata]
    cases v with
    | null => exact absurd rfl hv
    | _ => rfl
  rw [hinserted]
  cases hstrict : c.isStrict model options with
  | error f =>
    obtain ⟨entries, hentries, -⟩ := Result.bind_eq_ok.mp hdata
    obtain rfl := lookups_eq_ok hentries
    have hdocument : c.documentOf model (.doc entries) options = .error f := by
      unfold documentOf
      rw [hstrict]
      rfl
    have hid : c.coerceId model v options = .error f := by
      unfold coerceId
      rw [hstrict]
      rfl
    rw [hdocument, hid]
    rfl
  | ok strict =>
    obtain ⟨document, hdocument⟩ := hstorable strict hstrict
    rw [hdocument]
    cases c.coerceId model v options <;> rfl

theorem Storable.exists_documentOf {id : Value} (h : Storable c model options data)
    (hid : c.coerceId model v options = .ok id) :
    ∃ document, c.documentOf model data options = .ok document := by
  obtain ⟨strict, hstrict⟩ := isStrict_of_coerceId hid
  exact h strict hstrict

theorem Updatable.exists_updateOf {id : Value} (h : Updatable c model options data)
    (hid : c.coerceId model v options = .ok id) :
    ∃ update, c.updateOf model data options = .ok update := by
  obtain ⟨strict, hstrict⟩ := isStrict_of_coerceId hid
  exact h strict hstrict

theorem Addresses.of_model {compile : Model → Result Sending} {op : Operation} {id : Result Value}
    (hmodel : c.models.find name = .ok model)
    (hcomes : ComesTo c name (c.models.find name >>= compile) (op.run c))
    (haddress : Sending.address? <$> compile model =
      id >>= fun id => sessionKeywords options >>= fun _ => .ok (some id)) :
    Addresses c name options id op := by
  refine ⟨_, hcomes, ?_⟩
  rw [hmodel]
  exact haddress

/-- An operation on data that names its identifier. -/
theorem Addresses.of_named {compile : Value → Result Sending} {next : Model → Value → Act Value}
    {op : Operation} (hmodel : c.models.find name = .ok model) (hdata : namedId model data = .ok v)
    (hv : v ≠ .null)
    (hrun : op.run c = (do
      let model ← settle (c.models.find name)
      let id ← c.idOf model data options
      next model id))
    (hcomes : ∀ id, ComesTo c name (compile id) (next model id))
    (haddress : ∀ id, c.coerceId model v options = .ok id →
      Sending.address? <$> compile id = sessionKeywords options >>= fun _ => .ok (some id)) :
    Addresses c name options (c.coerceId model v options) op := by
  refine ⟨c.models.find name >>= fun model => c.coerceId model v options >>= compile, ?_, ?_⟩
  · rw [hrun]
    refine comesTo_settle fun found hfound => ?_
    obtain rfl : model = found := Except.ok.inj (hmodel.symm.trans hfound)
    rw [idOf_eq_settle hdata hv]
    exact comesTo_settle fun id _ => hcomes id
  · rw [hmodel]
    exact Result.map_bind_congr haddress

theorem IsAbout.addresses {op : Operation} (h : IsAbout c model options v name op)
    (hmodel : c.models.find name = .ok model) (hv : v ≠ .null) :
    Addresses c name options (c.coerceId model v options) op := by
  cases h with
  | @create data hdata hstorable =>
    refine .of_model hmodel comesTo_create ?_
    rw [insertionOf_eq hdata hv hstorable, bind_assoc]
    refine Result.map_bind_congr fun id hid => ?_
    obtain ⟨document, hdocument⟩ := hstorable.exists_documentOf hid
    rw [hdocument]
    exact address?_session fun session => Table.get?_insert_self document idField id
  | find =>
    refine .of_model hmodel comesTo_find ?_
    exact Result.map_bind_congr fun id hid => address?_session fun session => rfl
  | contains =>
    refine .of_model hmodel comesTo_contains ?_
    exact Result.map_bind_congr fun id hid => address?_session fun session => rfl
  | destroy =>
    refine .of_model hmodel comesTo_destroy ?_
    exact Result.map_bind_congr fun id hid => address?_session fun session => rfl
  | updateAttributes hupdatable =>
    refine .of_model hmodel comesTo_updateAttributes ?_
    refine Result.map_bind_congr fun id hid => ?_
    obtain ⟨update, hupdate⟩ := hupdatable.exists_updateOf hid
    rw [hupdate]
    exact address?_session fun session => rfl
  | replaceById hstorable =>
    refine .of_model hmodel comesTo_replaceById ?_
    refine Result.map_bind_congr fun id hid => ?_
    obtain ⟨document, hdocument⟩ := hstorable.exists_documentOf hid
    rw [hdocument]
    exact address?_session fun session => rfl
  | save hdata hstorable =>
    refine .of_named hmodel hdata hv (save_eq c name _ options) (fun id => comesTo_saving) ?_
    intro id hid
    obtain ⟨document, hdocument⟩ := hstorable.exists_documentOf hid
    rw [hdocument]
    exact address?_session fun session => rfl
  | updateOrCreate hdata hupdatable =>
    refine .of_named hmodel hdata hv (updateOrCreate_eq c name _ options)
      (fun id => comesTo_updatingOrCreating) ?_
    intro id hid
    obtain ⟨update, hupdate⟩ := hupdatable.exists_updateOf hid
    rw [hupdate]
    exact address?_session fun session => rfl
  | replaceOrCreate hdata hstorable =>
    refine .of_named hmodel hdata hv rfl (fun id => comesTo_replace true) ?_
    intro id hid
    obtain ⟨document, hdocument⟩ := hstorable.exists_documentOf hid
    rw [hdocument]
    exact address?_session fun session => rfl

/-- A condition on the identifier that is no operator specification asks for its stored form. -/
theorem compileLeaf_id {target : Filter.Target} {key : String}
    (hkey : target.model.fieldName key = .ok idField) (hv : v ≠ .null)
    (hspec : ∀ p, target.model.idProperty = .ok p → Filter.specOf (some p) v = none) :
    Filter.compileLeaf target key v = target.model.idProperty >>= fun p =>
      coerceValue (some p) target.strict v >>= fun id => .ok (idField, id) := by
  have hdefinition : Filter.definitionOf target.model idField key =
      some <$> target.model.idProperty := if_pos rfl
  have hnull : v.isNull = false := by
    cases v with
    | null => exact absurd rfl hv
    | _ => rfl
  unfold Filter.compileLeaf
  rw [hkey]
  show (Filter.definitionOf target.model idField key >>= _) = _
  rw [hdefinition]
  cases hp : target.model.idProperty with
  | error f => rfl
  | ok p => simp [bind, Except.bind, Functor.map, Except.map, hspec p hp, hnull]

theorem compile_id {target : Filter.Target} {key : String}
    (hkey : target.model.fieldName key = .ok idField) (hkept : Filter.isForbidden key = false)
    (hbranches : Filter.branchesOf? (key, v) = none) (hv : v ≠ .null)
    (hspec : ∀ p, target.model.idProperty = .ok p → Filter.specOf (some p) v = none) :
    Filter.compile target [(key, v)] =
      target.model.idProperty >>= fun p => byId <$> coerceValue (some p) target.strict v := by
  have hwritten (condition : String × Value) :
      Filter.compileInto target (Table.insert [] condition.1 condition.2) [] =
        .ok [(condition.1, condition.2)] := by rw [Filter.compileInto]; rfl
  rw [Filter.compile, Filter.compileInto_cons target [] (key, v) [] hkept, Filter.conditionOf,
    hbranches]
  simp only [hwritten, compileLeaf_id hkey hv hspec, bind_assoc]
  rfl

/-- A filter on the identifier alone asks for the stored identifier. -/
theorem build_id {key : String} (hkey : model.fieldName key = .ok idField)
    (hkept : Filter.isForbidden key = false) (hbranches : Filter.branchesOf? (key, v) = none)
    (hv : v ≠ .null)
    (hspec : ∀ p, model.idProperty = .ok p → Filter.specOf (some p) v = none) :
    Filter.build model c.settings options (.doc [(key, v)]) =
      byId <$> c.coerceId model v options := by
  rw [Filter.build, coerceId]
  refine (Result.map_bind_congr fun strict _ => ?_).symm
  refine .trans ?_ (compile_id hkey hkept hbranches hv hspec).symm
  exact Result.map_bind_congr fun p _ => rfl

/-- Keys that carry code are erased, also where one names the identifier. -/
theorem build_forbidden {key : String} (hforbidden : Filter.isForbidden key = true) :
    Filter.build model c.settings options (.doc [(key, v)]) =
      (fun _ => []) <$> c.isStrict model options := by
  have hcompiled (target : Filter.Target) : Filter.compile target [(key, v)] = .ok [] := by
    rw [Filter.compile, Filter.compileInto_eq]
    simp only [Filter.sanitize, List.filter, hforbidden]
    rfl
  rw [Filter.build, isStrict]
  simp only [hcompiled]
  cases Filter.isStrict model c.settings options <;> rfl

/-- A list under a logical key is a list of filters, also where the key names the identifier. -/
theorem build_branches {key : String} {branches : List Value} {query : Document}
    (hbranches : Filter.branchesOf? (key, v) = some branches)
    (h : Filter.build model c.settings options (.doc [(key, v)]) = .ok query) :
    ∃ compiled, query = [("$" ++ key, .list compiled)] := by
  obtain ⟨strict, hstrict⟩ := Filter.isStrict_of_build h
  rw [Filter.build_doc hstrict, Filter.compile_eq_ok] at h
  obtain ⟨conditions, hconditions, rfl⟩ := h
  have hkept : Filter.sanitize [(key, v)] = [(key, v)] := by
    have hkey : Filter.isForbidden key = false :=
      Filter.isForbidden_of_isLogical (Filter.isLogical_of_branchesOf? hbranches)
    simp [Filter.sanitize, hkey]
  rw [hkept] at hconditions
  obtain ⟨condition, rest, hcondition, hrest, rfl⟩ := List.forall₂_cons_left_iff.mp hconditions
  obtain rfl := List.forall₂_nil_left_iff.mp hrest
  simp only [Filter.conditionOf, hbranches] at hcondition
  obtain ⟨compiled, -, hcondition⟩ := Result.bind_eq_ok.mp hcondition
  obtain rfl := Except.ok.inj hcondition
  exact ⟨compiled, rfl⟩

/-- Unless strict coercion leaves texts alone, and unless identifiers are decimals, texts that write
an identifier in different letters are one. -/
def Caseless (c : Connector) (model : Model) (options : Value) : Prop :=
  ∀ p s t, c.isStrict model options = .ok false → model.idProperty = .ok p →
    isDecimalProperty (some p) = false → ObjectId.IsWritten s → ObjectId.IsWritten t →
    s.toList.map Char.toLower = t.toList.map Char.toLower →
    ∃ id, c.coerceId model (.text s) options = .ok (.objectId id) ∧
      c.coerceId model (.text t) options = .ok (.objectId id)

theorem caseless (c : Connector) (model : Model) (options : Value) : Caseless c model options := by
  intro p s t hstrict hp hdecimal hs ht hsame
  have hcoerced {u : String} {id : ObjectId} (hu : ObjectId.IsWritten u)
      (hid : ObjectId.ofText? u = some id) :
      c.coerceId model (.text u) options = .ok (.objectId id) := by
    rw [coerceId, hstrict, hp]
    exact coerceValue_idText hdecimal hu hid
  obtain ⟨id, hid⟩ := hs.exists_ofText?
  exact ⟨id, hcoerced hs hid, hcoerced ht ((ObjectId.ofText?_caseless hsame).symm.trans hid)⟩

/-- Everything that is about the identifier finds the same document. Only a filter may read the name
of the identifier as a key of its own. -/
structure SameAddress (c : Connector) (model : Model) (options v : Value) : Prop where
  operations : ∀ name op, c.models.find name = .ok model → IsAbout c model options v name op →
    Addresses c name options (c.coerceId model v options) op
  field : Filter.build model c.settings options (.doc [(idField, v)]) =
    byId <$> c.coerceId model v options
  name : Filter.isForbidden model.idName = false →
    Filter.branchesOf? (model.idName, v) = none →
    Filter.build model c.settings options (.doc [(model.idName, v)]) =
      byId <$> c.coerceId model v options
  forbidden : Filter.isForbidden model.idName = true →
    Filter.build model c.settings options (.doc [(model.idName, v)]) =
      (fun _ => []) <$> c.isStrict model options
  branches : ∀ branches query, Filter.branchesOf? (model.idName, v) = some branches →
    Filter.build model c.settings options (.doc [(model.idName, v)]) = .ok query →
    ∃ compiled, query = [("$" ++ model.idName, .list compiled)]
  letters : Caseless c model options

theorem sameAddress (c : Connector) (model : Model) (options : Value) {v : Value} (hv : v ≠ .null)
    (hspec : ∀ p, model.idProperty = .ok p → Filter.specOf (some p) v = none) :
    SameAddress c model options v where
  operations _ _ hmodel habout := habout.addresses hmodel hv
  field := by
    have hbranches : Filter.branchesOf? (idField, v) = none := by
      cases v <;> rfl
    exact build_id (if_pos (Or.inr rfl)) rfl hbranches hv hspec
  name hkept hbranches := build_id (if_pos (Or.inl rfl)) hkept hbranches hv hspec
  forbidden hforbidden := build_forbidden hforbidden
  branches _ _ hbranches h := build_branches hbranches h
  letters := caseless c model options

theorem sameAddress_text :
    Value.text "507f1f77bcf86cd799439011" ≠ .null ∧
      (∀ p, (Model.bare "Post").idProperty = .ok p →
        Filter.specOf (some p) (.text "507f1f77bcf86cd799439011") = none) ∧
      SameAddress bareConnector (.bare "Post") .null (.text "507f1f77bcf86cd799439011") :=
  ⟨by simp, fun _ _ => rfl, sameAddress bareConnector (.bare "Post") .null (by simp) fun _ _ => rfl⟩

/-- A model whose identifier goes by a key that filters erase. -/
def reserved : Model :=
  .ofSchema "M" [("mapReduce", .node { name := "mapReduce", id := .bool true } none none)] {}

def unbegun : Value := .doc [("transaction", .transaction .null)]

/-- A filter on the name of an identifier may ask for everything, and a session that cannot be used
stops an operation but no filter. -/
theorem not_sameAddress_reserved :
    (¬ ∀ (c : Connector) (model : Model) (options v : Value), v ≠ .null →
      (∀ p, model.idProperty = .ok p → Filter.specOf (some p) v = none) →
      Filter.build model c.settings options (.doc [(model.idName, v)]) =
        Filter.build model c.settings options (.doc [(idField, v)])) ∧
    ¬ ∀ (c : Connector) (model : Model) (name options v : Value) (f : Failure), v ≠ .null →
      (∀ p, model.idProperty = .ok p → Filter.specOf (some p) v = none) →
      c.models.find name = .ok model → (∀ s, outcome (c.find name v options) s = (.error f, s)) →
      Filter.build model c.settings options (.doc [(idField, v)]) = .error f := by
  have hfield (m : Model) (options : Value) :
      Filter.build m bareConnector.settings options (.doc [(idField, .int 5)]) =
        byId <$> bareConnector.coerceId m (.int 5) options :=
    build_id (if_pos (Or.inr rfl)) rfl rfl (by simp) fun _ _ => rfl
  constructor
  · intro hsame
    have herased : Filter.build reserved bareConnector.settings .null
        (.doc [(reserved.idName, .int 5)]) = .ok [] := build_forbidden (c := bareConnector) rfl
    have hnumber := hsame bareConnector reserved .null (.int 5) (by simp) fun _ _ => rfl
    rw [herased, hfield] at hnumber
    cases hnumber
  · intro hsame
    have hnumber := hsame bareConnector (.bare "Post") (.text "Post") unbegun (.int 5)
      .sessionMissing (by simp) (fun _ _ => rfl) rfl fun _ => rfl
    rw [hfield] at hnumber
    cases hnumber

end Connector
end ModelStore
