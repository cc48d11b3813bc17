import ModelStore.Datasource.Basic

/-!
Inclusion of related documents. Relations belong to someone else: documents are handed over to a
resolver together with what is to be included, and what it hands back is used as it is. Without a
resolver the documents stay as they are.
-/
namespace ModelStore

/-- From a model, documents of it, what is to be included with them and the options of the call to
the documents that include it. -/
abbrev InclusionResolver := Value → List Document → Value → Value → Result (List Document)

def Act.resolveInclusion (resolver : Option InclusionResolver) (model : Value)
    (documents : List Document) (inclusion options : Value) : Act (List Document) := do
  match resolver with
  | none => do
      note (.ignoredInclusion inclusion model)
      pure documents
  | some resolve => do
      log (.inclusion model documents inclusion options)
      settle (resolve model documents inclusion options)

end ModelStore
