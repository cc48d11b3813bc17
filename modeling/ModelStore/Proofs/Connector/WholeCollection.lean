import ModelStore.Proofs.Connector.Issued
import ModelStore.Proofs.Filter.Conditions

/-!
Updates and deletions of a whole collection. An operation that writes to everything a filter
matches calls the database with the empty query only if the filter asks for nothing: it is not
set, or all of its keys are erased. Only observers can take the rest of a query away.
-/
namespace ModelStore.Connector

open Act

variable {c : Connector} {filter : Value} {method : String}

def single : Connector :=
  { settings := { database := some "blog" }, models := [("Post", .bare "Post")] }

def connected : Datasource := { clients := [.bool false], client := some 1 }

end ModelStore.Connector
