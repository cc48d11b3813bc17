import ModelStore.Proofs.Transaction.Block

/-!
Commit and abort in a block. A block commits only after a body that succeeded, and calls the commit
and the abort of its session at most once each; a commit that the session accepts is final, and one
that fails is followed by an abort, with its error as what the block ends with, as far as nothing
else fails. A commit that is interrupted is no failure of the session: it is followed by no abort,
and the interruption goes on.
-/
namespace ModelStore.Transaction

open Act

variable {α : Type} {t : Transaction} {body : Act α} {s between after : Datasource} {number : Nat}
  {operation : String} {method : SessionMethod} {calls : List SessionMethod} {r : Result Unit}
  {f : Failure} {added : List Event}

def refusing : Datasource :=
  { sessions :=
      [⟨.given, { failure? := fun method =>
          if method = .commit then some (.raised "OperationFailure" "write conflict") else none },
        .bool false, none⟩]
    held := some 0
    observers := [("before commit", [⟨"sending", 0⟩]), ("before rollback", [⟨"undone", 1⟩])] }

def rolledBack : List Event :=
  [.session 0 .given .start none, .body (.session .given),
    .observer "before commit" "sending" none,
    .session 0 .given .commit (some (.raised "OperationFailure" "write conflict")),
    .observer "before rollback" "undone" none, .session 0 .given .abort none]

end ModelStore.Transaction
