import ModelStore.Value.Written

/-!
Notices: what an operator should hear of although it need not fail the operation. Each notice
belongs to one area of the connector and has one wording.
-/
namespace ModelStore

inductive Notice where
  /-- A pattern asks for a flag that the database does not know. -/
  | ignoredFlag (field : String)
  | connectionFailed (url : String)
  /-- The client was closed by someone else and is replaced. -/
  | staleClient
  /-- The result of an upsert does not say whether the document is new. -/
  | unrecognisedResult (result : Value)
  | ignoredInclusion (inclusion model : Value)
  deriving Inhabited

namespace Notice

inductive Area where
  | filter
  | connection
  | connector
  deriving DecidableEq, Inhabited

def area : Notice → Area
  | .ignoredFlag _ => .filter
  | .connectionFailed _ => .connection
  | .staleClient => .connection
  | .unrecognisedResult _ => .connector
  | .ignoredInclusion _ _ => .connector

def isError : Notice → Bool
  | .connectionFailed _ => true
  | _ => false

def message : Notice → String
  | .ignoredFlag field =>
      "Regex flag 'g' on " ++ Text.quoted field ++ " is not supported by MongoDB and is ignored"
  | .connectionFailed url => "MongoDB connection failed: " ++ url
  | .staleClient => "MongoDB topology was destroyed; reconnecting"
  | .unrecognisedResult result => "save result format not recognized: " ++ result.literal
  | .ignoredInclusion inclusion model =>
      "include " ++ inclusion.literal ++ " ignored for " ++ model.plain ++
        ": no include resolver configured"

end Notice

end ModelStore
