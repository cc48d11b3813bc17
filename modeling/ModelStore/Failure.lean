import ModelStore.Value.Written

/-!
Why an operation does not come to its end. Each cause is one constructor, and its wording is given
by `message` alone. Nearly all are errors; an interruption is none, and passes by everything that
only deals with errors.
-/
namespace ModelStore

/-- A value that the datasource settings cannot take. -/
inductive SettingProblem where
  | notMapping
  | notText
  | textUnreadable
  | notInteger
  | integerUnreadable
  | integerTooLong
  | fractional
  | notFinite
  | notBoolean
  | booleanUnreadable
  | frozen
  deriving DecidableEq, Inhabited

structure SettingFault where
  key : String
  problem : SettingProblem
  deriving DecidableEq, Inhabited

/-- Uses of a value that its shape does not allow. -/
inductive Misuse where
  /-- An operation that values of this kind do not have. -/
  | wrongType
  /-- A member that the value does not have. -/
  | noMember
  /-- Contents that cannot be read as what is asked for. -/
  | badContents
  | missingKey
  | outOfBounds
  | tooLarge
  deriving DecidableEq, Inhabited

inductive Failure where
  /-- A property declared as an identifier holds something else. -/
  | notObjectId (value : Value)
  /-- A text that looks like an identifier is none. -/
  | invalidObjectId (text : String)
  | notDecimal (text : String)
  | misfit (cause : Number.Misfit)
  | notRange
  | notPattern (value : Value)
  | notPoint (value : Value)
  | unknownModel (name : Value)
  | missingDocument (model : String) (id : Value)
  | invalidSettings (faults : List SettingFault)
  | findOrCreateDisabled
  | notConnected
  | driverMissing
  | databaseUnnamed
  | unreachable (cause : Failure)
  | sessionMissing
  | sessionConflict
  | connectionMissing
  | replicaSetRequired
  /-- An error of the database or of an observer. -/
  | raised (kind : String) (message : String)
  /-- The work is cancelled, or the program is told to stop. -/
  | interruption (kind : String) (message : String)
  | misuse (cause : Misuse)
  deriving Inhabited

namespace SettingProblem

def name : SettingProblem → String
  | .notMapping => "model_type"
  | .notText => "string_type"
  | .textUnreadable => "string_unicode"
  | .notInteger => "int_type"
  | .integerUnreadable => "int_parsing"
  | .integerTooLong => "int_parsing_size"
  | .fractional => "int_from_float"
  | .notFinite => "finite_number"
  | .notBoolean => "bool_type"
  | .booleanUnreadable => "bool_parsing"
  | .frozen => "frozen_instance"

end SettingProblem

namespace Failure

open Text

def message : Failure → String
  | .notObjectId value => value.literal ++ " is not an ObjectID string"
  | .invalidObjectId text =>
      quoted text ++ " is not a valid ObjectId, it must be a 12-byte input or a " ++
        "24-character hex string"
  | .notDecimal text => quoted text ++ " is not a valid decimal string"
  | .misfit _ => ""
  | .notRange => "between requires a list of two values"
  | .notPattern value => "Pattern operand must be a string, got " ++ value.literal
  | .notPoint value => "near requires a geo point, got " ++ value.literal
  | .unknownModel name => "Model " ++ name.literal ++ " is not defined"
  | .missingDocument model id => "No " ++ model ++ " found for id " ++ id.literal
  | .invalidSettings faults =>
      "; ".intercalate (faults.map fun fault => fault.key ++ ": " ++ fault.problem.name)
  | .findOrCreateDisabled =>
      "optimized_find_or_create requires enable_optimised_find_or_create"
  | .notConnected => "Not connected; call connect() first"
  | .driverMissing => "The motor driver is not installed"
  | .databaseUnnamed => "Database name must be set in the settings or the URL"
  | .unreachable cause => cause.message
  | .sessionMissing =>
      "Session not available. Call begin() or use the transaction as a context manager first."
  | .sessionConflict => "Cannot provide both 'session' and 'connection'."
  | .connectionMissing => "No connection to open a session on"
  | .replicaSetRequired =>
      "Transactions need a Replica Set; the server is a standalone instance. " ++
        "Set require_replica_set=False to use a session without a transaction."
  | .raised kind text => if kind = "KeyError" then quoted text else text
  | .interruption _ text => text
  | .misuse _ => ""

def isError : Failure → Bool
  | .interruption .. => false
  | _ => true

end Failure

abbrev Result := Except Failure

/-- An error is an answer like any other to whoever deals with errors; an interruption is not. -/
def Result.rescued {α : Type} : Result α → Result (Result α)
  | .ok a => .ok (.ok a)
  | .error f => if f.isError then .ok (.error f) else .error f

namespace Result

variable {α : Type} {r : Result α} {a : α} {f : Failure}

theorem rescued_eq_ok_ok : r.rescued = .ok (.ok a) ↔ r = .ok a := by
  cases r with
  | ok b => simp [rescued]
  | error g => cases h : g.isError <;> simp [rescued, h]

theorem rescued_eq_ok_error : r.rescued = .ok (.error f) ↔ r = .error f ∧ f.isError = true := by
  cases r with
  | ok b => simp [rescued]
  | error g =>
    cases h : g.isError
    · simp only [rescued, h, Bool.false_eq_true, if_false, reduceCtorEq, false_iff, not_and]
      rintro ⟨rfl⟩
      simp [h]
    · simp only [rescued, h, if_true, Except.ok.injEq, Except.error.injEq, iff_self_and]
      rintro rfl
      exact h

theorem rescued_eq_error : r.rescued = .error f ↔ r = .error f ∧ f.isError = false := by
  cases r with
  | ok b => simp [rescued]
  | error g =>
    cases h : g.isError
    · simp only [rescued, h, Bool.false_eq_true, if_false, Except.error.injEq, iff_self_and]
      rintro rfl
      exact h
    · simp only [rescued, h, if_true, reduceCtorEq, false_iff, not_and, Except.error.injEq]
      rintro rfl
      simp [h]

/-- Whatever is rescued is what there was. -/
theorem eq_of_rescued_eq_ok {done : Result α} (h : r.rescued = .ok done) : r = done := by
  cases done with
  | ok a => exact rescued_eq_ok_ok.mp h
  | error f => exact (rescued_eq_ok_error.mp h).1

end Result

def wrongType {α : Type} : Result α := .error (.misuse .wrongType)
def noMember {α : Type} : Result α := .error (.misuse .noMember)
def badContents {α : Type} : Result α := .error (.misuse .badContents)
def missingKey {α : Type} : Result α := .error (.misuse .missingKey)
def outOfBounds {α : Type} : Result α := .error (.misuse .outOfBounds)
def tooLarge {α : Type} : Result α := .error (.misuse .tooLarge)

end ModelStore
