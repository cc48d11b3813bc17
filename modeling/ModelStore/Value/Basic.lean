import ModelStore.Table
import ModelStore.ObjectId
import ModelStore.Number.Shortest
import ModelStore.Number.Decimal128

/-!
Values: what documents hold, what filters and options are written in, and what a database answers.
A document is a table of values. The handles of a database (clients, collections, cursors and so
on) are values too, because answers and options carry them.
-/
namespace ModelStore

open Number

/-- The switches of a compiled pattern. -/
structure PatternSwitches where
  ignoreCase : Bool
  multiLine : Bool
  dotAll : Bool
  verbose : Bool
  deriving DecidableEq, Inhabited

/-- Where a session comes from: the caller gave it, or it was opened for a transaction. -/
inductive SessionOrigin where
  | given
  | opened
  deriving DecidableEq, Inhabited

inductive Value where
  | null
  | bool (b : Bool)
  | int (n : Int)
  | float (x : Binary64)
  | text (s : String)
  | bytes (bs : List UInt8)
  | decimal (d : Decimal)
  | decimal128 (d : Decimal128)
  | objectId (id : ObjectId)
  /-- A stored regular expression with its numeric flags. -/
  | regex (source : String) (flags : Int)
  /-- A compiled pattern. -/
  | pattern (source : String) (switches : PatternSwitches)
  | list (items : List Value)
  | tuple (items : List Value)
  | doc (entries : List (String × Value))
  /-- A geographic point. -/
  | point (lat lng : Value)
  /-- A native result: it has these members and nothing else. -/
  | record (members : List (String × Value))
  /-- What an observer decides: a value, and whether it settles the matter. -/
  | ruling (value : Value) (handled : Bool)
  /-- A transaction around a session; null before it begins. -/
  | transaction (session : Value)
  | client (number : Nat)
  | database (name : String)
  | collection (name : Value)
  | cursor (number : Nat)
  | session (origin : SessionOrigin)
  deriving Inhabited

abbrev Document := Table Value

namespace Value

/-- What counts as set: everything but null, false, zeros and what is empty. -/
def truthy : Value → Bool
  | .null => false
  | .bool b => b
  | .int n => n != 0
  | .float x => !x.isZero
  | .text s => s != ""
  | .bytes bs => !bs.isEmpty
  | .decimal d => !d.isZero
  | .list items => !items.isEmpty
  | .tuple items => !items.isEmpty
  | .doc entries => !entries.isEmpty
  | _ => true

def isNull : Value → Bool
  | .null => true
  | _ => false

def orElse (v w : Value) : Value := if v.truthy then v else w

/-- The value equals the integer, in whichever number format it is held. -/
def equalsInt (n : Int) : Value → Bool
  | .bool b => (if b then 1 else 0) = n
  | .int m => m = n
  | .float x => x.toInt? = some n
  | .decimal d => d.toInt? = some n
  | _ => false

def member? : Value → String → Option Value
  | .record members, name => Table.get? members name
  | .point lat lng, name =>
      if name = "lat" then some lat else if name = "lng" then some lng else none
  | _, _ => none

def isText : Value → Bool
  | .text _ => true
  | _ => false

/-- Values that cannot be keys. -/
def isContainer : Value → Bool
  | .list _ => true
  | .doc _ => true
  | _ => false

end Value

end ModelStore
