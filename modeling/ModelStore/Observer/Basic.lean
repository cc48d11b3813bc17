import ModelStore.Table

/-!
Observers and where they are registered. For each event the observers are kept in the order of
their registration, and one that is registered twice is kept twice. What an observer does is no
part of it: a registry only says who is called.
-/
namespace ModelStore

/-- Observers of one name are told apart by their numbers. -/
structure Observer where
  name : String
  number : Nat := 0
  deriving DecidableEq, Inhabited

abbrev Observers := Table (List Observer)

inductive RegistryChange where
  | register (event : String) (observer : Observer)
  | unregister (event : String)
  | unregisterAll
  deriving Inhabited

namespace Observers

def of (observers : Observers) (event : String) : List Observer :=
  (Table.get? observers event).getD []

def register (observers : Observers) (event : String) (observer : Observer) : Observers :=
  Table.insert observers event (observers.of event ++ [observer])

def unregister (observers : Observers) (event : String) : Observers :=
  Table.erase observers event

def has (observers : Observers) (event : String) : Bool := !(observers.of event).isEmpty

def change (observers : Observers) : RegistryChange → Observers
  | .register event observer => observers.register event observer
  | .unregister event => observers.unregister event
  | .unregisterAll => []

def changeAll (observers : Observers) (changes : List RegistryChange) : Observers :=
  changes.foldl change observers

theorem changeAll_append (observers : Observers) (changes later : List RegistryChange) :
    observers.changeAll (changes ++ later) = (observers.changeAll changes).changeAll later :=
  List.foldl_append

end Observers

end ModelStore
