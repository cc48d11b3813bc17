import ModelStore.Settings.Field
import ModelStore.Text.Lowercase
import ModelStore.Text.Percent

/-!
Settings of a datasource: where the database is, how the connector behaves towards it, and the
options handed to the client. A field may be written under several names; the first name that is
present counts, and every key that no field reads is kept as an extra.
-/
namespace ModelStore

structure Settings where
  url : Option String := none
  protocol : String := "mongodb"
  host : Option String := none
  port : Option Int := none
  database : Option String := none
  username : Option String := none
  password : Option String := none
  strictObjectIds : Option Bool := none
  extendedOperators : Option Bool := none
  defaultSortDisabled : Option Bool := none
  nullAsAbsent : Bool := false
  findOrCreateEnabled : Bool := false
  serverSelectionTimeout : Int := 5000
  connectTimeout : Int := 10000
  extra : Document := []
  deriving Inhabited

namespace Settings

open SettingField

/-- The names under which each field may be written, in the order in which they are looked for. -/
structure FieldNames where
  url := ["url"]
  protocol := ["protocol"]
  host := ["host", "hostname"]
  port := ["port"]
  database := ["database", "db"]
  username := ["username", "user"]
  password := ["password"]
  strictObjectIds := ["strict_object_id_coercion", "strictObjectIDCoercion"]
  extendedOperators := ["allow_extended_operators", "allowExtendedOperators"]
  defaultSortDisabled := ["disable_default_sort", "disableDefaultSort"]
  nullAsAbsent := ["null_as_absent", "nullAsAbsent"]
  findOrCreateEnabled := ["enable_optimised_find_or_create", "enableOptimisedfindOrCreate"]
  serverSelectionTimeout := ["server_selection_timeout_ms"]
  connectTimeout := ["connect_timeout_ms"]

def fieldNames : FieldNames := {}

def FieldNames.all (f : FieldNames) : List (List String) :=
  [f.url, f.protocol, f.host, f.port, f.database, f.username, f.password, f.strictObjectIds,
   f.extendedOperators, f.defaultSortDisabled, f.nullAsAbsent, f.findOrCreateEnabled,
   f.serverSelectionTimeout, f.connectTimeout]

def writtenName? (entries : Document) (names : List String) : Option String :=
  names.find? (Table.contains entries)

/-- Reads a field; one that is not written keeps its default. -/
def readField {α : Type} (entries : Document) (names : List String)
    (read : Value → Reading α) (default_ : α) : Except SettingFault α :=
  match names.findSome? fun name => (Table.get? entries name).map fun v => (name, v) with
  | none => .ok default_
  | some (name, v) =>
      match read v with
      | .ok a => .ok a
      | .error problem => .error ⟨name, problem⟩

def fault? {α : Type} : Except SettingFault α → Option SettingFault
  | .ok _ => none
  | .error fault => some fault

def valueOr {α : Type} (default_ : α) : Except SettingFault α → α
  | .ok a => a
  | .error _ => default_

def extras (entries : Document) : Document :=
  let read := fieldNames.all.filterMap (writtenName? entries)
  entries.filter fun entry => !read.contains entry.1

/-- Reads settings from their entries, or reports every field that cannot be read. -/
def ofDocument (entries : Document) : Result Settings :=
  let f := fieldNames
  let optionalText := fun names => readField entries names (optional text) none
  let optionalBool := fun names => readField entries names (optional boolean) none
  let url := optionalText f.url
  let protocol := readField entries f.protocol text "mongodb"
  let host := optionalText f.host
  let port := readField entries f.port (optional integer) none
  let database := optionalText f.database
  let username := optionalText f.username
  let password := optionalText f.password
  let strictObjectIds := optionalBool f.strictObjectIds
  let extendedOperators := optionalBool f.extendedOperators
  let defaultSortDisabled := optionalBool f.defaultSortDisabled
  let nullAsAbsent := readField entries f.nullAsAbsent boolean false
  let findOrCreateEnabled := readField entries f.findOrCreateEnabled boolean false
  let serverSelectionTimeout := readField entries f.serverSelectionTimeout integer 5000
  let connectTimeout := readField entries f.connectTimeout integer 10000
  let faults := [fault? url, fault? protocol, fault? host, fault? port, fault? database,
    fault? username, fault? password, fault? strictObjectIds, fault? extendedOperators,
    fault? defaultSortDisabled, fault? nullAsAbsent, fault? findOrCreateEnabled,
    fault? serverSelectionTimeout, fault? connectTimeout].filterMap id
  if faults.isEmpty then
    .ok
      { url := valueOr none url
        protocol := valueOr "mongodb" protocol
        host := valueOr none host
        port := valueOr none port
        database := valueOr none database
        username := valueOr none username
        password := valueOr none password
        strictObjectIds := valueOr none strictObjectIds
        extendedOperators := valueOr none extendedOperators
        defaultSortDisabled := valueOr none defaultSortDisabled
        nullAsAbsent := valueOr false nullAsAbsent
        findOrCreateEnabled := valueOr false findOrCreateEnabled
        serverSelectionTimeout := valueOr 5000 serverSelectionTimeout
        connectTimeout := valueOr 10000 connectTimeout
        extra := extras entries }
  else .error (.invalidSettings faults)

def ofValue : Value → Result Settings
  | .null => ofDocument []
  | .doc entries => ofDocument entries
  | _ => .error (.invalidSettings [⟨"", .notMapping⟩])

def ofOptional (v : Value) : Result Settings := if v.truthy then ofValue v else ofDocument []

/-- Settings never change once they are made. Names with a leading underscore are no settings and
can be assigned without an effect. -/
def assign (s : Settings) (name : String) (_ : Value) : Result Settings :=
  if name.toList.head? = some '_' then .ok s else .error (.invalidSettings [⟨name, .frozen⟩])

def nonEmpty? (s : Option String) : Option String :=
  match s with
  | some "" => none
  | s => s

/-- User and password in percent encoding, in front of the host. -/
def credentials (s : Settings) : String :=
  match nonEmpty? s.username with
  | none => ""
  | some user =>
      match nonEmpty? s.password with
      | none => Text.percentEncode user ++ "@"
      | some password => Text.percentEncode user ++ ":" ++ Text.percentEncode password ++ "@"

def seedlistProtocol : String := "mongodb+srv"

/-- `protocol://[user[:password]@]host[:port]/database`. -/
def generatedUrl (s : Settings) : String :=
  let protocol := if s.protocol = "" then "mongodb" else s.protocol
  let host := (nonEmpty? s.host).getD "127.0.0.1"
  let database := (nonEmpty? s.database).getD "test"
  let address := protocol ++ "://" ++ s.credentials ++ host
  if protocol = seedlistProtocol then address ++ "/" ++ database
  else
    let port :=
      match s.port with
      | none | some 0 => 27017
      | some n => n
    address ++ ":" ++ toString port ++ "/" ++ database

def resolvedUrl (s : Settings) : String := (nonEmpty? s.url).getD s.generatedUrl

def clientArguments : List String := ["connect", "tz_aware"]

/-- The options of an address are known to the driver without regard to case. -/
def isClientOption (driverOptions : List String) (key : String) : Bool :=
  driverOptions.contains (Text.lower key) || clientArguments.contains key

/-- The extras that the client takes as options; the others belong to the framework. -/
def clientOptions (s : Settings) (driverOptions : List String) : Document :=
  s.extra.filter fun entry => isClientOption driverOptions entry.1

/-- A boolean setting as a value; null when it is not set. -/
def ofBool? : Option Bool → Value
  | none => .null
  | some b => .bool b

/-- The first of several values that is not null. -/
def firstSet (tiers : List Value) (default_ : Value) : Value :=
  (tiers.find? fun v => !v.isNull).getD default_

end Settings

end ModelStore
