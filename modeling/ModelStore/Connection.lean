import ModelStore.Datasource.Basic
import ModelStore.Settings.Basic

/-!
The connection of a datasource: one client, constructed when it is first needed and kept until it
is given up. A client whose topology was closed by someone else is stale; it is replaced where the
connection is ensured, but not where it is only asked for.
-/
namespace ModelStore.Connection

open Act

def timeouts (settings : Settings) : Document :=
  [("serverSelectionTimeoutMS", .int settings.serverSelectionTimeout),
   ("connectTimeoutMS", .int settings.connectTimeout)]

def hasDuplicates (settings : Settings) (driverOptions : List String) : Bool :=
  (settings.clientOptions driverOptions).any fun entry =>
    Table.contains (timeouts settings) entry.1

def clientKeywords (settings : Settings) (driverOptions : List String) : Document :=
  timeouts settings ++ settings.clientOptions driverOptions

def nextConstruction : Act (Option Failure) := do
  let fate := (← get).constructions.head?.join
  modify fun s => { s with constructions := s.constructions.drop 1 }
  pure fate

/-- Only errors are reported as errors of the connection. -/
def failConstruction {α : Type} (settings : Settings) (cause : Failure) : Act α := do
  if cause.isError then
    note (.connectionFailed settings.resolvedUrl)
    throw (.unreachable cause)
  else throw cause

/-- Constructs a client and keeps it. An option that is given twice is refused. -/
def construct (settings : Settings) : Act Nat := do
  if (← get).driverMissing then throw .driverMissing
  let options := (← get).driverOptions
  if hasDuplicates settings options then failConstruction settings (.misuse .wrongType)
  log (.construct [.text settings.resolvedUrl] (clientKeywords settings options))
  match ← nextConstruction with
  | some f => failConstruction settings f
  | none => do
      let client ← newClient
      modify fun s => { s with client := some client }
      pure client

def connect (settings : Settings) : Act Nat := do
  match (← get).client with
  | some client => pure client
  | none => construct settings

def disconnect : Act Unit := do
  match (← get).client with
  | some client => do
      log (.close client)
      modify fun s => { s with client := none }
  | none => pure ()

/-- The client is kept although its topology is closed. -/
def isStale : Act Bool := do
  let s ← get
  match s.client with
  | some client => pure (s.mark client).truthy
  | none => pure false

/-- A client that is not stale; a stale one is given up first. -/
def ensureConnected (settings : Settings) : Act Nat := do
  if ← isStale then
    note .staleClient
    disconnect
  connect settings

def client : Act Nat := do
  match (← get).client with
  | some client => pure client
  | none => throw .notConnected

def database (settings : Settings) : Act String := do
  match Settings.nonEmpty? settings.database with
  | some name => do
      let _ ← client
      pure name
  | none =>
      match (← get).client, (← get).defaultDatabase with
      | some _, some name => pure name
      | _, _ => throw .databaseUnnamed

def ping (settings : Settings) : Act Unit := do
  let client ← connect settings
  match ← rescue (admin client "ping") with
  | .ok _ => pure ()
  | .error f => throw (.unreachable f)

/-- Whether the deployment gives a sign of life; nothing is constructed for it. -/
def isHealthy : Act Bool := do
  match (← get).client with
  | none => pure false
  | some client =>
      match ← rescue (admin client "ping") with
      | .ok _ => pure true
      | .error _ => pure false

end ModelStore.Connection
