import GraphSync.Toml.Reader

/-!
# Settings

How to reach the database, and how much one statement handles. A settings file is a TOML document
with the tables `graph` and `sync`; what it leaves out has a default, and what it holds besides is
ignored.
-/

namespace GraphSync

/-- How to reach the database. -/
structure Connection where
  uri : String := "bolt://localhost:7687"
  user : String := "neo4j"
  password : String := "neo4j"
  database : String := "neo4j"
  maxConnections : UInt64 := 4
  deriving DecidableEq

/-- How much one statement handles. -/
structure SyncOptions where
  /-- Rows per ingestion statement. -/
  batchSize : UInt64 := 10000
  /-- Elements per cleanup statement. -/
  cleanupWindow : UInt64 := 100
  deriving DecidableEq

/-- All settings. -/
structure Settings where
  graph : Connection := {}
  sync : SyncOptions := {}
  deriving DecidableEq

/-! ## Sizes in use -/

/-- The number of rows of a batch, at least one. -/
def SyncOptions.batch (o : SyncOptions) : UInt64 := if o.batchSize = 0 then 1 else o.batchSize

/-- The number of elements of a window, at least one. -/
def SyncOptions.window (o : SyncOptions) : UInt64 :=
  if o.cleanupWindow = 0 then 1 else o.cleanupWindow

/-! ## Reading -/

open Datum

/-- The connection of a datum. -/
def Connection.ofDatum? (d : Datum) : Option Connection := do
  let s ← Slots.ofDatumPrefix? ["uri", "user", "password", "database", "max_connections"] d
  let default : Connection := {}
  let uri ← s.orElse "uri" default.uri text?
  let user ← s.orElse "user" default.user text?
  let password ← s.orElse "password" default.password text?
  let database ← s.orElse "database" default.database text?
  let maxConnections ← s.orElse "max_connections" default.maxConnections size?
  return { uri, user, password, database, maxConnections }

/-- The options of a datum. -/
def SyncOptions.ofDatum? (d : Datum) : Option SyncOptions := do
  let s ← Slots.ofDatumPrefix? ["batch_size", "cleanup_window"] d
  let default : SyncOptions := {}
  let batchSize ← s.orElse "batch_size" default.batchSize size?
  let cleanupWindow ← s.orElse "cleanup_window" default.cleanupWindow size?
  return { batchSize, cleanupWindow }

/-- The settings of a datum. -/
def Settings.ofDatum? (d : Datum) : Option Settings := do
  let s ← Slots.ofDatumPrefix? ["graph", "sync"] d
  let graph ← s.orElse "graph" {} Connection.ofDatum?
  let sync ← s.orElse "sync" {} SyncOptions.ofDatum?
  return { graph, sync }

/-- The settings that a text holds. -/
def Settings.parse? (text : String) : Option Settings :=
  (Toml.parse? text).bind Settings.ofDatum?

end GraphSync
