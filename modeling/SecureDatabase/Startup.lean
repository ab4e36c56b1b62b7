import SecureDatabase.PgbouncerGate
import SecureDatabase.Foundation.Histories

/-!
# Starting up

A process that connects opens its data pool, migrates its database, brings its extensions in
order, and does the same for its secrets pool if it has one. Only then does it start the workers
that rotate its leases, and hand out the pools. Bringing the extensions in order means to create
those that the build asks for, to put each on the allowlist of the database, and to refuse the
database if one is installed that is not on the list.

Any number of processes do this at once, in builds of their own and over any number of
databases. Between two statements of one the others go on, and so do the operators of the
databases. Creating an extension and listing it are two statements.
-/

namespace SecureDatabase.Startup

open Foundation Program Rotation Native

/-- The two pools of a process. -/
inductive PoolKind where
  | data
  | secrets
deriving DecidableEq

/-- The features of a build that bring extensions. -/
structure Features where
  pgaudit : Bool
  pgStatStatements : Bool
  timescaledb : Bool
  citus : Bool

/-- What a process sends to a database while it starts. -/
inductive Query where
  | migrate
  | createExtension (name : String)
  | allow (name : String)
  | unlisted
  | createHypertable (relation column : String)
  | createDistributedTable (relation column : String)

/-- What a process does while it starts: steps that open and load pools, a new cell for a pool,
a query on a pool, and a worker that is spawned. -/
inductive Stmt where
  | acquire (stmt : PoolStmt Nat Empty)
  | newCell (cell : Nat) (pool : PoolId)
  | sql (pool : PoolId) (query : Query)
  | spawn (worker : BrokerLeaseWorker Nat)

/-- What is replied to each. A query has rows or the text of an error. -/
def Reply : Stmt → Type
  | .acquire stmt => PoolReply Empty stmt
  | .newCell _ _ => Unit
  | .sql _ _ => Except String (List String)
  | .spawn _ => Unit

/-- A start in terms of its statements, with the errors of the crate. -/
abbrev StartupProgram (α : Type) := Program Stmt Reply DatabaseError α

/-- What is recorded of a process's own steps, newest first. -/
abbrev Past := List (Exchange Reply)

section Databases

/-- A database: its extensions, the allowlist once the schema is there, and whether the migration
is recorded as applied. -/
structure Database where
  installed : List String
  extensionAllowlist : Option (List String)
  recorded : Bool

/-- What is not in the source: the database that connection options lead to, the extensions that
another one brings along when it is created, and the texts of the errors. -/
structure Cluster (Db : Type) where
  leadsTo : PgConnectOptions → Db
  brings : String → List String
  refusal : Query → String

/-- The extensions that the migration puts on the list. -/
def seeds : List String := ["plpgsql", "pgcrypto"]

namespace Database

/-- The extension is on the list. -/
def Lists (database : Database) (name : String) : Prop :=
  ∃ names, database.extensionAllowlist = some names ∧ name ∈ names

/-- `CREATE EXTENSION IF NOT EXISTS`, with what the extension brings along. -/
def create (brings : String → List String) (name : String) (database : Database) : Database :=
  if name ∈ database.installed then database
  else { database with installed := (name :: brings name) ∪ database.installed }

/-- The schema of the migration. The file commits its own transaction, so what follows can fail
with the schema in place. -/
def migrated (brings : String → List String) (database : Database) : Database :=
  { database.create brings "pgcrypto" with extensionAllowlist := some seeds }

/-- What a query answers, and what it makes of the database. -/
def answer {Db : Type} (cluster : Cluster Db) (severed : Option String) (query : Query)
    (database : Database) : Except String (List String) × Database :=
  match query with
  | .migrate =>
      if database.recorded then (.ok [], database)
      else match database.extensionAllowlist, severed with
        | some _, _ => (.error (cluster.refusal query), database)
        | none, some error => (.error error, database.migrated cluster.brings)
        | none, none => (.ok [], { database.migrated cluster.brings with recorded := true })
  | .createExtension name => (.ok [], database.create cluster.brings name)
  | .allow name =>
      match database.extensionAllowlist with
      | none => (.error (cluster.refusal query), database)
      | some names => (.ok [], { database with extensionAllowlist := some (names.insert name) })
  | .unlisted =>
      match database.extensionAllowlist with
      | none => (.error (cluster.refusal query), database)
      | some names => (.ok (database.installed.filter (· ∉ names)), database)
  | .createHypertable _ _ =>
      if "timescaledb" ∈ database.installed ∧ database.extensionAllowlist.isSome then
        (.ok [], database)
      else (.error (cluster.refusal query), database)
  | .createDistributedTable _ _ =>
      if "citus" ∈ database.installed ∧ database.extensionAllowlist.isSome then (.ok [], database)
      else (.error (cluster.refusal query), database)

end Database

end Databases

section Site

variable {Db : Type} [DecidableEq Db]

/-- Everything that the processes share: the pools and what each was opened with, the databases,
whether queries fail, whether a connection breaks between a migration and its record, and the
workers that were spawned. -/
structure Site (Db : Type) where
  pools : Pools Nat Empty Empty
  endpoints : PoolId → Option PgConnectOptions
  databases : Db → Database
  outage : Option String
  severed : Option String
  workers : List (BrokerLeaseWorker Nat)

/-- What others do: the broker, the server and the network change, and operators install, remove,
list and unlist extensions. -/
inductive Outside (Db : Type) where
  | broker (reply : Except String PostgresCredentialLease)
  | server (reply : Except String Unit)
  | connectivity (outage severed : Option String)
  | install (db : Db) (name : String)
  | uninstall (db : Db) (name : String)
  | list (db : Db) (name : String)
  | unlist (db : Db) (name : String)

/-- The endpoint of a pool that an exchange opened is known. -/
def noteOpening (exchange : Exchange (@PoolReply Nat Empty Empty))
    (endpoints : PoolId → Option PgConnectOptions) : PoolId → Option PgConnectOptions :=
  match opening exchange with
  | some (options, pool) => Function.update endpoints pool (some options)
  | none => endpoints

namespace Site

/-- Change one database. -/
def alter (site : Site Db) (db : Db) (change : Database → Database) : Site Db :=
  { site with databases := Function.update site.databases db (change (site.databases db)) }

/-- The database that a pool leads to. -/
def leads (cluster : Cluster Db) (site : Site Db) (pool : PoolId) : Option Db :=
  (site.endpoints pool).map cluster.leadsTo

end Site

variable (cluster : Cluster Db)

/-- How the statements of a start are executed. A query needs a pool that leads to a
database, which has to be reachable from there. -/
def exec : (stmt : Stmt) → Site Db → Reply stmt × Site Db
  | .acquire stmt, site =>
      let reply := Rotation.exec stmt site.pools
      (reply.1, { site with
        pools := reply.2
        endpoints := noteOpening ⟨stmt, reply.1⟩ site.endpoints })
  | .newCell cell pool, site =>
      ((), { site with pools :=
        { site.pools with installed := Function.update site.pools.installed cell pool } })
  | .sql pool query, site =>
      match site.outage, site.leads cluster pool with
      | some error, _ => (.error error, site)
      | none, none => (.error (cluster.refusal query), site)
      | none, some db =>
          let answer := (site.databases db).answer cluster site.severed query
          (answer.1, site.alter db fun _ => answer.2)
  | .spawn worker, site =>
      -- `BrokerLeaseWorker::spawn` leaves out a worker whose lease does not expire.
      ((), if worker.nextExpiry.isSome then { site with workers := worker :: site.workers }
        else site)

/-- What happens by itself: outside the servers, and by operators in the databases. -/
def drift : Outside Db → Site Db → Site Db
  | .broker reply, site => { site with pools := { site.pools with broker := reply } }
  | .server reply, site => { site with pools := { site.pools with server := reply } }
  | .connectivity outage severed, site => { site with outage, severed }
  | .install db name, site => site.alter db (·.create cluster.brings name)
  | .uninstall db name, site => site.alter db fun database =>
      { database with installed := database.installed.filter (· ≠ name) }
  | .list db name, site => site.alter db fun database =>
      { database with extensionAllowlist := database.extensionAllowlist.map (·.insert name) }
  | .unlist db name, site => site.alter db fun database =>
      { database with
        extensionAllowlist := database.extensionAllowlist.map (·.filter (· ≠ name)) }

/-- Broker, servers and databases with their surroundings. -/
def machine : Machine (Site Db) (Outside Db) Stmt Reply := ⟨exec cluster, drift cluster⟩

end Site

section Programs

/-- A query, its errors reported in one of the kinds. -/
def send (failed : String → DatabaseError) (pool : PoolId) (sql : Query) :
    StartupProgram (List String) := do
  let reply : Except String (List String) ← ask (Stmt.sql pool sql)
  ofExcept (reply.mapError failed)

/-- A query, its errors as `DatabaseError::from` reports them. -/
def query (pool : PoolId) (sql : Query) : StartupProgram (List String) := send .query pool sql

/-- `run_migrations`: the migrations are run, unless they are skipped. -/
def runMigrations (debug : DebugText) (env : Environment) (pool : PoolId) :
    StartupProgram Unit := do
  let skipped ← ofExcept (envFlag debug env "SECURE_DB_SKIP_MIGRATIONS")
  if skipped then return ()
  else do
    let _ ← send .migration pool .migrate

/-- `upsert_extension_allowlist`: an extension is listed, whether or not it was before. -/
def upsertExtensionAllowlist (pool : PoolId) (extension : String) : StartupProgram Unit := do
  let _ ← query pool (.allow extension)

/-- `enforce_extension_allowlist`: unless the gate is open, no extension may be installed
that is not listed. The error names those that are. -/
def enforceExtensionAllowlist (debug : DebugText) (env : Environment) (pool : PoolId) :
    StartupProgram Unit := do
  let allowed ← ofExcept (envFlag debug env "SECURE_DB_ALLOW_UNLISTED_EXTENSIONS")
  if allowed then return ()
  else do
    let unauthorized ← query pool .unlisted
    ofExcept (require unauthorized.isEmpty (.configuration
      ("found disallowed extensions: " ++ String.intercalate ", " unauthorized ++
        " (set SECURE_DB_ALLOW_UNLISTED_EXTENSIONS=1 to override)")))

/-- `ensure_timescaledb`: the extension and its one table. -/
def ensureTimescaledb (pool : PoolId) : StartupProgram Unit := do
  let _ ← query pool (.createExtension "timescaledb")
  let _ ← query pool (.createHypertable "gateway_data.tor_connect_audits" "occurred_at")

/-- `ensure_citus`: the extension and its two tables. -/
def ensureCitus (pool : PoolId) : StartupProgram Unit := do
  let _ ← query pool (.createExtension "citus")
  let _ ← query pool (.createDistributedTable "gateway_secrets.zk_proofs" "user_id")
  let _ ← query pool (.createDistributedTable "gateway_secrets.tee_attestations" "user_id")

/-- What a feature that the build has asks for, before its extension is listed. -/
def bring (enabled : Bool) (pool : PoolId) (extension : String) (ensure : StartupProgram Unit) :
    StartupProgram Unit :=
  if enabled then do
    ensure
    upsertExtensionAllowlist pool extension
  else return ()

/-- `ensure_postgres_extensions`: what the build asks for is created and listed, one
extension after the other, and the gate comes last. -/
def ensurePostgresExtensions (features : Features) (debug : DebugText) (env : Environment)
    (pool : PoolId) (kind : PoolKind) : StartupProgram Unit := do
  upsertExtensionAllowlist pool "pgcrypto"
  bring features.pgaudit pool "pgaudit" do
    let _ ← query pool (.createExtension "pgaudit")
  bring features.pgStatStatements pool "pg_stat_statements" do
    let _ ← query pool (.createExtension "pg_stat_statements")
  bring (kind = .data && features.timescaledb) pool "timescaledb" (ensureTimescaledb pool)
  bring (kind = .data && features.citus) pool "citus" (ensureCitus pool)
  enforceExtensionAllowlist debug env pool

/-- A process that starts: its build, its environment, how its broker clients are initialised, and
its configuration. -/
structure Process where
  features : Features
  debug : DebugText
  env : Environment
  lowercase : Lowercase
  client : PoolKind → Except String Unit
  config : NativeConfig

/-- The cells of the pools that are handed out. -/
structure PgPool where
  data : Nat
  secrets : Nat
deriving DecidableEq

variable (parse : String → Except String PgConnectOptions)

namespace Process

/-- How the pool is called in messages. -/
def label : PoolKind → String
  | .data => "data"
  | .secrets => "secrets"

/-- What a pool of the process is made with. -/
def context (startup : Process) (kind : PoolKind) : PoolContext where
  applicationName := startup.config.applicationName
  poolLabel := label kind
  settings :=
    { maxConnections := startup.config.maxConnections
      minConnections := startup.config.minConnections
      connectTimeoutSeconds := startup.config.connectTimeoutSeconds
      idleTimeoutSeconds := startup.config.idleTimeoutSeconds }

/-- Create a pool from a static address or with leases; only the latter has a worker. -/
def createPool (startup : Process) (kind : PoolKind) (auth : NativeAuthConfig) (cell : Nat) :
    PoolProgram Nat Empty Empty (PoolId × Option (BrokerLeaseWorker Nat)) :=
  match auth with
  | .staticUrl databaseUrl => do
      let pool ← createStaticPool startup.debug startup.env startup.lowercase parse databaseUrl
        (startup.context kind)
      return (pool, none)
  | .broker broker => do
      let (pool, worker) ←
        Rotation.createPool parse ⟨broker, startup.context kind, startup.client kind⟩ cell
      return (pool, some worker)

/-- Open a pool of its own cell and check its database. -/
def openPool (startup : Process) (kind : PoolKind) (auth : NativeAuthConfig) (cell : Nat) :
    StartupProgram (Option (BrokerLeaseWorker Nat)) := do
  let (created, worker) ← (startup.createPool parse kind auth cell).embed Stmt.acquire fun _ => id
  let _ : Unit ← ask (Stmt.newCell cell created)
  let pool : PoolId ← ask (Stmt.acquire (.load cell))
  runMigrations startup.debug startup.env pool
  ensurePostgresExtensions startup.features startup.debug startup.env pool kind
  return worker

/-- A worker is spawned where there is one. -/
def spawn (worker : Option (BrokerLeaseWorker Nat)) : StartupProgram Unit :=
  match worker with
  | some worker => ask (Stmt.spawn worker)
  | none => return ()

/-- The cells of the pools of a process. -/
def cell (index : Nat) : PoolKind → Nat
  | .data => 2 * index
  | .secrets => 2 * index + 1

/-- `connect_postgres`: both pools are opened and made ready before any worker is spawned,
so a start that fails leaves none behind. -/
def connectPostgres (startup : Process) (index : Nat) : StartupProgram PgPool := do
  let dataWorker ← startup.openPool parse .data startup.config.dataAuth (cell index .data)
  let (secretsPool, secretsWorker) ← match startup.config.secretsAuth with
    | some auth => do
        let worker ← startup.openPool parse .secrets auth (cell index .secrets)
        pure (cell index .secrets, worker)
    | none => pure (cell index .data, none)
  spawn dataWorker
  spawn secretsWorker
  return ⟨cell index .data, secretsPool⟩

end Process

end Programs

end SecureDatabase.Startup
