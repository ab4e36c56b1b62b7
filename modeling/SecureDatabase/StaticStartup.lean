import SecureDatabase.ExtensionGate
import SecureDatabase.Foundation.Embedding

/-!
# Starting up with static addresses

A process whose credentials are written in its configuration leaves the broker alone and starts no
worker. Each of its pools is opened with the options of one of its addresses, and stays with them,
whatever the other processes do. So the database that was migrated through a pool is the one of
the address, and it stays migrated.
-/

namespace SecureDatabase.Startup

open Foundation Program Rotation Native

section Rules

variable (parse : String → Except String PgConnectOptions)

namespace Process

/-- The address of a pool, if its credentials are static. -/
def address (startup : Process) : PoolKind → Option String
  | .data =>
      match startup.config.dataAuth with
      | .staticUrl databaseUrl => some databaseUrl
      | .broker _ => none
  | .secrets =>
      match startup.config.secretsAuth with
      | some (.staticUrl databaseUrl) => some databaseUrl
      | _ => none

/-- All credentials of a process are static. -/
def Static (startup : Process) : Prop :=
  startup.config.dataAuth.IsStatic ∧ ∀ auth ∈ startup.config.secretsAuth, auth.IsStatic

/-- The options with which a pool is opened. -/
def Addresses (startup : Process) (kind : PoolKind) (options : PgConnectOptions) : Prop :=
  ∃ databaseUrl, startup.address kind = some databaseUrl ∧
    staticOptions startup.debug startup.env startup.lowercase parse databaseUrl
      (startup.context kind) = .ok options

/-- The process opened a pool with some options. -/
def Opened (past : Past) (options : PgConnectOptions) (pool : PoolId) : Prop :=
  ∃ settings, (⟨.acquire (.connectWith options settings), .ok pool⟩ : Exchange Reply) ∈ past

/-- The kind of the pool that secrets are in. -/
def secretsKind (startup : Process) : PoolKind :=
  if startup.config.secretsAuth.isSome then .secrets else .data

/-- The cells that a process hands out. -/
def pools (startup : Process) (index : Nat) : PgPool :=
  ⟨cell index .data, cell index startup.secretsKind⟩

/-- The rule of a process with static credentials: it opens pools with the options of its
addresses, and each of its cells has a pool that it opened with those of the cell. -/
def staticRule (startup : Process) (index : Nat) (past : Past) : Stmt → Prop
  | .acquire (.issueCredentials _) => False
  | .acquire (.connectWith options settings) => ∃ kind, startup.Addresses parse kind options ∧
      settings = (startup.context kind).settings
  | .acquire _ => True
  | .newCell made pool => ∃ kind options, made = cell index kind ∧
      startup.Addresses parse kind options ∧ Opened past options pool
  | .sql _ _ => True
  | .spawn _ => False

end Process

/-- A part of a process that sends queries and nothing else. -/
def Asks {α : Type} (program : StartupProgram α) : Prop :=
  ∀ past, program.Follows (fun _ stmt => ∃ pool query, stmt = .sql pool query) (fun _ _ => True)
    past

namespace Asks

variable {α β : Type}

/-- What is computed asks for nothing. -/
theorem ofExcept (result : DbResult α) : Asks (Program.ofExcept result) := by
  intro past
  cases result <;> trivial

/-- Parts that ask only for this may be put together. -/
theorem bind {first : StartupProgram α} {next : α → StartupProgram β} (start : Asks first)
    (rest : ∀ found, Asks (next found)) : Asks (first >>= next) := by
  intro past
  refine Follows.bind (fun _ _ => True) ((start past).weaken ?_) fun later found _ => rest found later
  intro later result _
  cases result <;> trivial

/-- A statement on a database is one of those that a start may make. -/
theorem send (failed : String → DatabaseError) (pool : PoolId) (sql : Query) :
    Asks (send failed pool sql) := by
  refine bind (fun past => ⟨⟨pool, sql, rfl⟩, fun _ => trivial⟩) fun reply => ?_
  exact ofExcept _

/-- A value asks for nothing. -/
theorem pure (result : α) : Asks (Pure.pure result : StartupProgram α) := fun _ => trivial

end Asks

/-- The migration is a statement on the database. -/
theorem runMigrations_asks (debug : DebugText) (env : Environment) (pool : PoolId) :
    Asks (runMigrations debug env pool) := by
  refine Asks.bind (Asks.ofExcept _) fun skipped => ?_
  cases skipped with
  | true => exact Asks.pure ()
  | false => exact Asks.bind (Asks.send _ pool _) fun _ => Asks.pure ()

/-- So is a listing. -/
theorem upsertExtensionAllowlist_asks (pool : PoolId) (extension : String) :
    Asks (upsertExtensionAllowlist pool extension) :=
  Asks.bind (Asks.send _ pool _) fun _ => Asks.pure ()

/-- An optional extension asks for no more than what creates it and its listing. -/
theorem bring_asks (enabled : Bool) (pool : PoolId) (extension : String)
    {ensure : StartupProgram Unit} (asks : Asks ensure) :
    Asks (bring enabled pool extension ensure) := by
  cases enabled with
  | true => exact Asks.bind asks fun _ => upsertExtensionAllowlist_asks pool extension
  | false => exact Asks.pure ()

/-- The gate asks the database only. -/
theorem enforceExtensionAllowlist_asks (debug : DebugText) (env : Environment) (pool : PoolId) :
    Asks (enforceExtensionAllowlist debug env pool) := by
  refine Asks.bind (Asks.ofExcept _) fun allowed => ?_
  cases allowed with
  | true => exact Asks.pure ()
  | false => exact Asks.bind (Asks.send _ pool _) fun _ => Asks.ofExcept _

/-- So does everything that makes a pool ready. -/
theorem ensurePostgresExtensions_asks (features : Features) (debug : DebugText)
    (env : Environment) (pool : PoolId) (kind : PoolKind) :
    Asks (ensurePostgresExtensions features debug env pool kind) := by
  have created (name : String) : Asks (do let _ ← query pool (.createExtension name)) :=
    Asks.bind (Asks.send _ pool _) fun _ => Asks.pure ()
  refine Asks.bind (upsertExtensionAllowlist_asks pool _) fun _ => ?_
  refine Asks.bind (bring_asks _ pool _ (created _)) fun _ => ?_
  refine Asks.bind (bring_asks _ pool _ (created _)) fun _ => ?_
  refine Asks.bind (bring_asks _ pool _ ?_) fun _ => ?_
  · exact Asks.bind (Asks.send _ pool _) fun _ => Asks.bind (Asks.send _ pool _) fun _ => Asks.pure ()
  refine Asks.bind (bring_asks _ pool _ ?_) fun _ => ?_
  · refine Asks.bind (Asks.send _ pool _) fun _ => Asks.bind (Asks.send _ pool _) fun _ => ?_
    exact Asks.bind (Asks.send _ pool _) fun _ => Asks.pure ()
  exact enforceExtensionAllowlist_asks debug env pool

variable {parse} {startup : Process} {index : Nat} {past : Past}

/-- Creating a pool with a static address opens one with the options of the address, and there is
no worker. -/
theorem createPool_static {kind : PoolKind} {databaseUrl : String}
    (address : startup.address kind = some databaseUrl) (cell : Nat) :
    (startup.createPool parse kind (.staticUrl databaseUrl) cell).Follows
      (fun _ stmt => ∃ options, startup.Addresses parse kind options ∧
        stmt = .connectWith options (startup.context kind).settings)
      (fun own result => ∀ created, result = .ok created → created.2 = none ∧
        ∃ options settings, startup.Addresses parse kind options ∧
          (⟨.connectWith options settings, .ok created.1⟩ :
            Exchange (@PoolReply Nat Empty Empty)) ∈ own) [] := by
  rw [Process.createPool, createStaticPool]
  cases found : staticOptions startup.debug startup.env startup.lowercase parse databaseUrl
      (startup.context kind) with
  | error error =>
    rintro _ ⟨⟩
  | ok options =>
    have addresses : startup.Addresses parse kind options := ⟨databaseUrl, address, found⟩
    refine ⟨⟨options, addresses, rfl⟩, fun connected => ?_⟩
    cases connected with
    | error error =>
      rintro _ ⟨⟩
    | ok pool =>
      rintro _ ⟨⟩
      exact ⟨rfl, options, _, addresses, List.mem_cons_self⟩

/-- Queries are within the rule. -/
theorem Asks.follows {α : Type} {program : StartupProgram α} (asks : Asks program) (past : Past) :
    program.Follows (startup.staticRule parse index) (fun _ _ => True) past := by
  refine (asks past).relax ?_
  rintro later _ ⟨pool, query, rfl⟩
  trivial

/-- A rule without a promise, in front of something else. -/
theorem Asks.follows_bind {α β : Type} {first : StartupProgram α} {next : α → StartupProgram β}
    {promised : DbResult β → Prop} (asks : Asks first) (fails : ∀ error, promised (.error error))
    (rest : ∀ later found, (next found).Follows (startup.staticRule parse index)
      (fun _ => promised) later) :
    (first >>= next).Follows (startup.staticRule parse index) (fun _ => promised) past := by
  refine Follows.bind (fun _ _ => True) ((asks.follows past).weaken ?_) fun later found _ =>
    rest later found
  intro later result _
  cases result with
  | ok found => trivial
  | error error => exact fails error

/-- Among the statements of a process too. -/
theorem embed_createPool_static {kind : PoolKind} {databaseUrl : String}
    (address : startup.address kind = some databaseUrl) (cell : Nat) :
    ((startup.createPool parse kind (.staticUrl databaseUrl) cell).embed Stmt.acquire
      fun _ => id).Follows (startup.staticRule parse index)
        (fun later result => ∀ created, result = .ok created → created.2 = none ∧
          ∃ options, startup.Addresses parse kind options ∧
            Process.Opened later options created.1) past := by
  have created := @createPool_static parse startup kind databaseUrl address cell
  generalize startup.createPool parse kind (.staticUrl databaseUrl) cell = program at created ⊢
  apply created.embed_map (fun own => (⟨.acquire own.stmt, own.reply⟩ : Exchange Reply))
    fun _ _ => rfl
  · rintro own _ ⟨options, addresses, rfl⟩
    exact ⟨kind, addresses, rfl⟩
  · intro own result promised made same
    obtain ⟨workerless, options, settings, addresses, member⟩ := promised made same
    refine ⟨workerless, options, addresses, settings, List.mem_append_left _ ?_⟩
    exact List.mem_map_of_mem member

/-- A database is checked with queries only. -/
theorem checks_static (pool : PoolId) (kind : PoolKind)
    {worker : Option (BrokerLeaseWorker Nat)} (workerless : worker = none) :
    (do
      runMigrations startup.debug startup.env pool
      ensurePostgresExtensions startup.features startup.debug startup.env pool kind
      return worker : StartupProgram (Option (BrokerLeaseWorker Nat))).Follows
        (startup.staticRule parse index)
        (fun _ result => ∀ worker, result = .ok worker → worker = none) past := by
  have fails (error : DatabaseError) (worker : Option (BrokerLeaseWorker Nat))
      (same : (.error error : DbResult (Option (BrokerLeaseWorker Nat))) = .ok worker) :
      worker = none := by cases same
  have migrating := runMigrations_asks startup.debug startup.env pool
  have ensuring :=
    ensurePostgresExtensions_asks startup.features startup.debug startup.env pool kind
  apply migrating.follows_bind fails
  intro later _
  apply ensuring.follows_bind fails
  rintro last _ _ ⟨⟩
  exact workerless

/-- Opening a pool with a static address keeps the rule, and there is no worker. -/
theorem openPool_static {kind : PoolKind} {databaseUrl : String}
    (address : startup.address kind = some databaseUrl) {auth : NativeAuthConfig}
    (static : auth = .staticUrl databaseUrl) :
    (startup.openPool parse kind auth (Process.cell index kind)).Follows
      (startup.staticRule parse index)
      (fun _ result => ∀ worker, result = .ok worker → worker = none) past := by
  subst static
  rw [Process.openPool]
  have creating := @embed_createPool_static parse startup index past kind databaseUrl address
    (Process.cell index kind)
  -- Nothing else is known of the creation, so that it is not unfolded.
  generalize ((startup.createPool parse kind (.staticUrl databaseUrl)
    (Process.cell index kind)).embed Stmt.acquire fun _ => id :
      StartupProgram (PoolId × Option (BrokerLeaseWorker Nat))) = program at creating ⊢
  apply Follows.bind fun later created => created.2 = none ∧
    ∃ options, startup.Addresses parse kind options ∧ Process.Opened later options created.1
  · apply creating.weaken
    intro later result promised
    cases result with
    | error error =>
      intro worker none
      cases none
    | ok created => exact promised created rfl
  · rintro later ⟨pool, worker⟩ ⟨workerless, options, addresses, opened⟩
    refine ⟨⟨kind, options, rfl, addresses, opened⟩, fun _ => ⟨trivial, fun loaded => ?_⟩⟩
    exact checks_static loaded kind workerless

/-- A static authentication has an address. -/
theorem exists_url_of_isStatic {auth : NativeAuthConfig} (static : auth.IsStatic) :
    ∃ databaseUrl, auth = .staticUrl databaseUrl := by
  cases auth with
  | staticUrl databaseUrl => exact ⟨databaseUrl, rfl⟩
  | broker credential => exact static.elim

/-- A process with static credentials keeps the rule, and hands out its own cells. -/
theorem connectPostgres_static (static : startup.Static) :
    (startup.connectPostgres parse index).Follows (startup.staticRule parse index)
      (fun _ result => ∀ pools, result = .ok pools → pools = startup.pools index) [] := by
  have fails (error : DatabaseError) (pools : PgPool)
      (same : (.error error : DbResult PgPool) = .ok pools) : pools = startup.pools index := by
    cases same
  obtain ⟨dataUrl, dataAuth⟩ := exists_url_of_isStatic static.1
  have dataAddress : startup.address .data = some dataUrl := by
    rw [Process.address, dataAuth]
  refine Follows.bind (fun _ worker => worker = none) ?_ ?_
  · refine Follows.weaken (openPool_static dataAddress dataAuth) ?_
    intro later result promised
    cases result with
    | error error => exact fails error
    | ok worker => exact promised worker rfl
  · rintro later _ rfl
    cases found : startup.config.secretsAuth with
    | none =>
      rintro _ ⟨⟩
      rw [Process.pools, Process.secretsKind, found]
      rfl
    | some auth =>
      obtain ⟨secretsUrl, secretsAuth⟩ := exists_url_of_isStatic (static.2 auth found)
      have secretsAddress : startup.address .secrets = some secretsUrl := by
        rw [Process.address, found, secretsAuth]
      refine Follows.bind (fun _ worker => worker = none) ?_ ?_
      · refine Follows.weaken (openPool_static secretsAddress secretsAuth) ?_
        intro last result promised
        cases result with
        | error error => exact fails error
        | ok worker => exact promised worker rfl
      · rintro last _ rfl _ ⟨⟩
        rw [Process.pools, Process.secretsKind, found]
        rfl

end Rules

section Books

variable {Db : Type} [DecidableEq Db] {cluster : Cluster Db} {startups : Nat → Process}

omit [DecidableEq Db] in
/-- What is recorded as migrated stays so. -/
theorem answer_recorded {severed : Option String} {query : Query} {database : Database}
    (recorded : database.recorded = true) :
    (database.answer cluster severed query).2.recorded = true := by
  have created (name : String) : (database.create cluster.brings name).recorded = true := by
    unfold Database.create
    split
    · exact recorded
    · exact recorded
  cases query with
  | migrate => simp [Database.answer, recorded]
  | createExtension name => exact created name
  | allow name =>
    simp only [Database.answer]
    cases database.extensionAllowlist <;> exact recorded
  | unlisted =>
    simp only [Database.answer]
    cases database.extensionAllowlist <;> exact recorded
  | createHypertable relation column =>
    simp only [Database.answer]
    split <;> exact recorded
  | createDistributedTable relation column =>
    simp only [Database.answer]
    split <;> exact recorded

/-- No statement takes a recorded migration back. -/
theorem recorded_exec {stmt : Stmt} {site : Site Db} {db : Db}
    (recorded : (site.databases db).recorded = true) :
    ((exec cluster stmt site).2.databases db).recorded = true := by
  obtain same | ⟨pool, query, -, answered⟩ := exec_database_cases cluster stmt site db
  · rwa [same]
  · rw [answered]
    exact answer_recorded recorded

/-- Neither does anything outside. -/
theorem recorded_drift {act : Outside Db} {site : Site Db} {db : Db}
    (recorded : (site.databases db).recorded = true) :
    ((drift cluster act site).databases db).recorded = true := by
  have altered (changed : Db) {change : Database → Database}
      (keeps : ∀ database : Database, (change database).recorded = database.recorded) :
      ((site.alter changed change).databases db).recorded = true := by
    by_cases same : db = changed
    · subst same
      rwa [Site.alter_databases_self, keeps]
    · rwa [site.alter_databases_of_ne same]
  cases act with
  | broker reply => exact recorded
  | server reply => exact recorded
  | connectivity outage severed => exact recorded
  | install changed created =>
    refine altered changed fun database => ?_
    unfold Database.create
    split <;> rfl
  | uninstall changed removed =>
    rw [drift]
    exact altered changed fun _ => rfl
  | list changed listed =>
    rw [drift]
    exact altered changed fun _ => rfl
  | unlist changed removed =>
    rw [drift]
    exact altered changed fun _ => rfl

/-- A migration that succeeds is recorded in the database that the pool leads to. -/
theorem exec_migrate {pool : PoolId} {site : Site Db} {rows : List String}
    (migrated : (exec cluster (.sql pool .migrate) site).1 = .ok rows) :
    ∃ db, site.leads cluster pool = some db ∧
      ((exec cluster (.sql pool .migrate) site).2.databases db).recorded = true := by
  obtain ⟨error, failed⟩ | ⟨db, leads, answered⟩ := exec_sql_cases cluster pool .migrate site
  · rw [failed] at migrated
    cases migrated
  · refine ⟨db, leads, ?_⟩
    rw [answered] at migrated ⊢
    dsimp only at migrated ⊢
    rw [Site.alter_databases_self]
    unfold Database.answer at migrated ⊢
    by_cases recorded : (site.databases db).recorded = true
    · simp [recorded]
    · simp only [recorded] at migrated ⊢
      cases known : (site.databases db).extensionAllowlist with
      | some names =>
        rw [known] at migrated
        cases migrated
      | none =>
        rw [known] at migrated
        cases severed : site.severed with
        | some error =>
          rw [severed] at migrated
          cases migrated
        | none => rfl

/-- A pool that is opened has its options at once. -/
theorem exec_opened (cluster : Cluster Db) {options : PgConnectOptions} {settings : PoolSettings}
    {site : Site Db} {pool : PoolId}
    (opened : (exec cluster (.acquire (.connectWith options settings)) site).1 = .ok pool) :
    (exec cluster (.acquire (.connectWith options settings)) site).2.endpoints pool =
      some options := by
  simp only [exec, Rotation.exec] at opened ⊢
  cases up : site.pools.server with
  | error error =>
    simp only [up] at opened
    cases opened
  | ok _ =>
    simp only [up] at opened
    cases opened
    simp [noteOpening, opening]

/-- A pool has the options that it was opened with, a cell the pool that it was made for, and a
database through which a migration succeeded has it recorded. -/
structure Settled (cluster : Cluster Db) (run : Starting Db) : Prop where
  endpoints : ∀ index options pool, Process.Opened (exchanges index run.log) options pool →
    run.store.endpoints pool = some options
  cells : ∀ index kind pool,
    (⟨.newCell (Process.cell index kind) pool, ()⟩ : Exchange Reply) ∈ exchanges index run.log →
      run.store.pools.installed (Process.cell index kind) = pool
  migrated : ∀ index pool rows,
    (⟨.sql pool .migrate, .ok rows⟩ : Exchange Reply) ∈ exchanges index run.log →
      ∃ db, run.store.leads cluster pool = some db ∧ (run.store.databases db).recorded = true

/-- A move keeps this: a migration that was answered stays recorded, and cells without a
worker keep their pools. -/
theorem Settled.step {run : Starting Db} (settled : Settled cluster run)
    (fresh : run.store.Fresh) (disciplined : Disciplined startups run) (move : Move (Outside Db)) :
    Settled cluster (run.step (machine cluster) move) := by
  obtain same | ⟨act, -, moved⟩ | ⟨index, stmt, resume, -, current, moved⟩ :=
    Run.step_cases (machine cluster) run move
  · rw [same]
    exact settled
  · rw [moved]
    obtain ⟨endpoints, -, installed⟩ := drift_endpoints cluster act run.store
    refine ⟨?_, ?_, ?_⟩
    · intro other options pool opened
      exact (congrFun endpoints pool).trans (settled.endpoints other options pool opened)
    · intro other kind pool made
      exact (congrFun installed _).trans (settled.cells other kind pool made)
    · intro other pool rows member
      obtain ⟨db, leads, recorded⟩ := settled.migrated other pool rows member
      refine ⟨db, ?_, recorded_drift recorded⟩
      rw [Site.leads] at leads ⊢
      exact (congrArg (fun found => (found pool).map cluster.leadsTo) endpoints).trans leads
  · obtain ⟨allowed, -⟩ := disciplined.issuing current
    rw [moved]
    refine ⟨?_, ?_, ?_⟩
    · rintro other options pool ⟨settings, opened⟩
      rcases mem_exchanges_cons opened with ⟨own, same⟩ | old
      · obtain rfl : stmt = .acquire (.connectWith options settings) :=
          congrArg Exchange.stmt same
        exact exec_opened cluster (eq_of_heq (Exchange.mk.inj same).2)
      · exact fresh.endpoints_exec cluster stmt
          (settled.endpoints other options pool ⟨settings, old⟩)
    · intro other kind pool made
      rcases mem_exchanges_cons made with ⟨own, same⟩ | old
      · obtain rfl : stmt = .newCell (Process.cell other kind) pool := congrArg Exchange.stmt same
        exact Function.update_self ..
      · refine (installed_exec allowed run.store ?_).trans (settled.cells other kind pool old)
        rintro new rfl
        obtain ⟨⟨own, same⟩, unmade⟩ := allowed
        obtain ⟨rfl, rfl⟩ := Process.cell_inj same
        exact unmade ⟨pool, old⟩
    · intro other pool rows member
      have kept := (fresh.exec cluster stmt).2
      rcases mem_exchanges_cons member with ⟨own, same⟩ | old
      · obtain rfl : stmt = .sql pool .migrate := congrArg Exchange.stmt same
        obtain ⟨db, leads, recorded⟩ := exec_migrate (eq_of_heq (Exchange.mk.inj same).2)
        exact ⟨db, kept pool db leads, recorded⟩
      · obtain ⟨db, leads, recorded⟩ := settled.migrated other pool rows old
        exact ⟨db, kept pool db leads, recorded_exec recorded⟩

/-- So it holds in every schedule from databases before the start. -/
theorem launch_settled (cluster : Cluster Db) (parse : String → Except String PgConnectOptions)
    (startups : Nat → Process) (databases : Db → Database)
    (broker : Except String PostgresCredentialLease) (server : Except String Unit)
    (moves : List (Move (Outside Db))) :
    Settled cluster ((launch parse startups (.before databases broker server)).play
      (machine cluster) moves) := by
  induction moves using List.reverseRecOn with
  | nil =>
    refine ⟨?_, ?_, ?_⟩
    · rintro index options pool ⟨settings, none⟩
      cases none
    · intro index kind pool none
      cases none
    · intro index pool rows none
      cases none
  | append_singleton moves move inductionHypothesis =>
    rw [Run.play_append, Run.play_cons, Run.play_nil]
    exact inductionHypothesis.step
      (launch_sound cluster parse startups databases broker server moves).fresh
      (launch_disciplined cluster parse startups _ moves) move

end Books

section Results

variable {Db : Type} [DecidableEq Db] {cluster : Cluster Db}
  {parse : String → Except String PgConnectOptions} {startups : Nat → Process}
  {databases : Db → Database} {broker : Except String PostgresCredentialLease}
  {server : Except String Unit} {moves : List (Move (Outside Db))} {index : Nat}

/-- The cell of a pool leads to the database of its address, and that is migrated, as far as the
process does this. -/
def Reaches (cluster : Cluster Db) (parse : String → Except String PgConnectOptions)
    (startup : Process) (site : Site Db) (kind : PoolKind) (cell : Nat) : Prop :=
  ∃ options, startup.Addresses parse kind options ∧
    site.endpoints (site.pools.installed cell) = some options ∧
    (startup.Migrates → (site.databases (cluster.leadsTo options)).recorded = true)

variable (cluster parse startups databases broker server moves) in
/-- Every process with static credentials keeps the rule for these. -/
theorem launch_directed : Run.Lawful
    (fun index past stmt => (startups index).Static →
      (startups index).staticRule parse index past stmt)
    (fun index _ result => (startups index).Static →
      ∀ pools, result = .ok pools → pools = (startups index).pools index)
    (reached cluster parse startups databases broker server moves) := by
  refine Run.lawful_play (machine cluster) _ _ (fun index => ?_) moves
  by_cases static : (startups index).Static
  · refine Follows.relax (Follows.weaken (connectPostgres_static static) ?_) ?_
    · exact fun _ _ promised _ => promised
    · exact fun _ _ allowed _ => allowed
  · refine Follows.of_forall ?_ ?_ _ []
    · exact fun _ _ unstatic => absurd unstatic static
    · exact fun _ _ unstatic => absurd unstatic static

/-- A process with static credentials that checked its pools leads to the databases of its
addresses. -/
theorem reaches_of_checked (static : (startups index).Static) {kind : PoolKind}
    (checked : (startups index).Checked
      (exchanges index (reached cluster parse startups databases broker server moves).log)
      (Process.cell index kind)) :
    Reaches cluster parse (startups index)
      (reached cluster parse startups databases broker server moves).store kind
      (Process.cell index kind) := by
  have sound := launch_sound cluster parse startups databases broker server moves
  have settled := launch_settled cluster parse startups databases broker server moves
  have directed := launch_directed cluster parse startups databases broker server moves
  obtain ⟨pool, loaded, migrated, -⟩ := checked
  obtain ⟨holds, made, created⟩ := sound.loads index kind pool loaded
  -- The cell was made for a pool that the process had opened with the options of the address.
  obtain ⟨event, member, own, same⟩ := mem_exchanges.mp created
  obtain ⟨later, earlier, split⟩ := List.append_of_mem member
  have allowed := directed.executed later event earlier split
  rw [own, congrArg Exchange.stmt same] at allowed
  obtain ⟨other, options, sameCell, addresses, settings, opened⟩ := allowed static
  obtain ⟨-, rfl⟩ := Process.cell_inj sameCell
  have known : (reached cluster parse startups databases broker server moves).store.endpoints
      made = some options := by
    refine settled.endpoints index options made ⟨settings, ?_⟩
    rw [split]
    obtain ⟨found, there, same⟩ := mem_exchanges.mp opened
    exact mem_exchanges.mpr ⟨found, List.mem_append_right _ (List.mem_cons_of_mem _ there), same⟩
  have installed := settled.cells index kind made created
  obtain rfl : made = pool := installed.symm.trans holds
  refine ⟨options, addresses, by rw [holds, known], fun migrates => ?_⟩
  obtain ⟨rows, done⟩ := migrated migrates
  obtain ⟨db, leads, recorded⟩ := settled.migrated index made rows done
  rw [Site.leads, known] at leads
  cases leads
  exact recorded

/-- In every schedule of any number of processes and operators: a process with static credentials
asks the broker for nothing, spawns no worker, and opens pools with the options of its addresses
only. The pools that it hands out lead to the databases of these addresses, whatever the others
do, and unless migrations are skipped these are recorded there from then on.

Proof: the rule of a static process allows no request to the broker, no worker and no other
options, and the run obeys the rule. A pool that passed its checks is installed with the
options of its address, and the migration that went before them lasts. -/
theorem static_startup_migrates (static : (startups index).Static) :
    (∀ event ∈ (reached cluster parse startups databases broker server moves).log,
      event.call = index →
        (∀ params, event.stmt ≠ .acquire (.issueCredentials params)) ∧
        (∀ worker, event.stmt ≠ .spawn worker) ∧
        ∀ options settings, event.stmt = .acquire (.connectWith options settings) →
          ∃ kind, (startups index).Addresses parse kind options ∧
            settings = ((startups index).context kind).settings) ∧
    ∀ pools, ((reached cluster parse startups databases broker server moves).calls
        index).outcome = some (.ok pools) →
      Reaches cluster parse (startups index)
        (reached cluster parse startups databases broker server moves).store .data pools.data ∧
      Reaches cluster parse (startups index)
        (reached cluster parse startups databases broker server moves).store
        (startups index).secretsKind pools.secrets := by
  have directed := launch_directed cluster parse startups databases broker server moves
  refine ⟨?_, ?_⟩
  · rintro event member rfl
    obtain ⟨later, earlier, split⟩ := List.append_of_mem member
    have allowed := directed.executed later event earlier split static
    refine ⟨?_, ?_, ?_⟩
    · intro params same
      rw [same] at allowed
      exact allowed
    · intro worker same
      rw [same] at allowed
      exact allowed
    · intro options settings same
      rw [same] at allowed
      exact allowed
  · intro pools entered
    obtain ⟨passed, -⟩ := passed_of_outcome entered
    have remaining := directed.remaining index
    rw [(outcome_eq_ok_iff _ _).mp entered] at remaining
    obtain rfl := remaining static pools rfl
    refine ⟨reaches_of_checked static (passed .data (startups index).has_data),
      reaches_of_checked static (passed _ ?_)⟩
    intro secrets absent
    rw [Process.secretsKind, absent] at secrets
    cases secrets

/-- A process with a static address, which may be any. -/
def directStartup : Process :=
  { sampleStartup false with
    env := fun key => if key = "SECURE_DB_ALLOW_DIRECT_BOOTSTRAP" then .text "1" else .absent
    config := ⟨.staticUrl "postgres://orders", none, 20, 5, 10, 300, "secure-database"⟩ }

/-- It comes to an empty database. -/
def directRun : Starting String :=
  reached sampleCluster parseSample (fun _ => directStartup) (fun _ => ⟨[], none, false⟩)
    (.error "unavailable") (.ok ()) (List.replicate 6 (.call 0))

/-- One process starts alone, and its database is migrated. -/
theorem static_startup_migrates_directRun :
    (directRun.calls 0).outcome = some (.ok ⟨0, 0⟩) ∧
      (directRun.store.databases "postgres://orders").recorded = true := by
  have static : directStartup.Static := by
    refine ⟨trivial, fun auth none => ?_⟩
    cases none
  have migrates : directStartup.Migrates := by
    rintro ⟨⟩
  have entered : (directRun.calls 0).outcome = some (.ok ⟨0, 0⟩) := by decide +kernel
  obtain ⟨⟨options, ⟨databaseUrl, address, opened⟩, -, recorded⟩, -⟩ :=
    (static_startup_migrates static).2 _ entered
  cases address
  cases opened
  exact ⟨entered, recorded migrates⟩

end Results

end SecureDatabase.Startup
