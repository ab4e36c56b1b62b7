import SecureDatabase.MigrateCommand
import SecureDatabase.StaticStartup

/-!
# Runs of the command that migrates

Commands run beside each other, and the servers and operators go on in between. What a command
does to the databases is what some starting process with static credentials does. So it comes to
the database of its address without the broker, records the migrations there, and is kept out by
an extension that nobody lists.
-/

namespace SecureDatabase.Migrate

open Foundation Program Native

section Simulation

/-- A configuration with a static address and the defaults. -/
def plainConfig (databaseUrl : String) : NativeConfig :=
  ⟨.staticUrl databaseUrl, none, 20, 5, 10, 300, "secure-database"⟩

namespace Invocation

/-- The process that the command becomes, if it comes to connect. Otherwise it is one that nobody
will see. -/
def startup (invocation : Invocation) : Startup.Process :=
  match invocation.resolved with
  | .error _ => invocation.process "" (plainConfig "")
  | .ok databaseUrl =>
      match loadNativeConfig invocation.debug
          (invocation.command.environment databaseUrl invocation.env) with
      | .error _ => invocation.process databaseUrl (plainConfig databaseUrl)
      | .ok config => invocation.process databaseUrl config

/-- A command whose configuration loads starts as the process with that configuration. -/
theorem startup_of_loads {invocation : Invocation} {databaseUrl : String} {config : NativeConfig}
    (loads : invocation.Loads databaseUrl config) :
    invocation.startup = invocation.process databaseUrl config := by
  rw [startup, loads.1]
  dsimp only
  rw [loads.2]

/-- The process of a command has static addresses for both pools. -/
theorem plain_static (invocation : Invocation) (databaseUrl : String) :
    (invocation.process databaseUrl (plainConfig databaseUrl)).Static := by
  refine ⟨trivial, fun auth none => ?_⟩
  cases none

/-- The start is that of the command's own build. -/
theorem startup_features (invocation : Invocation) :
    invocation.startup.features = invocation.features := by
  unfold startup
  split
  · rfl
  · split <;> rfl

/-- The command becomes a process with static credentials, whatever the environment says. -/
theorem startup_static (invocation : Invocation) : invocation.startup.Static := by
  unfold startup
  split
  · exact invocation.plain_static ""
  · rename_i databaseUrl resolved
    split
    · exact invocation.plain_static databaseUrl
    · rename_i config loaded
      have parts := loadNativeConfig_loaded loaded
      have secrets := parts.secretsAuth
      rcases dataAuth_eq_ok parts.dataAuth with ⟨-, -, url, static⟩ | ⟨broker, -⟩
      · rw [static] at secrets
        refine ⟨?_, secretsAuth_static secrets⟩
        change config.dataAuth.IsStatic
        rw [static]
        trivial
      · rw [credentialSource_environment] at broker
        exact absurd broker (by decide)

/-- Its data pool is that of the resolved address. -/
theorem startup_address {invocation : Invocation} {databaseUrl : String} {config : NativeConfig}
    (loads : invocation.Loads databaseUrl config) :
    invocation.startup.address .data = some databaseUrl := by
  have auth := (loadNativeConfig_loaded loads.2).dataAuth
  rw [dataAuth_environment (resolveDatabaseUrl_eq_ok loads.1)] at auth
  rw [startup_of_loads loads]
  unfold Startup.Process.address
  simp only [process, ← Except.ok.inj auth]

variable (parse : String → Except String Rotation.PgConnectOptions)

/-- What a command does to the databases is what that process does. -/
theorem migratePostgres_becomes (invocation : Invocation) (index : Nat) :
    Becomes Stmt.start (fun _ => id) (fun _ => ())
      (CommandError.database "failed to run PostgreSQL migrations")
      (invocation.startup.connectPostgres parse index) (invocation.migratePostgres parse index) := by
  unfold migratePostgres
  cases resolved : invocation.resolved with
  | error error => exact .fails error
  | ok databaseUrl =>
    rw [ofExcept_ok, value_bind]
    cases invocation.ownerRole databaseUrl with
    | error error => exact .fails error
    | ok ownerRole =>
      rw [ofExcept_ok, value_bind]
      apply Becomes.bind
      · apply (repair_follows invocation resolved ownerRole _ _).relax
        intro past stmt allowed
        exact allowed.2
      · intro _
        cases loaded : loadNativeConfig invocation.debug
            (invocation.command.environment databaseUrl invocation.env) with
        | error error => exact .fails _
        | ok config =>
          rw [startup_of_loads ⟨resolved, loaded⟩]
          exact .is

end Invocation

variable {Host Db : Type} [DecidableEq Host] [DecidableEq Db]

/-- What of a command is seen at the site. -/
def view : Event (World Host Db) Reply → Option (Event (Startup.Site Db) Startup.Reply)
  | ⟨⟨.start stmt, reply⟩, call, world⟩ => some ⟨⟨stmt, reply⟩, call, world.site⟩
  | ⟨⟨.repair _ _, _⟩, _, _⟩ => none

/-- What others do to the site. -/
def passes : Outside Host Db → Option (Startup.Outside Db)
  | .site act => some act
  | .roles _ _ => none

omit [DecidableEq Host] [DecidableEq Db] in
/-- Seen by a process that starts, an event of a command is a statement of that process,
or none. -/
theorem view_views : Run.Views Stmt.start (fun _ => id) World.site
    (view : Event (World Host Db) Reply → _) := by
  refine ⟨fun _ _ _ _ => rfl, ?_⟩
  intro stmt reply call store foreign
  cases stmt with
  | repair databaseUrl stmt => rfl
  | start stmt => exact absurd rfl (foreign stmt)

/-- The part of the world that a start deals with runs as it does without commands:
repairs do not touch it. -/
theorem site_partOf (hostOf : String → Host) (cluster : Startup.Cluster Db) :
    Run.PartOf Stmt.start (fun _ => id) World.site passes (Startup.machine cluster)
      (machine hostOf cluster) := by
  refine ⟨fun _ _ => rfl, fun _ _ => rfl, ?_, ?_, ?_⟩
  · intro stmt store foreign
    cases stmt with
    | repair databaseUrl stmt => rfl
    | start stmt => exact absurd rfl (foreign stmt)
  · intro act own store passed
    cases act with
    | roles host roles => cases passed
    | site act =>
      cases passed
      rfl
  · intro act store stays
    cases act with
    | roles host roles => rfl
    | site act => cases stays

end Simulation

section Results

variable {Host Db : Type} [DecidableEq Host] [DecidableEq Db] {hostOf : String → Host}
  {cluster : Startup.Cluster Db} {parse : String → Except String Rotation.PgConnectOptions}
  {invocations : Nat → Invocation} {clusters : Host → Repair.Cluster}
  {databases : Db → Startup.Database} {broker : Except String Rotation.PostgresCredentialLease}
  {server : Except String Unit} {moves : List (Move (Outside Host Db))}

variable (hostOf cluster parse invocations clusters databases broker server moves) in
/-- The commands and the servers after a schedule. -/
abbrev reached : Run (World Host Db) Stmt Reply CommandError Unit :=
  (Run.start ⟨clusters, .before databases broker server⟩ fun index =>
    (invocations index).migratePostgres parse index).play (machine hostOf cluster) moves

variable (cluster parse invocations databases broker server) in
/-- The processes that the commands become, after a schedule of the site. -/
abbrev atSite (own : List (Move (Startup.Outside Db))) : Startup.Starting Db :=
  Startup.reached cluster parse (fun index => (invocations index).startup) databases broker server own

variable (hostOf cluster parse invocations clusters databases broker server moves) in
/-- The commands are starting processes, as far as the site is concerned. -/
theorem reached_refines : ∃ own, Run.Refines Stmt.start (fun _ => id) World.site (fun _ => ())
      (CommandError.database "failed to run PostgreSQL migrations") view
      (reached hostOf cluster parse invocations clusters databases broker server moves)
      (atSite cluster parse invocations databases broker server own) ∧
    ∀ act, .drift act ∈ own → ∃ passed, .drift passed ∈ moves ∧ passes passed = some act :=
  Run.refines_play (site_partOf hostOf cluster) view_views
    ⟨clusters, .before databases broker server⟩
    (fun index => (invocations index).migratePostgres_becomes parse index) moves

/-- Whatever a command does to the databases, a process with static credentials may do. -/
theorem executed_directed {event : Event (World Host Db) Reply} {stmt : Startup.Stmt}
    (member : event ∈ (reached hostOf cluster parse invocations clusters databases broker server
      moves).log) (starts : event.stmt = .start stmt) :
    ∃ past, (invocations event.call).startup.staticRule parse event.call past stmt := by
  obtain ⟨own, refines, -⟩ :=
    reached_refines hostOf cluster parse invocations clusters databases broker server moves
  obtain ⟨⟨issued, reply⟩, call, world⟩ := event
  cases starts
  have seen : (⟨⟨stmt, reply⟩, call, world.site⟩ : Event (Startup.Site Db) Startup.Reply) ∈
      (atSite cluster parse invocations databases broker server own).log := by
    rw [refines.log]
    exact List.mem_filterMap.mpr ⟨_, member, rfl⟩
  obtain ⟨later, earlier, split⟩ := List.append_of_mem seen
  exact ⟨_, (Startup.launch_directed cluster parse _ databases broker server own).executed later _
    earlier split (invocations call).startup_static⟩

/-- At the site, a command that succeeded was a process that checked all of its pools. -/
theorem passed_of_succeeded {index : Nat}
    (succeeded : ((reached hostOf cluster parse invocations clusters databases broker server
      moves).calls index).outcome = some (.ok ())) :
    ∃ own, (atSite cluster parse invocations databases broker server own).store =
        (reached hostOf cluster parse invocations clusters databases broker server moves).store.site ∧
      Startup.Passed (fun index => (invocations index).startup)
        (atSite cluster parse invocations databases broker server own) index ∧
      ∀ act, .drift act ∈ own → .drift (.site act) ∈ moves := by
  obtain ⟨own, refines, known⟩ :=
    reached_refines hostOf cluster parse invocations clusters databases broker server moves
  have becomes := refines.calls index
  rw [(outcome_eq_ok_iff _ _).mp succeeded] at becomes
  obtain ⟨pools, entered⟩ := becomes.of_value
  obtain ⟨passed, -⟩ := Startup.passed_of_outcome ((outcome_eq_ok_iff _ _).mpr entered)
  refine ⟨own, refines.store, passed, ?_⟩
  intro act member
  obtain ⟨other, there, same⟩ := known act member
  cases other with
  | roles host roles => cases same
  | site own =>
    cases same
    exact there

/-- A process that a command becomes, and that checked its data pool, leads to the database of the
resolved address. -/
theorem reaches_resolved {own : List (Move (Startup.Outside Db))} {index : Nat}
    {databaseUrl : String} {config : NativeConfig}
    (loads : (invocations index).Loads databaseUrl config)
    (passed : Startup.Passed (fun index => (invocations index).startup)
      (atSite cluster parse invocations databases broker server own) index) :
    ∃ options, (invocations index).Opens parse databaseUrl config options ∧
      (atSite cluster parse invocations databases broker server own).store.leads cluster
        ((atSite cluster parse invocations databases broker server own).store.pools.installed
          (Startup.Process.cell index .data)) = some (cluster.leadsTo options) ∧
      (envFlag (invocations index).debug (invocations index).env "SECURE_DB_SKIP_MIGRATIONS" ≠
          .ok true →
        ((atSite cluster parse invocations databases broker server own).store.databases
          (cluster.leadsTo options)).recorded = true) := by
  obtain ⟨options, ⟨address, same, opened⟩, known, recorded⟩ :=
    Startup.reaches_of_checked (invocations index).startup_static
      (passed .data (Startup.Process.has_data _))
  rw [Invocation.startup_address loads] at same
  cases same
  rw [Invocation.startup_of_loads loads] at opened recorded
  refine ⟨options, opened, ?_, ?_⟩
  · rw [Startup.Site.leads, known]
    rfl
  · intro migrates
    apply recorded
    rw [← envFlag_environment (by decide) (by decide)] at migrates
    exact migrates

variable (hostOf cluster parse invocations clusters databases broker server moves) in
/-- In every schedule of any number of commands, servers and operators: a command repairs on the
server of its resolved address only, does nothing more once a statement of the repair has failed,
and never asks the broker or spawns a worker. When it has succeeded, all of its repair did, and
unless migrations are skipped they are recorded in the database of the address from then on.

Proof: the command is its repair followed by a startup, and each part keeps its own rule; the
startup's part of the run is a run of startups. A success means that both have succeeded, and
what a startup with static credentials reaches is the database of the address. -/
theorem migrate_records_in_resolved_database :
    (∀ later event earlier,
      (reached hostOf cluster parse invocations clusters databases broker server moves).log =
        later ++ event :: earlier →
      (invocations event.call).rule (exchanges event.call earlier) event.stmt ∧
      (∀ params, event.stmt ≠ .start (.acquire (.issueCredentials params))) ∧
      ∀ worker, event.stmt ≠ .start (.spawn worker)) ∧
    ∀ index, ((reached hostOf cluster parse invocations clusters databases broker server moves).calls
        index).outcome = some (.ok ()) →
      ∃ databaseUrl config options, (invocations index).Loads databaseUrl config ∧
        Repaired databaseUrl (exchanges index
          (reached hostOf cluster parse invocations clusters databases broker server moves).log) ∧
        (invocations index).Opens parse databaseUrl config options ∧
        (envFlag (invocations index).debug (invocations index).env "SECURE_DB_SKIP_MIGRATIONS" ≠
            .ok true →
          ((reached hostOf cluster parse invocations clusters databases broker server
            moves).store.site.databases (cluster.leadsTo options)).recorded = true) := by
  have lawful := Run.lawful_play (machine hostOf cluster) ⟨clusters, .before databases broker server⟩
    (fun index => (invocations index).migratePostgres parse index)
    (fun index => migratePostgres_follows parse (invocations index) index) moves
  refine ⟨?_, ?_⟩
  · intro later event earlier split
    have member : event ∈ (reached hostOf cluster parse invocations clusters databases broker server
        moves).log := by
      rw [split]
      exact List.mem_append_right _ List.mem_cons_self
    refine ⟨lawful.executed later event earlier split, ?_, ?_⟩
    · intro params asks
      obtain ⟨past, allowed⟩ := executed_directed member asks
      exact allowed
    · intro worker spawns
      obtain ⟨past, allowed⟩ := executed_directed member spawns
      exact allowed
  · intro index succeeded
    have remaining := lawful.remaining index
    rw [(outcome_eq_ok_iff _ _).mp succeeded] at remaining
    obtain ⟨databaseUrl, config, loads, repaired⟩ := remaining () rfl
    obtain ⟨own, store, passed, -⟩ := passed_of_succeeded succeeded
    obtain ⟨options, opened, -, recorded⟩ := reaches_resolved loads passed
    rw [store] at recorded
    exact ⟨databaseUrl, config, options, loads, repaired, opened, recorded⟩

/-- A command with an address, and with audiences whose roles it takes back. -/
def sampleInvocation (databaseUrl : String) (audiences : List String) : Invocation where
  features := ⟨false, false, false, false⟩
  debug := sampleDebug
  lowercase := asciiOnly
  client _ := .ok ()
  username _ := some "owner"
  env := bareEnvironment
  command := ⟨some databaseUrl, none, none, none, none, none, none, audiences⟩

/-- Servers with a leased role. -/
def sampleClusters (_ : String) : Repair.Cluster :=
  ⟨⟨["owner", "orders_1"], by decide⟩, fun _ => none⟩

/-- Every command is called alike. -/
def sampleInvocations (_ : Nat) : Invocation := sampleInvocation "postgres://orders" ["orders"]

/-- Databases without extensions, and without the schema. -/
def emptyDatabases (_ : String) : Startup.Database := ⟨[], none, false⟩

/-- A command repairs a server and migrates an empty database there. -/
def sampleRun : Run (World String String) Stmt Reply CommandError Unit :=
  reached id Startup.sampleCluster Rotation.parseSample sampleInvocations sampleClusters
    emptyDatabases (.error "unavailable") (.ok ()) (List.replicate 12 (.call 0))

/-- One command runs to its end: the leased role is gone, and the migrations are
recorded. -/
theorem migrate_records_in_resolved_database_sampleRun :
    (sampleRun.calls 0).outcome = some (.ok ()) ∧
      (sampleRun.store.clusters "postgres://orders").roles.rows = ["owner"] ∧
      (sampleRun.store.site.databases "postgres://orders").recorded = true := by
  have succeeded : (sampleRun.calls 0).outcome = some (.ok ()) := by decide +kernel
  refine ⟨succeeded, by decide +kernel, ?_⟩
  unfold sampleRun at succeeded ⊢
  obtain ⟨databaseUrl, config, options, ⟨resolved, loaded⟩, -, opened, recorded⟩ :=
    (migrate_records_in_resolved_database ..).2 0 succeeded
  obtain rfl : "postgres://orders" = databaseUrl := Except.ok.inj resolved
  obtain rfl : plainConfig "postgres://orders" = config := Except.ok.inj loaded
  obtain rfl : ⟨"postgres://orders", .require, some "secure-database", none, none⟩ = options :=
    Except.ok.inj opened
  have leads : Startup.sampleCluster.leadsTo
      ⟨"postgres://orders", .require, some "secure-database", none, none⟩ = "postgres://orders" := rfl
  rw [leads] at recorded
  have migrates : envFlag (sampleInvocations 0).debug (sampleInvocations 0).env
      "SECURE_DB_SKIP_MIGRATIONS" ≠ .ok true := by
    rintro ⟨⟩
  exact recorded migrates

variable (hostOf clusters broker server) in
/-- In every schedule of any number of commands, servers and operators: as long as the database of
a resolved address has an extension that is not listed, that no build lists and that no operator
lists or removes, the command does not succeed, unless the user opened the gate.

Proof: the startup's part of the run is a run of startups under the same operators. There an
unlisted extension keeps every guarded process out of its database, so a startup that
succeeded would lead elsewhere; but it leads to the database of the resolved address. -/
theorem migrate_fails_on_unlisted_extension {db : Db} {name : String} {index : Nat}
    {databaseUrl : String} {config : NativeConfig} {options : Rotation.PgConnectOptions}
    (there : (databases db).Unlisted name) (unseeded : name ∉ Startup.seeds)
    (unasked : ∀ index, name ∉ (invocations index).features.lists .data)
    (left : ∀ act, .drift (.site act) ∈ moves → ¬ Startup.Admits db name (.drift act))
    (loads : (invocations index).Loads databaseUrl config)
    (opened : (invocations index).Opens parse databaseUrl config options)
    (leads : cluster.leadsTo options = db)
    (guards : envFlag (invocations index).debug (invocations index).env
      "SECURE_DB_ALLOW_UNLISTED_EXTENSIONS" ≠ .ok true) :
    ((reached hostOf cluster parse invocations clusters databases broker server moves).calls
      index).outcome ≠ some (.ok ()) := by
  intro succeeded
  obtain ⟨own, -, passed, known⟩ := passed_of_succeeded succeeded
  obtain ⟨other, same, leading, -⟩ := reaches_resolved loads passed
  obtain rfl : other = options := Except.ok.inj (same.symm.trans opened)
  have unlisting : ∀ move ∈ own, ¬ Startup.Admits db name move := by
    intro move member
    cases move with
    | call other => exact id
    | drift act => exact left act (known act member)
  have closed : (invocations index).startup.Guards := by
    rw [← envFlag_environment (by decide) (by decide)] at guards
    rw [Invocation.startup_of_loads loads]
    exact guards
  have asked (index : Nat) : name ∉ (invocations index).startup.features.lists .data := by
    rw [Invocation.startup_features]
    exact unasked index
  apply Startup.leads_ne_of_unlisted there unseeded asked unlisting closed passed
    (Startup.Process.has_data _)
  rw [leading, leads]

/-- Commands come to a database with an extension that is not listed. -/
def crowdedInvocations (_ : Nat) : Invocation := sampleInvocation "postgres://crowded" []

/-- Six steps of one command, which are more than it makes. -/
def crowdedMoves : List (Move (Outside String String)) := List.replicate 6 (.call 0)

/-- The run of these moves. -/
def crowdedRun : Run (World String String) Stmt Reply CommandError Unit :=
  reached id Startup.sampleCluster Rotation.parseSample crowdedInvocations sampleClusters
    Startup.crowdedDatabases (.error "unavailable") (.ok ()) crowdedMoves

/-- The command ends, and not with a success. -/
theorem migrate_fails_on_unlisted_extension_crowdedRun :
    (crowdedRun.calls 0).outcome.isSome ∧ (crowdedRun.calls 0).outcome ≠ some (.ok ()) := by
  have there : (Startup.crowdedDatabases "postgres://crowded").Unlisted "dblink" := by
    refine ⟨by decide, ?_⟩
    rintro ⟨names, found, member⟩
    cases found
    exact absurd member (by decide)
  have unasked (index : Nat) : "dblink" ∉ (crowdedInvocations index).features.lists .data := by
    change "dblink" ∉ (crowdedInvocations 0).features.lists .data
    decide
  have left (act : Startup.Outside String) (member : .drift (.site act) ∈ crowdedMoves) :
      ¬ Startup.Admits "postgres://crowded" "dblink" (.drift act) := by
    cases (List.mem_replicate.mp member).2
  have loads : (crowdedInvocations 0).Loads "postgres://crowded" (plainConfig "postgres://crowded") :=
    ⟨rfl, rfl⟩
  have opened : (crowdedInvocations 0).Opens Rotation.parseSample "postgres://crowded"
      (plainConfig "postgres://crowded")
      ⟨"postgres://crowded", .require, some "secure-database", none, none⟩ := rfl
  have guards : envFlag (crowdedInvocations 0).debug (crowdedInvocations 0).env
      "SECURE_DB_ALLOW_UNLISTED_EXTENSIONS" ≠ .ok true := by
    rintro ⟨⟩
  refine ⟨by decide +kernel, ?_⟩
  unfold crowdedRun
  exact migrate_fails_on_unlisted_extension id sampleClusters (.error "unavailable") (.ok ()) there
    (by decide) unasked left loads opened rfl guards

end Results

end SecureDatabase.Migrate
