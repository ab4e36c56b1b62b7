import SecureDatabase.Foundation.Embedding
import SecureDatabase.OwnershipRepair
import SecureDatabase.Startup

/-!
# The command that migrates

The command line tool resolves the address of a database, repairs what leased roles own there, and
then connects as every process does, with an environment in which it has chosen static
credentials and the resolved address. Its options stand in that environment before the variables
of the user.

A failed statement ends the repair, and a failed repair the command. So whatever a command does
follows statements of the repair that all succeeded.
-/

namespace SecureDatabase.Migrate

open Foundation Program Native

section Command

/-- The arguments of the command. -/
structure MigratePostgres where
  databaseUrl : Option String
  poolMax : Option UInt32
  poolMin : Option UInt32
  connectTimeout : Option UInt64
  idleTimeout : Option UInt64
  applicationName : Option String
  ownerRole : Option String
  repairLeaseAudiences : List String

/-- How the command fails: with a message, or with what failed and its context. -/
inductive CommandError where
  | message (text : String)
  | repair (context : String) (error : Repair.RepairError)
  | configuration (context error : String)
  | database (context : String) (error : DatabaseError)
deriving DecidableEq

/-- `Option::ok_or_else`. -/
def orMessage {α : Type} (text : String) : Option α → Except CommandError α
  | some found => .ok found
  | none => .error (.message text)

/-- `resolve_database_url`: the argument, or else the variable, as long as it is not
blank. -/
def resolveDatabaseUrl (env : Environment) (explicitDatabaseUrl : Option String) :
    Except CommandError String :=
  orMessage "database URL is required via --database-url or SECURE_DB_URL"
    ((explicitDatabaseUrl.or (env.text "SECURE_DB_URL")).filter fun url => trim url ≠ "")

/-- The user of an address, as far as the address can be parsed and has one. -/
def ownerRoleFromDatabaseUrl (username : String → Option String) (databaseUrl : String) :
    Option String := do
  let parsed ← username databaseUrl
  if trim parsed = "" then none else some (trim parsed)

/-- `env::set_var`. -/
def setVar (env : Environment) (key value : String) : Environment :=
  fun other => if other = key then .text value else env other

/-- `env::set_var` if there is a value. -/
def setOptional (env : Environment) (key : String) : Option String → Environment
  | some text => setVar env key text
  | none => env

namespace MigratePostgres

/-- The environment in which the command connects. -/
def environment (command : MigratePostgres) (databaseUrl : String) (env : Environment) :
    Environment :=
  let env := setVar env "SECURE_DB_ALLOW_STATIC" "1"
  let env := setVar env "SECURE_DB_ALLOW_DIRECT_BOOTSTRAP" "1"
  let env := setVar env "SECURE_DB_CREDENTIAL_SOURCE" "static"
  let env := setVar env "SECURE_DB_URL" databaseUrl
  let env := setOptional env "SECURE_DB_POOL_MAX" (command.poolMax.map (·.toNat.repr))
  let env := setOptional env "SECURE_DB_POOL_MIN" (command.poolMin.map (·.toNat.repr))
  let env := setOptional env "SECURE_DB_CONNECT_TIMEOUT"
    (command.connectTimeout.map (·.toNat.repr))
  let env := setOptional env "SECURE_DB_IDLE_TIMEOUT" (command.idleTimeout.map (·.toNat.repr))
  setOptional env "SECURE_DB_APP_NAME" command.applicationName

end MigratePostgres

end Command

section Stores

/-- What a command does: statements of a repair on the server of an address, and what a process
does while it starts. -/
inductive Stmt where
  | repair (databaseUrl : String) (stmt : Repair.Statement)
  | start (stmt : Startup.Stmt)

/-- A statement of a repair is answered as in a repair, and one of the start as in a
start. -/
def Reply : Stmt → Type
  | .repair _ stmt => Repair.Reply stmt
  | .start stmt => Startup.Reply stmt

variable {Host Db : Type} [DecidableEq Host] [DecidableEq Db]

/-- The roles of the servers, and everything that starting processes share. -/
structure World (Host Db : Type) where
  clusters : Host → Repair.Cluster
  site : Startup.Site Db

/-- What others do: anything to the roles of a server, and what they do to the site. -/
inductive Outside (Host Db : Type) where
  | roles (host : Host) (cluster : Repair.Cluster)
  | site (act : Startup.Outside Db)

variable (hostOf : String → Host) (cluster : Startup.Cluster Db)

/-- A repair is executed on the server that its address leads to, and a statement of the
start where processes start. -/
def exec : (stmt : Stmt) → World Host Db → Reply stmt × World Host Db
  | .repair databaseUrl stmt, world =>
      let reply := Repair.exec stmt (world.clusters (hostOf databaseUrl))
      (reply.1, { world with
        clusters := Function.update world.clusters (hostOf databaseUrl) reply.2 })
  | .start stmt, world =>
      let reply := Startup.exec cluster stmt world.site
      (reply.1, { world with site := reply.2 })

/-- What happens by itself: to the roles of a server, and to everything a start deals
with. -/
def drift : Outside Host Db → World Host Db → World Host Db
  | .roles host roles, world => { world with clusters := Function.update world.clusters host roles }
  | .site act, world => { world with site := Startup.drift cluster act world.site }

/-- Servers, databases and broker with their surroundings. -/
def machine : Machine (World Host Db) (Outside Host Db) Stmt Reply :=
  ⟨exec hostOf cluster, drift cluster⟩

end Stores

section Programs

/-- A command in terms of its statements, with the errors that it shows. -/
abbrev CommandProgram (α : Type) := Program Stmt Reply CommandError α

/-- A command with its build, its environment and its arguments, and what is not in the source:
how the user of an address is read, and how broker clients are initialised. -/
structure Invocation where
  features : Startup.Features
  debug : DebugText
  lowercase : Lowercase
  client : Startup.PoolKind → Except String Unit
  username : String → Option String
  env : Environment
  command : MigratePostgres

namespace Invocation

/-- The resolved address. -/
def resolved (invocation : Invocation) : Except CommandError String :=
  resolveDatabaseUrl invocation.env invocation.command.databaseUrl

/-- The role that is to own everything: the argument, or else the user of the address. -/
def ownerRole (invocation : Invocation) (databaseUrl : String) : Except CommandError String :=
  orMessage "--owner-role is required when the database URL has no username"
    (invocation.command.ownerRole.or
      (ownerRoleFromDatabaseUrl invocation.username databaseUrl))

/-- The process that the command becomes, with a configuration. -/
def process (invocation : Invocation) (databaseUrl : String) (config : NativeConfig) :
    Startup.Process :=
  ⟨invocation.features, invocation.debug,
    invocation.command.environment databaseUrl invocation.env, invocation.lowercase,
    invocation.client, config⟩

variable (parse : String → Except String Rotation.PgConnectOptions)

/-- `migrate_postgres`: the repair, the environment that is set for the start, and the
start. -/
def migratePostgres (invocation : Invocation) (index : Nat) : CommandProgram Unit := do
  let databaseUrl ← ofExcept invocation.resolved
  let ownerRole ← ofExcept (invocation.ownerRole databaseUrl)
  ((Repair.repairPostgresLeaseOwnership ownerRole
    invocation.command.repairLeaseAudiences).embed (Stmt.repair databaseUrl) fun _ => id).recast id
      (.repair "failed to normalize leased Postgres ownership before migrations")
  let config ← ofExcept ((loadNativeConfig invocation.debug
    (invocation.command.environment databaseUrl invocation.env)).mapError
      (.configuration "failed to run PostgreSQL migrations"))
  (((invocation.process databaseUrl config).connectPostgres parse index).embed Stmt.start
    fun _ => id).recast (fun _ => ()) (.database "failed to run PostgreSQL migrations")

end Invocation

end Programs

section Configuration

variable {debug : DebugText} {env : Environment} {command : MigratePostgres}
  {databaseUrl : String}

/-- An address that is resolved is not blank. -/
theorem resolveDatabaseUrl_eq_ok {explicitDatabaseUrl : Option String}
    (resolved : resolveDatabaseUrl env explicitDatabaseUrl = .ok databaseUrl) :
    trim databaseUrl ≠ "" := by
  unfold resolveDatabaseUrl orMessage at resolved
  split at resolved
  · rename_i found kept
    cases resolved
    exact of_decide_eq_true (Option.filter_eq_some_iff.mp kept).2
  · cases resolved

/-- A variable that is set holds what it was set to. -/
theorem setVar_self (env : Environment) (key text : String) : setVar env key text key = .text text :=
  if_pos rfl

/-- Setting one variable leaves the others. -/
theorem setVar_of_ne (env : Environment) {key other : String} (differs : other ≠ key)
    (text : String) : setVar env key text other = env other := if_neg differs

/-- So does setting it to a value or none. -/
theorem setOptional_of_ne (env : Environment) {key other : String} (differs : other ≠ key)
    (text : Option String) : setOptional env key text other = env other := by
  cases text with
  | none => rfl
  | some text => exact setVar_of_ne env differs text

/-- The variables that the command always sets. -/
def chosenKeys : List String :=
  ["SECURE_DB_ALLOW_STATIC", "SECURE_DB_ALLOW_DIRECT_BOOTSTRAP", "SECURE_DB_CREDENTIAL_SOURCE",
    "SECURE_DB_URL"]

/-- The variables that it sets for an option. -/
def optionKeys : List String :=
  ["SECURE_DB_POOL_MAX", "SECURE_DB_POOL_MIN", "SECURE_DB_CONNECT_TIMEOUT",
    "SECURE_DB_IDLE_TIMEOUT", "SECURE_DB_APP_NAME"]

/-- A variable that no option sets is one of those that the command always sets, or the user's. -/
theorem environment_of_not_mem {key : String} (other : key ∉ optionKeys) :
    command.environment databaseUrl env key =
      setVar (setVar (setVar (setVar env "SECURE_DB_ALLOW_STATIC" "1")
        "SECURE_DB_ALLOW_DIRECT_BOOTSTRAP" "1") "SECURE_DB_CREDENTIAL_SOURCE" "static")
        "SECURE_DB_URL" databaseUrl key := by
  simp only [optionKeys, List.mem_cons, List.not_mem_nil, or_false, not_or] at other
  obtain ⟨poolMax, poolMin, connectTimeout, idleTimeout, appName⟩ := other
  simp only [MigratePostgres.environment]
  rw [setOptional_of_ne _ appName, setOptional_of_ne _ idleTimeout,
    setOptional_of_ne _ connectTimeout, setOptional_of_ne _ poolMin, setOptional_of_ne _ poolMax]

/-- In the environment of the start the credentials are static, whatever the user has
set. -/
theorem credentialSource_environment :
    credentialSource (command.environment databaseUrl env) = "static" := by
  have source : command.environment databaseUrl env "SECURE_DB_CREDENTIAL_SOURCE" =
      .text "static" := by
    rw [environment_of_not_mem (by decide), setVar_of_ne _ (by decide), setVar_self]
  rw [credentialSource, ((command.environment databaseUrl env).text_eq_some_iff _ _).mpr source]
  decide +kernel

/-- The credentials of the data pool are the resolved address, whatever the environment says. -/
theorem dataAuth_environment (resolved : trim databaseUrl ≠ "") :
    dataAuth debug (command.environment databaseUrl env) = .ok (.staticUrl databaseUrl) := by
  have allowed : command.environment databaseUrl env "SECURE_DB_ALLOW_STATIC" = .text "1" := by
    rw [environment_of_not_mem (by decide), setVar_of_ne _ (by decide), setVar_of_ne _ (by decide),
      setVar_of_ne _ (by decide), setVar_self]
  have address : command.environment databaseUrl env "SECURE_DB_URL" = .text databaseUrl := by
    rw [environment_of_not_mem (by decide), setVar_self]
  have flagged : envFlag debug (command.environment databaseUrl env) "SECURE_DB_ALLOW_STATIC" =
      .ok true := by
    rw [envFlag, ((command.environment databaseUrl env).var_eq_ok_iff _ _).mpr allowed]
    exact if_pos (by decide +kernel)
  have required : requiredEnv (command.environment databaseUrl env) "SECURE_DB_URL" =
      .ok databaseUrl := by
    rw [requiredEnv, ((command.environment databaseUrl env).var_eq_ok_iff _ _).mpr address]
    have kept : require (decide (trim databaseUrl ≠ "")) ("SECURE_DB_URL" ++ " must not be empty") =
        .ok () := (require_eq_ok_iff _ _).mpr (decide_eq_true resolved)
    apply (bind_eq_ok_iff _ _ _).mpr
    exact ⟨databaseUrl, rfl, (bind_eq_ok_iff _ _ _).mpr ⟨(), kept, rfl⟩⟩
  have other : ("static" : String) ≠ "broker" := by decide
  rw [dataAuth, credentialSource_environment, if_neg other, if_pos rfl, flagged, required]
  rfl

/-- A flag that the command does not set is up to the user. -/
theorem envFlag_environment {key : String} (foreign : key ∉ chosenKeys) (other : key ∉ optionKeys) :
    envFlag debug (command.environment databaseUrl env) key = envFlag debug env key := by
  simp only [chosenKeys, List.mem_cons, List.not_mem_nil, or_false, not_or] at foreign
  obtain ⟨allowStatic, allowDirect, source, url⟩ := foreign
  have same : command.environment databaseUrl env key = env key := by
    rw [environment_of_not_mem other, setVar_of_ne _ url, setVar_of_ne _ source,
      setVar_of_ne _ allowDirect, setVar_of_ne _ allowStatic]
  rw [envFlag, envFlag, Environment.var, Environment.var, same]

end Configuration

section Repairs

open Repair

/-- Nothing failed so far. -/
def Smooth (past : List (Exchange Repair.Reply)) : Prop :=
  ∀ exchange ∈ past, ∃ result, exchange.reply = .ok result

/-- A part of a repair that goes on only after statements that succeeded. -/
def Careful {α : Type} (program : Operation α) : Prop :=
  ∀ past, Smooth past → program.Follows (fun past _ => Smooth past)
    (fun past result => ∀ found, result = .ok found → Smooth past) past

variable {α β : Type}

/-- What issues nothing is careful. -/
theorem careful_pure (result : α) : Careful (pure result : Operation α) := by
  intro past smooth found same
  exact smooth

/-- What fails at once is careful too: it goes on after nothing. -/
theorem careful_failure (error : RepairError) : Careful (failure error : Operation α) := by
  intro past smooth found none
  cases none

/-- Parts that are careful may be put together: the second is reached only after the first
has succeeded. -/
theorem Careful.bind {first : Operation α} {next : α → Operation β} (start : Careful first)
    (rest : ∀ found, Careful (next found)) : Careful (first >>= next) := by
  intro past smooth
  apply Follows.bind fun later _ => Smooth later
  · apply Follows.weaken (start past smooth)
    intro later result kept
    cases result with
    | error error =>
      intro found none
      cases none
    | ok found => exact kept found rfl
  · intro later found kept
    exact rest found later kept

/-- A statement whose error ends the repair. -/
theorem careful_ask (stmt : Statement) (failed : String → RepairError) :
    Careful (ask stmt >>= fun reply => (ofExcept (Except.mapError failed reply) :
      Operation stmt.Result)) := by
  intro past smooth
  refine ⟨smooth, fun reply => ?_⟩
  cases reply with
  | error error =>
    intro found none
    cases none
  | ok result =>
    intro found same exchange member
    rcases List.mem_cons.mp member with rfl | old
    · exact ⟨result, rfl⟩
    · exact smooth exchange old

/-- A single statement is careful, for its error ends the operation. -/
theorem sql_careful (stmt : Statement) : Careful (sql stmt) := careful_ask stmt .query

/-- The repair of one role stops at its first error. -/
theorem repairRole_careful (ownerRole leaseRole : String) :
    Careful (repairRole ownerRole leaseRole) := by
  apply (sql_careful _).bind
  intro reassigned
  apply (sql_careful _).bind
  intro dropped
  exact sql_careful _

/-- So does that of several roles, by induction on their list. -/
theorem repairRoles_careful (ownerRole : String) (leaseRoles : List String) :
    Careful (repairRoles ownerRole leaseRoles) := by
  induction leaseRoles with
  | nil => exact careful_pure ()
  | cons leaseRole rest inductionHypothesis =>
    exact (repairRole_careful ownerRole leaseRole).bind fun _ => inductionHypothesis

/-- And that of several audiences, by induction on their list. -/
theorem repairAudiences_careful (ownerRole : String) (audiences seen : List String) :
    Careful (repairAudiences ownerRole audiences seen) := by
  induction audiences generalizing seen with
  | nil => exact careful_pure ()
  | cons audience rest inductionHypothesis =>
    rw [repairAudiences]
    split
    · exact inductionHypothesis seen
    · split
      · exact inductionHypothesis seen
      · apply (sql_careful _).bind
        intro leaseRoles
        apply (repairRoles_careful ownerRole leaseRoles).bind
        intro repaired
        exact inductionHypothesis _

/-- The whole repair goes on only after statements that succeeded. -/
theorem repairPostgresLeaseOwnership_careful (ownerRole : String) (audiences : List String) :
    Careful (repairPostgresLeaseOwnership ownerRole audiences) := by
  rw [repairPostgresLeaseOwnership]
  split
  · exact careful_pure ()
  · apply (careful_ask .connect _).bind
    intro connected
    apply (sql_careful _).bind
    intro ownerExists
    split
    · exact careful_failure _
    · exact repairAudiences_careful ownerRole audiences []

end Repairs

section Rules

/-- The repairs of a command so far were on the server of an address, and succeeded. -/
def Repaired (databaseUrl : String) (past : List (Exchange Reply)) : Prop :=
  ∀ target stmt (reply : Repair.Reply stmt),
    (⟨.repair target stmt, reply⟩ : Exchange Reply) ∈ past →
      target = databaseUrl ∧ ∃ result, reply = .ok result

/-- Only repairs so far. -/
def Unstarted (past : List (Exchange Reply)) : Prop :=
  ∀ exchange ∈ past, ∀ started, exchange.stmt ≠ .start started

/-- What a command may do: it repairs on the server of its address, before anything else, and
whatever it does follows repairs that succeeded. -/
def Invocation.rule (invocation : Invocation) (past : List (Exchange Reply)) (stmt : Stmt) : Prop :=
  ∃ databaseUrl, invocation.resolved = .ok databaseUrl ∧ Repaired databaseUrl past ∧
    ∀ target own, stmt = .repair target own → target = databaseUrl ∧ Unstarted past

/-- The configuration that a command connects with. -/
def Invocation.Loads (invocation : Invocation) (databaseUrl : String) (config : NativeConfig) :
    Prop :=
  invocation.resolved = .ok databaseUrl ∧
    loadNativeConfig invocation.debug
      (invocation.command.environment databaseUrl invocation.env) = .ok config

/-- The options with which it connects. -/
def Invocation.Opens (invocation : Invocation)
    (parse : String → Except String Rotation.PgConnectOptions) (databaseUrl : String)
    (config : NativeConfig) (options : Rotation.PgConnectOptions) : Prop :=
  staticOptions invocation.debug
    (invocation.command.environment databaseUrl invocation.env) invocation.lowercase parse databaseUrl
    ((invocation.process databaseUrl config).context .data) = .ok options

variable {databaseUrl : String}

/-- An exchange of a repair on the server of an address. -/
def ofRepair (databaseUrl : String) (exchange : Exchange Repair.Reply) : Exchange Reply :=
  ⟨.repair databaseUrl exchange.stmt, exchange.reply⟩

/-- An exchange of a starting process. -/
def ofStart (exchange : Exchange Startup.Reply) : Exchange Reply :=
  ⟨.start exchange.stmt, exchange.reply⟩

/-- The exchanges of a repair, made by a command, are repairs on the server of its address
that succeeded. -/
theorem repaired_ofRepair {own : List (Exchange Repair.Reply)} (smooth : Smooth own) :
    Repaired databaseUrl (own.map (ofRepair databaseUrl) ++ []) := by
  intro target stmt reply member
  rw [List.append_nil] at member
  obtain ⟨exchange, there, same⟩ := List.mem_map.mp member
  obtain ⟨result, replied⟩ := smooth exchange there
  obtain ⟨found, answer⟩ := exchange
  cases same
  exact ⟨rfl, result, replied⟩

/-- They are repairs only. -/
theorem unstarted_ofRepair (own : List (Exchange Repair.Reply)) :
    Unstarted (own.map (ofRepair databaseUrl) ++ []) := by
  intro exchange member started same
  rw [List.append_nil] at member
  obtain ⟨found, -, rfl⟩ := List.mem_map.mp member
  cases same

/-- What the start exchanges is no repair, so the books of the repair stay. -/
theorem Repaired.ofStart {past : List (Exchange Reply)} (repaired : Repaired databaseUrl past)
    (own : List (Exchange Startup.Reply)) : Repaired databaseUrl (own.map ofStart ++ past) := by
  intro target stmt reply member
  rcases List.mem_append.mp member with new | old
  · obtain ⟨found, -, same⟩ := List.mem_map.mp new
    cases same
  · exact repaired target stmt reply old

/-- The repair keeps the rule of the command, and succeeds only if nothing failed. -/
theorem repair_follows (invocation : Invocation) (resolved : invocation.resolved = .ok databaseUrl)
    (ownerRole context : String) (audiences : List String) :
    (((Repair.repairPostgresLeaseOwnership ownerRole audiences).embed (Stmt.repair databaseUrl)
      fun _ => id).recast id (CommandError.repair context)).Follows
        (fun past stmt => invocation.rule past stmt ∧ ∀ own, stmt ≠ .start own)
        (fun past result => ∀ found, result = .ok found → Repaired databaseUrl past) [] := by
  have careful := repairPostgresLeaseOwnership_careful ownerRole audiences [] (by
    intro exchange none
    cases none)
  have embedded : ((Repair.repairPostgresLeaseOwnership ownerRole audiences).embed
      (Stmt.repair databaseUrl) fun _ => id).Follows
        (fun past stmt => invocation.rule past stmt ∧ ∀ own, stmt ≠ Stmt.start own)
        (fun past result => ∀ found, result = .ok found → Repaired databaseUrl past)
        (([] : List (Exchange Repair.Reply)).map (ofRepair databaseUrl) ++ []) := by
    apply Follows.embed_map (ofRepair databaseUrl) (fun _ _ => rfl) careful
    · intro own stmt smooth
      refine ⟨⟨databaseUrl, resolved, repaired_ofRepair smooth, ?_⟩, ?_⟩
      · intro target repair same
        cases same
        exact ⟨rfl, unstarted_ofRepair own⟩
      · intro started same
        cases same
    · intro own result kept found same
      exact repaired_ofRepair (kept found same)
  apply embedded.recast
  · intro later result kept found same
    exact kept result rfl
  · intro later error kept found none
    cases none

/-- After repairs that succeeded, connecting keeps the rule of the command. -/
theorem start_follows (invocation : Invocation) (resolved : invocation.resolved = .ok databaseUrl)
    {past : List (Exchange Reply)} (repaired : Repaired databaseUrl past) {α β : Type}
    (done : α → β) (context : String) (starting : Startup.StartupProgram α) :
    ((starting.embed Stmt.start fun _ => id).recast done (CommandError.database context)).Follows
      invocation.rule (fun past _ => Repaired databaseUrl past) past := by
  have free : starting.Follows (fun _ _ => True) (fun _ _ => True) [] :=
    Follows.of_forall (fun _ _ => trivial) (fun _ _ => trivial) starting []
  have embedded : (starting.embed Stmt.start fun _ => id).Follows invocation.rule
      (fun past _ => Repaired databaseUrl past)
      (([] : List (Exchange Startup.Reply)).map ofStart ++ past) := by
    apply Follows.embed_map ofStart (fun _ _ => rfl) free
    · intro own stmt _
      refine ⟨databaseUrl, resolved, repaired.ofStart own, ?_⟩
      intro target repair same
      cases same
    · intro own result _
      exact repaired.ofStart own
  apply embedded.recast
  · intro later result kept
    exact kept
  · intro later error kept
    exact kept

variable (parse : String → Except String Rotation.PgConnectOptions)

/-- A command keeps its rule, and succeeds only with a configuration and with repairs in which
nothing failed. -/
theorem migratePostgres_follows (invocation : Invocation) (index : Nat) :
    (invocation.migratePostgres parse index).Follows invocation.rule
      (fun past result => ∀ found, result = .ok found → ∃ databaseUrl config,
        invocation.Loads databaseUrl config ∧ Repaired databaseUrl past) [] := by
  unfold Invocation.migratePostgres
  cases resolved : invocation.resolved with
  | error error =>
    intro found none
    cases none
  | ok databaseUrl =>
    rw [ofExcept_ok, value_bind]
    cases invocation.ownerRole databaseUrl with
    | error error =>
      intro found none
      cases none
    | ok ownerRole =>
      rw [ofExcept_ok, value_bind]
      apply Follows.bind fun past _ => Repaired databaseUrl past
      · apply Follows.weaken
        · apply (repair_follows invocation resolved ownerRole _ _).relax
          intro past stmt allowed
          exact allowed.1
        · intro later result kept
          cases result with
          | error error =>
            intro found none
            cases none
          | ok found => exact kept found rfl
      · intro later _ repaired
        cases loaded : loadNativeConfig invocation.debug
            (invocation.command.environment databaseUrl invocation.env) with
        | error error =>
          intro found none
          cases none
        | ok config =>
          apply Follows.weaken (start_follows invocation resolved repaired _ _ _)
          intro last result kept found same
          exact ⟨databaseUrl, config, ⟨resolved, loaded⟩, kept⟩

end Rules

end SecureDatabase.Migrate
