import SecureDatabase.Startup

/-!
# What a process does while it starts

The rule of a process that connects, whatever is replied to it: it makes each of its cells once,
creates and lists only what its build asks for, looks for unlisted extensions after it listed its
own, and spawns workers and hands out pools after all its pools were checked.

The parts of the program keep the rule one after another. What each part ensures is a record of
its own exchanges, so what was ensured before stays.
-/

namespace SecureDatabase.Startup

open Foundation Program Rotation Native

section Rules

/-- The extensions that a build creates in a database. -/
def Features.extensions (features : Features) (kind : PoolKind) : List String :=
  (if features.pgaudit then ["pgaudit"] else []) ++
    (if features.pgStatStatements then ["pg_stat_statements"] else []) ++
    (if kind = .data && features.timescaledb then ["timescaledb"] else []) ++
    (if kind = .data && features.citus then ["citus"] else [])

/-- The extensions that a build lists in a database. -/
def Features.lists (features : Features) (kind : PoolKind) : List String :=
  "pgcrypto" :: features.extensions kind

/-- The process listed an extension through a pool. -/
def Listed (past : Past) (pool : PoolId) (name : String) : Prop :=
  ∃ rows, (⟨.sql pool (.allow name), .ok rows⟩ : Exchange Reply) ∈ past

/-- The process loaded a pool from a cell. -/
def Loaded (past : Past) (cell : Nat) (pool : PoolId) : Prop :=
  (⟨.acquire (.load cell), pool⟩ : Exchange Reply) ∈ past

/-- The process made a cell. -/
def Made (past : Past) (cell : Nat) : Prop :=
  ∃ pool, (⟨.newCell cell pool, ()⟩ : Exchange Reply) ∈ past

namespace Process

/-- The gate on extensions is closed: none passes that is not listed. -/
def Guards (startup : Process) : Prop :=
  envFlag startup.debug startup.env "SECURE_DB_ALLOW_UNLISTED_EXTENSIONS" ≠ .ok true

/-- The process migrates its databases. -/
def Migrates (startup : Process) : Prop :=
  envFlag startup.debug startup.env "SECURE_DB_SKIP_MIGRATIONS" ≠ .ok true

/-- The pool of a cell was loaded, its database migrated and its extensions found to be listed,
as far as the process does this. -/
def Checked (startup : Process) (past : Past) (cell : Nat) : Prop :=
  ∃ pool, Loaded past cell pool ∧
    (startup.Migrates → ∃ rows, (⟨.sql pool .migrate, .ok rows⟩ : Exchange Reply) ∈ past) ∧
    (startup.Guards → (⟨.sql pool .unlisted, .ok []⟩ : Exchange Reply) ∈ past)

/-- The pools that a process has. -/
def Has (startup : Process) (kind : PoolKind) : Prop :=
  kind = .secrets → startup.config.secretsAuth ≠ none

/-- Every process has a data pool. -/
theorem has_data (startup : Process) : startup.Has .data := by
  intro other
  cases other

/-- The rule of a process. It makes each of its cells once, loads only what it made, creates and
lists what its build asks for, looks for unlisted extensions through a pool after it listed its
own there, and spawns workers for its own pools after all of them were checked. -/
def rule (startup : Process) (index : Nat) (past : Past) : Stmt → Prop
  | .acquire (.load loaded) => (∃ kind, loaded = cell index kind) ∧ Made past loaded
  | .acquire (.issueCredentials _) => True
  | .acquire (.connectWith _ _) => True
  | .acquire _ => False
  | .newCell made _ => (∃ kind, made = cell index kind) ∧ ¬ Made past made
  | .sql _ (.createExtension name) => name ∈ startup.features.extensions .data
  | .sql _ (.allow name) => name ∈ startup.features.lists .data
  | .sql pool .unlisted => ∃ kind, Loaded past (cell index kind) pool ∧
      ∀ name ∈ startup.features.lists kind, Listed past pool name
  | .sql _ _ => True
  | .spawn worker => (∃ kind, startup.Has kind ∧ worker.pool = cell index kind) ∧
      ∀ kind, startup.Has kind → startup.Checked past (cell index kind)

/-- What a process returns: the cells of its pools, all of them checked. -/
def promise (startup : Process) (index : Nat) (past : Past) : DbResult PgPool → Prop
  | .ok pools => pools.data = cell index .data ∧
      (∃ kind, startup.Has kind ∧ pools.secrets = cell index kind) ∧
      ∀ kind, startup.Has kind → startup.Checked past (cell index kind)
  | .error _ => True

end Process

/-- A process went on, and made no cell but one. -/
def Grows (made : Nat) (past later : Past) : Prop :=
  ∃ added, later = added ++ past ∧ ∀ cell, Made added cell → cell = made

section Growth

variable {made : Nat} {past middle later : Past}

/-- A past has grown by nothing. -/
theorem Grows.rfl : Grows made past past := by
  refine ⟨[], by simp, ?_⟩
  rintro cell ⟨pool, member⟩
  cases member

/-- What has grown twice has grown: the later exchanges follow the earlier ones, and
neither part makes another cell. -/
theorem Grows.trans (first : Grows made past middle) (second : Grows made middle later) :
    Grows made past later := by
  obtain ⟨earlier, rfl, fromEarlier⟩ := first
  obtain ⟨newer, rfl, fromNewer⟩ := second
  refine ⟨newer ++ earlier, by simp, ?_⟩
  rintro cell ⟨pool, member⟩
  rcases List.mem_append.mp member with new | old
  · exact fromNewer cell ⟨pool, new⟩
  · exact fromEarlier cell ⟨pool, old⟩

/-- A step that makes no other cell. -/
theorem Grows.cons (grows : Grows made past later) {exchange : Exchange Reply}
    (makes : ∀ cell pool, exchange = ⟨.newCell cell pool, ()⟩ → cell = made) :
    Grows made past (exchange :: later) := by
  refine grows.trans ⟨[exchange], by simp, ?_⟩
  rintro cell ⟨pool, member⟩
  exact makes cell pool (List.mem_singleton.mp member).symm

/-- What was exchanged stays in the past. -/
theorem Grows.mem (grows : Grows made past later) {exchange : Exchange Reply}
    (member : exchange ∈ past) : exchange ∈ later := by
  obtain ⟨added, rfl, -⟩ := grows
  exact List.mem_append_right added member

/-- An extension that was listed stays listed in the books. -/
theorem Listed.grows {pool : PoolId} {name : String} (listed : Listed past pool name)
    (grows : Grows made past later) : Listed later pool name := by
  obtain ⟨rows, member⟩ := listed
  exact ⟨rows, grows.mem member⟩

/-- A pool that was checked stays checked, because a check is a matter of exchanges in the
past. -/
theorem Process.Checked.mono {startup : Process} {cell : Nat}
    (checked : startup.Checked past cell) (grown : ∀ exchange ∈ past, exchange ∈ later) :
    startup.Checked later cell := by
  obtain ⟨pool, loaded, migrated, guarded⟩ := checked
  refine ⟨pool, grown _ loaded, ?_, fun guards => grown _ (guarded guards)⟩
  intro migrates
  obtain ⟨rows, member⟩ := migrated migrates
  exact ⟨rows, grown _ member⟩

/-- In particular it stays checked as the process goes on. -/
theorem Process.Checked.grows {startup : Process} {cell : Nat}
    (checked : startup.Checked past cell) (grows : Grows made past later) :
    startup.Checked later cell :=
  checked.mono fun _ => grows.mem

/-- A process that goes on makes no cell but the one it is about to make. -/
theorem Grows.not_made (grows : Grows made past later) {cell : Nat} (other : cell ≠ made)
    (absent : ¬ Made past cell) : ¬ Made later cell := by
  obtain ⟨added, rfl, own⟩ := grows
  rintro ⟨pool, member⟩
  rcases List.mem_append.mp member with new | old
  · exact other (own cell ⟨pool, new⟩)
  · exact absent ⟨pool, old⟩

end Growth

/-- A part of a process follows the rule, makes no cell but one, and ensures something if it
succeeds. -/
def Ensures {α : Type} (startup : Process) (index made : Nat) (past : Past)
    (program : StartupProgram α) (ensured : Past → α → Prop) : Prop :=
  program.Follows (startup.rule index)
    (fun later result => Grows made past later ∧ ∀ value, result = .ok value → ensured later value)
    past

namespace Ensures

variable {α β : Type} {startup : Process} {index made : Nat} {past : Past}

/-- What issues nothing ensures what holds already. -/
theorem pure {value : α} {ensured : Past → α → Prop} (holds : ensured past value) :
    Ensures startup index made past (Pure.pure value : StartupProgram α) ensured := by
  refine ⟨Grows.rfl, ?_⟩
  rintro _ ⟨⟩
  exact holds

/-- Parts are put together by what holds between them: the first has to ensure it, and the
second may rely on it, in whatever way the past has grown. -/
theorem bind {first : StartupProgram α} {next : α → StartupProgram β}
    {between : Past → α → Prop} {ensured : Past → β → Prop}
    (start : Ensures startup index made past first between)
    (rest : ∀ later value, Grows made past later → between later value →
      Ensures startup index made later (next value) ensured) :
    Ensures startup index made past (first >>= next) ensured := by
  refine Follows.bind (fun later value => Grows made past later ∧ between later value) ?_ ?_
  · refine Follows.weaken start fun later result reached => ?_
    cases result with
    | ok value => exact ⟨reached.1, reached.2 value rfl⟩
    | error error =>
      refine ⟨reached.1, ?_⟩
      rintro _ ⟨⟩
  · rintro later value ⟨grows, holds⟩
    refine Follows.weaken (rest later value grows holds) fun last result reached => ?_
    exact ⟨grows.trans reached.1, reached.2⟩

/-- What is ensured may be weakened. -/
theorem weaken {program : StartupProgram α} {ensured weaker : Past → α → Prop}
    (ensures : Ensures startup index made past program ensured)
    (implies : ∀ later value, Grows made past later → ensured later value → weaker later value) :
    Ensures startup index made past program weaker :=
  Follows.weaken ensures fun later _ reached =>
    ⟨reached.1, fun value finished => implies later value reached.1 (reached.2 value finished)⟩

/-- A computed result is known, and nothing is sent. -/
theorem ofExcept (result : DbResult α) :
    Ensures startup index made past (Program.ofExcept result)
      fun later value => later = past ∧ result = .ok value := by
  cases result with
  | ok value => exact ⟨Grows.rfl, fun _ same => ⟨rfl, same⟩⟩
  | error error => exact ⟨Grows.rfl, fun _ same => ⟨rfl, same⟩⟩

/-- A statement that is allowed is recorded with its reply. -/
theorem ask {stmt : Stmt} (allowed : startup.rule index past stmt)
    (makes : ∀ cell pool, stmt = .newCell cell pool → cell = made) :
    Ensures startup index made past (Program.ask stmt)
      fun later reply => later = ⟨stmt, reply⟩ :: past := by
  refine ⟨allowed, fun reply => ⟨Grows.rfl.cons ?_, ?_⟩⟩
  · intro cell pool same
    exact makes cell pool (congrArg Exchange.stmt same)
  · rintro _ ⟨⟩
    rfl

end Ensures

end Rules

section Discipline

variable {startup : Process} {index made : Nat} {past : Past}

/-- A query is recorded with its rows when it succeeds. -/
theorem send_ensures {failed : String → DatabaseError} {pool : PoolId} {sql : Query}
    (allowed : startup.rule index past (.sql pool sql)) :
    Ensures startup index made past (send failed pool sql)
      fun later rows => (⟨.sql pool sql, .ok rows⟩ : Exchange Reply) ∈ later := by
  refine Ensures.bind (Ensures.ask allowed fun cell other same => by cases same) ?_
  rintro later reply - rfl
  refine (Ensures.ofExcept _).weaken ?_
  rintro _ rows - ⟨rfl, replied⟩
  rw [(mapError_eq_ok_iff _ _ _).mp replied]
  exact List.mem_cons_self

/-- Where the process migrates, its migration has been answered. -/
theorem runMigrations_ensures (pool : PoolId) :
    Ensures startup index made past (runMigrations startup.debug startup.env pool)
      fun later _ => startup.Migrates →
        ∃ rows, (⟨.sql pool .migrate, .ok rows⟩ : Exchange Reply) ∈ later := by
  refine Ensures.bind (Ensures.ofExcept _) ?_
  rintro later skipped - ⟨-, found⟩
  cases skipped with
  | true => exact Ensures.pure fun migrates => absurd found migrates
  | false =>
    refine Ensures.bind (send_ensures trivial) fun last rows _ member => ?_
    exact Ensures.pure fun _ => ⟨rows, member⟩

/-- The extension is listed afterwards, and it is one of the build. -/
theorem upsertExtensionAllowlist_ensures (pool : PoolId) {name : String}
    (lists : name ∈ startup.features.lists .data) :
    Ensures startup index made past (upsertExtensionAllowlist pool name)
      fun later _ => Listed later pool name := by
  refine Ensures.bind (send_ensures lists) ?_
  intro later rows _ member
  exact Ensures.pure ⟨rows, member⟩

/-- What a feature brings is listed at its end. -/
theorem bring_ensures {enabled : Bool} {pool : PoolId} {name : String}
    {ensure : StartupProgram Unit}
    (lists : enabled = true → name ∈ startup.features.extensions .data)
    (ensures : enabled = true →
      Ensures startup index made past ensure fun _ _ => True) :
    Ensures startup index made past (bring enabled pool name ensure)
      fun later _ => enabled = true → Listed later pool name := by
  cases enabled with
  | false => exact Ensures.pure fun on => by cases on
  | true =>
    refine Ensures.bind (ensures rfl) ?_
    intro later _ _ _
    exact (upsertExtensionAllowlist_ensures pool
      (List.mem_cons_of_mem _ (lists rfl))).weaken fun _ _ _ listed _ => listed

/-- An extension that the build asks for may be created; nothing is promised about it. -/
theorem createExtension_ensures {pool : PoolId} {name : String}
    (asked : name ∈ startup.features.extensions .data) :
    Ensures startup index made past (do
      let _ ← query pool (.createExtension name)) fun _ _ => True := by
  refine Ensures.bind (send_ensures asked) ?_
  intro later rows _ _
  exact Ensures.pure trivial

/-- The statements for the one extension are those of a build that asks for it. -/
theorem ensureTimescaledb_ensures {pool : PoolId}
    (asked : "timescaledb" ∈ startup.features.extensions .data) :
    Ensures startup index made past (ensureTimescaledb pool) fun _ _ => True := by
  refine Ensures.bind (send_ensures asked) fun later rows _ _ => ?_
  refine Ensures.bind (send_ensures trivial) fun last rows _ _ => ?_
  exact Ensures.pure trivial

/-- The same for the other. -/
theorem ensureCitus_ensures {pool : PoolId}
    (asked : "citus" ∈ startup.features.extensions .data) :
    Ensures startup index made past (ensureCitus pool) fun _ _ => True := by
  refine Ensures.bind (send_ensures asked) fun later rows _ _ => ?_
  refine Ensures.bind (send_ensures trivial) fun middle rows _ _ => ?_
  refine Ensures.bind (send_ensures trivial) fun last rows _ _ => ?_
  exact Ensures.pure trivial

/-- Where the gate is closed the query for unlisted extensions has been answered with
none, and everything the build lists was listed before. -/
theorem enforceExtensionAllowlist_ensures {pool : PoolId} {kind : PoolKind}
    (loaded : Loaded past (Process.cell index kind) pool)
    (listed : ∀ name ∈ startup.features.lists kind, Listed past pool name) :
    Ensures startup index made past (enforceExtensionAllowlist startup.debug startup.env pool)
      fun later _ => startup.Guards →
        (⟨.sql pool .unlisted, .ok []⟩ : Exchange Reply) ∈ later := by
  refine Ensures.bind (Ensures.ofExcept _) ?_
  rintro _ allowed - ⟨rfl, found⟩
  cases allowed with
  | true => exact Ensures.pure fun guards => absurd found guards
  | false =>
    refine Ensures.bind (send_ensures ⟨kind, loaded, listed⟩) fun later rows _ member => ?_
    refine (Ensures.ofExcept _).weaken ?_
    rintro _ _ - ⟨rfl, passed⟩ _
    have none : rows = [] := List.isEmpty_iff.mp ((require_eq_ok_iff _ _).mp passed)
    rwa [none] at member

/-- Making a pool ready ensures what its gate does, for the listings come first. -/
theorem ensurePostgresExtensions_ensures {pool : PoolId} {kind : PoolKind}
    (loaded : Loaded past (Process.cell index kind) pool) :
    Ensures startup index made past
      (ensurePostgresExtensions startup.features startup.debug startup.env pool kind)
      fun later _ => startup.Guards →
        (⟨.sql pool .unlisted, .ok []⟩ : Exchange Reply) ∈ later := by
  refine Ensures.bind (upsertExtensionAllowlist_ensures pool List.mem_cons_self)
    fun first _ grows₁ pgcrypto => ?_
  refine Ensures.bind (bring_ensures
    (fun on => by simp [Features.extensions, on])
    (fun on => createExtension_ensures (by simp [Features.extensions, on])))
    fun second _ grows₂ pgaudit => ?_
  refine Ensures.bind (bring_ensures
    (fun on => by simp [Features.extensions, on])
    (fun on => createExtension_ensures (by simp [Features.extensions, on])))
    fun third _ grows₃ statements => ?_
  refine Ensures.bind (bring_ensures
    (fun on => by simp [Features.extensions, ((Bool.and_eq_true _ _).mp on).2])
    (fun on => ensureTimescaledb_ensures
      (by simp [Features.extensions, ((Bool.and_eq_true _ _).mp on).2])))
    fun fourth _ grows₄ timescaledb => ?_
  refine Ensures.bind (bring_ensures
    (fun on => by simp [Features.extensions, ((Bool.and_eq_true _ _).mp on).2])
    (fun on => ensureCitus_ensures
      (by simp [Features.extensions, ((Bool.and_eq_true _ _).mp on).2])))
    fun fifth _ grows₅ citus => ?_
  have since₄ := grows₄.trans grows₅
  have since₃ := grows₃.trans since₄
  have since₂ := grows₂.trans since₃
  refine enforceExtensionAllowlist_ensures ((grows₁.trans since₂).mem loaded) ?_
  intro name member
  simp only [Features.lists, Features.extensions, List.mem_cons, List.mem_append,
    List.mem_ite_nil_right, List.not_mem_nil, or_false] at member
  rcases member with rfl | ((⟨on, rfl⟩ | ⟨on, rfl⟩) | ⟨on, rfl⟩) | ⟨on, rfl⟩
  · exact pgcrypto.grows since₂
  · exact (pgaudit on).grows since₃
  · exact (statements on).grows since₄
  · exact (timescaledb on).grows grows₅
  · exact citus on

/-- What creating a pool may do: ask the broker for credentials and open connections. -/
def Opens (stmt : PoolStmt Nat Empty) : Prop :=
  (∃ params, stmt = .issueCredentials params) ∨
    ∃ options settings, stmt = .connectWith options settings

variable (parse : String → Except String PgConnectOptions) (kind : PoolKind)
  (auth : NativeAuthConfig)

/-- A fallible step in between keeps what is promised of every error. -/
theorem ofExcept_bind_promises {α β : Type} {promised : DbResult β → Prop}
    {past : Rotation.Past Nat Empty Empty} {first : DbResult α}
    {next : α → PoolProgram Nat Empty Empty β} (fails : ∀ error, promised (.error error))
    (rest : ∀ found, (next found).Follows (fun _ => Opens) (fun _ => promised) past) :
    (Program.ofExcept first >>= next).Follows (fun _ => Opens) (fun _ => promised) past := by
  cases first with
  | error error => exact fails error
  | ok found => exact rest found

/-- Creating a pool does nothing else, and the worker is one of the cell. -/
theorem createPool_follows (cell : Nat) :
    (startup.createPool parse kind auth cell).Follows (fun _ => Opens)
      (fun _ result => ∀ found, result.map Prod.snd = .ok (some found) → found.pool = cell) [] := by
  have fails (error : DatabaseError) (found : BrokerLeaseWorker Nat)
      (same : (.error error : DbResult (PoolId × Option (BrokerLeaseWorker Nat))).map Prod.snd =
        .ok (some found)) : found.pool = cell := by
    cases same
  cases auth with
  | staticUrl databaseUrl =>
    refine Follows.bind (fun _ _ => True) ?_ ?_
    · apply ofExcept_bind_promises
      · exact fails
      · intro options
        refine ⟨.inr ⟨_, _, rfl⟩, fun connected => ?_⟩
        cases connected with
        | error error => exact fails _
        | ok pool => trivial
    · rintro later pool - found ⟨⟩
  | broker broker =>
    refine Follows.bind (fun _ made => made.2.pool = cell) ?_ ?_
    · apply ofExcept_bind_promises
      · exact fails
      · intro _
        refine ⟨.inl ⟨_, rfl⟩, fun leased => ?_⟩
        apply ofExcept_bind_promises
        · exact fails
        · intro lease
          apply ofExcept_bind_promises
          · exact fails
          · intro options
            refine ⟨.inr ⟨_, _, rfl⟩, fun connected => ?_⟩
            cases connected with
            | error error => exact fails _
            | ok pool => rfl
    · rintro later ⟨pool, worker⟩ own found ⟨⟩
      exact own

/-- Creating a pool makes no cell. -/
theorem grows_of_adds {past later : Past} (adds : Adds Stmt.acquire Opens past later) (made : Nat) :
    Grows made past later := by
  obtain ⟨added, rfl, acquired⟩ := adds
  refine ⟨added, rfl, ?_⟩
  rintro cell ⟨pool, member⟩
  obtain ⟨stmt, reply, -, same⟩ := acquired _ member
  cases congrArg Exchange.stmt same

/-- A pool that was opened has been checked, and its worker renews that pool. -/
theorem openPool_ensures (absent : ¬ Made past (Process.cell index kind)) :
    Ensures startup index (Process.cell index kind) past
      (startup.openPool parse kind auth (Process.cell index kind))
      fun later worker => startup.Checked later (Process.cell index kind) ∧
        ∀ found, worker = some found → found.pool = Process.cell index kind := by
  have created : Ensures startup index (Process.cell index kind) past
      ((startup.createPool parse kind auth (Process.cell index kind)).embed Stmt.acquire
        fun _ => id)
      fun later result => ¬ Made later (Process.cell index kind) ∧
        ∀ found, result.2 = some found → found.pool = Process.cell index kind := by
    refine Follows.embed Stmt.acquire (fun _ => id) (createPool_follows parse kind auth _)
      ⟨[], rfl, fun _ none => absurd none List.not_mem_nil⟩ ?_ ?_
    · rintro later stmt - (⟨params, rfl⟩ | ⟨options, settings, rfl⟩)
      · trivial
      · trivial
    · intro later result adds promised
      refine ⟨grows_of_adds adds _, ?_⟩
      rintro value rfl
      refine ⟨(grows_of_adds adds (Process.cell index kind + 1)).not_made (by omega) absent, ?_⟩
      intro found same
      exact promised found (congrArg Except.ok same)
  refine Ensures.bind created ?_
  rintro first ⟨opened, worker⟩ - ⟨unmade, own⟩
  refine Ensures.bind (Ensures.ask ⟨⟨kind, rfl⟩, unmade⟩ fun cell pool same => by cases same; rfl) ?_
  rintro _ _ - rfl
  refine Ensures.bind (Ensures.ask ⟨⟨kind, rfl⟩, opened, List.mem_cons_self⟩
    fun cell pool same => by cases same) ?_
  rintro _ pool - rfl
  refine Ensures.bind (runMigrations_ensures pool) fun second _ grows migrated => ?_
  have loaded : Loaded second (Process.cell index kind) pool := grows.mem List.mem_cons_self
  refine Ensures.bind (ensurePostgresExtensions_ensures loaded) fun third _ grows' guarded => ?_
  refine Ensures.pure ⟨⟨pool, grows'.mem loaded, ?_, guarded⟩, own⟩
  intro migrates
  obtain ⟨rows, member⟩ := migrated migrates
  exact ⟨rows, grows'.mem member⟩

/-- A worker of a pool may be spawned after all pools were checked. -/
theorem spawn_ensures {worker : Option (BrokerLeaseWorker Nat)} (has : startup.Has kind)
    (own : ∀ found, worker = some found → found.pool = Process.cell index kind)
    (checked : ∀ kind, startup.Has kind → startup.Checked past (Process.cell index kind)) :
    Ensures startup index made past (Process.spawn worker) fun _ _ => True := by
  cases worker with
  | none => exact Ensures.pure trivial
  | some worker =>
    have allowed : startup.rule index past (.spawn worker) :=
      ⟨⟨kind, has, own worker rfl⟩, checked⟩
    exact (Ensures.ask allowed fun cell pool same => by cases same).weaken fun _ _ _ _ => trivial

/-- The end of a startup: the workers are spawned and the pools handed out. -/
theorem handOut_follows {dataWorker secretsWorker : Option (BrokerLeaseWorker Nat)}
    (has : startup.Has kind)
    (ownData : ∀ found, dataWorker = some found → found.pool = Process.cell index .data)
    (ownSecrets : ∀ found, secretsWorker = some found → found.pool = Process.cell index kind)
    (checked : ∀ kind, startup.Has kind → startup.Checked past (Process.cell index kind)) :
    (do
      Process.spawn dataWorker
      Process.spawn secretsWorker
      return (⟨Process.cell index .data, Process.cell index kind⟩ : PgPool)).Follows
      (startup.rule index) (startup.promise index) past := by
  have handed : Ensures startup index 0 past (do
      Process.spawn dataWorker
      Process.spawn secretsWorker
      return (⟨Process.cell index .data, Process.cell index kind⟩ : PgPool))
      fun _ pools => pools = ⟨Process.cell index .data, Process.cell index kind⟩ := by
    refine Ensures.bind (spawn_ensures .data startup.has_data ownData checked) fun first _ grows _ => ?_
    refine Ensures.bind (spawn_ensures kind has ownSecrets fun kind has =>
      (checked kind has).grows grows) fun second _ _ _ => ?_
    exact Ensures.pure rfl
  refine Follows.weaken handed fun later result reached => ?_
  cases result with
  | error error => trivial
  | ok pools =>
    obtain rfl := reached.2 pools rfl
    exact ⟨rfl, ⟨kind, has, rfl⟩, fun kind has => (checked kind has).grows reached.1⟩

/-- A start makes only the statements of its rule, and with success promises that the
pools of both cells were checked. -/
theorem connectPostgres_follows :
    (startup.connectPostgres parse index).Follows (startup.rule index) (startup.promise index)
      [] := by
  have unmade (kind : PoolKind) : ¬ Made [] (Process.cell index kind) := by
    rintro ⟨pool, member⟩
    cases member
  refine Follows.bind (fun later worker => Grows (Process.cell index .data) [] later ∧
    startup.Checked later (Process.cell index .data) ∧
      ∀ found, worker = some found → found.pool = Process.cell index .data) ?_ ?_
  · refine Follows.weaken (openPool_ensures parse .data _ (unmade .data)) ?_
    intro later result reached
    cases result with
    | error error => trivial
    | ok worker => exact ⟨reached.1, reached.2 worker rfl⟩
  · rintro later dataWorker ⟨grows, checkedData, ownData⟩
    cases found : startup.config.secretsAuth with
    | none =>
      refine handOut_follows .data startup.has_data ownData
        (fun _ none => by cases none) ?_
      intro kind has
      cases kind with
      | data => exact checkedData
      | secrets => exact absurd found (has rfl)
    | some auth =>
      have fresh : ¬ Made later (Process.cell index .secrets) :=
        grows.not_made (by simp [Process.cell]) (unmade .secrets)
      refine Follows.bind (fun last worker =>
        (∀ kind, startup.Checked last (Process.cell index kind)) ∧
          ∀ found, worker = some found → found.pool = Process.cell index .secrets) ?_ ?_
      · refine Follows.weaken (openPool_ensures parse .secrets auth fresh) ?_
        intro last result reached
        cases result with
        | error error => trivial
        | ok worker =>
          obtain ⟨checked, own⟩ := reached.2 worker rfl
          refine ⟨fun kind => ?_, own⟩
          cases kind with
          | data => exact checkedData.grows reached.1
          | secrets => exact checked
      · rintro last secretsWorker ⟨checked, ownSecrets⟩
        refine handOut_follows .secrets ?_ ownData ownSecrets fun kind _ => checked kind
        rw [Process.Has, found]
        simp

end Discipline

end SecureDatabase.Startup
