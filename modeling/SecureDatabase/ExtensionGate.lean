import SecureDatabase.ExtensionBooks

/-!
# The gate on extensions

A process that starts refuses a database with an extension that is not listed. What that is
worth depends on who else is at work. An extension that no build lists keeps every guarded
process out of its database, in whatever order they try. A process that came in found everything
listed at one moment, and from then on an unlisted extension was exposed by an operator, or by a
process that created it and did not list it yet. The same holds of every alarm: what a guarded
process complains about is never an extension of its own build.
-/

namespace SecureDatabase.Startup

open Foundation Program Rotation Native

variable {Db : Type} [DecidableEq Db]

/-- The processes and what they share. -/
abbrev Starting (Db : Type) := Run (Site Db) Stmt Reply DatabaseError PgPool

/-- The site before any process starts. -/
def Site.before (databases : Db → Database) (broker : Except String PostgresCredentialLease)
    (server : Except String Unit) : Site Db where
  pools := ⟨fun _ => 0, 0, [], broker, server, fun none => none.elim⟩
  endpoints _ := none
  databases := databases
  outage := none
  severed := none
  workers := []

/-- Every process is about to connect. -/
def launch (parse : String → Except String PgConnectOptions) (startups : Nat → Process)
    (site : Site Db) : Starting Db :=
  Run.start site fun index => (startups index).connectPostgres parse index

section Sound

variable {cluster : Cluster Db} {startups : Nat → Process}

/-- Every process keeps its rule. -/
abbrev Disciplined (startups : Nat → Process) (run : Starting Db) : Prop :=
  Run.Lawful (fun index => (startups index).rule index)
    (fun index => (startups index).promise index) run

/-- In every schedule each process has made only the statements that its rules allow, and
has checked what it claims when it succeeds. -/
theorem launch_disciplined (cluster : Cluster Db)
    (parse : String → Except String PgConnectOptions) (startups : Nat → Process) (site : Site Db)
    (moves : List (Move (Outside Db))) :
    Disciplined startups ((launch parse startups site).play (machine cluster) moves) :=
  Run.lawful_play (machine cluster) site _ (fun _ => connectPostgres_follows parse) moves

/-- The cells of the processes and of their two pools are all different. -/
theorem Process.cell_inj {index other : Nat} {kind otherKind : PoolKind}
    (same : Process.cell index kind = Process.cell other otherKind) :
    index = other ∧ kind = otherKind := by
  cases kind <;> cases otherKind <;> simp only [Process.cell] at same <;>
    first
      | exact ⟨by omega, rfl⟩
      | exact absurd same (by omega)

/-- All pools of a process were checked. -/
def Passed (startups : Nat → Process) (run : Starting Db) (index : Nat) : Prop :=
  ∀ kind, (startups index).Has kind →
    (startups index).Checked (exchanges index run.log) (Process.cell index kind)

/-- What is known stays true: a pool leads where it led, a cell holds what its process loaded from
it, and a worker that was spawned is one of a process whose pools were checked. -/
structure Sound (cluster : Cluster Db) (startups : Nat → Process) (run : Starting Db) : Prop where
  fresh : run.store.Fresh
  leads : ∀ event ∈ run.log, ∀ pool db, event.before.leads cluster pool = some db →
    run.store.leads cluster pool = some db
  loads : ∀ index kind pool, Loaded (exchanges index run.log) (Process.cell index kind) pool →
    run.store.pools.installed (Process.cell index kind) = pool ∧
      Made (exchanges index run.log) (Process.cell index kind)
  spawned : ∀ worker ∈ run.store.workers, ∃ index kind,
    worker.pool = Process.cell index kind ∧ (startups index).Has kind ∧ Passed startups run index

/-- A process changes no cell but those it makes. -/
theorem installed_exec {startup : Process} {index : Nat} {past : Past} {stmt : Stmt}
    (allowed : startup.rule index past stmt) (site : Site Db) {cell : Nat}
    (other : ∀ pool, stmt ≠ .newCell cell pool) :
    (exec cluster stmt site).2.pools.installed cell = site.pools.installed cell := by
  cases stmt with
  | acquire stmt =>
    cases stmt with
    | load loaded => rfl
    | issueCredentials params => rfl
    | connectWith options settings =>
      simp only [exec, Rotation.exec]
      cases site.pools.server <;> rfl
    | replace replaced pool => exact allowed.elim
    | beginClose pool => exact allowed.elim
    | execute pool query => exact query.elim
  | newCell made pool =>
    refine Function.update_of_ne ?_ ..
    rintro rfl
    exact other pool rfl
  | sql pool query => rw [(exec_endpoints_of_sql cluster pool query site).2]
  | spawn worker =>
    simp only [exec]
    split <;> rfl

omit [DecidableEq Db] in
/-- An exchange in the longer log is the event itself, made by this process, or was there
before. -/
theorem mem_exchanges_cons {event : Event (Site Db) Reply} {log : Log Db} {call : Nat}
    {exchange : Exchange Reply} (member : exchange ∈ exchanges call (event :: log)) :
    (event.call = call ∧ event.toExchange = exchange) ∨ exchange ∈ exchanges call log := by
  rw [exchanges_cons] at member
  split at member
  case isTrue own =>
    rcases List.mem_cons.mp member with new | old
    · exact .inl ⟨own, new.symm⟩
    · exact .inr old
  case isFalse => exact .inr member

omit [DecidableEq Db] in
/-- An exchange stays in the log. -/
theorem mem_exchanges_of_mem {event : Event (Site Db) Reply} {log : Log Db} {call : Nat}
    {exchange : Exchange Reply} (member : exchange ∈ exchanges call log) :
    exchange ∈ exchanges call (event :: log) := by
  rw [exchanges_cons]
  split
  · exact List.mem_cons_of_mem _ member
  · exact member

omit [DecidableEq Db] in
/-- A cell that was made stays made in the books. -/
theorem Made.cons {event : Event (Site Db) Reply} {log : Log Db} {call cell : Nat}
    (made : Made (exchanges call log) cell) : Made (exchanges call (event :: log)) cell := by
  obtain ⟨pool, member⟩ := made
  exact ⟨pool, mem_exchanges_of_mem member⟩

/-- The workers of a site after a statement are those before it and the one it spawns. -/
theorem mem_workers_exec {stmt : Stmt} {site : Site Db} {worker : BrokerLeaseWorker Nat}
    (member : worker ∈ (exec cluster stmt site).2.workers) :
    stmt = .spawn worker ∨ worker ∈ site.workers := by
  cases stmt with
  | acquire stmt => exact .inr member
  | newCell cell pool => exact .inr member
  | sql pool query =>
    obtain ⟨error, failed⟩ | ⟨db, -, answered⟩ := exec_sql_cases cluster pool query site
    · rw [failed] at member
      exact .inr member
    · rw [answered] at member
      exact .inr member
  | spawn spawned =>
    simp only [exec] at member
    split at member
    · rcases List.mem_cons.mp member with rfl | old
      · exact .inl rfl
      · exact .inr old
    · exact .inr member

/-- A move keeps what is known, because a process changes no cell but its own and pools
lead where they led. -/
theorem Sound.step {run : Starting Db} (sound : Sound cluster startups run)
    (disciplined : Disciplined startups run) (move : Move (Outside Db)) :
    Sound cluster startups (run.step (machine cluster) move) := by
  obtain same | ⟨act, -, moved⟩ | ⟨index, stmt, resume, -, current, moved⟩ :=
    Run.step_cases (machine cluster) run move
  · rw [same]
    exact sound
  · rw [moved]
    obtain ⟨endpoints, -, installed⟩ := drift_endpoints cluster act run.store
    refine ⟨sound.fresh.drift act, ?_, ?_, ?_⟩
    · intro event member pool db leads
      have known := sound.leads event member pool db leads
      rw [Site.leads] at known ⊢
      exact (congrArg (fun found => (found pool).map cluster.leadsTo) endpoints).trans known
    · intro other kind pool loaded
      obtain ⟨holds, made⟩ := sound.loads other kind pool loaded
      exact ⟨(congrFun installed _).trans holds, made⟩
    · intro worker member
      have before : worker ∈ run.store.workers := by
        cases act <;> exact member
      exact sound.spawned worker before
  · obtain ⟨allowed, -⟩ := disciplined.issuing current
    obtain ⟨fresh, leads⟩ := sound.fresh.exec cluster stmt
    rw [moved]
    refine ⟨fresh, ?_, ?_, ?_⟩
    · intro event member pool db before
      rcases List.mem_cons.mp member with rfl | old
      · exact leads pool db before
      · exact leads pool db (sound.leads event old pool db before)
    · intro other kind pool loaded
      rcases mem_exchanges_cons loaded with ⟨own, same⟩ | old
      · obtain rfl : index = other := own
        obtain rfl : stmt = .acquire (.load (Process.cell index kind)) :=
          congrArg Exchange.stmt same
        exact ⟨eq_of_heq (Exchange.mk.inj same).2, allowed.2.cons⟩
      · obtain ⟨holds, made⟩ := sound.loads other kind pool old
        refine ⟨(installed_exec allowed run.store ?_).trans holds, made.cons⟩
        rintro fresh rfl
        obtain ⟨⟨own, same⟩, unmade⟩ := allowed
        obtain ⟨rfl, rfl⟩ := Process.cell_inj same
        exact unmade made
    · intro worker member
      rcases mem_workers_exec member with rfl | old
      · obtain ⟨⟨kind, has, own⟩, checked⟩ := allowed
        exact ⟨index, kind, own, has, fun kind has =>
          (checked kind has).mono fun _ => mem_exchanges_of_mem⟩
      · obtain ⟨spawner, kind, own, has, passed⟩ := sound.spawned worker old
        exact ⟨spawner, kind, own, has, fun kind has =>
          (passed kind has).mono fun _ => mem_exchanges_of_mem⟩

/-- So it holds in every schedule from databases without pools. -/
theorem launch_sound (cluster : Cluster Db) (parse : String → Except String PgConnectOptions)
    (startups : Nat → Process) (databases : Db → Database)
    (broker : Except String PostgresCredentialLease) (server : Except String Unit)
    (moves : List (Move (Outside Db))) :
    Sound cluster startups ((launch parse startups (.before databases broker server)).play
      (machine cluster) moves) := by
  have first : Sound cluster startups (launch parse startups (.before databases broker server)) := by
    refine ⟨fun _ _ => rfl, fun _ none => absurd none List.not_mem_nil, ?_,
      fun _ none => absurd none List.not_mem_nil⟩
    intro index kind pool loaded
    cases loaded
  refine (Run.play_invariant (machine cluster)
    (fun run => Disciplined startups run ∧ Sound cluster startups run) ⟨?_, first⟩ ?_ moves).2
  · exact launch_disciplined cluster parse startups _ []
  · rintro run move ⟨disciplined, sound⟩
    exact ⟨disciplined.step (machine cluster) move, sound.step disciplined move⟩

end Sound

section Entry

variable {cluster : Cluster Db} {startups : Nat → Process}

/-- Every extension that a database has is listed. -/
def Database.AllListed (database : Database) : Prop :=
  ∀ name ∈ database.installed, database.Lists name

/-- The rows of the query are the extensions of a database that are not listed. -/
theorem unlisted_answer {pool : PoolId} {site : Site Db} {rows : List String}
    (answered : (exec cluster (.sql pool .unlisted) site).1 = .ok rows) :
    ∃ db names, site.leads cluster pool = some db ∧
      (site.databases db).extensionAllowlist = some names ∧
      rows = (site.databases db).installed.filter (· ∉ names) := by
  obtain ⟨error, failed⟩ | ⟨db, leads, replied⟩ := exec_sql_cases cluster pool .unlisted site
  · rw [failed] at answered
    cases answered
  · rw [replied] at answered
    cases known : (site.databases db).extensionAllowlist with
    | none =>
      simp only [Database.answer, known] at answered
      cases answered
    | some names =>
      simp only [Database.answer, known] at answered
      cases answered
      exact ⟨db, names, leads, known, rfl⟩

/-- The query for unlisted extensions is answered with exactly those that the database has
and does not list. -/
theorem mem_unlisted_answer {pool : PoolId} {site : Site Db} {rows : List String}
    (answered : (exec cluster (.sql pool .unlisted) site).1 = .ok rows) {db : Db}
    (leads : site.leads cluster pool = some db) (name : String) :
    name ∈ rows ↔ name ∈ (site.databases db).installed ∧ ¬ (site.databases db).Lists name := by
  obtain ⟨found, names, leading, known, rfl⟩ := unlisted_answer answered
  obtain rfl := Option.some.inj (leading.symm.trans leads)
  rw [List.mem_filter, decide_eq_true_iff]
  refine and_congr_right fun _ => not_congr ?_
  constructor
  · exact fun member => ⟨names, known, member⟩
  · rintro ⟨others, same, member⟩
    rw [known] at same
    cases same
    exact member

/-- The moment of a schedule at which a process asks a database through a pool for unlisted
extensions and there are none. -/
structure CheckedAt (cluster : Cluster Db) (run : Starting Db) (index : Nat) (pool : PoolId) (db : Db)
    (before : List (Move (Outside Db))) : Prop where
  asks : ∃ resume, (run.play (machine cluster) before).calls index =
    .issue (.sql pool .unlisted) resume
  leads : (run.play (machine cluster) before).store.leads cluster pool = some db
  schema : ((run.play (machine cluster) before).store.databases db).extensionAllowlist ≠ none
  listed : ((run.play (machine cluster) before).store.databases db).AllListed

/-- A process that found nothing unlisted through a pool did so at one moment of the schedule. -/
theorem exists_check {run : Starting Db} (launched : run.log = [])
    {moves : List (Move (Outside Db))} {index : Nat} {pool : PoolId}
    (checked : (⟨.sql pool .unlisted, .ok []⟩ : Exchange Reply) ∈
      exchanges index (run.play (machine cluster) moves).log) :
    ∃ before after db, moves = before ++ .call index :: after ∧
      CheckedAt cluster run index pool db before ∧
      ∃ event ∈ (run.play (machine cluster) moves).log,
        event.before = (run.play (machine cluster) before).store := by
  obtain ⟨⟨⟨stmt, reply⟩, index, store⟩, member, rfl, same⟩ := mem_exchanges.mp checked
  obtain ⟨before, after, resume, -, split, current, executed, -⟩ :=
    Run.exists_moment (machine cluster) run launched moves member
  cases same
  have replied : (exec cluster (.sql pool .unlisted)
      (run.play (machine cluster) before).store).1 = .ok [] :=
    (eq_of_heq (Exchange.mk.inj (congrArg Event.toExchange executed)).2).symm
  obtain ⟨db, names, leads, known, -⟩ := unlisted_answer replied
  refine ⟨before, after, db, split, ⟨⟨resume, current⟩, leads, by simp [known], ?_⟩, _, member,
    congrArg Event.before executed⟩
  intro name there
  by_contra unlisted
  have found := (mem_unlisted_answer replied leads name).mpr ⟨there, unlisted⟩
  cases found

end Entry

section Schema

variable {cluster : Cluster Db}

/-- A statement leaves a database alone, or is a query that the database answers. -/
theorem exec_database_cases (cluster : Cluster Db) (stmt : Stmt) (site : Site Db) (db : Db) :
    (exec cluster stmt site).2.databases db = site.databases db ∨
      ∃ pool query, stmt = .sql pool query ∧ (exec cluster stmt site).2.databases db =
        ((site.databases db).answer cluster site.severed query).2 := by
  cases stmt with
  | acquire stmt => exact .inl rfl
  | newCell cell pool => exact .inl rfl
  | spawn worker =>
    refine .inl ?_
    simp only [exec]
    split <;> rfl
  | sql pool query =>
    obtain ⟨error, failed⟩ | ⟨asked, -, answered⟩ := exec_sql_cases cluster pool query site
    · rw [failed]
      exact .inl rfl
    · rw [answered]
      by_cases same : db = asked
      · subst same
        refine .inr ⟨pool, query, rfl, ?_⟩
        dsimp only
        rw [Site.alter_databases_self]
      · refine .inl ?_
        dsimp only
        rw [site.alter_databases_of_ne same]

/-- The allowlist is not dropped. -/
theorem schema_exec {stmt : Stmt} {site : Site Db} {db : Db}
    (there : (site.databases db).extensionAllowlist ≠ none) :
    ((exec cluster stmt site).2.databases db).extensionAllowlist ≠ none := by
  obtain same | ⟨pool, query, -, answered⟩ := exec_database_cases cluster stmt site db
  · rwa [same]
  · rw [answered]
    obtain ⟨same, -⟩ | ⟨-, -, -, known⟩ | ⟨created, -, replied⟩ | ⟨listed, names, -, -, replied⟩ :=
      answer_cases cluster site.severed query (site.databases db)
    · rwa [same]
    · simp [known]
    · rwa [replied, create_extensionAllowlist]
    · simp [replied]

/-- No operator and no outage takes the allowlist table away. -/
theorem schema_drift {act : Outside Db} {site : Site Db} {db : Db}
    (there : (site.databases db).extensionAllowlist ≠ none) :
    ((drift cluster act site).databases db).extensionAllowlist ≠ none := by
  have altered (changed : Db) (change : Database → Database)
      (keeps : (change (site.databases db)).extensionAllowlist ≠ none) :
      ((site.alter changed change).databases db).extensionAllowlist ≠ none := by
    by_cases same : db = changed
    · subst same
      rwa [Site.alter_databases_self]
    · rwa [site.alter_databases_of_ne same]
  cases act with
  | broker reply => exact there
  | server reply => exact there
  | connectivity outage severed => exact there
  | install changed created =>
    apply altered
    rwa [create_extensionAllowlist]
  | uninstall changed removed =>
    rw [drift]
    apply altered
    exact there
  | list changed listed =>
    rw [drift]
    apply altered
    simpa using there
  | unlist changed removed =>
    rw [drift]
    apply altered
    simpa using there

/-- Once a database has its allowlist table it keeps it, whatever else is scheduled. -/
theorem schema_play (cluster : Cluster Db) {run : Starting Db} {db : Db}
    (there : (run.store.databases db).extensionAllowlist ≠ none) (moves : List (Move (Outside Db))) :
    ((run.play (machine cluster) moves).store.databases db).extensionAllowlist ≠ none := by
  refine Run.play_invariant (machine cluster)
    (fun run => (run.store.databases db).extensionAllowlist ≠ none) there ?_ moves
  intro current move there
  obtain same | ⟨act, -, moved⟩ | ⟨index, stmt, resume, -, -, moved⟩ :=
    Run.step_cases (machine cluster) current move
  · rwa [same]
  · rw [moved]
    exact schema_drift there
  · rw [moved]
    exact schema_exec there

/-- The extension is there and not listed. -/
def Database.Unlisted (database : Database) (name : String) : Prop :=
  name ∈ database.installed ∧ ¬ database.Lists name

/-- An operator lists an extension or removes it. -/
def Admits (db : Db) (name : String) : Move (Outside Db) → Prop
  | .drift (.list altered listed) => altered = db ∧ listed = name
  | .drift (.uninstall altered removed) => altered = db ∧ removed = name
  | _ => False

/-- Who does not list an extension leaves it unlisted. -/
theorem Database.Unlisted.exec {stmt : Stmt} {site : Site Db} {db : Db} {name : String}
    (unlisted : (site.databases db).Unlisted name) (unseeded : name ∉ seeds)
    (unasked : ∀ pool, stmt ≠ .sql pool (.allow name)) :
    ((Startup.exec cluster stmt site).2.databases db).Unlisted name := by
  obtain ⟨there, missing⟩ := unlisted
  obtain same | ⟨pool, query, rfl, answered⟩ := exec_database_cases cluster stmt site db
  · rw [same]
    exact ⟨there, missing⟩
  · rw [answered]
    obtain ⟨same, -⟩ | ⟨rfl, -, installed, known⟩ | ⟨created, rfl, replied⟩ |
        ⟨listed, names, rfl, known, replied⟩ :=
      answer_cases cluster site.severed query (site.databases db)
    · rw [same]
      exact ⟨there, missing⟩
    · refine ⟨by rw [installed]; exact subset_create there, ?_⟩
      rintro ⟨names, found, member⟩
      rw [known] at found
      cases found
      exact unseeded member
    · rw [replied]
      refine ⟨subset_create there, ?_⟩
      rintro ⟨names, found, member⟩
      rw [create_extensionAllowlist] at found
      exact missing ⟨names, found, member⟩
    · rw [replied]
      refine ⟨there, ?_⟩
      rintro ⟨others, found, member⟩
      cases found
      rcases List.mem_insert_iff.mp member with rfl | old
      · exact unasked pool rfl
      · exact missing ⟨names, known, old⟩

/-- What happens outside leaves an extension unlisted, unless an operator lists or removes
it. -/
theorem Database.Unlisted.drift {act : Outside Db} {site : Site Db} {db : Db} {name : String}
    (unlisted : (site.databases db).Unlisted name) (left : ¬ Admits db name (.drift act)) :
    ((Startup.drift cluster act site).databases db).Unlisted name := by
  obtain ⟨there, missing⟩ := unlisted
  have altered (changed : Db) (change : Database → Database)
      (keeps : changed = db → (change (site.databases db)).Unlisted name) :
      ((site.alter changed change).databases db).Unlisted name := by
    by_cases same : db = changed
    · subst same
      rw [Site.alter_databases_self]
      exact keeps rfl
    · rw [site.alter_databases_of_ne same]
      exact ⟨there, missing⟩
  cases act with
  | broker reply => exact ⟨there, missing⟩
  | server reply => exact ⟨there, missing⟩
  | connectivity outage severed => exact ⟨there, missing⟩
  | install changed created =>
    apply altered
    refine fun _ => ⟨subset_create there, ?_⟩
    rintro ⟨names, found, member⟩
    rw [create_extensionAllowlist] at found
    exact missing ⟨names, found, member⟩
  | uninstall changed removed =>
    rw [Startup.drift]
    apply altered
    refine fun same => ⟨List.mem_filter.mpr ⟨there, ?_⟩, missing⟩
    exact decide_eq_true fun equal => left ⟨same, equal.symm⟩
  | list changed listed =>
    rw [Startup.drift]
    apply altered
    refine fun same => ⟨there, ?_⟩
    rintro ⟨names, found, member⟩
    obtain ⟨names, known, rfl⟩ := Option.map_eq_some_iff.mp found
    rcases List.mem_insert_iff.mp member with rfl | old
    · exact left ⟨same, rfl⟩
    · exact missing ⟨names, known, old⟩
  | unlist changed removed =>
    rw [Startup.drift]
    apply altered
    refine fun _ => ⟨there, ?_⟩
    rintro ⟨names, found, member⟩
    obtain ⟨names, known, rfl⟩ := Option.map_eq_some_iff.mp found
    exact missing ⟨names, known, (List.mem_filter.mp member).1⟩

end Schema

section Results

variable {cluster : Cluster Db} {parse : String → Except String PgConnectOptions}
  {startups : Nat → Process} {databases : Db → Database}
  {broker : Except String PostgresCredentialLease} {server : Except String Unit}
  {moves : List (Move (Outside Db))} {index : Nat}

variable (cluster parse startups databases broker server moves) in
/-- The processes and the site after a schedule. -/
abbrev reached : Starting Db :=
  (launch parse startups (.before databases broker server)).play (machine cluster) moves

/-- A process that hands out its pools has checked all of them. -/
theorem passed_of_outcome {pools : PgPool}
    (entered : ((reached cluster parse startups databases broker server moves).calls index).outcome =
      some (.ok pools)) :
    Passed startups (reached cluster parse startups databases broker server moves) index ∧
      pools.data = Process.cell index .data ∧
      ∃ kind, (startups index).Has kind ∧ pools.secrets = Process.cell index kind := by
  have remaining := (launch_disciplined cluster parse startups (.before databases broker server)
    moves).remaining index
  rw [(outcome_eq_ok_iff _ _).mp entered] at remaining
  obtain ⟨data, secrets, checked⟩ := remaining
  exact ⟨checked, data, secrets⟩

/-- A guarded process that checked its pools found at one moment that everything was listed in the
database that a pool of it leads to. -/
theorem exists_entry (passed : Passed startups
      (reached cluster parse startups databases broker server moves) index)
    (guards : (startups index).Guards) {kind : PoolKind} (has : (startups index).Has kind) :
    ∃ before after pool db, moves = before ++ .call index :: after ∧
      CheckedAt cluster (launch parse startups (.before databases broker server)) index pool db
        before ∧
      (reached cluster parse startups databases broker server moves).store.pools.installed
        (Process.cell index kind) = pool ∧
      (reached cluster parse startups databases broker server moves).store.leads cluster pool =
        some db := by
  obtain ⟨pool, loaded, -, guarded⟩ := passed kind has
  have sound := launch_sound cluster parse startups databases broker server moves
  obtain ⟨before, after, db, split, checked, event, member, same⟩ := exists_check rfl (guarded guards)
  refine ⟨before, after, pool, db, split, checked, (sound.loads index kind pool loaded).1, ?_⟩
  refine sound.leads event member pool db ?_
  rw [same]
  exact checked.leads

/-- In every schedule of any number of processes and operators: a guarded process that has handed
out its pools found, at one moment, that every extension of a pool's database was listed. Whatever
is unlisted there now was exposed since then, by an operator, or by a process that created it and
did not list it.

Proof: the last check of a pool that was handed out is a moment at which everything installed
was listed. From there on books are kept of who creates what: whatever is there later is
listed, or it was exposed by the operators or is in these books. -/
theorem exposed_since_entry {pools : PgPool}
    (entered : ((reached cluster parse startups databases broker server moves).calls index).outcome =
      some (.ok pools))
    (guards : (startups index).Guards) {cell : Nat}
    (handed : cell = pools.data ∨ cell = pools.secrets) :
    ∃ before after pool db, moves = before ++ .call index :: after ∧
      CheckedAt cluster (launch parse startups (.before databases broker server)) index pool db
        before ∧
      (reached cluster parse startups databases broker server moves).store.pools.installed cell =
        pool ∧
      (reached cluster parse startups databases broker server moves).store.leads cluster pool =
        some db ∧
      ∀ name, (∀ move ∈ after, ¬ Exposes cluster.brings db name move) →
        name ∈ ((reached cluster parse startups databases broker server moves).store.databases
          db).installed →
        ((reached cluster parse startups databases broker server moves).store.databases
          db).Lists name ∨
        ∃ since other through,
          (reached cluster parse startups databases broker server moves).log = since ++
            (reached cluster parse startups databases broker server before).log ∧
          (reached cluster parse startups databases broker server moves).store.leads cluster
            through = some db ∧
          Exposed cluster.brings (exchanges other since) through name := by
  obtain ⟨passed, data, kind, has, secrets⟩ := passed_of_outcome entered
  obtain ⟨kind, has, rfl⟩ : ∃ kind, (startups index).Has kind ∧ cell = Process.cell index kind := by
    rcases handed with rfl | rfl
    · exact ⟨.data, (startups index).has_data, data⟩
    · exact ⟨kind, has, secrets⟩
  obtain ⟨before, after, pool, db, rfl, checked, installed, leads⟩ := exists_entry passed guards has
  refine ⟨before, after, pool, db, rfl, checked, installed, leads, ?_⟩
  intro name discreet there
  -- The books begin with the query, when everything is listed and nothing is recorded.
  have first : Accounted cluster db name
      (reached cluster parse startups databases broker server before).store [] := by
    refine ⟨fun present => .inl (checked.listed name present), ?_, ?_⟩
    · rintro _ _ ⟨rows, none⟩
      cases none
    · rintro _ _ ⟨rows, none⟩
      cases none
  have fresh := (launch_sound cluster parse startups databases broker server before).fresh
  have quiet : ∀ move ∈ Move.call index :: after, ¬ Exposes cluster.brings db name move := by
    intro move member
    rcases List.mem_cons.mp member with rfl | later
    · exact id
    · exact discreet move later
  obtain ⟨since, grown, accounted⟩ := accounted_play fresh first quiet
  rw [List.append_nil, ← Run.play_append] at accounted
  rw [← Run.play_append] at grown
  rcases accounted.installed there with listed | ⟨missing, -⟩ | ⟨other, through, leading, exposed⟩
  · exact .inl listed
  · have known := schema_play cluster checked.schema (Move.call index :: after)
    rw [← Run.play_append] at known
    exact absurd missing known
  · exact .inr ⟨since, other, through, grown, leading, exposed⟩

variable (cluster parse broker server) in
/-- An extension that no build lists stays unlisted. -/
theorem unlisted_reached {db : Db} {name : String} (there : (databases db).Unlisted name)
    (unseeded : name ∉ seeds) (unasked : ∀ index, name ∉ (startups index).features.lists .data)
    (left : ∀ move ∈ moves, ¬ Admits db name move) :
    ((reached cluster parse startups databases broker server moves).store.databases
      db).Unlisted name := by
  have launched : Disciplined startups (launch parse startups (.before databases broker server)) :=
    launch_disciplined cluster parse startups _ []
  refine (Run.play_invariant_of (fun run => Disciplined startups run ∧
    (run.store.databases db).Unlisted name) ⟨launched, there⟩ left ?_).2
  rintro current move unmoved ⟨disciplined, unlisted⟩
  refine ⟨disciplined.step (machine cluster) move, ?_⟩
  obtain same | ⟨act, rfl, moved⟩ | ⟨index, stmt, resume, -, issuing, moved⟩ :=
    Run.step_cases (machine cluster) current move
  · rw [same]
    exact unlisted
  · rw [moved]
    exact unlisted.drift unmoved
  · rw [moved]
    refine unlisted.exec unseeded ?_
    rintro pool rfl
    exact unasked index (disciplined.issuing issuing).1

/-- As long as a database has an extension that nobody lists, no guarded process that checked its
pools has one of this database. -/
theorem leads_ne_of_unlisted {db : Db} {name : String} (there : (databases db).Unlisted name)
    (unseeded : name ∉ seeds) (unasked : ∀ index, name ∉ (startups index).features.lists .data)
    (left : ∀ move ∈ moves, ¬ Admits db name move) (guards : (startups index).Guards)
    (passed : Passed startups (reached cluster parse startups databases broker server moves) index)
    {kind : PoolKind} (has : (startups index).Has kind) :
    (reached cluster parse startups databases broker server moves).store.leads cluster
      ((reached cluster parse startups databases broker server moves).store.pools.installed
        (Process.cell index kind)) ≠ some db := by
  intro leads
  obtain ⟨before, after, pool, found, rfl, checked, installed, leading⟩ :=
    exists_entry passed guards has
  rw [installed, leading] at leads
  obtain rfl := Option.some.inj leads
  have unlisted := unlisted_reached cluster parse broker server there unseeded unasked
    fun move member => left move (List.mem_append_left _ member)
  exact unlisted.2 (checked.listed name unlisted.1)

/-- In every schedule of any number of processes: as long as a database has an extension that is
not listed, that no build lists and that no operator lists or removes, no guarded process hands
out a pool of this database, and none rotates one.

Proof: every pool that is handed out or rotated has been checked, in the database that it
leads to. There the extension was not listed at that moment, since no process and no operator
has listed or removed it before; and a check with an unlisted extension fails. -/
theorem unlisted_extension_keeps_out {db : Db} {name : String}
    (there : (databases db).Unlisted name) (unseeded : name ∉ seeds)
    (unasked : ∀ index, name ∉ (startups index).features.lists .data)
    (left : ∀ move ∈ moves, ¬ Admits db name move) (guards : (startups index).Guards) :
    (∀ pools, ((reached cluster parse startups databases broker server moves).calls
        index).outcome = some (.ok pools) →
      ∀ cell, cell = pools.data ∨ cell = pools.secrets →
        (reached cluster parse startups databases broker server moves).store.leads cluster
          ((reached cluster parse startups databases broker server moves).store.pools.installed
            cell) ≠ some db) ∧
    ∀ worker ∈ (reached cluster parse startups databases broker server moves).store.workers,
      ∀ kind, worker.pool = Process.cell index kind →
        (reached cluster parse startups databases broker server moves).store.leads cluster
          ((reached cluster parse startups databases broker server moves).store.pools.installed
            worker.pool) ≠ some db := by
  have outside (passed : Passed startups
        (reached cluster parse startups databases broker server moves) index)
      {kind : PoolKind} (has : (startups index).Has kind) :=
    leads_ne_of_unlisted there unseeded unasked left guards passed has
  refine ⟨?_, ?_⟩
  · intro pools entered cell handed
    obtain ⟨passed, data, kind, has, secrets⟩ := passed_of_outcome entered
    rcases handed with rfl | rfl
    · rw [data]
      exact outside passed (startups index).has_data
    · rw [secrets]
      exact outside passed has
  · intro worker member kind own
    obtain ⟨spawner, spawned, same, has, passed⟩ :=
      (launch_sound cluster parse startups databases broker server moves).spawned worker member
    rw [own] at same ⊢
    obtain ⟨rfl, rfl⟩ := Process.cell_inj same
    exact outside passed has

/-- Whenever a process is told of an unlisted extension, in a schedule in which no operator exposed
it and from databases where it was listed if it was there, it is not one that its own build lists,
and some process has created it and did not list it yet.

Proof: books kept from the start of the run say of every extension that it is listed, seeded
by a migration that is still to come, or exposed by some process. The answer of the query
excludes the first two; and its own build's extensions a process has listed before it asks. -/
theorem alarm_is_foreign {db : Db} {name : String}
    (first : name ∈ (databases db).installed → (databases db).Lists name ∨
      ((databases db).extensionAllowlist = none ∧ name ∈ seeds))
    (discreet : ∀ move ∈ moves, ¬ Exposes cluster.brings db name move) {pool : PoolId}
    {resume : Reply (.sql pool .unlisted) → StartupProgram PgPool} {rows : List String}
    (asks : (reached cluster parse startups databases broker server moves).calls index =
      .issue (.sql pool .unlisted) resume)
    (leads : (reached cluster parse startups databases broker server moves).store.leads cluster
      pool = some db)
    (answered : (exec cluster (.sql pool .unlisted)
      (reached cluster parse startups databases broker server moves).store).1 = .ok rows)
    (alarm : name ∈ rows) :
    (∃ kind, (reached cluster parse startups databases broker server moves).store.pools.installed
        (Process.cell index kind) = pool ∧ name ∉ (startups index).features.lists kind) ∧
      ∃ other through,
        (reached cluster parse startups databases broker server moves).store.leads cluster
          through = some db ∧
        Exposed cluster.brings
          (exchanges other (reached cluster parse startups databases broker server moves).log)
          through name := by
  have start : Accounted cluster db name
      (launch parse startups (.before databases broker server)).store [] := by
    refine ⟨fun there => (first there).imp_right .inl, ?_, ?_⟩
    · rintro _ _ ⟨rows, none⟩
      cases none
    · rintro _ _ ⟨rows, none⟩
      cases none
  obtain ⟨since, grown, accounted⟩ := accounted_play (fun _ _ => rfl) start discreet
  rw [List.append_nil] at accounted
  obtain rfl : (reached cluster parse startups databases broker server moves).log = since :=
    grown.trans (List.append_nil since)
  obtain ⟨there, unlisted⟩ := (mem_unlisted_answer answered leads name).mp alarm
  obtain ⟨kind, loaded, lists⟩ := ((launch_disciplined cluster parse startups
    (.before databases broker server) moves).issuing asks).1
  have sound := launch_sound cluster parse startups databases broker server moves
  refine ⟨⟨kind, (sound.loads index kind pool loaded).1, ?_⟩, ?_⟩
  · intro own
    exact unlisted (accounted.listed index pool (lists name own) leads)
  · rcases accounted.installed there with listed | ⟨missing, -⟩ | exposed
    · exact absurd listed unlisted
    · obtain ⟨asked, names, leading, known, -⟩ := unlisted_answer answered
      obtain rfl := Option.some.inj (leading.symm.trans leads)
      rw [known] at missing
      cases missing
    · exact exposed

end Results

section Samples

/-- A database after the migration, with other extensions. -/
def seeded (others : List String) : Database := ⟨others ++ seeds, some seeds, true⟩

/-- Options lead to the database of their address. -/
def sampleCluster : Cluster String where
  leadsTo := PgConnectOptions.databaseUrl
  brings name := if name = "citus" then ["citus_columnar"] else []
  refusal _ := "refused"

/-- A process with leases and one pool, of a build with or without `pgaudit`. -/
def sampleStartup (pgaudit : Bool) : Process where
  features := ⟨pgaudit, false, false, false⟩
  debug := sampleDebug
  env := bareEnvironment
  lowercase := asciiOnly
  client _ := .ok ()
  config := ⟨.broker ⟨"orders", [], 900⟩, none, 20, 5, 10, 300, "secure-database"⟩

/-- The gate of the sample processes is closed: no variable opens it. -/
theorem sampleStartup_guards (pgaudit : Bool) : (sampleStartup pgaudit).Guards := by
  intro same
  cases same

/-- A lease for an address, without a user or a password of its own. -/
def leaseOf (databaseUrl : String) : PostgresCredentialLease := ⟨databaseUrl, none, none, some 0⟩

/-- One database has an extension that is not listed. -/
def crowdedDatabases (db : String) : Database :=
  if db = "postgres://crowded" then seeded ["dblink"] else seeded []

/-- A process is refused there. Then the broker leases another database, and a second process
comes in. -/
def crowdedMoves : List (Move (Outside String)) :=
  List.replicate 7 (.call 0) ++ .drift (.broker (.ok (leaseOf "postgres://tidy"))) ::
    List.replicate 8 (.call 1)

/-- The run of these moves. -/
def crowdedRun : Starting String :=
  reached sampleCluster parseSample (fun _ => sampleStartup false) crowdedDatabases
    (.ok (leaseOf "postgres://crowded")) (.ok ()) crowdedMoves

/-- The process that is led to the crowded database fails at its gate; the other one
starts, and its pool leads elsewhere. -/
theorem unlisted_extension_keeps_out_crowdedRun :
    (∃ error, (crowdedRun.calls 0).outcome = some (.error error)) ∧
      (crowdedRun.calls 1).outcome = some (.ok ⟨2, 2⟩) ∧
      crowdedRun.store.leads sampleCluster (crowdedRun.store.pools.installed 2) ≠
        some "postgres://crowded" := by
  have there : (crowdedDatabases "postgres://crowded").Unlisted "dblink" := by
    refine ⟨by decide, ?_⟩
    rintro ⟨names, found, member⟩
    cases found
    exact absurd member (by decide)
  have left : ∀ move ∈ crowdedMoves, ¬ Admits "postgres://crowded" "dblink" move := by
    intro move member admits
    simp only [crowdedMoves, List.mem_append, List.mem_replicate, List.mem_cons] at member
    obtain ⟨-, rfl⟩ | rfl | ⟨-, rfl⟩ := member
    · exact admits
    · exact admits
    · exact admits
  have entered : (crowdedRun.calls 1).outcome = some (.ok ⟨2, 2⟩) := rfl
  refine ⟨⟨_, rfl⟩, entered, ?_⟩
  exact (unlisted_extension_keeps_out there (by decide) (fun _ => by decide) left
    (sampleStartup_guards false)).1 _ entered 2 (.inl rfl)

/-- Every database is as the migration left it. -/
def tidyDatabases (_ : String) : Database := seeded []

/-- A process of a build with `pgaudit` beside others without it. -/
def auditingStartups : Nat → Process
  | 1 => sampleStartup true
  | _ => sampleStartup false

/-- The processes after a number of steps of the plain one, and then of the one that creates an
extension and has not listed it. -/
def auditedRun (steps : Nat) : Starting String :=
  reached sampleCluster parseSample auditingStartups tidyDatabases
    (.ok (leaseOf "postgres://tidy")) (.ok ()) (List.replicate steps (.call 0) ++
      List.replicate 7 (.call 1))

/-- No operator takes part in these schedules, so nothing is exposed by one. -/
theorem audited_discreet {steps : Nat} {db name : String} :
    ∀ move ∈ (List.replicate steps (.call 0) ++ List.replicate 7 (.call 1) :
      List (Move (Outside String))), ¬ Exposes sampleCluster.brings db name move := by
  intro move member exposes
  rcases List.mem_append.mp member with first | second
  · rw [(List.mem_replicate.mp first).2] at exposes
    exact exposes
  · rw [(List.mem_replicate.mp second).2] at exposes
    exact exposes

/-- The first process has started when the second creates an extension that the first does
not know: what is unlisted then was exposed by the second. -/
theorem exposed_since_entry_auditedRun :
    ((auditedRun 8).calls 0).outcome = some (.ok ⟨0, 0⟩) ∧
      ∃ (since : Log String) (other : Nat) (through : PoolId),
        (auditedRun 8).store.leads sampleCluster through = some "postgres://tidy" ∧
        Exposed sampleCluster.brings (exchanges other since) through "pgaudit" := by
  have entered : ((auditedRun 8).calls 0).outcome = some (.ok ⟨0, 0⟩) := rfl
  have unlisted : ¬ ((auditedRun 8).store.databases "postgres://tidy").Lists "pgaudit" := by
    rintro ⟨names, found, member⟩
    cases found
    exact absurd member (by decide)
  obtain ⟨before, after, pool, db, split, -, installed, leads, exposes⟩ :=
    exposed_since_entry entered (sampleStartup_guards false) (.inl rfl)
  have tidy : (auditedRun 8).store.leads sampleCluster
      ((auditedRun 8).store.pools.installed 0) = some "postgres://tidy" := rfl
  obtain rfl : "postgres://tidy" = db := by
    rw [← installed] at leads
    exact Option.some.inj (tidy.symm.trans leads)
  have discreet : ∀ move ∈ after,
      ¬ Exposes sampleCluster.brings "postgres://tidy" "pgaudit" move := by
    intro move member
    have scheduled := List.mem_append_right before (List.mem_cons_of_mem (.call 0) member)
    rw [← split] at scheduled
    exact audited_discreet move scheduled
  rcases exposes "pgaudit" discreet (by decide) with listed | ⟨since, other, through, -, exposed⟩
  · exact absurd listed unlisted
  · exact ⟨entered, since, other, through, exposed⟩

/-- Here the first process finds that extension itself, and it is not one of its own
build. -/
theorem alarm_is_foreign_auditedRun :
    (∃ kind, (auditedRun 6).store.pools.installed (Process.cell 0 kind) = 0 ∧
        "pgaudit" ∉ (auditingStartups 0).features.lists kind) ∧
      ∃ other through,
        (auditedRun 6).store.leads sampleCluster through = some "postgres://tidy" ∧
        Exposed sampleCluster.brings (exchanges other (auditedRun 6).log) through "pgaudit" := by
  have absent : "pgaudit" ∈ (tidyDatabases "postgres://tidy").installed →
      (tidyDatabases "postgres://tidy").Lists "pgaudit" ∨
        ((tidyDatabases "postgres://tidy").extensionAllowlist = none ∧ "pgaudit" ∈ seeds) := by
    intro there
    exact absurd there (by decide)
  have answered : (exec sampleCluster (.sql 0 .unlisted) (auditedRun 6).store).1 =
      .ok ["pgaudit"] := rfl
  exact alarm_is_foreign absent audited_discreet rfl rfl answered List.mem_cons_self

end Samples

end SecureDatabase.Startup
