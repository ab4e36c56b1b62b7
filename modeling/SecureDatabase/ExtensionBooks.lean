import SecureDatabase.StartupRules

/-!
# Who exposes an extension

What the queries of a starting process do to a database, and the books that follow from it. They
are kept for one extension of one database, over the events since some moment: if the extension is
installed, it is listed, or the migration will list it, or a process has created it and did not
list it yet. Nobody else is to blame, as long as no operator installs the extension or takes it
off the list.
-/

namespace SecureDatabase.Startup

open Foundation Program Rotation Native

variable {Db : Type} [DecidableEq Db] {cluster : Cluster Db}

section Queries

/-- A change of one database shows there. -/
@[simp] theorem Site.alter_databases_self (site : Site Db) (db : Db) (change : Database → Database) :
    (site.alter db change).databases db = change (site.databases db) :=
  Function.update_self ..

/-- A change of one database leaves the others. -/
theorem Site.alter_databases_of_ne (site : Site Db) {db other : Db} (differs : other ≠ db)
    (change : Database → Database) :
    (site.alter db change).databases other = site.databases other :=
  Function.update_of_ne differs ..

omit [DecidableEq Db] in
/-- What a query can do to a database. -/
theorem answer_cases (cluster : Cluster Db) (severed : Option String) (query : Query)
    (database : Database) :
    ((database.answer cluster severed query).2 = database ∧
      ∀ name rows, query = .allow name → (database.answer cluster severed query).1 ≠ .ok rows) ∨
    (query = .migrate ∧ database.extensionAllowlist = none ∧
      (database.answer cluster severed query).2.installed =
        (database.create cluster.brings "pgcrypto").installed ∧
      (database.answer cluster severed query).2.extensionAllowlist = some seeds) ∨
    (∃ name, query = .createExtension name ∧
      database.answer cluster severed query = (.ok [], database.create cluster.brings name)) ∨
    ∃ name names, query = .allow name ∧ database.extensionAllowlist = some names ∧
      database.answer cluster severed query =
        (.ok [], { database with extensionAllowlist := some (names.insert name) }) := by
  cases query with
  | migrate =>
    unfold Database.answer
    by_cases recorded : database.recorded = true
    · refine .inl ⟨by simp only [recorded, if_true], ?_⟩
      rintro _ _ ⟨⟩
    · cases known : database.extensionAllowlist with
      | some names =>
        refine .inl ⟨by simp only [recorded, if_false, Bool.false_eq_true], ?_⟩
        rintro _ _ ⟨⟩
      | none =>
        refine .inr (.inl ⟨rfl, rfl, ?_⟩)
        cases severed with
        | none => simp [recorded, Database.migrated]
        | some error => simp [recorded, Database.migrated]
  | createExtension name => exact .inr (.inr (.inl ⟨name, rfl, rfl⟩))
  | allow name =>
    unfold Database.answer
    cases known : database.extensionAllowlist with
    | none =>
      refine .inl ⟨rfl, ?_⟩
      rintro _ _ _ ⟨⟩
    | some names => exact .inr (.inr (.inr ⟨name, names, rfl, rfl, rfl⟩))
  | unlisted =>
    refine .inl ⟨?_, ?_⟩
    · unfold Database.answer
      cases database.extensionAllowlist <;> rfl
    · rintro _ _ ⟨⟩
  | createHypertable relation column =>
    refine .inl ⟨?_, ?_⟩
    · simp only [Database.answer]
      split <;> rfl
    · rintro _ _ ⟨⟩
  | createDistributedTable relation column =>
    refine .inl ⟨?_, ?_⟩
    · simp only [Database.answer]
      split <;> rfl
    · rintro _ _ ⟨⟩

/-- Creating an extension installs it and what it brings along, and nothing else. -/
theorem mem_create {brings : String → List String} {created name : String} {database : Database} :
    name ∈ (database.create brings created).installed →
      name ∈ database.installed ∨ name ∈ created :: brings created := by
  unfold Database.create
  split
  · exact .inl
  · intro member
    exact (List.mem_union_iff.mp member).symm

/-- Nothing is removed by creating an extension. -/
theorem subset_create {brings : String → List String} {created name : String}
    {database : Database} (there : name ∈ database.installed) :
    name ∈ (database.create brings created).installed := by
  unfold Database.create
  split
  · exact there
  · exact List.mem_union_iff.mpr (.inr there)

/-- Creating an extension lists nothing: that is a statement of its own. -/
@[simp] theorem create_extensionAllowlist (brings : String → List String) (created : String)
    (database : Database) :
    (database.create brings created).extensionAllowlist = database.extensionAllowlist := by
  unfold Database.create
  split <;> rfl

/-- A query on a pool fails and changes nothing, or is answered by the database that the pool
leads to. -/
theorem exec_sql_cases (cluster : Cluster Db) (pool : PoolId) (query : Query) (site : Site Db) :
    (∃ error, exec cluster (.sql pool query) site = (.error error, site)) ∨
      ∃ db, site.leads cluster pool = some db ∧
        exec cluster (.sql pool query) site =
          (((site.databases db).answer cluster site.severed query).1,
            site.alter db fun _ => ((site.databases db).answer cluster site.severed query).2) := by
  cases down : site.outage with
  | some error => exact .inl ⟨error, by rw [exec, down]⟩
  | none =>
    cases leads : site.leads cluster pool with
    | none => exact .inl ⟨_, by rw [exec, down, leads]⟩
    | some db =>
      refine .inr ⟨db, rfl, ?_⟩
      rw [exec, down, leads]
      rfl

end Queries

section Pools

/-- No pool is known beyond those that were opened. -/
def Site.Fresh (site : Site Db) : Prop :=
  ∀ pool, site.pools.opened ≤ pool → site.endpoints pool = none

/-- What a statement on the pools does: it opens a pool, or nothing that is known of them
changes. -/
theorem exec_acquire_cases (cluster : Cluster Db) (stmt : PoolStmt Nat Empty) (site : Site Db) :
    ((exec cluster (.acquire stmt) site).2.endpoints = site.endpoints ∧
      (exec cluster (.acquire stmt) site).2.pools.opened = site.pools.opened) ∨
    ∃ options, (exec cluster (.acquire stmt) site).2.endpoints =
        Function.update site.endpoints site.pools.opened (some options) ∧
      (exec cluster (.acquire stmt) site).2.pools.opened = site.pools.opened + 1 := by
  cases stmt with
  | connectWith options settings =>
    cases up : site.pools.server with
    | ok _ =>
      refine .inr ⟨options, ?_, ?_⟩
      · simp only [exec, Rotation.exec, up, noteOpening, opening]
      · simp only [exec, Rotation.exec, up]
    | error error =>
      refine .inl ⟨?_, ?_⟩
      · simp only [exec, Rotation.exec, up, noteOpening, opening]
      · simp only [exec, Rotation.exec, up]
  | load cell => exact .inl ⟨rfl, rfl⟩
  | replace cell pool => exact .inl ⟨rfl, rfl⟩
  | beginClose pool => exact .inl ⟨rfl, rfl⟩
  | issueCredentials params => exact .inl ⟨rfl, rfl⟩
  | execute pool query => exact query.elim

/-- A statement on a database opens no pool and leads none elsewhere. -/
theorem exec_endpoints_of_sql (cluster : Cluster Db) (pool : PoolId) (query : Query) (site : Site Db) :
    (exec cluster (.sql pool query) site).2.endpoints = site.endpoints ∧
      (exec cluster (.sql pool query) site).2.pools = site.pools := by
  obtain ⟨error, failed⟩ | ⟨db, -, answered⟩ := exec_sql_cases cluster pool query site
  · rw [failed]
    exact ⟨rfl, rfl⟩
  · rw [answered]
    exact ⟨rfl, rfl⟩

/-- A pool keeps the options it was opened with. -/
theorem Site.Fresh.endpoints_exec {site : Site Db} (fresh : site.Fresh) (cluster : Cluster Db)
    (stmt : Stmt) {pool : PoolId} {options : PgConnectOptions}
    (known : site.endpoints pool = some options) :
    (Startup.exec cluster stmt site).2.endpoints pool = some options := by
  cases stmt with
  | acquire stmt =>
    obtain ⟨endpoints, -⟩ | ⟨new, endpoints, -⟩ := exec_acquire_cases cluster stmt site
    · rwa [endpoints]
    · have other : pool ≠ site.pools.opened := by
        rintro rfl
        rw [fresh _ (Nat.le_refl _)] at known
        cases known
      rwa [endpoints, Function.update_of_ne other]
  | newCell cell pool => exact known
  | sql pool query => rwa [(exec_endpoints_of_sql cluster pool query site).1]
  | spawn worker =>
    simp only [Startup.exec]
    split
    · exact known
    · exact known

/-- A statement of a process opens pools in their order, and every pool goes on leading
where it led. -/
theorem Site.Fresh.exec {site : Site Db} (fresh : site.Fresh) (cluster : Cluster Db) (stmt : Stmt) :
    (Startup.exec cluster stmt site).2.Fresh ∧
      ∀ pool db, site.leads cluster pool = some db →
        (Startup.exec cluster stmt site).2.leads cluster pool = some db := by
  refine ⟨?_, ?_⟩
  · cases stmt with
    | acquire stmt =>
      intro pool beyond
      obtain ⟨endpoints, opened⟩ | ⟨options, endpoints, opened⟩ :=
        exec_acquire_cases cluster stmt site
      · rw [opened] at beyond
        rw [endpoints]
        exact fresh pool beyond
      · rw [opened] at beyond
        have other : pool ≠ site.pools.opened := by omega
        rw [endpoints, Function.update_of_ne other]
        exact fresh pool (by omega)
    | newCell cell pool => exact fresh
    | sql pool query =>
      obtain ⟨endpoints, pools⟩ := exec_endpoints_of_sql cluster pool query site
      rw [Site.Fresh, endpoints, pools]
      exact fresh
    | spawn worker =>
      simp only [Startup.exec]
      split
      · exact fresh
      · exact fresh
  · intro pool db leads
    obtain ⟨options, known, rfl⟩ := Option.map_eq_some_iff.mp leads
    rw [Site.leads, fresh.endpoints_exec cluster stmt known, Option.map_some]

/-- What happens outside opens no pool, and changes neither what cells hold nor where
pools lead. -/
theorem drift_endpoints (cluster : Cluster Db) (act : Outside Db) (site : Site Db) :
    (drift cluster act site).endpoints = site.endpoints ∧
      (drift cluster act site).pools.opened = site.pools.opened ∧
      (drift cluster act site).pools.installed = site.pools.installed := by
  cases act <;> exact ⟨rfl, rfl, rfl⟩

end Pools

section Books

/-- An exchange can have installed an extension through a pool: it created the extension or one
that brings it along, or it migrated. -/
def Creates (brings : String → List String) (pool : PoolId) (name : String) :
    Exchange Reply → Prop
  | ⟨.sql used (.createExtension created), .ok _⟩ =>
      used = pool ∧ name ∈ created :: brings created
  | ⟨.sql used .migrate, _⟩ => used = pool ∧ name ∈ brings "pgcrypto"
  | _ => False

/-- The process installed an extension through a pool and did not list it there. -/
def Exposed (brings : String → List String) (past : Past) (pool : PoolId) (name : String) : Prop :=
  (∃ exchange ∈ past, Creates brings pool name exchange) ∧ ¬ Listed past pool name

/-- An operator installs an extension, or takes it off the list. -/
def Exposes (brings : String → List String) (db : Db) (name : String) : Move (Outside Db) → Prop
  | .drift (.install altered created) => altered = db ∧ name ∈ created :: brings created
  | .drift (.unlist altered removed) => altered = db ∧ removed = name
  | _ => False

/-- A log of what the processes did. -/
abbrev Log (Db : Type) := List (Event (Site Db) Reply)

/-- The books of one extension of one database, for the events since some moment. If it is
installed, it is listed, or will be by the migration, or a process exposes it. What a process
listed is listed, and the pools it did that through are open. -/
structure Accounted (cluster : Cluster Db) (db : Db) (name : String) (site : Site Db)
    (since : Log Db) : Prop where
  installed : name ∈ (site.databases db).installed → (site.databases db).Lists name ∨
    ((site.databases db).extensionAllowlist = none ∧ name ∈ seeds) ∨
    ∃ call pool, site.leads cluster pool = some db ∧
      Exposed cluster.brings (exchanges call since) pool name
  listed : ∀ call pool, Listed (exchanges call since) pool name →
    site.leads cluster pool = some db → (site.databases db).Lists name
  opened : ∀ call pool, Listed (exchanges call since) pool name → site.leads cluster pool ≠ none

/-- An exchange that lists an extension through a pool. -/
def ListsThrough (pool : PoolId) (name : String) (exchange : Exchange Reply) : Prop :=
  ∃ rows, exchange = ⟨.sql pool (.allow name), .ok rows⟩

omit [DecidableEq Db] in
/-- After an event a process has listed an extension when it had before, or when the event
is its listing. -/
theorem listed_cons_iff {event : Event (Site Db) Reply} {since : Log Db} {call : Nat}
    {pool : PoolId} {name : String} :
    Listed (exchanges call (event :: since)) pool name ↔
      (event.call = call ∧ ListsThrough pool name event.toExchange) ∨
        Listed (exchanges call since) pool name := by
  rw [exchanges_cons]
  by_cases own : event.call = call
  · rw [if_pos own]
    constructor
    · rintro ⟨rows, member⟩
      rcases List.mem_cons.mp member with new | old
      · exact .inl ⟨own, rows, new.symm⟩
      · exact .inr ⟨rows, old⟩
    · rintro (⟨-, rows, new⟩ | ⟨rows, old⟩)
      · exact ⟨rows, List.mem_cons.mpr (.inl new.symm)⟩
      · exact ⟨rows, List.mem_cons_of_mem _ old⟩
  · rw [if_neg own]
    constructor
    · exact .inr
    · rintro (⟨same, -⟩ | old)
      · exact absurd same own
      · exact old

omit [DecidableEq Db] in
/-- What a process has installed and not listed stays exposed until that process lists
it. -/
theorem Exposed.cons {brings : String → List String} {event : Event (Site Db) Reply}
    {since : Log Db} {call : Nat} {pool : PoolId} {name : String}
    (exposed : Exposed brings (exchanges call since) pool name)
    (unlisted : ¬ ListsThrough pool name event.toExchange) :
    Exposed brings (exchanges call (event :: since)) pool name := by
  obtain ⟨⟨exchange, member, creates⟩, absent⟩ := exposed
  refine ⟨⟨exchange, ?_, creates⟩, ?_⟩
  · rw [exchanges_cons]
    split
    · exact List.mem_cons_of_mem _ member
    · exact member
  · rw [listed_cons_iff]
    rintro (⟨-, lists⟩ | old)
    · exact unlisted lists
    · exact absent old

omit [DecidableEq Db] in
/-- A step that changes neither the database nor what is known of open pools keeps the books,
unless it lists the extension. -/
theorem Accounted.quiet {db : Db} {name : String} {site later : Site Db} {since : Log Db}
    (accounted : Accounted cluster db name site since)
    (same : later.databases db = site.databases db)
    (leads : ∀ pool known, site.leads cluster pool = some known →
      later.leads cluster pool = some known)
    {event : Event (Site Db) Reply}
    (unlisted : ∀ pool, later.leads cluster pool = some db →
      ¬ ListsThrough pool name event.toExchange)
    (used : ∀ pool, ListsThrough pool name event.toExchange → site.leads cluster pool ≠ none) :
    Accounted cluster db name later (event :: since) := by
  have kept (pool : PoolId) (known : site.leads cluster pool ≠ none) :
      later.leads cluster pool = site.leads cluster pool := by
    obtain ⟨found, leading⟩ := Option.ne_none_iff_exists'.mp known
    rw [leading, leads pool found leading]
  refine ⟨?_, ?_, ?_⟩
  · rw [same]
    intro there
    rcases accounted.installed there with listed | seeded | ⟨call, pool, leading, exposed⟩
    · exact .inl listed
    · exact .inr (.inl seeded)
    · have still := leads pool db leading
      exact .inr (.inr ⟨call, pool, still, exposed.cons (unlisted pool still)⟩)
  · rw [same]
    intro call pool listed leading
    rcases listed_cons_iff.mp listed with ⟨-, lists⟩ | old
    · exact absurd lists (unlisted pool leading)
    · rw [kept pool (accounted.opened call pool old)] at leading
      exact accounted.listed call pool old leading
  · intro call pool listed
    rcases listed_cons_iff.mp listed with ⟨-, lists⟩ | old
    · rw [kept pool (used pool lists)]
      exact used pool lists
    · rw [kept pool (accounted.opened call pool old)]
      exact accounted.opened call pool old

/-- The one statement that lists an extension is its INSERT into the allowlist, when it
was answered. -/
theorem listsThrough_sql_iff {pool other : PoolId} {query : Query} {name : String}
    {reply : Except String (List String)} :
    ListsThrough other name ⟨.sql pool query, reply⟩ ↔
      pool = other ∧ query = .allow name ∧ ∃ rows, reply = .ok rows := by
  constructor
  · rintro ⟨rows, same⟩
    cases same
    exact ⟨rfl, rfl, rows, rfl⟩
  · rintro ⟨rfl, rfl, rows, rfl⟩
    exact ⟨rows, rfl⟩

/-- After a query that may install the extension and lists nothing, it is listed already, it is
seeded, or this process exposes it. -/
theorem Accounted.creates {db : Db} {name : String} {site : Site Db} {since : Log Db}
    (accounted : Accounted cluster db name site since) {pool : PoolId} {query : Query}
    {reply : Except String (List String)} {after : Database} {index : Nat}
    (leading : site.leads cluster pool = some db)
    (silent : ¬ ListsThrough pool name ⟨.sql pool query, reply⟩)
    (installs : name ∈ after.installed → name ∈ (site.databases db).installed ∨
      after.Lists name ∨ Creates cluster.brings pool name ⟨.sql pool query, reply⟩)
    (lists : (site.databases db).Lists name → after.Lists name)
    (seeded : (site.databases db).extensionAllowlist = none → name ∈ seeds →
      after.Lists name ∨ after.extensionAllowlist = none) :
    Accounted cluster db name (site.alter db fun _ => after)
      (⟨⟨.sql pool query, reply⟩, index, site⟩ :: since) := by
  have altered : (site.alter db fun _ => after).databases db = after :=
    site.alter_databases_self db _
  have unlisted (other : PoolId) : ¬ ListsThrough other name ⟨.sql pool query, reply⟩ := by
    rw [listsThrough_sql_iff] at silent ⊢
    rintro ⟨rfl, allows, rows, replied⟩
    exact silent ⟨rfl, allows, rows, replied⟩
  have unlistedNow {call : Nat} {other : PoolId}
      (listed : Listed (exchanges call (⟨⟨.sql pool query, reply⟩, index, site⟩ :: since)) other
        name) : Listed (exchanges call since) other name := by
    rcases listed_cons_iff.mp listed with ⟨-, through⟩ | old
    · exact absurd through (unlisted other)
    · exact old
  refine ⟨?_, ?_, ?_⟩
  · rw [altered]
    intro there
    rcases installs there with before | listed | creates
    · rcases accounted.installed before with listed | ⟨missing, seed⟩ | ⟨call, other, leads, exposed⟩
      · exact .inl (lists listed)
      · rcases seeded missing seed with listed | still
        · exact .inl listed
        · exact .inr (.inl ⟨still, seed⟩)
      · exact .inr (.inr ⟨call, other, leads, exposed.cons (unlisted other)⟩)
    · exact .inl listed
    · by_cases known : Listed (exchanges index since) pool name
      · exact .inl (lists (accounted.listed index pool known leading))
      · refine .inr (.inr ⟨index, pool, leading, ⟨_, ?_, creates⟩, fun now => known (unlistedNow now)⟩)
        rw [exchanges_cons, if_pos rfl]
        exact List.mem_cons_self
  · rw [altered]
    intro call other listed leads
    exact lists (accounted.listed call other (unlistedNow listed) leads)
  · intro call other listed
    exact accounted.opened call other (unlistedNow listed)

/-- A query of the database itself keeps the books. -/
theorem Accounted.queried {db : Db} {name : String} {site : Site Db} {since : Log Db}
    (accounted : Accounted cluster db name site since) {pool : PoolId} (query : Query) (index : Nat)
    (leading : site.leads cluster pool = some db) :
    Accounted cluster db name
      (site.alter db fun _ => ((site.databases db).answer cluster site.severed query).2)
      (⟨⟨.sql pool query, ((site.databases db).answer cluster site.severed query).1⟩, index, site⟩ ::
        since) := by
  obtain ⟨same, silent⟩ | ⟨rfl, missing, installed, allowlist⟩ | ⟨created, rfl, answered⟩ |
      ⟨listed, names, rfl, known, answered⟩ :=
    answer_cases cluster site.severed query (site.databases db)
  · refine accounted.creates leading ?_ ?_ ?_ ?_
    · rw [listsThrough_sql_iff]
      rintro ⟨-, allows, rows, replied⟩
      exact silent name rows allows replied
    · rw [same]
      exact .inl
    · rw [same]
      exact id
    · rw [same]
      exact fun absent _ => .inr absent
  · have seededLists (seed : name ∈ seeds) :
        ((site.databases db).answer cluster site.severed .migrate).2.Lists name :=
      ⟨seeds, allowlist, seed⟩
    refine accounted.creates leading ?_ ?_ ?_ ?_
    · rw [listsThrough_sql_iff]
      rintro ⟨-, ⟨⟩, -⟩
    · rw [installed]
      intro there
      rcases mem_create there with before | new
      · exact .inl before
      · rcases List.mem_cons.mp new with rfl | brought
        · exact .inr (.inl (seededLists (by decide)))
        · exact .inr (.inr ⟨rfl, brought⟩)
    · rintro ⟨names, found, -⟩
      rw [missing] at found
      cases found
    · exact fun _ seed => .inl (seededLists seed)
  · rw [answered]
    refine accounted.creates leading ?_ ?_ ?_ ?_
    · rw [listsThrough_sql_iff]
      rintro ⟨-, ⟨⟩, -⟩
    · intro there
      rcases mem_create there with before | new
      · exact .inl before
      · exact .inr (.inr ⟨rfl, new⟩)
    · rintro ⟨names, found, member⟩
      exact ⟨names, by rw [create_extensionAllowlist, found], member⟩
    · intro absent _
      exact .inr (by rw [create_extensionAllowlist, absent])
  · rw [answered]
    by_cases own : listed = name
    · subst own
      have lists : ((site.alter db fun _ => { site.databases db with
          extensionAllowlist := some (names.insert listed) }).databases db).Lists listed := by
        rw [Site.alter_databases_self]
        exact ⟨_, rfl, List.mem_insert_self⟩
      refine ⟨fun _ => .inl lists, fun _ _ _ _ => lists, ?_⟩
      intro call other through
      rcases listed_cons_iff.mp through with ⟨-, new⟩ | old
      · obtain ⟨rfl, -⟩ := listsThrough_sql_iff.mp new
        intro closed
        rw [Site.leads] at leading closed
        exact absurd (leading.symm.trans closed) (by simp)
      · exact accounted.opened call other old
    · refine accounted.creates leading ?_ ?_ ?_ ?_
      · rw [listsThrough_sql_iff]
        rintro ⟨-, same, -⟩
        cases same
        exact own rfl
      · exact .inl
      · rintro ⟨others, found, member⟩
        rw [known] at found
        cases found
        exact ⟨_, rfl, List.mem_insert_of_mem member⟩
      · intro absent
        rw [known] at absent
        cases absent

/-- Every statement of a process keeps the books. -/
theorem Accounted.exec {db : Db} {name : String} {site : Site Db} {since : Log Db}
    (accounted : Accounted cluster db name site since) (fresh : site.Fresh) (index : Nat)
    (stmt : Stmt) :
    Accounted cluster db name (Startup.exec cluster stmt site).2
      (Run.event (machine cluster) index stmt site :: since) := by
  have leads := (fresh.exec cluster stmt).2
  have quiet (same : (Startup.exec cluster stmt site).2.databases db = site.databases db)
      (other : ∀ pool query, stmt ≠ .sql pool query) :
      Accounted cluster db name (Startup.exec cluster stmt site).2
        (Run.event (machine cluster) index stmt site :: since) := by
    have silent (pool : PoolId) :
        ¬ ListsThrough pool name (Run.event (machine cluster) index stmt site).toExchange := by
      rintro ⟨rows, listing⟩
      exact other _ _ (congrArg Exchange.stmt listing)
    exact accounted.quiet same leads (fun pool _ => silent pool)
      fun pool through => absurd through (silent pool)
  cases stmt with
  | acquire stmt => exact quiet rfl fun _ _ same => by cases same
  | newCell cell pool => exact quiet rfl fun _ _ same => by cases same
  | spawn worker =>
    refine quiet ?_ fun _ _ same => by cases same
    simp only [Startup.exec]
    split <;> rfl
  | sql pool query =>
    have event : Run.event (machine cluster) index (.sql pool query) site =
        ⟨⟨.sql pool query, (Startup.exec cluster (.sql pool query) site).1⟩, index, site⟩ := rfl
    rw [event]
    obtain ⟨error, failed⟩ | ⟨asked, leading, answered⟩ := exec_sql_cases cluster pool query site
    · rw [failed]
      have silent (other : PoolId) :
          ¬ ListsThrough other name ⟨.sql pool query, .error error⟩ := by
        rw [listsThrough_sql_iff]
        rintro ⟨-, -, rows, ⟨⟩⟩
      exact accounted.quiet rfl (fun _ _ => id) (fun other _ => silent other)
        fun other through => absurd through (silent other)
    · rw [answered]
      by_cases same : asked = db
      · subst same
        exact accounted.queried query index leading
      · have untouched := site.alter_databases_of_ne (Ne.symm same)
          fun _ => ((site.databases asked).answer cluster site.severed query).2
        refine accounted.quiet untouched (fun _ _ => id) ?_ ?_
        · intro other leads through
          obtain ⟨rfl, -⟩ := listsThrough_sql_iff.mp through
          exact same (Option.some.inj (leading.symm.trans leads))
        · intro other through
          obtain ⟨rfl, -⟩ := listsThrough_sql_iff.mp through
          rw [leading]
          simp

/-- A change of the database that installs nothing and unlists nothing keeps the books. -/
theorem Accounted.altered {db : Db} {name : String} {site : Site Db} {since : Log Db}
    (accounted : Accounted cluster db name site since) {changed : Db}
    {change : Database → Database}
    (installs : changed = db → name ∈ (change (site.databases db)).installed →
      name ∈ (site.databases db).installed)
    (lists : changed = db → (site.databases db).Lists name →
      (change (site.databases db)).Lists name)
    (absent : (site.databases db).extensionAllowlist = none →
      (change (site.databases db)).extensionAllowlist = none) :
    Accounted cluster db name (site.alter changed change) since := by
  by_cases same : changed = db
  · subst same
    refine ⟨?_, ?_, accounted.opened⟩
    · rw [Site.alter_databases_self]
      intro there
      rcases accounted.installed (installs rfl there) with listed | ⟨missing, seed⟩ | exposed
      · exact .inl (lists rfl listed)
      · exact .inr (.inl ⟨absent missing, seed⟩)
      · exact .inr (.inr exposed)
    · rw [Site.alter_databases_self]
      intro call pool listed leads
      exact lists rfl (accounted.listed call pool listed leads)
  · have untouched := site.alter_databases_of_ne (Ne.symm same) change
    refine ⟨?_, ?_, accounted.opened⟩
    · rw [untouched]
      exact accounted.installed
    · rw [untouched]
      exact accounted.listed

/-- What operators do keeps the books, unless they expose the extension. -/
theorem Accounted.drift {db : Db} {name : String} {site : Site Db} {since : Log Db}
    (accounted : Accounted cluster db name site since) {act : Outside Db}
    (discreet : ¬ Exposes cluster.brings db name (.drift act)) :
    Accounted cluster db name (Startup.drift cluster act site) since := by
  cases act with
  | broker reply => exact ⟨accounted.installed, accounted.listed, accounted.opened⟩
  | server reply => exact ⟨accounted.installed, accounted.listed, accounted.opened⟩
  | connectivity outage severed => exact ⟨accounted.installed, accounted.listed, accounted.opened⟩
  | install changed created =>
    refine accounted.altered ?_ ?_ ?_
    · intro same there
      rcases mem_create there with before | new
      · exact before
      · exact absurd ⟨same, new⟩ discreet
    · rintro - ⟨names, found, member⟩
      exact ⟨names, by rw [create_extensionAllowlist, found], member⟩
    · intro missing
      rw [create_extensionAllowlist, missing]
  | uninstall changed removed =>
    rw [Startup.drift]
    refine accounted.altered ?_ ?_ ?_
    · intro _ there
      exact (List.mem_filter.mp there).1
    · exact fun _ => id
    · exact id
  | list changed listed =>
    rw [Startup.drift]
    refine accounted.altered ?_ ?_ ?_
    · exact fun _ => id
    · rintro - ⟨names, found, member⟩
      exact ⟨names.insert listed, by rw [found]; rfl, List.mem_insert_of_mem member⟩
    · intro missing
      rw [missing]
      rfl
  | unlist changed removed =>
    rw [Startup.drift]
    refine accounted.altered ?_ ?_ ?_
    · exact fun _ => id
    · rintro same ⟨names, found, member⟩
      refine ⟨names.filter (· ≠ removed), by rw [found]; rfl, List.mem_filter.mpr ⟨member, ?_⟩⟩
      exact decide_eq_true fun equal => discreet ⟨same, equal.symm⟩
    · intro missing
      rw [missing]
      rfl

/-- What is known of the pools stays known in every schedule. -/
theorem Site.Fresh.drift {site : Site Db} (fresh : site.Fresh) (act : Outside Db) :
    (Startup.drift cluster act site).Fresh := by
  obtain ⟨endpoints, opened, -⟩ := drift_endpoints cluster act site
  rw [Site.Fresh, endpoints, opened]
  exact fresh

/-- In every schedule in which no operator exposes the extension, the books go on. -/
theorem accounted_play {db : Db} {name : String} {moves : List (Move (Outside Db))}
    {run : Run (Site Db) Stmt Reply DatabaseError PgPool} {since : Log Db}
    (fresh : run.store.Fresh) (accounted : Accounted cluster db name run.store since)
    (discreet : ∀ move ∈ moves, ¬ Exposes cluster.brings db name move) :
    ∃ later, (run.play (machine cluster) moves).log = later ++ run.log ∧
      Accounted cluster db name (run.play (machine cluster) moves).store (later ++ since) := by
  suffices kept : (run.play (machine cluster) moves).store.Fresh ∧
      ∃ later, (run.play (machine cluster) moves).log = later ++ run.log ∧
        Accounted cluster db name (run.play (machine cluster) moves).store (later ++ since) from
    kept.2
  refine Run.play_invariant_of (fun current => current.store.Fresh ∧
    ∃ later, current.log = later ++ run.log ∧
      Accounted cluster db name current.store (later ++ since))
    ⟨fresh, [], rfl, accounted⟩ discreet ?_
  rintro current move quiet ⟨fresh, later, grown, accounted⟩
  obtain same | ⟨act, rfl, moved⟩ | ⟨index, stmt, resume, -, -, moved⟩ :=
    Run.step_cases (machine cluster) current move
  · rw [same]
    exact ⟨fresh, later, grown, accounted⟩
  · rw [moved]
    exact ⟨fresh.drift act, later, grown, accounted.drift quiet⟩
  · rw [moved]
    refine ⟨(fresh.exec cluster stmt).1,
      Run.event (machine cluster) index stmt current.store :: later, ?_,
      accounted.exec fresh index stmt⟩
    rw [List.cons_append, ← grown]
    rfl

end Books

end SecureDatabase.Startup
