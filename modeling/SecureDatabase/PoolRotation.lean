import SecureDatabase.Basic
import SecureDatabase.Foundation.Program

/-!
# Rotation of the connection pools

A pool is reached through a cell that holds the current one. A lease worker obtains new
credentials, opens a pool with them, puts it into its cell and closes the pool that it found
there. Clients load the pool of a cell and execute statements on what they loaded, for as
long as they hold it; acquiring from a pool whose close has begun fails.

Workers and clients are programs over one store, so every interleaving of their steps is one
schedule. What the broker, the server and the databases answer is up to the environment, and
so is how long a worker sleeps between two rounds. A run of a worker has a number of rounds;
every finite schedule is one of a worker with rounds enough.
-/

namespace SecureDatabase.Rotation

open Foundation Program

/-- What identifies a pool: the number of pools that were opened before it. -/
abbrev PoolId := Nat

/-- What the broker grants: an address, credentials that replace those in it, and when
they expire, if they do. -/
structure PostgresCredentialLease where
  databaseUrl : String
  username : Option String
  password : Option String
  expiresAt : Option Int
deriving DecidableEq

/-- What the broker is asked for. -/
structure PostgresCredentialParams where
  audience : String
  scope : List String
  ttlSeconds : Option Nat
  applicationName : Option String
deriving DecidableEq

/-- Whether a connection has to be encrypted. -/
inductive PgSslMode where
  | prefer
  | require
deriving DecidableEq

/-- The connection options that a lease determines. -/
structure PgConnectOptions where
  databaseUrl : String
  sslMode : PgSslMode
  applicationName : Option String
  username : Option String
  password : Option String
deriving DecidableEq

/-- How many connections a pool has, and how long it waits for one and keeps one idle. -/
structure PoolSettings where
  maxConnections : Nat
  minConnections : Nat
  connectTimeoutSeconds : Nat
  idleTimeoutSeconds : Nat
deriving DecidableEq

variable {Cell Query Answer : Type}

/-- What workers and clients do to the store. -/
inductive PoolStmt (Cell Query : Type) where
  | load (cell : Cell)
  | replace (cell : Cell) (pool : PoolId)
  | beginClose (pool : PoolId)
  | issueCredentials (params : PostgresCredentialParams)
  | connectWith (options : PgConnectOptions) (settings : PoolSettings)
  | execute (pool : PoolId) (query : Query)

/-- What is replied to each. -/
def PoolReply (Answer : Type) : PoolStmt Cell Query → Type
  | .load _ => PoolId
  | .replace _ _ => PoolId
  | .beginClose _ => Unit
  | .issueCredentials _ => Except String PostgresCredentialLease
  | .connectWith _ _ => Except String PoolId
  | .execute _ _ => DbResult Answer

/-- A program of a worker or a client. -/
abbrev PoolProgram (Cell Query Answer α : Type) :=
  Program (PoolStmt Cell Query) (PoolReply Answer) DatabaseError α

/-- The store: which pool each cell holds, how many were opened, which of them are closing,
and what the broker, the server and the databases answer at the moment. -/
structure Pools (Cell Query Answer : Type) where
  installed : Cell → PoolId
  opened : Nat
  closing : List PoolId
  broker : Except String PostgresCredentialLease
  server : Except String Unit
  databases : Query → DbResult Answer

/-- What the environment may change. -/
inductive PoolDrift (Query Answer : Type) where
  | broker (reply : Except String PostgresCredentialLease)
  | server (reply : Except String Unit)
  | databases (reply : Query → DbResult Answer)

section Semantics

variable [DecidableEq Cell]

/-- How sqlx reports a pool that is closing. -/
def poolClosed : DatabaseError := .query "attempted to acquire a connection on a closed pool"

/-- How the statements on the pools are executed. Only opening a pool numbers a new one,
and a pool that closes is still there for those who hold it. -/
def exec : (stmt : PoolStmt Cell Query) → Pools Cell Query Answer →
    PoolReply Answer stmt × Pools Cell Query Answer
  | .load cell, pools => (pools.installed cell, pools)
  | .replace cell pool, pools =>
      (pools.installed cell, { pools with installed := Function.update pools.installed cell pool })
  | .beginClose pool, pools => ((), { pools with closing := pool :: pools.closing })
  | .issueCredentials _, pools => (pools.broker, pools)
  | .connectWith _ _, pools =>
      match pools.server with
      | .ok () => (.ok pools.opened, { pools with opened := pools.opened + 1 })
      | .error error => (.error error, pools)
  | .execute pool query, pools =>
      if pool ∈ pools.closing then (.error poolClosed, pools) else (pools.databases query, pools)

/-- What happens by itself: the answers of the broker, of the server and of the
databases. -/
def drift : PoolDrift Query Answer → Pools Cell Query Answer → Pools Cell Query Answer
  | .broker reply, pools => { pools with broker := reply }
  | .server reply, pools => { pools with server := reply }
  | .databases reply, pools => { pools with databases := reply }

/-- The pools with their surroundings. -/
def machine : Machine (Pools Cell Query Answer) (PoolDrift Query Answer) (PoolStmt Cell Query)
    (PoolReply Answer) := ⟨exec, drift⟩

end Semantics

/-- The credentials that a pool is configured with. -/
structure BrokerCredentialConfig where
  audience : String
  scope : List String
  ttlSeconds : Nat

/-- A worker: the cell whose pool it renews, what it asks for, and the expiry that it
knows of. -/
structure BrokerLeaseWorker (Cell : Type) where
  pool : Cell
  credential : BrokerCredentialConfig
  applicationName : String
  poolLabel : String
  settings : PoolSettings
  nextExpiry : Option Int

/-- Ask the broker for credentials; a lifetime of zero is left to the broker. -/
def obtainBrokerLease (credential : BrokerCredentialConfig) (applicationName : String) :
    PoolProgram Cell Query Answer PostgresCredentialLease := do
  let reply : Except String PostgresCredentialLease ← ask (PoolStmt.issueCredentials {
    audience := trim credential.audience
    scope := credential.scope
    ttlSeconds := if credential.ttlSeconds = 0 then none else some credential.ttlSeconds
    applicationName := some applicationName })
  ofExcept (reply.mapError fun error => .configuration
    ("failed to obtain PostgreSQL credentials from secret broker: " ++ error))

/-- The options of a lease, over those that its address parses to. -/
def connectOptionsFromLease (parse : String → Except String PgConnectOptions)
    (lease : PostgresCredentialLease) (applicationName poolLabel : String) :
    DbResult PgConnectOptions := do
  let options ← (parse lease.databaseUrl).mapError fun error => .configuration
    ("invalid database_url from secret broker lease for " ++ poolLabel ++ ": " ++ error)
  return { options with
    sslMode := .require
    applicationName := some applicationName
    username := lease.username.or options.username
    password := lease.password.or options.password }

/-- `instantiate_pool`: a pool is opened, or the error of its first connection is
wrapped. -/
def instantiatePool (options : PgConnectOptions) (settings : PoolSettings) :
    PoolProgram Cell Query Answer PoolId := do
  let reply : Except String PoolId ← ask (PoolStmt.connectWith options settings)
  ofExcept (reply.mapError fun error => .configuration
    ("failed to instantiate connection pool: " ++ error))

namespace BrokerLeaseWorker

variable (parse : String → Except String PgConnectOptions)

/-- `refresh_once`: a lease, the options of its connections and a new pool are obtained
first; only then is the old pool taken out and closed. -/
def refreshOnce (worker : BrokerLeaseWorker Cell) :
    PoolProgram Cell Query Answer (Option Int) := do
  let lease ← obtainBrokerLease worker.credential worker.applicationName
  let options ← ofExcept
    (connectOptionsFromLease parse lease worker.applicationName worker.poolLabel)
  let pool ← instantiatePool options worker.settings
  let oldPool : PoolId ← ask (PoolStmt.replace worker.pool pool)
  let _ : Unit ← ask (PoolStmt.beginClose oldPool)
  return lease.expiresAt

/-- The loop of a worker. Sleeping does not touch the pools, and a failed round is tried
again. -/
def run (worker : BrokerLeaseWorker Cell) :
    Nat → Option Int → PoolProgram Cell Query Answer Unit
  | 0, _ => value ()
  | _ + 1, none => value ()
  | rounds + 1, some expiry => do
      match ← (worker.refreshOnce parse).attempt with
      | .ok next => worker.run rounds next
      | .error _ => worker.run rounds (some expiry)

end BrokerLeaseWorker

section Rules

/-- The own exchanges of a party, newest first. -/
abbrev Past (Cell Query Answer : Type) := List (Exchange (@PoolReply Cell Query Answer))

/-- The latest pool that a party has loaded. -/
def latestLoad : Past Cell Query Answer → Option PoolId
  | [] => none
  | ⟨.load _, pool⟩ :: _ => some pool
  | _ :: past => latestLoad past

/-- What a party has in hand: a pool that it has just opened, or one that it has just taken
out of its cell. -/
inductive Hand where
  | empty
  | opened (pool : PoolId)
  | takenOut (pool : PoolId)
deriving DecidableEq

/-- What the latest exchange left in hand. -/
def hand : Past Cell Query Answer → Hand
  | ⟨.connectWith _ _, .ok pool⟩ :: _ => .opened pool
  | ⟨.replace _ _, pool⟩ :: _ => .takenOut pool
  | _ => .empty

/-- What workers do: they install the pool that they have just opened, and close the one
that they have just taken out. -/
def workerRule (past : Past Cell Query Answer) : PoolStmt Cell Query → Prop
  | .load _ => False
  | .replace _ pool => hand past = .opened pool
  | .beginClose pool => hand past = .takenOut pool
  | .issueCredentials _ => True
  | .connectWith _ _ => True
  | .execute _ _ => False

/-- What clients do: they load pools and execute statements on the pool loaded last. -/
def clientRule (past : Past Cell Query Answer) : PoolStmt Cell Query → Prop
  | .load _ => True
  | .execute pool _ => latestLoad past = some pool
  | _ => False

/-- A client: a program that keeps to what clients do. -/
structure Client (Cell Query Answer : Type) where
  program : PoolProgram Cell Query Answer Unit
  follows : program.Follows clientRule (fun _ _ => True) []

/-- The statements of an operation, executed on one pool. -/
def onPool (pool : PoolId) :
    Program Query (fun _ => DbResult Answer) DatabaseError Unit →
      PoolProgram Cell Query Answer Unit
  | .value result => .value result
  | .failure error => .failure error
  | .issue query resume =>
      .issue (.execute pool query) (fun reply => onPool pool (resume reply))

/-- A call on a pool makes its statements on the one that it has loaded. -/
theorem onPool_follows {past : Past Cell Query Answer} {pool : PoolId}
    (loaded : latestLoad past = some pool)
    (body : Program Query (fun _ => DbResult Answer) DatabaseError Unit) :
    (onPool pool body).Follows clientRule (fun _ _ => True) past := by
  induction body generalizing past with
  | value result => trivial
  | failure error => trivial
  | issue query resume inductionHypothesis =>
    exact ⟨loaded, fun reply => inductionHypothesis reply loaded⟩

/-- An operation that loads the pool of a cell and executes its statements there. -/
def operation (cell : Cell)
    (body : Program Query (fun _ => DbResult Answer) DatabaseError Unit) :
    Client Cell Query Answer where
  program := .issue (.load cell) (fun pool => onPool pool body)
  follows := ⟨trivial, fun _ => onPool_follows rfl body⟩

/-- Whoever takes part: lease workers with a number of rounds, and clients. -/
inductive Party (Cell Query Answer : Type) where
  | worker (rotating : BrokerLeaseWorker Cell) (rounds : Nat)
  | client (user : Client Cell Query Answer)

namespace Party

/-- What a party does. -/
def program (parse : String → Except String PgConnectOptions) :
    Party Cell Query Answer → PoolProgram Cell Query Answer Unit
  | .worker rotating rounds => rotating.run parse rounds rotating.nextExpiry
  | .client user => user.program

/-- What the party does. -/
def rule : Party Cell Query Answer → Past Cell Query Answer → PoolStmt Cell Query → Prop
  | .worker _ _ => workerRule
  | .client _ => clientRule

end Party

section Workers

variable (parse : String → Except String PgConnectOptions)

/-- A fallible step in between keeps the rule. -/
theorem ofExcept_bind_follows {α β : Type} {rule : Past Cell Query Answer → PoolStmt Cell Query → Prop}
    {past : Past Cell Query Answer} (first : DbResult α)
    {next : α → PoolProgram Cell Query Answer β}
    (rest : ∀ found, (next found).Follows rule (fun _ _ => True) past) :
    (ofExcept first >>= next).Follows rule (fun _ _ => True) past := by
  cases first with
  | error error => trivial
  | ok found => exact rest found

/-- A refresh closes only the pool that it has just taken out, and puts in only the one
that it has just opened. -/
theorem refreshOnce_follows (worker : BrokerLeaseWorker Cell) (past : Past Cell Query Answer) :
    (worker.refreshOnce parse).Follows workerRule (fun _ _ => True) past := by
  refine ⟨trivial, fun leased => ?_⟩
  apply ofExcept_bind_follows
  intro lease
  apply ofExcept_bind_follows
  intro options
  refine ⟨trivial, fun connected => ?_⟩
  cases connected with
  | error error => trivial
  | ok pool =>
    exact ⟨rfl, fun oldPool => ⟨rfl, fun _ => trivial⟩⟩

/-- So does the whole loop of a worker, by induction on its rounds. -/
theorem run_follows (worker : BrokerLeaseWorker Cell) (rounds : Nat) (expiry : Option Int)
    (past : Past Cell Query Answer) :
    (worker.run parse rounds expiry).Follows workerRule (fun _ _ => True) past := by
  induction rounds generalizing expiry past with
  | zero => trivial
  | succ rounds inductionHypothesis =>
    cases expiry with
    | none => trivial
    | some expiry =>
      refine Follows.bind (fun _ _ => True) ?_ ?_
      · refine (refreshOnce_follows parse worker past).attempt.weaken ?_
        intro later result _
        cases result <;> trivial
      · intro later found _
        cases found with
        | ok next => exact inductionHypothesis next later
        | error error => exact inductionHypothesis (some expiry) later

/-- Every party keeps the rule of its kind. -/
theorem Party.follows (party : Party Cell Query Answer) :
    (party.program parse).Follows party.rule (fun _ _ => True) [] := by
  cases party with
  | worker rotating rounds => exact run_follows parse rotating rounds _ _
  | client user => exact user.follows

end Workers

end Rules

section Invariant

/-- Every pool has one place: it is held by one cell, is in the hand of one party that has
opened it, or has been taken out. A cell never holds a pool that is closing. -/
structure Sound (pools : Pools Cell Query Answer) (hands : Nat → Hand) : Prop where
  installed : ∀ cell, pools.installed cell < pools.opened ∧ pools.installed cell ∉ pools.closing
  apart : Function.Injective pools.installed
  closing : ∀ pool ∈ pools.closing, pool < pools.opened
  opened : ∀ index pool, hands index = .opened pool →
    pool < pools.opened ∧ pool ∉ pools.closing ∧ ∀ cell, pools.installed cell ≠ pool
  openedApart : ∀ index other pool, hands index = .opened pool → hands other = .opened pool →
    index = other
  takenOut : ∀ index pool, hands index = .takenOut pool →
    pool < pools.opened ∧ ∀ cell, pools.installed cell ≠ pool
  exclusive : ∀ index other pool, hands index = .opened pool → hands other ≠ .takenOut pool

variable {pools : Pools Cell Query Answer} {hands : Nat → Hand}

/-- A party whose hand is emptied leaves the places of the others alone. -/
theorem Sound.emptied (sound : Sound pools hands) (index : Nat) :
    Sound pools (Function.update hands index .empty) := by
  obtain ⟨installed, apart, closing, opened, openedApart, takenOut, exclusive⟩ := sound
  refine ⟨installed, apart, closing, ?_, ?_, ?_, ?_⟩
  all_goals simp only [Function.update_apply]; grind

/-- A party opens a pool. -/
theorem Sound.opens (sound : Sound pools hands) (index : Nat) :
    Sound { pools with opened := pools.opened + 1 }
      (Function.update hands index (.opened pools.opened)) := by
  obtain ⟨installed, apart, closing, opened, openedApart, takenOut, exclusive⟩ := sound
  refine ⟨?_, apart, ?_, ?_, ?_, ?_, ?_⟩
  all_goals simp only [Function.update_apply]; grind

/-- A party installs the pool that it has opened, and takes out the one it finds. -/
theorem Sound.replaces [DecidableEq Cell] (sound : Sound pools hands) {index : Nat} {pool : PoolId}
    (held : hands index = .opened pool) (cell : Cell) :
    Sound { pools with installed := Function.update pools.installed cell pool }
      (Function.update hands index (.takenOut (pools.installed cell))) := by
  obtain ⟨installed, apart, closing, opened, openedApart, takenOut, exclusive⟩ := sound
  have injective : ∀ one other, pools.installed one = pools.installed other → one = other :=
    fun _ _ same => apart same
  refine ⟨?_, ?_, closing, ?_, ?_, ?_, ?_⟩
  all_goals simp only [Function.Injective, Function.update_apply]; grind

/-- A party begins to close the pool that it has taken out. -/
theorem Sound.closes (sound : Sound pools hands) {index : Nat} {pool : PoolId}
    (held : hands index = .takenOut pool) :
    Sound { pools with closing := pool :: pools.closing } (Function.update hands index .empty) := by
  obtain ⟨installed, apart, closing, opened, openedApart, takenOut, exclusive⟩ := sound
  refine ⟨?_, apart, ?_, ?_, ?_, ?_, ?_⟩
  all_goals simp only [Function.update_apply]; grind

end Invariant

section Runs

/-- Workers and clients in progress. -/
abbrev Rotating (Cell Query Answer : Type) :=
  Run (Pools Cell Query Answer) (PoolStmt Cell Query) (PoolReply Answer) DatabaseError Unit

/-- Pools as they are when the workers start: each cell holds a pool of its own, and none is
closing. -/
structure ConnectedPools (Cell Query Answer : Type) extends Pools Cell Query Answer where
  held : ∀ cell, installed cell < opened
  apart : Function.Injective installed
  open_ : closing = []

/-- All parties unstarted. -/
def launch (parse : String → Except String PgConnectOptions)
    (pools : ConnectedPools Cell Query Answer) (parties : Nat → Party Cell Query Answer) :
    Rotating Cell Query Answer :=
  .start pools.toPools (fun index => (parties index).program parse)

/-- What each party has in hand. -/
def hands (log : List (Event (Pools Cell Query Answer) (@PoolReply Cell Query Answer)))
    (index : Nat) : Hand :=
  hand (exchanges index log)

/-- An event changes the hand of the party that made it and of no other. -/
theorem hands_cons (event : Event (Pools Cell Query Answer) (@PoolReply Cell Query Answer))
    (log : List (Event (Pools Cell Query Answer) (@PoolReply Cell Query Answer))) :
    hands (event :: log) = Function.update (hands log) event.call
      (hand (event.toExchange :: exchanges event.call log)) := by
  funext index
  by_cases own : event.call = index
  · subst own
    simp [hands, exchanges_cons]
  · have other : index ≠ event.call := fun same => own same.symm
    simp [hands, exchanges_cons, own, other]

/-- The places of the pools in a run. -/
def Placed (run : Rotating Cell Query Answer) : Prop := Sound run.store (hands run.log)

/-- What happens by itself moves no pool. -/
theorem Sound.drifts {pools : Pools Cell Query Answer} {hands : Nat → Hand}
    (sound : Sound pools hands) (act : PoolDrift Query Answer) : Sound (drift act pools) hands := by
  obtain ⟨installed, apart, closing, opened, openedApart, takenOut, exclusive⟩ := sound
  cases act <;> exact ⟨installed, apart, closing, opened, openedApart, takenOut, exclusive⟩

/-- Every party keeps to what it does. -/
abbrev Disciplined (parties : Nat → Party Cell Query Answer) (run : Rotating Cell Query Answer) :
    Prop :=
  Run.Lawful (fun index => (parties index).rule) (fun _ _ _ => True) run

/-- Before anything is executed all parties keep their rules. -/
theorem launch_disciplined (parse : String → Except String PgConnectOptions)
    (pools : ConnectedPools Cell Query Answer) (parties : Nat → Party Cell Query Answer) :
    Disciplined parties (launch parse pools parties) := by
  refine ⟨fun index => (parties index).follows parse, ?_⟩
  intro later event earlier split
  simp [launch, Run.start] at split

/-- At first every pool is in its cell, and all hands are empty. -/
theorem launch_placed (parse : String → Except String PgConnectOptions)
    (pools : ConnectedPools Cell Query Answer) (parties : Nat → Party Cell Query Answer) :
    Placed (launch parse pools parties) := by
  refine ⟨fun cell => ⟨pools.held cell, ?_⟩, pools.apart, ?_, ?_, ?_, ?_, ?_⟩
  all_goals simp [launch, Run.start, hands, hand, exchanges, pools.open_]

/-- No statement was started on a pool whose close had begun. -/
def StartedOpen (run : Rotating Cell Query Answer) : Prop :=
  ∀ event ∈ run.log, ∀ pool query, event.stmt = .execute pool query →
    pool ∉ event.before.closing

/-- No party is about to start a statement on a pool that is closing. -/
def StartsOpen (run : Rotating Cell Query Answer) : Prop :=
  ∀ index pool query resume, run.calls index = .issue (.execute pool query) resume →
    pool ∉ run.store.closing

/-- A close begins only when no party is about to start a statement on that pool. -/
def ClosesIdle (run : Rotating Cell Query Answer) (move : Move (PoolDrift Query Answer)) : Prop :=
  ∀ index pool resume, move = .call index → run.calls index = .issue (.beginClose pool) resume →
    ∀ other query next, run.calls other ≠ .issue (.execute pool query) next

/-- At first nothing is closing. -/
theorem launch_startsOpen (parse : String → Except String PgConnectOptions)
    (pools : ConnectedPools Cell Query Answer) (parties : Nat → Party Cell Query Answer) :
    StartsOpen (launch parse pools parties) := by
  intro index pool query resume calling
  obtain ⟨allowed, -⟩ := (launch_disciplined parse pools parties).issuing calling
  cases party : parties index with
  | worker rotating rounds =>
    rw [party] at allowed
    exact absurd allowed id
  | client user =>
    rw [party] at allowed
    cases allowed

variable [DecidableEq Cell]

/-- A statement that a party's rule allows keeps every pool in one place. -/
theorem Sound.executes {pools : Pools Cell Query Answer} {log : List _} (sound : Sound pools (hands log))
    (party : Party Cell Query Answer) {index : Nat} {stmt : PoolStmt Cell Query}
    (allowed : party.rule (exchanges index log) stmt) :
    Sound (exec stmt pools).2 (Function.update (hands log) index
      (hand (⟨stmt, (exec stmt pools).1⟩ :: exchanges index log))) := by
  cases stmt with
  | load cell => exact sound.emptied index
  | replace cell pool =>
    cases party with
    | worker rotating rounds => exact sound.replaces allowed cell
    | client user => exact absurd allowed id
  | beginClose pool =>
    cases party with
    | worker rotating rounds => exact sound.closes allowed
    | client user => exact absurd allowed id
  | issueCredentials params => exact sound.emptied index
  | connectWith options settings =>
    obtain ⟨installed, opened, closing, broker, server, databases⟩ := pools
    cases server with
    | ok done => exact sound.opens index
    | error error => exact sound.emptied index
  | execute pool query =>
    by_cases closed : pool ∈ pools.closing
    · simp only [exec, closed, ↓reduceIte]
      exact sound.emptied index
    · simp only [exec, closed, ↓reduceIte]
      exact sound.emptied index

/-- Every step keeps every pool in one place. -/
theorem Placed.step {parties : Nat → Party Cell Query Answer} {run : Rotating Cell Query Answer}
    (placed : Placed run) (disciplined : Disciplined parties run)
    (move : Move (PoolDrift Query Answer)) : Placed (run.step machine move) := by
  obtain same | ⟨act, -, moved⟩ | ⟨index, stmt, resume, -, current, moved⟩ :=
    Run.step_cases machine run move
  · rw [same]
    exact placed
  · rw [moved]
    exact placed.drifts act
  · rw [moved, Placed, hands_cons]
    exact placed.executes (parties index) (disciplined.issuing current).1

/-- Which pools are closing after a statement. -/
theorem closing_exec (stmt : PoolStmt Cell Query) (pools : Pools Cell Query Answer) :
    (exec stmt pools).2.closing =
      match stmt with
      | .beginClose pool => pool :: pools.closing
      | _ => pools.closing := by
  obtain ⟨installed, opened, closing, broker, server, databases⟩ := pools
  cases stmt with
  | connectWith options settings => cases server <;> rfl
  | execute pool query => by_cases closed : pool ∈ closing <;> simp [exec, closed]
  | _ => rfl

/-- What a client is about to start after a statement is on the pool that it has just loaded,
or on the pool of its previous statement. -/
theorem next_pool {pools : Pools Cell Query Answer} {past : Past Cell Query Answer}
    {party : Party Cell Query Answer} {stmt : PoolStmt Cell Query}
    {reply : PoolReply Answer stmt} {pool : PoolId} {query : Query}
    (allowed : party.rule past stmt)
    (next : party.rule (⟨stmt, reply⟩ :: past) (.execute pool query))
    (replied : reply = (exec stmt pools).1) :
    (∃ cell, stmt = .load cell ∧ pool = pools.installed cell) ∨
      ∃ previous, stmt = .execute pool previous := by
  cases party with
  | worker rotating rounds => exact absurd next id
  | client user =>
    cases stmt with
    | load cell =>
      left
      refine ⟨cell, rfl, ?_⟩
      subst replied
      exact (Option.some.inj next).symm
    | execute previous earlier =>
      right
      have same : some previous = some pool := allowed.symm.trans next
      cases same
      exact ⟨earlier, rfl⟩
    | _ => exact absurd allowed id

/-- A statement leaves no party about to start one on a closing pool. -/
theorem StartsOpen.step {parties : Nat → Party Cell Query Answer}
    {run : Rotating Cell Query Answer} (starts : StartsOpen run) (placed : Placed run)
    (disciplined : Disciplined parties run) {move : Move (PoolDrift Query Answer)}
    (idle : ClosesIdle run move) : StartsOpen (run.step machine move) := by
  obtain same | ⟨act, -, moved⟩ | ⟨index, stmt, resume, acting, current, moved⟩ :=
    Run.step_cases machine run move
  · rw [same]
    exact starts
  · rw [moved]
    intro other pool query next calling
    have unclosed := starts other pool query next calling
    cases act <;> exact unclosed
  · obtain ⟨allowed, follows⟩ := disciplined.issuing current
    rw [moved]
    intro other pool query next calling
    change pool ∉ (exec stmt run.store).2.closing
    rw [closing_exec]
    by_cases own : other = index
    · subst other
      simp only [Function.update_self] at calling
      have rest := follows (exec stmt run.store).1
      rw [show resume (exec stmt run.store).1 = _ from calling] at rest
      rcases next_pool allowed rest.1 rfl with ⟨cell, rfl, rfl⟩ | ⟨previous, rfl⟩
      · exact (placed.installed cell).2
      · exact starts index pool previous resume current
    · simp only [Function.update_of_ne own] at calling
      have unclosed := starts other pool query next calling
      cases stmt with
      | beginClose closed =>
        have differs : pool ≠ closed := by
          rintro rfl
          exact idle index pool resume acting current other query next calling
        simp [differs, unclosed]
      | _ => exact unclosed

/-- A statement that is executed was about to be started. -/
theorem StartedOpen.step {run : Rotating Cell Query Answer} (started : StartedOpen run)
    (starts : StartsOpen run) (move : Move (PoolDrift Query Answer)) :
    StartedOpen (run.step machine move) := by
  intro event member pool query executed
  obtain same | ⟨act, -, moved⟩ | ⟨index, stmt, resume, -, current, moved⟩ :=
    Run.step_cases machine run move
  · rw [same] at member
    exact started event member pool query executed
  · rw [moved] at member
    exact started event member pool query executed
  · rw [moved] at member
    rcases List.mem_cons.mp member with rfl | old
    · obtain rfl : stmt = .execute pool query := executed
      exact starts index pool query resume current
    · exact started event old pool query executed

end Runs

/-- For every number of lease workers and clients, every interleaving of their steps and
whatever the broker, the server and the databases answer: if each close begins when no client
is about to start a statement on that pool, then no statement is ever started on a pool whose
close has begun.

Proof: a pool is taken out of its cell before it is closed and never comes back, so no client
loads a closing pool. A client goes on with the pool it has loaded last, which is open when
it is loaded, and stays open while the client is about to start a statement on it. -/
theorem startedOpen_of_closesIdle [DecidableEq Cell]
    (parse : String → Except String PgConnectOptions) (pools : ConnectedPools Cell Query Answer)
    (parties : Nat → Party Cell Query Answer) (moves : List (Move (PoolDrift Query Answer)))
    (idle : Along (Run.step machine) ClosesIdle (launch parse pools parties) moves) :
    StartedOpen ((launch parse pools parties).play machine moves) := by
  have kept := idle.invariant
    (fun run => Placed run ∧ Disciplined parties run ∧ StartsOpen run ∧ StartedOpen run)
    ⟨launch_placed parse pools parties, launch_disciplined parse pools parties,
      launch_startsOpen parse pools parties, fun _ member => absurd member List.not_mem_nil⟩ ?_
  · exact kept.2.2.2
  · rintro run move ⟨placed, disciplined, starts, started⟩ closes
    exact ⟨placed.step disciplined move, disciplined.step machine move,
      starts.step placed disciplined closes, started.step starts move⟩

/-- The two statements of `verify_zk_proof`, on one loaded pool. -/
def verifyZkProofStatements : Program String (fun _ => DbResult Unit) DatabaseError Unit :=
  .issue "SELECT FROM gateway_secrets.zk_proofs" fun row =>
    ofExcept row >>= fun _ => .issue "UPDATE gateway_secrets.zk_proofs" ofExcept

/-- A lease through the bouncer, with a user of its own. -/
def sampleLease : PostgresCredentialLease :=
  ⟨"postgres://pgbouncer:6432/gateway", some "gateway", none, some 3600⟩

/-- One cell with one pool, and a broker, a server and a database that answer. -/
def samplePools : ConnectedPools Unit String Unit where
  installed _ := 0
  opened := 1
  closing := []
  broker := .ok sampleLease
  server := .ok ()
  databases _ := .ok ()
  held _ := Nat.one_pos
  apart _ _ _ := rfl
  open_ := rfl

/-- A worker for the cell of one pool. -/
def sampleWorker : BrokerLeaseWorker Unit where
  pool := ()
  credential := ⟨"postgres", ["gateway"], 3600⟩
  applicationName := "secure-database"
  poolLabel := "data"
  settings := ⟨16, 1, 30, 600⟩
  nextExpiry := some 3600

/-- A worker of one round beside clients that verify a proof. -/
def sampleParties : Nat → Party Unit String Unit
  | 0 => .worker sampleWorker 1
  | _ + 1 => .client (operation () verifyZkProofStatements)

/-- A parser that takes every address as it is. -/
def parseSample (databaseUrl : String) : Except String PgConnectOptions :=
  .ok ⟨databaseUrl, .prefer, none, none, none⟩

/-- The pools and the parties before their first step. -/
def sampleRun : Rotating Unit String Unit := launch parseSample samplePools sampleParties

/-- A step that begins no close. -/
theorem closesIdle_of_current {run : Rotating Unit String Unit} {index : Nat}
    {stmt : PoolStmt Unit String} {resume : PoolReply Unit stmt → PoolProgram Unit String Unit Unit}
    (current : run.calls index = .issue stmt resume) (other : ∀ pool, stmt ≠ .beginClose pool) :
    ClosesIdle run (.call index) := by
  rintro _ pool next ⟨⟩ closing
  rw [current] at closing
  cases closing
  exact absurd rfl (other pool)

/-- A round before any client has loaded a pool, and then an operation. -/
theorem startedOpen_roundFirst :
    Along (Run.step machine) ClosesIdle sampleRun
        [.call 0, .call 0, .call 0, .call 0, .call 1, .call 1, .call 1] ∧
      StartedOpen (sampleRun.play machine
        [.call 0, .call 0, .call 0, .call 0, .call 1, .call 1, .call 1]) := by
  have idle : Along (Run.step machine) ClosesIdle sampleRun
      [.call 0, .call 0, .call 0, .call 0, .call 1, .call 1, .call 1] := by
    refine ⟨closesIdle_of_current rfl (by simp), closesIdle_of_current rfl (by simp),
      closesIdle_of_current rfl (by simp), ?_, closesIdle_of_current rfl (by simp),
      closesIdle_of_current rfl (by simp), closesIdle_of_current rfl (by simp), trivial⟩
    intro index pool resume _ _ other query next starting
    cases other with
    | zero => cases starting
    | succ client => cases starting
  exact ⟨idle, startedOpen_of_closesIdle parseSample samplePools sampleParties _ idle⟩

/-- A round between the two statements of an operation: the second one is started on the
closing pool and fails. -/
theorem not_startedOpen_roundBetween :
    ¬ StartedOpen (sampleRun.play machine
      [.call 1, .call 1, .call 0, .call 0, .call 0, .call 0, .call 1]) ∧
    ((sampleRun.play machine
      [.call 1, .call 1, .call 0, .call 0, .call 0, .call 0, .call 1]).calls 1).outcome =
        some (.error poolClosed) := by
  refine ⟨?_, rfl⟩
  intro started
  exact absurd (started _ List.mem_cons_self 0 "UPDATE gateway_secrets.zk_proofs" rfl) (by decide)

end SecureDatabase.Rotation
