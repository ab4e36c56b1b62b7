import SecureDatabase.PoolRotation

/-!
# The life of a lease worker

A pool with broker-issued credentials is created with a lease and comes with a worker that
rotates it. The worker waits at the top of its loop, obtains a new lease, opens a pool with it,
puts the pool into its cell, closes the one it found there and notes the expiry of the new
lease. A failure on the way brings it back to the top.

Workers take their steps in any order. Sleeping is not being scheduled. What a worker is doing
determines the rest of its program; each step of the program is one step of what it is doing.
-/

namespace SecureDatabase.Rotation

open Foundation Program

variable {Query Answer : Type}

/-- What a pool is made for: how its connections are named, how the pool is called in
messages, and its settings. -/
structure PoolContext where
  applicationName : String
  poolLabel : String
  settings : PoolSettings

/-- What a rotated pool is created with: `NativeAuthConfig::Broker`, the context of the pool,
and how the broker client was initialised. -/
structure BrokerPool where
  broker : BrokerCredentialConfig
  context : PoolContext
  client : Except String Unit

/-- The worker of a pool, with the cell that the pool was put into. -/
def BrokerPool.worker (config : BrokerPool) (cell : Nat) (nextExpiry : Option Int) :
    BrokerLeaseWorker Nat where
  pool := cell
  credential := config.broker
  applicationName := config.context.applicationName
  poolLabel := config.context.poolLabel
  settings := config.context.settings
  nextExpiry := nextExpiry

section Creation

variable (parse : String → Except String PgConnectOptions)

/-- Create a pool with broker-issued credentials, and its worker. -/
def createPool (config : BrokerPool) (cell : Nat) :
    PoolProgram Nat Query Answer (PoolId × BrokerLeaseWorker Nat) := do
  ofExcept (config.client.mapError fun error => .configuration
    ("failed to initialise secret-broker client for Postgres credentials: " ++ error))
  let lease ← obtainBrokerLease config.broker config.context.applicationName
  let options ← ofExcept (connectOptionsFromLease parse lease config.context.applicationName
    config.context.poolLabel)
  let pool ← instantiatePool options config.context.settings
  return (pool, config.worker cell lease.expiresAt)

end Creation

/-- Where a worker is. -/
inductive Phase (Query Answer : Type) where
  | creating (rest : PoolProgram Nat Query Answer (PoolId × BrokerLeaseWorker Nat))
  | top (worker : BrokerLeaseWorker Nat)
  | refreshing (worker : BrokerLeaseWorker Nat) (rest : PoolProgram Nat Query Answer (Option Int))
  | halted (worker : BrokerLeaseWorker Nat)
  | abandoned (error : DatabaseError)

namespace Phase

/-- The worker of a pool that was created. -/
def worker : Phase Query Answer → Option (BrokerLeaseWorker Nat)
  | creating _ => none
  | top worker => some worker
  | refreshing worker _ => some worker
  | halted worker => some worker
  | abandoned _ => none

end Phase

/-- A worker rotates as long as its lease expires. -/
def BrokerLeaseWorker.enter (worker : BrokerLeaseWorker Nat) : Phase Query Answer :=
  match worker.nextExpiry with
  | none => .halted worker
  | some _ => .top worker

/-- The pools, every worker, and what the workers have executed, newest first. -/
structure Fleet (Query Answer : Type) where
  store : Pools Nat Query Answer
  phases : Nat → Phase Query Answer
  log : List (Event (Pools Nat Query Answer) (@PoolReply Nat Query Answer))

namespace Fleet

/-- A worker executes a statement. -/
def execute (fleet : Fleet Query Answer) (index : Nat) (stmt : PoolStmt Nat Query)
    (resume : PoolReply Answer stmt → Phase Query Answer) : Fleet Query Answer where
  store := (exec stmt fleet.store).2
  phases := Function.update fleet.phases index (resume (exec stmt fleet.store).1)
  log := ⟨⟨stmt, (exec stmt fleet.store).1⟩, index, fleet.store⟩ :: fleet.log

/-- A worker goes on without executing a statement. -/
def become (fleet : Fleet Query Answer) (index : Nat) (phase : Phase Query Answer) :
    Fleet Query Answer :=
  { fleet with phases := Function.update fleet.phases index phase }

/-- `ReloadablePool::new`: a cell that holds a pool. -/
def newCell (fleet : Fleet Query Answer) (cell : Nat) (pool : PoolId) : Fleet Query Answer :=
  { fleet with store :=
      { fleet.store with installed := Function.update fleet.store.installed cell pool } }

variable (parse : String → Except String PgConnectOptions)

/-- The next step of a worker. -/
def advance (fleet : Fleet Query Answer) (index : Nat) : Fleet Query Answer :=
  match fleet.phases index with
  | .creating (.issue stmt resume) =>
      fleet.execute index stmt (fun reply => .creating (resume reply))
  | .creating (.value (pool, worker)) => (fleet.newCell worker.pool pool).become index worker.enter
  | .creating (.failure error) => fleet.become index (.abandoned error)
  | .top worker =>
      match worker.nextExpiry with
      | none => fleet.become index (.halted worker)
      | some _ => fleet.become index (.refreshing worker (worker.refreshOnce parse))
  | .refreshing worker (.issue stmt resume) =>
      fleet.execute index stmt (fun reply => .refreshing worker (resume reply))
  | .refreshing worker (.value next) =>
      fleet.become index { worker with nextExpiry := next }.enter
  | .refreshing worker (.failure _) => fleet.become index (.top worker)
  | .halted _ => fleet
  | .abandoned _ => fleet

/-- A worker takes a step, or the environment changes its answers. -/
def step (fleet : Fleet Query Answer) : Move (PoolDrift Query Answer) → Fleet Query Answer
  | .call index => fleet.advance parse index
  | .drift act => { fleet with store := drift act fleet.store }

/-- A whole schedule. -/
def play (fleet : Fleet Query Answer) (moves : List (Move (PoolDrift Query Answer))) :
    Fleet Query Answer :=
  moves.foldl (step parse) fleet

/-- No pool was created yet. -/
def launch (configs : Nat → BrokerPool) (broker : Except String PostgresCredentialLease)
    (server : Except String Unit) (databases : Query → DbResult Answer) : Fleet Query Answer where
  store := ⟨fun _ => 0, 0, [], broker, server, databases⟩
  phases index := .creating (createPool parse (configs index) index)
  log := []

end Fleet

section Activities

/-- How far a worker is with opening a pool. -/
inductive Stage where
  | begun
  | leased (lease : PostgresCredentialLease) (options : PgConnectOptions)
  | opened (lease : PostgresCredentialLease) (pool : PoolId)
  | failed (error : DatabaseError)

/-- What a pool is opened for. -/
inductive Purpose where
  | creation
  | rotation (nextExpiry : Option Int)

/-- What a worker is doing. -/
inductive Activity where
  | acquiring (purpose : Purpose) (stage : Stage)
  | waiting (nextExpiry : Option Int)
  | swapped (nextExpiry : Option Int) (lease : PostgresCredentialLease) (old : PoolId)
  | closed (nextExpiry : Option Int) (lease : PostgresCredentialLease)
  | halted (nextExpiry : Option Int)
  | abandoned (error : DatabaseError)

variable (parse : String → Except String PgConnectOptions) (config : BrokerPool) (cell : Nat)

/-- The options for a lease of the pool. -/
def BrokerPool.options (lease : PostgresCredentialLease) : DbResult PgConnectOptions :=
  connectOptionsFromLease parse lease config.context.applicationName config.context.poolLabel

/-- What is left of opening a pool, and of what follows. -/
def Stage.rest {α : Type}
    (next : PostgresCredentialLease → PoolId → PoolProgram Nat Query Answer α) :
    Stage → PoolProgram Nat Query Answer α
  | begun => do
      let lease ← obtainBrokerLease config.broker config.context.applicationName
      let options ← ofExcept (config.options parse lease)
      let pool ← instantiatePool options config.context.settings
      next lease pool
  | leased lease options => do
      let pool ← instantiatePool options config.context.settings
      next lease pool
  | opened lease pool => next lease pool
  | failed error => .failure error

/-- What is left of a refresh after the new pool was put into the cell. -/
def closeOld (lease : PostgresCredentialLease) (oldPool : PoolId) :
    PoolProgram Nat Query Answer (Option Int) := do
  let _ : Unit ← ask (PoolStmt.beginClose oldPool)
  return lease.expiresAt

/-- What is left of a refresh when its pool is open. -/
def swap (lease : PostgresCredentialLease) (pool : PoolId) :
    PoolProgram Nat Query Answer (Option Int) := do
  let oldPool : PoolId ← ask (PoolStmt.replace cell pool)
  closeOld lease oldPool

namespace Activity

/-- Where a worker is that does something. -/
def phase : Activity → Phase Query Answer
  | acquiring .creation stage =>
      .creating (stage.rest parse config fun lease pool =>
        .value (pool, config.worker cell lease.expiresAt))
  | acquiring (.rotation nextExpiry) stage =>
      .refreshing (config.worker cell nextExpiry) (stage.rest parse config (swap cell))
  | waiting nextExpiry => .top (config.worker cell nextExpiry)
  | swapped nextExpiry lease old =>
      .refreshing (config.worker cell nextExpiry) (closeOld lease old)
  | closed nextExpiry lease =>
      .refreshing (config.worker cell nextExpiry) (.value lease.expiresAt)
  | halted nextExpiry => .halted (config.worker cell nextExpiry)
  | abandoned error => .abandoned error

/-- What a worker does once it knows the next expiry. -/
def enter : Option Int → Activity
  | none => halted none
  | some expiry => waiting (some expiry)

end Activity

/-- The pool that an exchange opened, and with which options. -/
def opening : Exchange (@PoolReply Nat Query Answer) → Option (PgConnectOptions × PoolId)
  | ⟨.connectWith options _, .ok pool⟩ => some (options, pool)
  | _ => none

/-- The lease that an exchange granted. -/
def granted : Exchange (@PoolReply Nat Query Answer) → Option PostgresCredentialLease
  | ⟨.issueCredentials _, .ok lease⟩ => some lease
  | _ => none

/-- What a worker can do next, what this makes of the pools, and the exchange it takes. -/
inductive Acts (pools : Pools Nat Query Answer) : Activity → Activity →
    Pools Nat Query Answer → List (Exchange (@PoolReply Nat Query Answer)) → Prop where
  | fails {purpose : Purpose} {stage : Stage} {error : DatabaseError}
      {exchange : Exchange (@PoolReply Nat Query Answer)} (unopened : opening exchange = none) :
      Acts pools (.acquiring purpose stage) (.acquiring purpose (.failed error)) pools [exchange]
  | leases {purpose : Purpose} {lease : PostgresCredentialLease} {options : PgConnectOptions}
      {exchange : Exchange (@PoolReply Nat Query Answer)} (grants : granted exchange = some lease)
      (unopened : opening exchange = none) (parsed : config.options parse lease = .ok options) :
      Acts pools (.acquiring purpose .begun) (.acquiring purpose (.leased lease options)) pools
        [exchange]
  | connects {purpose : Purpose} {lease : PostgresCredentialLease} {options : PgConnectOptions}
      {exchange : Exchange (@PoolReply Nat Query Answer)}
      (opens : opening exchange = some (options, pools.opened)) :
      Acts pools (.acquiring purpose (.leased lease options))
        (.acquiring purpose (.opened lease pools.opened))
        { pools with opened := pools.opened + 1 } [exchange]
  | creates {lease : PostgresCredentialLease} {pool : PoolId} :
      Acts pools (.acquiring .creation (.opened lease pool)) (.enter lease.expiresAt)
        { pools with installed := Function.update pools.installed cell pool } []
  | swaps {nextExpiry : Option Int} {lease : PostgresCredentialLease} {pool : PoolId}
      {exchange : Exchange (@PoolReply Nat Query Answer)} (unopened : opening exchange = none) :
      Acts pools (.acquiring (.rotation nextExpiry) (.opened lease pool))
        (.swapped nextExpiry lease (pools.installed cell))
        { pools with installed := Function.update pools.installed cell pool } [exchange]
  | closes {nextExpiry : Option Int} {lease : PostgresCredentialLease} {old : PoolId}
      {exchange : Exchange (@PoolReply Nat Query Answer)} (unopened : opening exchange = none) :
      Acts pools (.swapped nextExpiry lease old) (.closed nextExpiry lease)
        { pools with closing := old :: pools.closing } [exchange]
  | finishes {nextExpiry : Option Int} {lease : PostgresCredentialLease} :
      Acts pools (.closed nextExpiry lease) (.enter lease.expiresAt) pools []
  | abandons {error : DatabaseError} :
      Acts pools (.acquiring .creation (.failed error)) (.abandoned error) pools []
  | retries {nextExpiry : Option Int} {error : DatabaseError} :
      Acts pools (.acquiring (.rotation nextExpiry) (.failed error)) (.waiting nextExpiry) pools []
  | begins {expiry : Int} :
      Acts pools (.waiting (some expiry)) (.acquiring (.rotation (some expiry)) .begun) pools []
  | stops : Acts pools (.waiting none) (.halted none) pools []
  | rests {activity : Activity} : Acts pools activity activity pools []

/-- How far a worker is at first. -/
def BrokerPool.firstStage : Stage :=
  match config.client with
  | .error error => .failed (.configuration
      ("failed to initialise secret-broker client for Postgres credentials: " ++ error))
  | .ok () => .begun

/-- How far a worker is after the broker's reply. -/
def Stage.ofLease : Except String PostgresCredentialLease → Stage
  | .error error => .failed (.configuration
      ("failed to obtain PostgreSQL credentials from secret broker: " ++ error))
  | .ok lease =>
      match config.options parse lease with
      | .error error => .failed error
      | .ok options => .leased lease options

/-- How far a worker is after the server's reply. -/
def Stage.ofConnection (lease : PostgresCredentialLease) : Except String PoolId → Stage
  | .error error => .failed (.configuration ("failed to instantiate connection pool: " ++ error))
  | .ok pool => .opened lease pool

/-- What is left of opening a pool begins with the request for a lease, and goes on with
what its answer makes of it. -/
theorem Stage.rest_begun {α : Type}
    (next : PostgresCredentialLease → PoolId → PoolProgram Nat Query Answer α) :
    ∃ params, Stage.begun.rest parse config next = .issue (.issueCredentials params)
      (fun reply => (Stage.ofLease parse config reply).rest parse config next) := by
  refine ⟨_, congrArg (Program.issue _) (funext fun reply => ?_)⟩
  cases reply with
  | error error => rfl
  | ok lease =>
    change (ofExcept (config.options parse lease) >>= _) = _
    rw [ofLease]
    cases config.options parse lease <;> rfl

variable {parse config cell}

/-- With a lease in hand what is left begins with the connection, under the settings of
the pool. -/
theorem Stage.rest_leased {α : Type} (lease : PostgresCredentialLease)
    (options : PgConnectOptions)
    (next : PostgresCredentialLease → PoolId → PoolProgram Nat Query Answer α) :
    (Stage.leased lease options).rest parse config next =
      .issue (.connectWith options config.context.settings)
        (fun reply => (Stage.ofConnection lease reply).rest parse config next) := by
  refine congrArg (Program.issue _) (funext fun reply => ?_)
  cases reply <;> rfl

/-- A worker that opens a pool asks for a lease, and then for connections. -/
theorem Stage.issues {α : Type} {stage : Stage}
    (unfinished : stage = .begun ∨ ∃ lease options, stage = .leased lease options)
    (next : PostgresCredentialLease → PoolId → PoolProgram Nat Query Answer α)
    (purpose : Purpose) (pools : Pools Nat Query Answer) :
    ∃ stmt resume later, stage.rest parse config next = .issue stmt resume ∧
      resume (exec stmt pools).1 = later.rest parse config next ∧
      Acts parse config cell pools (.acquiring purpose stage) (.acquiring purpose later)
        (exec stmt pools).2 [⟨stmt, (exec stmt pools).1⟩] := by
  obtain rfl | ⟨lease, options, rfl⟩ := unfinished
  · obtain ⟨params, program⟩ := Stage.rest_begun parse config next
    refine ⟨_, _, _, program, rfl, ?_⟩
    simp only [exec]
    cases pools.broker with
    | error error => exact .fails rfl
    | ok lease =>
      rw [ofLease]
      cases parsed : config.options parse lease with
      | error error => exact .fails rfl
      | ok options => exact .leases rfl rfl parsed
  · refine ⟨_, _, _, Stage.rest_leased lease options next, rfl, ?_⟩
    obtain ⟨installed, opened, closing, broker, server, databases⟩ := pools
    cases server with
    | error error => exact .fails rfl
    | ok done =>
      apply Acts.connects
      rfl

/-- The fleet after a worker did something. -/
def Fleet.after (fleet : Fleet Query Answer) (index : Nat) (phase : Phase Query Answer)
    (pools : Pools Nat Query Answer)
    (exchanged : List (Exchange (@PoolReply Nat Query Answer))) : Fleet Query Answer where
  store := pools
  phases := Function.update fleet.phases index phase
  log := exchanged.map (fun exchange => ⟨exchange, index, fleet.store⟩) ++ fleet.log

variable (parse config) in
/-- The next step of a worker is a step of what it is doing. -/
def Fleet.Follows (fleet : Fleet Query Answer) (index : Nat) (activity : Activity) : Prop :=
  ∃ later pools exchanged, Acts parse config index fleet.store activity later pools exchanged ∧
    fleet.advance parse index =
      fleet.after index (later.phase parse config index) pools exchanged

/-- A round is entered as the loop enters it: a worker without an expiry has stopped. -/
theorem Activity.phase_enter (nextExpiry : Option Int) :
    (Activity.enter nextExpiry).phase parse config cell =
      ((config.worker cell nextExpiry).enter : Phase Query Answer) := by
  cases nextExpiry <;> rfl

/-- A worker that rests changes nothing. -/
theorem Fleet.after_rests (fleet : Fleet Query Answer) (index : Nat) :
    fleet.after index (fleet.phases index) fleet.store [] = fleet := by
  rw [after, Function.update_eq_self]
  rfl

/-- A worker that opens a pool goes on with the reply to its statement. -/
theorem Fleet.advance_unfinished {fleet : Fleet Query Answer} {index : Nat} {purpose : Purpose}
    {stage : Stage}
    (unfinished : stage = .begun ∨ ∃ lease options, stage = .leased lease options)
    (doing : fleet.phases index = (Activity.acquiring purpose stage).phase parse config index) :
    fleet.Follows parse config index (.acquiring purpose stage) := by
  cases purpose with
  | creation =>
    obtain ⟨stmt, resume, later, program, resumed, acts⟩ := Stage.issues unfinished
      (fun lease pool => .value (pool, config.worker index lease.expiresAt)) .creation fleet.store
    refine ⟨_, _, _, acts, ?_⟩
    rw [Activity.phase, program] at doing
    rw [advance, doing, Activity.phase, ← resumed]
    rfl
  | rotation nextExpiry =>
    obtain ⟨stmt, resume, later, program, resumed, acts⟩ := Stage.issues unfinished
      (swap index) (.rotation nextExpiry) fleet.store
    refine ⟨_, _, _, acts, ?_⟩
    rw [Activity.phase, program] at doing
    rw [advance, doing, Activity.phase, ← resumed]
    rfl

/-- Every step of a worker is a step of what it is doing. -/
theorem Fleet.advance_follows {fleet : Fleet Query Answer} {index : Nat} {activity : Activity}
    (doing : fleet.phases index = activity.phase parse config index) :
    fleet.Follows parse config index activity := by
  cases activity with
  | acquiring purpose stage =>
    cases stage with
    | begun => exact advance_unfinished (.inl rfl) doing
    | leased lease options => exact advance_unfinished (.inr ⟨lease, options, rfl⟩) doing
    | opened lease pool =>
      cases purpose with
      | creation =>
        refine ⟨_, _, _, .creates, ?_⟩
        rw [advance, doing, Activity.phase_enter]
        rfl
      | rotation nextExpiry =>
        refine ⟨_, _, [⟨.replace index pool, fleet.store.installed index⟩], .swaps rfl, ?_⟩
        rw [advance, doing]
        rfl
    | failed error =>
      cases purpose with
      | creation =>
        refine ⟨_, _, _, .abandons, ?_⟩
        rw [advance, doing]
        rfl
      | rotation nextExpiry =>
        refine ⟨_, _, _, .retries, ?_⟩
        rw [advance, doing]
        rfl
  | waiting nextExpiry =>
    cases nextExpiry with
    | none => exact ⟨_, _, _, .stops, by rw [advance, doing]; rfl⟩
    | some expiry => exact ⟨_, _, _, .begins, by rw [advance, doing]; rfl⟩
  | swapped nextExpiry lease old =>
    refine ⟨_, _, [⟨.beginClose old, ()⟩], .closes rfl, ?_⟩
    rw [advance, doing]
    rfl
  | closed nextExpiry lease =>
    refine ⟨_, _, _, .finishes, ?_⟩
    rw [advance, doing, Activity.phase_enter]
    rfl
  | halted nextExpiry =>
    refine ⟨_, _, _, .rests, ?_⟩
    rw [← doing, after_rests, advance, doing]
    rfl
  | abandoned error =>
    refine ⟨_, _, _, .rests, ?_⟩
    rw [← doing, after_rests, advance, doing]
    rfl

variable (parse config cell) in
/-- A pool that is to be created is not opened yet. -/
theorem createPool_phase :
    (Phase.creating (createPool parse config cell) : Phase Query Answer) =
      (Activity.acquiring .creation config.firstStage).phase parse config cell := by
  rw [createPool, BrokerPool.firstStage]
  cases config.client <;> rfl

end Activities

end SecureDatabase.Rotation
