import Mathlib.Data.List.Nodup
import SecureDatabase.LeaseRotation

/-!
# The books of lease rotation

Every pool has one place: a worker that has opened it, a cell, a worker that has taken it out,
or the list of the closed ones, where it stands once. The expiry that a worker waits for is the
one of the lease that its pool was opened with.
-/

namespace SecureDatabase.Rotation

open Foundation Program

variable {Query Answer : Type}

/-- What a fleet has executed. -/
abbrev FleetLog (Query Answer : Type) :=
  List (Event (Pools Nat Query Answer) (@PoolReply Nat Query Answer))

/-- The latest lease that a worker was granted. -/
def latestLease (past : Past Nat Query Answer) : Option PostgresCredentialLease :=
  past.findSome? granted

/-- What a pool was built from: the options that it was opened with, and the latest lease of the
worker that opened it. -/
def built (pool : PoolId) :
    FleetLog Query Answer → Option (PgConnectOptions × PostgresCredentialLease)
  | [] => none
  | event :: log =>
      match opening event.toExchange with
      | some (options, opened) =>
          if opened = pool then
            (latestLease (exchanges event.call log)).map (fun lease => (options, lease))
          else built pool log
      | none => built pool log

section Places

namespace Activity

/-- The pool that a worker has in hand. -/
def hand : Activity → Hand
  | acquiring _ (.opened _ pool) => .opened pool
  | swapped _ _ old => .takenOut old
  | _ => .empty

/-- Whether the pool of a worker was created. -/
def created : Activity → Bool
  | acquiring .creation _ => false
  | abandoned _ => false
  | _ => true

end Activity

/-- Every pool has one place. -/
structure Held (pools : Pools Nat Query Answer) (activities : Nat → Activity) : Prop where
  installed : ∀ cell, (activities cell).created →
    pools.installed cell < pools.opened ∧ pools.installed cell ∉ pools.closing
  apart : ∀ cell other, (activities cell).created → (activities other).created →
    pools.installed cell = pools.installed other → cell = other
  closing : ∀ pool ∈ pools.closing, pool < pools.opened
  once : pools.closing.Nodup
  opened : ∀ index pool, (activities index).hand = .opened pool →
    pool < pools.opened ∧ pool ∉ pools.closing ∧
      ∀ cell, (activities cell).created → pools.installed cell ≠ pool
  openedApart : ∀ index other pool, (activities index).hand = .opened pool →
    (activities other).hand = .opened pool → index = other
  takenOut : ∀ index pool, (activities index).hand = .takenOut pool →
    pool < pools.opened ∧ pool ∉ pools.closing ∧
      ∀ cell, (activities cell).created → pools.installed cell ≠ pool
  takenOutApart : ∀ index other pool, (activities index).hand = .takenOut pool →
    (activities other).hand = .takenOut pool → index = other
  exclusive : ∀ index other pool, (activities index).hand = .opened pool →
    (activities other).hand ≠ .takenOut pool

variable {pools : Pools Nat Query Answer} {activities : Nat → Activity} {index : Nat}
  {later : Activity}

/-- A worker goes on, and lets go of what it has in hand. -/
theorem Held.goesOn (held : Held pools activities)
    (created : later.created = (activities index).created) (hand : later.hand = .empty) :
    Held pools (Function.update activities index later) := by
  obtain ⟨installed, apart, closing, once, opened, openedApart, takenOut, takenOutApart,
    exclusive⟩ := held
  refine ⟨?_, ?_, closing, once, ?_, ?_, ?_, ?_, ?_⟩
  all_goals simp only [Function.update_apply]; grind

/-- A worker opens a pool. -/
theorem Held.opens (held : Held pools activities)
    (created : later.created = (activities index).created)
    (hand : later.hand = .opened pools.opened) :
    Held { pools with opened := pools.opened + 1 } (Function.update activities index later) := by
  obtain ⟨installed, apart, closing, once, opened, openedApart, takenOut, takenOutApart,
    exclusive⟩ := held
  refine ⟨?_, ?_, ?_, once, ?_, ?_, ?_, ?_, ?_⟩
  all_goals simp only [Function.update_apply]; grind

/-- A worker puts its first pool into its cell. -/
theorem Held.creates (held : Held pools activities) {pool : PoolId}
    (before : (activities index).hand = .opened pool) (hand : later.hand = .empty) :
    Held { pools with installed := Function.update pools.installed index pool }
      (Function.update activities index later) := by
  obtain ⟨installed, apart, closing, once, opened, openedApart, takenOut, takenOutApart,
    exclusive⟩ := held
  refine ⟨?_, ?_, closing, once, ?_, ?_, ?_, ?_, ?_⟩
  all_goals simp only [Function.update_apply]; grind

/-- A worker swaps the pool that it has opened for the one in its cell. -/
theorem Held.swaps (held : Held pools activities) {pool : PoolId}
    (before : (activities index).hand = .opened pool) (created : (activities index).created)
    (hand : later.hand = .takenOut (pools.installed index)) :
    Held { pools with installed := Function.update pools.installed index pool }
      (Function.update activities index later) := by
  obtain ⟨installed, apart, closing, once, opened, openedApart, takenOut, takenOutApart,
    exclusive⟩ := held
  refine ⟨?_, ?_, closing, once, ?_, ?_, ?_, ?_, ?_⟩
  all_goals simp only [Function.update_apply]; grind

/-- A worker closes the pool that it has taken out. -/
theorem Held.closes (held : Held pools activities) {pool : PoolId}
    (before : (activities index).hand = .takenOut pool)
    (created : later.created = (activities index).created) (hand : later.hand = .empty) :
    Held { pools with closing := pool :: pools.closing }
      (Function.update activities index later) := by
  obtain ⟨installed, apart, closing, once, opened, openedApart, takenOut, takenOutApart,
    exclusive⟩ := held
  refine ⟨?_, ?_, ?_, List.nodup_cons.mpr ⟨(takenOut _ _ before).2.1, once⟩, ?_, ?_, ?_, ?_, ?_⟩
  all_goals simp only [Function.update_apply]; grind

/-- Between two rounds a worker has no pool in hand. -/
theorem Activity.hand_enter (nextExpiry : Option Int) :
    (Activity.enter nextExpiry).hand = .empty := by
  cases nextExpiry <;> rfl

/-- A worker that goes round has its cell. -/
theorem Activity.created_enter (nextExpiry : Option Int) :
    (Activity.enter nextExpiry).created = true := by
  cases nextExpiry <;> rfl

/-- Whether there is a cell already depends on the purpose of a pool and not on how far it
is. -/
theorem Activity.created_acquiring (purpose : Purpose) (stage other : Stage) :
    (Activity.acquiring purpose stage).created = (Activity.acquiring purpose other).created := by
  cases purpose <;> rfl

/-- Whatever a worker does, every pool has one place. -/
theorem Held.acts {parse : String → Except String PgConnectOptions} {config : BrokerPool}
    {after : Pools Nat Query Answer} {exchanged : List (Exchange (@PoolReply Nat Query Answer))}
    (held : Held pools activities)
    (acts : Acts parse config index pools (activities index) later after exchanged) :
    Held after (Function.update activities index later) := by
  generalize current : activities index = activity at acts
  cases acts with
  | fails unopened => exact held.goesOn (by rw [current, Activity.created_acquiring]) rfl
  | leases grants unopened parsed =>
    exact held.goesOn (by rw [current, Activity.created_acquiring]) rfl
  | connects opens => exact held.opens (by rw [current, Activity.created_acquiring]) rfl
  | creates => exact held.creates (by rw [current]; rfl) (Activity.hand_enter _)
  | swaps unopened => exact held.swaps (by rw [current]; rfl) (by rw [current]; rfl) rfl
  | closes unopened => exact held.closes (by rw [current]; rfl) (by rw [current]; rfl) rfl
  | finishes =>
    refine held.goesOn ?_ (Activity.hand_enter _)
    rw [current, Activity.created_enter]
    rfl
  | abandons => exact held.goesOn (by rw [current]; rfl) rfl
  | retries => exact held.goesOn (by rw [current]; rfl) rfl
  | begins => exact held.goesOn (by rw [current]; rfl) rfl
  | stops => exact held.goesOn (by rw [current]; rfl) rfl
  | rests =>
    rw [← current, Function.update_eq_self]
    exact held

end Places

section Books

variable (parse : String → Except String PgConnectOptions) (config : BrokerPool)

/-- A pool was opened with the options of a lease of its worker. -/
def BuiltFrom (log : FleetLog Query Answer) (pool : PoolId) (lease : PostgresCredentialLease) :
    Prop :=
  ∃ options, built pool log = some (options, lease) ∧ config.options parse lease = .ok options

/-- An expiry is the one of the lease that a pool was built from. -/
def Timed (log : FleetLog Query Answer) (pool : PoolId) (expiry : Option Int) : Prop :=
  ∃ lease, BuiltFrom parse config log pool lease ∧ expiry = lease.expiresAt

/-- What is known of the lease while a pool is opened with it. -/
def Stage.Booked (past : Past Nat Query Answer) (log : FleetLog Query Answer) : Stage → Prop
  | leased lease options =>
      latestLease past = some lease ∧ config.options parse lease = .ok options
  | opened lease pool => BuiltFrom parse config log pool lease
  | _ => True

/-- The books of a worker whose cell holds a pool. -/
def Activity.Booked (past : Past Nat Query Answer) (log : FleetLog Query Answer)
    (installed : PoolId) : Activity → Prop
  | acquiring .creation stage => stage.Booked parse config past log
  | acquiring (.rotation nextExpiry) stage =>
      Timed parse config log installed nextExpiry ∧ stage.Booked parse config past log
  | waiting nextExpiry => Timed parse config log installed nextExpiry
  | swapped _ lease _ => BuiltFrom parse config log installed lease
  | closed _ lease => BuiltFrom parse config log installed lease
  | halted nextExpiry => Timed parse config log installed nextExpiry
  | abandoned _ => True

variable {parse config}

/-- An event that opens no pool changes nothing about what the pools were built from. -/
theorem built_cons_of_none {event : Event (Pools Nat Query Answer) (@PoolReply Nat Query Answer)}
    (unopened : opening event.toExchange = none) (log : FleetLog Query Answer) (pool : PoolId) :
    built pool (event :: log) = built pool log := by
  rw [built, unopened]

/-- An event that opens a pool settles what this pool was built from: the options it was
opened with and the lease that its worker was granted last. -/
theorem built_cons_of_some {event : Event (Pools Nat Query Answer) (@PoolReply Nat Query Answer)}
    {options : PgConnectOptions} {opened : PoolId}
    (opens : opening event.toExchange = some (options, opened)) (log : FleetLog Query Answer)
    (pool : PoolId) :
    built pool (event :: log) =
      if opened = pool then
        (latestLease (exchanges event.call log)).map (fun lease => (options, lease))
      else built pool log := by
  rw [built, opens]

variable {pools after : Pools Nat Query Answer} {index : Nat} {activity later : Activity}
  {exchanged : List (Exchange (@PoolReply Nat Query Answer))} {log : FleetLog Query Answer}

/-- What a worker does goes to the front of its own exchanges. -/
theorem exchanges_own (exchanged : List (Exchange (@PoolReply Nat Query Answer))) (index : Nat)
    (store : Pools Nat Query Answer) (log : FleetLog Query Answer) :
    exchanges index (exchanged.map (fun exchange => ⟨exchange, index, store⟩) ++ log) =
      exchanged ++ exchanges index log := by
  induction exchanged with
  | nil => rfl
  | cons exchange rest ih =>
    rw [List.map_cons, List.cons_append, exchanges_cons, if_pos rfl, ih]
    rfl

/-- The exchanges of the others stay. -/
theorem exchanges_other (exchanged : List (Exchange (@PoolReply Nat Query Answer)))
    {index other : Nat} (differs : index ≠ other) (store : Pools Nat Query Answer)
    (log : FleetLog Query Answer) :
    exchanges other (exchanged.map (fun exchange => ⟨exchange, index, store⟩) ++ log) =
      exchanges other log := by
  induction exchanged with
  | nil => rfl
  | cons exchange rest ih =>
    rw [List.map_cons, List.cons_append, exchanges_cons, if_neg differs, ih]

/-- What the opened pools were built from stays. -/
theorem Acts.built_after (acts : Acts parse config index pools activity later after exchanged)
    {pool : PoolId} (opened : pool < pools.opened) (log : FleetLog Query Answer) :
    built pool (exchanged.map (fun exchange => ⟨exchange, index, pools⟩) ++ log) =
      built pool log := by
  cases acts with
  | fails unopened => exact built_cons_of_none unopened log pool
  | leases grants unopened parsed => exact built_cons_of_none unopened log pool
  | connects opens =>
    exact (built_cons_of_some opens log pool).trans (if_neg (Nat.ne_of_gt opened))
  | swaps unopened => exact built_cons_of_none unopened log pool
  | closes unopened => exact built_cons_of_none unopened log pool
  | _ => rfl

/-- A worker touches no other cell than its own. -/
theorem Acts.installed_other (acts : Acts parse config index pools activity later after exchanged)
    {other : Nat} (differs : other ≠ index) : after.installed other = pools.installed other := by
  cases acts with
  | creates => exact Function.update_of_ne differs _ _
  | swaps unopened => exact Function.update_of_ne differs _ _
  | _ => rfl

/-- A closed pool stays closed. -/
theorem Acts.closing_subset (acts : Acts parse config index pools activity later after exchanged) :
    pools.closing ⊆ after.closing := by
  cases acts with
  | closes unopened => exact List.subset_cons_self _ _
  | _ => exact List.Subset.refl _

/-- Books stay as long as the pools they mention do. -/
theorem BuiltFrom.congr {other : FleetLog Query Answer} {pool : PoolId}
    {lease : PostgresCredentialLease} (source : BuiltFrom parse config log pool lease)
    (same : built pool other = built pool log) : BuiltFrom parse config other pool lease := by
  obtain ⟨options, found, parsed⟩ := source
  exact ⟨options, same.trans found, parsed⟩

/-- Only what the pool was built from matters for its expiry. -/
theorem Timed.congr {other : FleetLog Query Answer} {pool : PoolId} {expiry : Option Int}
    (timed : Timed parse config log pool expiry) (same : built pool other = built pool log) :
    Timed parse config other pool expiry := by
  obtain ⟨lease, source, expires⟩ := timed
  exact ⟨lease, source.congr same, expires⟩

/-- A worker that enters a round with the expiry of the lease behind its pool has its
books in order. -/
theorem Activity.booked_enter {past : Past Nat Query Answer} {pool : PoolId}
    {lease : PostgresCredentialLease} (source : BuiltFrom parse config log pool lease) :
    (Activity.enter lease.expiresAt).Booked parse config past log pool := by
  cases expires : lease.expiresAt <;> exact ⟨lease, source, expires.symm⟩

/-- The books of a worker that does nothing. -/
theorem Activity.Booked.frame {past : Past Nat Query Answer} {other : FleetLog Query Answer}
    {installed : PoolId} (booked : activity.Booked parse config past log installed)
    (stays : activity.created → built installed other = built installed log)
    (keeps : ∀ pool, activity.hand = .opened pool → built pool other = built pool log) :
    activity.Booked parse config past other installed := by
  have stage_frame {purpose : Purpose} {stage : Stage}
      (same : activity = .acquiring purpose stage) (known : stage.Booked parse config past log) :
      stage.Booked parse config past other := by
    cases stage with
    | opened lease pool => exact BuiltFrom.congr known (keeps pool (by rw [same]; rfl))
    | _ => exact known
  cases activity with
  | acquiring purpose stage =>
    cases purpose with
    | creation => exact stage_frame rfl booked
    | rotation nextExpiry => exact ⟨booked.1.congr (stays rfl), stage_frame rfl booked.2⟩
  | waiting nextExpiry => exact Timed.congr booked (stays rfl)
  | swapped nextExpiry lease old => exact BuiltFrom.congr booked (stays rfl)
  | closed nextExpiry lease => exact BuiltFrom.congr booked (stays rfl)
  | halted nextExpiry => exact Timed.congr booked (stays rfl)
  | abandoned error => trivial

/-- Another stage of opening a pool leaves the rest of the books as they are. -/
theorem Activity.Booked.stage {past later : Past Nat Query Answer} {other : FleetLog Query Answer}
    {installed : PoolId} {purpose : Purpose} {first second : Stage}
    (booked : (Activity.acquiring purpose first).Booked parse config past log installed)
    (stays : (Activity.acquiring purpose first).created →
      built installed other = built installed log)
    (known : second.Booked parse config later other) :
    (Activity.acquiring purpose second).Booked parse config later other installed := by
  cases purpose with
  | creation => exact known
  | rotation nextExpiry => exact ⟨booked.1.congr (stays rfl), known⟩

/-- Whatever a new pool is for, what is known of its lease is in the books. -/
theorem Activity.Booked.known {past : Past Nat Query Answer} {installed : PoolId}
    {purpose : Purpose} {stage : Stage}
    (booked : (Activity.acquiring purpose stage).Booked parse config past log installed) :
    stage.Booked parse config past log := by
  cases purpose with
  | creation => exact booked
  | rotation nextExpiry => exact booked.2

/-- Whatever a worker does, it keeps its books. -/
theorem Activity.Booked.acts
    (booked : activity.Booked parse config (exchanges index log) log (pools.installed index))
    (acts : Acts parse config index pools activity later after exchanged)
    (installed : activity.created → pools.installed index < pools.opened)
    (inHand : ∀ pool, activity.hand = .opened pool → pool < pools.opened) :
    later.Booked parse config (exchanged ++ exchanges index log)
      (exchanged.map (fun exchange => ⟨exchange, index, pools⟩) ++ log)
      (after.installed index) := by
  have same (pool : PoolId) (opened : pool < pools.opened) := acts.built_after opened log
  have stays := fun created => same _ (installed created)
  cases acts with
  | fails unopened => exact booked.stage stays trivial
  | leases grants unopened parsed =>
    refine booked.stage stays ⟨?_, parsed⟩
    simp [latestLease, grants]
  | connects opens =>
    obtain ⟨latest, parsed⟩ := booked.known
    refine booked.stage stays ⟨_, ?_, parsed⟩
    refine (built_cons_of_some opens log _).trans ?_
    rw [if_pos rfl, latest]
    rfl
  | creates =>
    dsimp only
    rw [Function.update_self]
    exact Activity.booked_enter booked
  | swaps unopened =>
    dsimp only
    rw [Activity.Booked, Function.update_self]
    exact booked.2.congr (same _ (inHand _ rfl))
  | closes unopened => exact BuiltFrom.congr booked (stays rfl)
  | finishes => exact Activity.booked_enter booked
  | abandons => trivial
  | retries => exact booked.1
  | begins => exact ⟨booked, trivial⟩
  | stops => exact booked
  | rests => exact booked

end Books

section Fleets

variable {parse : String → Except String PgConnectOptions} {configs : Nat → BrokerPool}

/-- What all workers are doing, and that every pool has one place and every worker its books. -/
structure Doing (parse : String → Except String PgConnectOptions) (configs : Nat → BrokerPool)
    (fleet : Fleet Query Answer) (activities : Nat → Activity) : Prop where
  phases : ∀ index, fleet.phases index = (activities index).phase parse (configs index) index
  held : Held fleet.store activities
  booked : ∀ index, (activities index).Booked parse (configs index)
    (exchanges index fleet.log) fleet.log (fleet.store.installed index)

/-- At first every worker is about to open its first pool, and there are no books to
keep. -/
theorem doing_launch (parse : String → Except String PgConnectOptions)
    (configs : Nat → BrokerPool) (broker : Except String PostgresCredentialLease)
    (server : Except String Unit) (databases : Query → DbResult Answer) :
    Doing parse configs (Fleet.launch parse configs broker server databases)
      (fun index => .acquiring .creation (configs index).firstStage) := by
  have unopened (index : Nat) :
      (Activity.acquiring .creation (configs index).firstStage).hand = .empty := by
    unfold BrokerPool.firstStage
    cases (configs index).client <;> rfl
  refine ⟨fun index => createPool_phase parse (configs index) index, ?_, ?_⟩
  · constructor <;> simp [unopened, Fleet.launch, Activity.created]
  · intro index
    change Stage.Booked _ _ _ _ (configs index).firstStage
    unfold BrokerPool.firstStage
    cases (configs index).client <;> trivial

/-- Each move is a step of what one worker is doing, or of nobody. -/
theorem Doing.step {fleet : Fleet Query Answer} {activities : Nat → Activity}
    (doing : Doing parse configs fleet activities) (move : Move (PoolDrift Query Answer)) :
    (∃ index later pools exchanged, move = .call index ∧
        Acts parse (configs index) index fleet.store (activities index) later pools exchanged ∧
        (fleet.step parse move).store = pools ∧
        Doing parse configs (fleet.step parse move) (Function.update activities index later)) ∨
      ((fleet.step parse move).store.installed = fleet.store.installed ∧
        (fleet.step parse move).store.closing = fleet.store.closing ∧
        Doing parse configs (fleet.step parse move) activities) := by
  cases move with
  | drift act =>
    obtain ⟨phases, held, booked⟩ := doing
    right
    cases act <;>
      exact ⟨rfl, rfl, phases, ⟨held.installed, held.apart, held.closing, held.once, held.opened,
        held.openedApart, held.takenOut, held.takenOutApart, held.exclusive⟩, booked⟩
  | call index =>
    obtain ⟨later, pools, exchanged, acts, moved⟩ := Fleet.advance_follows (doing.phases index)
    refine .inl ⟨index, later, pools, exchanged, rfl, acts, ?_, ?_, ?_, ?_⟩
    · rw [Fleet.step, moved]
      rfl
    · intro other
      rw [Fleet.step, moved, Fleet.after]
      by_cases own : other = index
      · subst other
        rw [Function.update_self]
        exact Function.update_self _ _ _
      · rw [Function.update_of_ne own]
        exact (Function.update_of_ne own _ _).trans (doing.phases other)
    · rw [Fleet.step, moved]
      exact doing.held.acts acts
    · intro other
      rw [Fleet.step, moved, Fleet.after]
      dsimp only
      by_cases own : other = index
      · subst other
        rw [Function.update_self, exchanges_own]
        exact (doing.booked index).acts acts (fun created => (doing.held.installed _ created).1)
          (fun pool opened => (doing.held.opened _ _ opened).1)
      · rw [Function.update_of_ne own, exchanges_other _ (Ne.symm own), acts.installed_other own]
        exact (doing.booked other).frame
          (fun created => acts.built_after (doing.held.installed _ created).1 _)
          (fun pool opened => acts.built_after (doing.held.opened _ _ opened).1 _)

/-- A schedule may be played in two parts. -/
theorem Fleet.play_append (fleet : Fleet Query Answer)
    (first second : List (Move (PoolDrift Query Answer))) :
    fleet.play parse (first ++ second) = (fleet.play parse first).play parse second :=
  List.foldl_append

/-- Every reachable fleet is doing something. -/
theorem doing_play {fleet : Fleet Query Answer} {activities : Nat → Activity}
    (doing : Doing parse configs fleet activities) (moves : List (Move (PoolDrift Query Answer))) :
    ∃ later, Doing parse configs (fleet.play parse moves) later := by
  induction moves generalizing fleet activities with
  | nil => exact ⟨activities, doing⟩
  | cons move moves ih =>
    rcases doing.step move with ⟨index, later, pools, exchanged, -, -, -, next⟩ | ⟨-, -, next⟩
    · exact ih next
    · exact ih next

/-- For one worker, each move is its own, or leaves its cell and its activity alone. -/
theorem Doing.step_at {fleet : Fleet Query Answer} {activities : Nat → Activity}
    (doing : Doing parse configs fleet activities) (move : Move (PoolDrift Query Answer))
    (cell : Nat) :
    ∃ later, Doing parse configs (fleet.step parse move) later ∧
      ((∃ exchanged, Acts parse (configs cell) cell fleet.store (activities cell) (later cell)
          (fleet.step parse move).store exchanged) ∨
        later cell = activities cell ∧
          (fleet.step parse move).store.installed cell = fleet.store.installed cell ∧
          fleet.store.closing ⊆ (fleet.step parse move).store.closing) := by
  rcases doing.step move with
    ⟨index, later, pools, exchanged, -, acts, rfl, next⟩ | ⟨installed, closing, next⟩
  · refine ⟨_, next, ?_⟩
    by_cases own : cell = index
    · subst cell
      rw [Function.update_self]
      exact .inl ⟨exchanged, acts⟩
    · rw [Function.update_of_ne own]
      exact .inr ⟨rfl, acts.installed_other own, acts.closing_subset⟩
  · refine ⟨activities, next, .inr ⟨rfl, congrFun installed cell, ?_⟩⟩
    rw [closing]
    exact List.Subset.refl _

/-- A worker at the top of its loop is waiting. -/
theorem Doing.top {fleet : Fleet Query Answer} {activities : Nat → Activity}
    (doing : Doing parse configs fleet activities) {index : Nat} {worker : BrokerLeaseWorker Nat}
    (top : fleet.phases index = .top worker) :
    activities index = .waiting worker.nextExpiry ∧
      worker = (configs index).worker index worker.nextExpiry := by
  have phase := (doing.phases index).symm.trans top
  generalize activities index = activity at phase
  cases activity with
  | waiting nextExpiry =>
    cases phase
    exact ⟨rfl, rfl⟩
  | acquiring purpose stage => cases purpose <;> cases phase
  | _ => cases phase

/-- The expiry at the top is the one of the lease that the installed pool was built from. -/
theorem Doing.timed {fleet : Fleet Query Answer} {activities : Nat → Activity}
    (doing : Doing parse configs fleet activities) {index : Nat} {worker : BrokerLeaseWorker Nat}
    (top : fleet.phases index = .top worker) :
    ∃ options lease,
      built (fleet.store.installed worker.pool) fleet.log = some (options, lease) ∧
      connectOptionsFromLease parse lease worker.applicationName worker.poolLabel = .ok options ∧
      worker.nextExpiry = lease.expiresAt := by
  obtain ⟨waiting, named⟩ := doing.top top
  have booked := doing.booked index
  rw [waiting] at booked
  obtain ⟨lease, ⟨options, found, parsed⟩, expires⟩ := booked
  rw [named]
  exact ⟨options, lease, found, parsed, expires⟩

/-- The pool that is installed at the top has not been closed. -/
theorem Doing.unclosed {fleet : Fleet Query Answer} {activities : Nat → Activity}
    (doing : Doing parse configs fleet activities) {index : Nat} {worker : BrokerLeaseWorker Nat}
    (top : fleet.phases index = .top worker) :
    fleet.store.installed worker.pool ∉ fleet.store.closing := by
  obtain ⟨waiting, named⟩ := doing.top top
  rw [named]
  exact (doing.held.installed index (by rw [waiting]; rfl)).2

/-- A worker of a pool was created with its cell. -/
theorem Doing.worker {fleet : Fleet Query Answer} {activities : Nat → Activity}
    (doing : Doing parse configs fleet activities) {index : Nat} {worker : BrokerLeaseWorker Nat}
    (created : (fleet.phases index).worker = some worker) :
    (activities index).created ∧ worker.pool = index := by
  rw [doing.phases index] at created
  generalize activities index = activity at created
  cases activity with
  | acquiring purpose stage =>
    cases purpose with
    | creation => cases created
    | rotation nextExpiry =>
      cases created
      exact ⟨rfl, rfl⟩
  | abandoned error => cases created
  | _ =>
    cases created
    exact ⟨rfl, rfl⟩

/-- A pool that a cell has held is still there, in the hand of its worker, or closed. -/
def Remembered (store : Pools Nat Query Answer) (activity : Activity) (cell : Nat)
    (pool : PoolId) : Prop :=
  activity.created ∧
    (store.installed cell = pool ∨ activity.hand = .takenOut pool ∨ pool ∈ store.closing)

/-- No action loses a pool: it is taken out of a cell into the hand, and from there it is
closed. -/
theorem Remembered.acts {config : BrokerPool} {pools after : Pools Nat Query Answer} {index : Nat}
    {activity later : Activity} {exchanged : List (Exchange (@PoolReply Nat Query Answer))}
    {pool : PoolId} (remembered : Remembered pools activity index pool)
    (acts : Acts parse config index pools activity later after exchanged) :
    Remembered after later index pool := by
  obtain ⟨created, place⟩ := remembered
  have acquiring {purpose : Purpose} {stage : Stage}
      (same : activity = .acquiring purpose stage) :
      pools.installed index = pool ∨ pool ∈ pools.closing := by
    rcases place with here | taken | gone
    · exact .inl here
    · rw [same] at taken
      cases stage <;> cases taken
    · exact .inr gone
  cases acts with
  | fails unopened =>
    exact ⟨(Activity.created_acquiring _ _ _).trans created, (acquiring rfl).imp_right .inr⟩
  | leases grants unopened parsed =>
    exact ⟨(Activity.created_acquiring _ _ _).trans created, (acquiring rfl).imp_right .inr⟩
  | connects opens =>
    exact ⟨(Activity.created_acquiring _ _ _).trans created, (acquiring rfl).imp_right .inr⟩
  | creates => cases created
  | swaps unopened =>
    refine ⟨rfl, .inr ?_⟩
    rcases acquiring rfl with here | gone
    · exact .inl (congrArg Hand.takenOut here)
    · exact .inr gone
  | closes unopened =>
    refine ⟨rfl, ?_⟩
    rcases place with here | taken | gone
    · exact .inl here
    · cases taken
      exact .inr (.inr List.mem_cons_self)
    · exact .inr (.inr (List.mem_cons_of_mem _ gone))
  | finishes =>
    refine ⟨Activity.created_enter _, ?_⟩
    rcases place with here | taken | gone
    · exact .inl here
    · cases taken
    · exact .inr (.inr gone)
  | abandons => cases created
  | retries => exact ⟨rfl, (acquiring rfl).imp_right .inr⟩
  | begins => exact ⟨rfl, place⟩
  | stops => exact ⟨rfl, place⟩
  | rests => exact ⟨created, place⟩

/-- The pools that a cell has held are remembered for ever. -/
theorem Doing.remembers {fleet : Fleet Query Answer} {activities : Nat → Activity}
    (doing : Doing parse configs fleet activities) {cell : Nat} {pool : PoolId}
    (remembered : Remembered fleet.store (activities cell) cell pool)
    (moves : List (Move (PoolDrift Query Answer))) :
    ∃ later, Doing parse configs (fleet.play parse moves) later ∧
      Remembered (fleet.play parse moves).store (later cell) cell pool := by
  induction moves generalizing fleet activities with
  | nil => exact ⟨activities, doing, remembered⟩
  | cons move moves ih =>
    obtain ⟨later, next, ⟨exchanged, acts⟩ | ⟨same, installed, closing⟩⟩ := doing.step_at move cell
    · exact ih next (remembered.acts acts)
    · refine ih next ?_
      rw [same, Remembered, installed]
      exact ⟨remembered.1, remembered.2.imp_right (Or.imp_right fun gone => closing gone)⟩

/-- When a worker is at the top, the other pools that its cell has held are closed, once. -/
theorem Doing.closed_once {fleet : Fleet Query Answer} {activities : Nat → Activity}
    (doing : Doing parse configs fleet activities) {cell : Nat} {pool : PoolId}
    {worker : BrokerLeaseWorker Nat} (top : fleet.phases cell = .top worker)
    (remembered : Remembered fleet.store (activities cell) cell pool)
    (differs : fleet.store.installed worker.pool ≠ pool) :
    fleet.store.closing.count pool = 1 := by
  obtain ⟨waiting, named⟩ := doing.top top
  have own : worker.pool = cell := by rw [named]; rfl
  obtain ⟨-, here | taken | gone⟩ := remembered
  · rw [own] at differs
    exact absurd here differs
  · rw [waiting] at taken
    cases taken
  · exact List.count_eq_one_of_mem doing.held.once gone

/-- What is left of a worker's round since it was at the top: nothing was put into its cell, or
the round cannot fail any more. -/
def Since (nextExpiry : Option Int) (pool : PoolId) (installed : PoolId) : Activity → Prop
  | .waiting expiry => expiry = nextExpiry ∧ installed = pool
  | .acquiring (.rotation expiry) _ => expiry = nextExpiry ∧ installed = pool
  | .swapped _ _ _ => True
  | .closed _ _ => True
  | .halted _ => True
  | _ => False

/-- How far a rotation is does not matter as long as it has put nothing into its cell. -/
theorem Since.stage {nextExpiry : Option Int} {pool installed : PoolId} {purpose : Purpose}
    {first second : Stage} (since : Since nextExpiry pool installed (.acquiring purpose first)) :
    Since nextExpiry pool installed (.acquiring purpose second) := by
  cases purpose with
  | creation => exact since.elim
  | rotation expiry => exact since

/-- A round that is not over goes on: until its swap the old pool stays, and after its
swap it ends in a success. -/
theorem Since.acts {config : BrokerPool} {pools after : Pools Nat Query Answer} {index : Nat}
    {activity later : Activity} {exchanged : List (Exchange (@PoolReply Nat Query Answer))}
    {nextExpiry : Option Int} {pool : PoolId}
    (since : Since nextExpiry pool (pools.installed index) activity)
    (acts : Acts parse config index pools activity later after exchanged)
    (between : ∀ expiry, later ≠ .waiting expiry) :
    Since nextExpiry pool (after.installed index) later := by
  cases acts with
  | fails unopened => exact since.stage
  | leases grants unopened parsed => exact since.stage
  | connects opens => exact since.stage
  | creates => exact since.elim
  | swaps unopened => trivial
  | closes unopened => trivial
  | finishes =>
    generalize PostgresCredentialLease.expiresAt _ = next at between ⊢
    cases next with
    | none => trivial
    | some expiry => exact absurd rfl (between (some expiry))
  | abandons => exact since.elim
  | retries => exact since
  | begins => exact since
  | stops => trivial
  | rests => exact since

/-- At the top of the loop a round begins, with nothing done. -/
theorem Doing.since_top {fleet : Fleet Query Answer} {activities : Nat → Activity}
    (doing : Doing parse configs fleet activities) {cell : Nat} {worker : BrokerLeaseWorker Nat}
    (top : fleet.phases cell = .top worker) :
    Since worker.nextExpiry (fleet.store.installed cell) (fleet.store.installed cell)
      (activities cell) := by
  rw [(doing.top top).1]
  exact ⟨rfl, rfl⟩

/-- Since a worker was at the top, its round has not failed, or nothing has changed. -/
theorem Doing.since {fleet : Fleet Query Answer} {activities : Nat → Activity}
    (doing : Doing parse configs fleet activities) {cell : Nat} {nextExpiry : Option Int}
    {pool : PoolId} (since : Since nextExpiry pool (fleet.store.installed cell) (activities cell))
    {moves : List (Move (PoolDrift Query Answer))}
    (between : Along (Fleet.step parse)
      (fun current move => ∀ worker, (current.step parse move).phases cell ≠ .top worker)
      fleet moves) :
    ∃ later, Doing parse configs (fleet.play parse moves) later ∧
      Since nextExpiry pool ((fleet.play parse moves).store.installed cell) (later cell) := by
  induction moves generalizing fleet activities with
  | nil => exact ⟨activities, doing, since⟩
  | cons move moves ih =>
    obtain ⟨notTop, rest⟩ := between
    obtain ⟨later, next, ⟨exchanged, acts⟩ | ⟨same, installed, -⟩⟩ := doing.step_at move cell
    · refine ih next (since.acts acts ?_) rest
      intro expiry waiting
      have phase := next.phases cell
      rw [waiting] at phase
      exact notTop _ phase
    · refine ih next ?_ rest
      rw [same, installed]
      exact since

/-- A round that fails has changed nothing. -/
theorem Doing.failed {fleet : Fleet Query Answer} {activities : Nat → Activity}
    (doing : Doing parse configs fleet activities) {cell : Nat} {nextExpiry : Option Int}
    {pool : PoolId} (since : Since nextExpiry pool (fleet.store.installed cell) (activities cell))
    {worker : BrokerLeaseWorker Nat} {error : DatabaseError}
    (failed : fleet.phases cell = .refreshing worker (.failure error)) :
    worker = (configs cell).worker cell nextExpiry ∧ fleet.store.installed cell = pool := by
  have phase := (doing.phases cell).symm.trans failed
  generalize activities cell = activity at phase since
  cases activity with
  | acquiring purpose stage =>
    cases purpose with
    | creation => cases phase
    | rotation expiry =>
      obtain ⟨rfl, same⟩ := since
      exact ⟨(Phase.refreshing.inj phase).1.symm, same⟩
  | swapped expiry lease old => cases phase
  | closed expiry lease => cases phase
  | _ => cases phase

/-- A round that has failed since its worker was at the top has changed nothing. -/
theorem Doing.failed_since {fleet : Fleet Query Answer} {activities : Nat → Activity}
    (doing : Doing parse configs fleet activities) {cell : Nat}
    {worker current : BrokerLeaseWorker Nat} (top : fleet.phases cell = .top worker)
    {moves : List (Move (PoolDrift Query Answer))}
    (between : Along (Fleet.step parse)
      (fun current move => ∀ other, (current.step parse move).phases cell ≠ .top other)
      fleet moves)
    {error : DatabaseError}
    (failed : (fleet.play parse moves).phases cell = .refreshing current (.failure error)) :
    current = worker ∧
      (fleet.play parse moves).store.installed worker.pool =
        fleet.store.installed worker.pool := by
  obtain ⟨later, now, since⟩ := doing.since (doing.since_top top) between
  obtain ⟨same, kept⟩ := now.failed since failed
  have named := (doing.top top).2
  have own : worker.pool = cell := by
    rw [named]
    rfl
  rw [← named] at same
  rw [own]
  exact ⟨same, kept⟩

end Fleets

section Runs

variable (parse : String → Except String PgConnectOptions)

/-- What holds of a schedule from some start. -/
structure KeepsBooks (start : Fleet Query Answer) (moves : List (Move (PoolDrift Query Answer))) :
    Prop where
  /-- The expiry at the top is the one of the lease that the installed pool was built from. -/
  timed : ∀ index worker, (start.play parse moves).phases index = .top worker →
    ∃ options lease,
      built ((start.play parse moves).store.installed worker.pool) (start.play parse moves).log =
        some (options, lease) ∧
      connectOptionsFromLease parse lease worker.applicationName worker.poolLabel = .ok options ∧
      worker.nextExpiry = lease.expiresAt
  /-- The installed pool has not been closed. -/
  unclosed : ∀ index worker, (start.play parse moves).phases index = .top worker →
    (start.play parse moves).store.installed worker.pool ∉ (start.play parse moves).store.closing
  /-- A pool that was installed before has been closed once. -/
  closedOnce : ∀ first second index earlier worker pool, moves = first ++ second →
    ((start.play parse first).phases index).worker = some earlier →
    (start.play parse first).store.installed earlier.pool = pool →
    (start.play parse moves).phases index = .top worker →
    (start.play parse moves).store.installed worker.pool ≠ pool →
      (start.play parse moves).store.closing.count pool = 1
  /-- A refresh that fails leaves the installed pool and the expiry as they were, and brings the
  worker back to the top. -/
  failed : ∀ first second index worker current error, moves = first ++ second →
    (start.play parse first).phases index = .top worker →
    Along (Fleet.step parse)
      (fun fleet move => ∀ other, (fleet.step parse move).phases index ≠ .top other)
      (start.play parse first) second →
    (start.play parse moves).phases index = .refreshing current (.failure error) →
      current = worker ∧
      (start.play parse moves).store.installed worker.pool =
        (start.play parse first).store.installed worker.pool ∧
      ((start.play parse moves).step parse (.call index)).phases index = .top worker ∧
      ((start.play parse moves).step parse (.call index)).store = (start.play parse moves).store

/-- Whatever the schedule of the workers and the answers of the broker and the server, the
workers keep their books.

Proof: one step of a worker takes what it is doing to what it is doing next, and its books
with it. So every state reached has such a description, and each part of the statement is read
off the books of a worker that is at the top of its loop. -/
theorem lease_rotation_keeps_books (configs : Nat → BrokerPool)
    (broker : Except String PostgresCredentialLease) (server : Except String Unit)
    (databases : Query → DbResult Answer) (moves : List (Move (PoolDrift Query Answer))) :
    KeepsBooks parse (Fleet.launch parse configs broker server databases) moves := by
  have reached (moves : List (Move (PoolDrift Query Answer))) :=
    doing_play (doing_launch parse configs broker server databases) moves
  constructor
  · intro index worker top
    obtain ⟨activities, doing⟩ := reached moves
    exact doing.timed top
  · intro index worker top
    obtain ⟨activities, doing⟩ := reached moves
    exact doing.unclosed top
  · rintro first second index earlier worker pool rfl created held top differs
    obtain ⟨activities, doing⟩ := reached first
    obtain ⟨made, own⟩ := doing.worker created
    rw [own] at held
    obtain ⟨later, now, remembered⟩ := doing.remembers ⟨made, .inl held⟩ second
    rw [Fleet.play_append] at top differs ⊢
    exact now.closed_once top remembered differs
  · rintro first second index worker current error rfl top between failed
    obtain ⟨activities, doing⟩ := reached first
    rw [Fleet.play_append] at failed ⊢
    obtain ⟨rfl, kept⟩ := doing.failed_since top between failed
    refine ⟨rfl, kept, ?_, ?_⟩
    · rw [Fleet.step, Fleet.advance, failed]
      exact Function.update_self _ _ _
    · rw [Fleet.step, Fleet.advance, failed]
      rfl

/-- A round that succeeds, and one whose connections fail. -/
example :
    let start : Fleet String Unit := Fleet.launch parseSample
      (fun _ => ⟨⟨"postgres", ["gateway"], 3600⟩, ⟨"secure-database", "data", ⟨16, 1, 30, 600⟩⟩,
        .ok ()⟩) (.ok sampleLease) (.ok ()) (fun _ => .ok ())
    let rotated := start.play parseSample (List.replicate 9 (.call 0))
    let failed := rotated.play parseSample
      (.drift (.server (.error "refused")) :: List.replicate 4 (.call 0))
    (rotated.store.installed 0, rotated.store.closing) = (1, [0]) ∧
      (failed.store.installed 0, failed.store.closing) = (1, [0]) ∧ failed.log.length = 8 := by
  decide +kernel

end Runs

end SecureDatabase.Rotation
