import SecureDatabase.NativeConfig

/-!
# When a lease worker refreshes

The loop of a lease worker with its clock. At the top of the loop the worker sleeps until one
grace period before the expiry that it knows of, unless that has passed. Then it asks for a new
lease, and after a failure it sleeps for the retry period before it is at the top again. After a
success it does not sleep of its own accord: how long it waits for the next request is left to
the top of the loop.

A sleep takes exactly its duration. How long an attempt takes, when in it the lease is granted,
and what the broker and the server answer is up to the surroundings, round by round. Times are
integers, in nanoseconds.
-/

namespace SecureDatabase.Rotation

open Foundation Program

variable {Cell Query Answer : Type}

/-- A number of seconds in nanoseconds. -/
def seconds (count : Int) : Int := count * 1000000000

/-- How long before its expiry a lease is to be renewed. -/
def leaseRefreshGraceSecs : Int := 60

/-- How long the worker sleeps after a failure. -/
def leaseRefreshRetrySecs : Int := 15

/-- How long the worker sleeps at the top of its loop. -/
def waitDuration (expiry now : Int) : Int :=
  let refreshAt := expiry - seconds leaseRefreshGraceSecs
  if refreshAt > now then refreshAt - now else 0

namespace BrokerLeaseWorker

variable (parse : String → Except String PgConnectOptions)

/-- A refresh, with the lease whose pool it has put into the cell. -/
def refreshLease (worker : BrokerLeaseWorker Cell) :
    PoolProgram Cell Query Answer PostgresCredentialLease := do
  let lease ← obtainBrokerLease worker.credential worker.applicationName
  let options ← ofExcept
    (connectOptionsFromLease parse lease worker.applicationName worker.poolLabel)
  let pool ← instantiatePool options worker.settings
  let oldPool : PoolId ← ask (PoolStmt.replace worker.pool pool)
  let _ : Unit ← ask (PoolStmt.beginClose oldPool)
  return lease

/-- What a refresh returns is the expiry of that lease. -/
theorem refreshOnce_eq (worker : BrokerLeaseWorker Cell) :
    (worker.refreshOnce parse : PoolProgram Cell Query Answer (Option Int)) =
      worker.refreshLease parse >>= fun lease => pure lease.expiresAt := by
  simp only [refreshOnce, refreshLease, bind_assoc]
  rfl

end BrokerLeaseWorker

/-- The worker at the top of its loop, with the lease that the pool in its cell was opened with.
The worker knows when that lease expires. -/
structure LeaseLoop (Query Answer : Type) where
  now : Int
  worker : BrokerLeaseWorker Nat
  installed : PostgresCredentialLease
  pools : Pools Nat Query Answer
  known : worker.nextExpiry = installed.expiresAt

/-- What the surroundings do in one round: how long the attempt takes before a lease is granted
and after that, and what changes before each of its statements. -/
structure Surroundings (Query Answer : Type) where
  beforeGrant : Nat
  afterGrant : Nat
  acts : List (PoolDrift Query Answer)

namespace LeaseLoop

variable (parse : String → Except String PgConnectOptions)

/-- How the attempt of a round ends, and what it leaves of the pools. A worker that knows of no
expiry has stopped. -/
def attempt (state : LeaseLoop Query Answer) (around : Surroundings Query Answer) :
    Option (DbResult PostgresCredentialLease × Pools Nat Query Answer) :=
  match state.worker.nextExpiry with
  | none => none
  | some _ => some ((state.worker.refreshLease parse).paced exec drift around.acts state.pools)

/-- How long the worker sleeps at the top of its loop. -/
def pause (state : LeaseLoop Query Answer) : Int :=
  match state.worker.nextExpiry with
  | none => 0
  | some expiry => waitDuration expiry state.now

/-- When the lease of a round is requested. -/
def requestedAt (state : LeaseLoop Query Answer) : Int := state.now + state.pause

/-- When the lease of a round is granted, if it is. -/
def grantedAt (state : LeaseLoop Query Answer) (around : Surroundings Query Answer) : Int :=
  state.requestedAt + around.beforeGrant

/-- When the attempt of a round is over. -/
def returnedAt (state : LeaseLoop Query Answer) (around : Surroundings Query Answer) : Int :=
  state.grantedAt around + around.afterGrant

/-- One round of the loop. -/
def round (state : LeaseLoop Query Answer) (around : Surroundings Query Answer) :
    LeaseLoop Query Answer :=
  match state.attempt parse around with
  | none => state
  | some (.ok lease, pools) =>
      { now := state.returnedAt around
        worker := { state.worker with nextExpiry := lease.expiresAt }
        installed := lease
        pools
        known := rfl }
  | some (.error _, pools) =>
      { state with now := state.returnedAt around + seconds leaseRefreshRetrySecs, pools }

/-- The worker at the top of its loop after a number of rounds. -/
def after (start : LeaseLoop Query Answer) (around : Nat → Surroundings Query Answer) :
    Nat → LeaseLoop Query Answer
  | 0 => start
  | count + 1 => (start.after around count).round parse (around count)

/-- The lease that the attempt of a round has installed. -/
def grant (state : LeaseLoop Query Answer) (around : Surroundings Query Answer) :
    Option PostgresCredentialLease :=
  (state.attempt parse around).bind fun ended => ended.1.toOption

/-- Whether the attempt of a round fails. -/
def fails (state : LeaseLoop Query Answer) (around : Surroundings Query Answer) : Bool :=
  (state.attempt parse around).any fun ended => ended.1.toOption.isNone

/-- Whether the next round requests a lease. -/
def Requests (state : LeaseLoop Query Answer) : Prop := state.worker.nextExpiry ≠ none

/-- How long the worker sleeps between the request of a round and that of the next. -/
def slept (state : LeaseLoop Query Answer) (around : Surroundings Query Answer) : Int :=
  (if state.fails parse around then seconds leaseRefreshRetrySecs else 0) +
    (state.round parse around).pause

section Rounds

variable {parse} {state : LeaseLoop Query Answer} {around : Surroundings Query Answer}

/-- A round of a worker that has stopped does nothing. One that installs a lease is over when its
attempt is; one that fails leaves the lease, and is over one retry period later. -/
theorem round_cases (parse : String → Except String PgConnectOptions)
    (state : LeaseLoop Query Answer) (around : Surroundings Query Answer) :
    (state.installed.expiresAt = none ∧ state.round parse around = state) ∨
      (∃ expiry, state.installed.expiresAt = some expiry ∧
        state.requestedAt = state.now + waitDuration expiry state.now ∧
        ((∃ lease, state.grant parse around = some lease ∧ state.fails parse around = false ∧
            (state.round parse around).installed = lease ∧
            (state.round parse around).now = state.returnedAt around) ∨
          state.grant parse around = none ∧ state.fails parse around = true ∧
            (state.round parse around).installed = state.installed ∧
            (state.round parse around).now =
              state.returnedAt around + seconds leaseRefreshRetrySecs)) := by
  cases known : state.worker.nextExpiry with
  | none =>
    refine .inl ⟨state.known.symm.trans known, ?_⟩
    simp only [round, attempt, known]
  | some expiry =>
    refine .inr ⟨expiry, state.known.symm.trans known, by simp only [requestedAt, pause, known], ?_⟩
    rcases ended : (state.worker.refreshLease parse).paced exec drift around.acts state.pools with
      ⟨error | lease, pools⟩
    · refine .inr ⟨?_, ?_, ?_, ?_⟩ <;>
        simp [grant, fails, round, attempt, known, ended, Except.toOption]
    · refine .inl ⟨lease, ?_, ?_, ?_, ?_⟩ <;>
        simp [grant, fails, round, attempt, known, ended, Except.toOption]

/-- A round does to the worker and to the pools what a round of `run` does with the outcome of its
`refresh_once`: the worker knows of the expiry that was returned, and after a failure of the one
that it knew of before. -/
theorem round_refreshOnce {expiry : Int} (knows : state.worker.nextExpiry = some expiry) :
    ((state.round parse around).worker.nextExpiry, (state.round parse around).pools) =
      match (state.worker.refreshOnce parse).paced exec drift around.acts state.pools with
      | (.ok next, pools) => (next, pools)
      | (.error _, pools) => (some expiry, pools) := by
  rw [BrokerLeaseWorker.refreshOnce_eq]
  simp only [pure_eq_value, paced_bind_value]
  rcases ended : (state.worker.refreshLease parse).paced exec drift around.acts state.pools with
    ⟨error | lease, pools⟩
  · simp only [round, attempt, knows, Except.map, ended]
  · simp only [round, attempt, knows, Except.map, ended]

/-- An attempt that has installed a lease did not fail. -/
theorem fails_eq_false {lease : PostgresCredentialLease}
    (granted : state.grant parse around = some lease) : state.fails parse around = false := by
  obtain ⟨ended, attempted, installed⟩ := Option.bind_eq_some_iff.mp granted
  rw [fails, attempted, Option.any_some, installed, Option.isNone_some]

/-- The worker waits for the expiry of the lease behind the installed pool. -/
theorem pause_eq {expiry : Int} (expires : state.installed.expiresAt = some expiry) :
    state.pause = waitDuration expiry state.now := by
  rw [pause, state.known, expires]

end Rounds

end LeaseLoop

/-- A sleep does not go back in time. -/
theorem waitDuration_nonneg (expiry now : Int) : 0 ≤ waitDuration expiry now := by
  simp only [waitDuration]
  split <;> omega

/-- The worker sleeps at the top exactly when the expiry is more than one grace period away. -/
theorem waitDuration_pos_iff (expiry now : Int) :
    0 < waitDuration expiry now ↔ now + seconds leaseRefreshGraceSecs < expiry := by
  simp only [waitDuration]
  split <;> omega

/-- After its sleep at the top it is no later than it was, or than one grace period before the
expiry. -/
theorem add_waitDuration_le {expiry now bound : Int} (soon : now ≤ bound)
    (due : expiry - seconds leaseRefreshGraceSecs ≤ bound) :
    now + waitDuration expiry now ≤ bound := by
  simp only [waitDuration]
  split <;> omega

section Tolerance

variable (parse : String → Except String PgConnectOptions) (start : LeaseLoop Query Answer)
  (around : Nat → Surroundings Query Answer)

/-- A run whose leases last for a minute at least, whose attempts take no time and in which no
four attempts in a row fail. -/
structure BoundedFailures : Prop where
  first : ∀ expiry, start.installed.expiresAt = some expiry → start.now + seconds 60 ≤ expiry
  lifetimes : ∀ index lease expiry,
    (start.after parse around index).grant parse (around index) = some lease →
      lease.expiresAt = some expiry →
        (start.after parse around index).grantedAt (around index) + seconds 60 ≤ expiry
  instant : ∀ index, (around index).beforeGrant = 0 ∧ (around index).afterGrant = 0
  failures : ∀ index, ¬ ∀ offset < 4,
    (start.after parse around (index + offset)).fails parse (around (index + offset)) = true

/-- How many attempts in a row have failed before a round. -/
def streak : Nat → Nat
  | 0 => 0
  | index + 1 =>
      if (start.after parse around index).fails parse (around index) then streak index + 1 else 0

/-- The attempts of a streak failed, one after the other. -/
theorem fails_of_le_streak {length index : Nat} (long : length ≤ streak parse start around index) :
    ∃ first, index = first + length ∧ ∀ offset < length,
      (start.after parse around (first + offset)).fails parse (around (first + offset)) = true := by
  induction length generalizing index with
  | zero => exact ⟨index, rfl, fun _ none => absurd none (Nat.not_lt_zero _)⟩
  | succ length inductionHypothesis =>
    cases index with
    | zero => exact absurd long (Nat.not_succ_le_zero length)
    | succ index =>
      rw [streak] at long
      split at long
      · rename_i failed
        obtain ⟨first, rfl, earlier⟩ := inductionHypothesis (Nat.le_of_succ_le_succ long)
        refine ⟨first, by omega, ?_⟩
        intro offset inside
        rcases Nat.lt_succ_iff_lt_or_eq.mp inside with before | rfl
        · exact earlier offset before
        · exact failed
      · exact absurd long (Nat.not_succ_le_zero length)

variable {parse start around}

/-- No four attempts in a row fail, so a streak has at most three. -/
theorem BoundedFailures.streak_le (bounded : BoundedFailures parse start around) (index : Nat) :
    streak parse start around index ≤ 3 := by
  by_contra long
  obtain ⟨first, -, failed⟩ := fails_of_le_streak parse start around
    (show 4 ≤ streak parse start around index by omega)
  exact bounded.failures first failed

/-- The latest time at which a lease is requested: one grace period before the expiry, and one
retry period more for each attempt that has failed in a row. -/
def latestRequest (parse : String → Except String PgConnectOptions)
    (start : LeaseLoop Query Answer) (around : Nat → Surroundings Query Answer) (expiry : Int)
    (index : Nat) : Int :=
  expiry - seconds leaseRefreshGraceSecs +
    seconds leaseRefreshRetrySecs * streak parse start around index

/-- Where the top of the loop is not too late, neither is the end of the attempt. -/
theorem BoundedFailures.returnedAt_le (bounded : BoundedFailures parse start around) {index : Nat}
    {expiry : Int}
    (requested : (start.after parse around index).requestedAt =
      (start.after parse around index).now +
        waitDuration expiry (start.after parse around index).now)
    (soon : (start.after parse around index).now ≤ latestRequest parse start around expiry index) :
    (start.after parse around index).returnedAt (around index) ≤
      latestRequest parse start around expiry index := by
  obtain ⟨before, quick⟩ := bounded.instant index
  have attempted : (start.after parse around index).requestedAt ≤
      latestRequest parse start around expiry index := by
    rw [requested]
    apply add_waitDuration_le soon
    simp only [latestRequest, seconds, leaseRefreshRetrySecs]
    omega
  rw [LeaseLoop.returnedAt, LeaseLoop.grantedAt, before, quick]
  simpa using attempted

/-- The top of the loop is never too late. -/
theorem BoundedFailures.now_le (bounded : BoundedFailures parse start around) (index : Nat)
    {expiry : Int} (expires : (start.after parse around index).installed.expiresAt = some expiry) :
    (start.after parse around index).now ≤ latestRequest parse start around expiry index := by
  induction index generalizing expiry with
  | zero =>
    have early := bounded.first expiry expires
    simp only [LeaseLoop.after, latestRequest, streak, seconds, leaseRefreshGraceSecs] at early ⊢
    omega
  | succ index inductionHypothesis =>
    obtain ⟨none, same⟩ | ⟨known, knows, requested, ⟨lease, granted, passed, installed, now⟩ |
        ⟨-, failed, installed, now⟩⟩ :=
      LeaseLoop.round_cases parse (start.after parse around index) (around index)
    · rw [LeaseLoop.after, same, none] at expires
      cases expires
    · rw [LeaseLoop.after, installed] at expires
      have early := bounded.lifetimes index lease expiry granted expires
      obtain ⟨-, quick⟩ := bounded.instant index
      rw [LeaseLoop.after, now, latestRequest, streak, passed, LeaseLoop.returnedAt, quick]
      simp only [seconds, leaseRefreshGraceSecs, Bool.false_eq_true, ↓reduceIte] at early ⊢
      omega
    · rw [LeaseLoop.after, installed, knows] at expires
      cases expires
      have ended := bounded.returnedAt_le requested (inductionHypothesis knows)
      rw [LeaseLoop.after, now, latestRequest, streak, failed]
      simp only [latestRequest, seconds, leaseRefreshRetrySecs, ↓reduceIte] at ended ⊢
      push_cast
      omega

variable (parse start around) in
/-- A lease is installed at an instant: it is installed at the top of a round, and the instant is
between that and the top of the next. -/
def InstalledAt (time : Int) (lease : PostgresCredentialLease) : Prop :=
  ∃ index, (start.after parse around index).now ≤ time ∧
    time ≤ (start.after parse around (index + 1)).now ∧
    (start.after parse around index).installed = lease

/-- As long as a lease is installed, its expiry is yet to come.

Proof: the round that holds the time has asked for its lease no later than the streak of failures
before it allows, and the streak has at most three. A failure in that round makes it one longer,
so then it had at most two before, and the retry period that follows is still within the grace. -/
theorem BoundedFailures.not_lapsed (bounded : BoundedFailures parse start around)
    {time expiry : Int} {lease : PostgresCredentialLease}
    (installed : InstalledAt parse start around time lease)
    (expires : lease.expiresAt = some expiry) : time < expiry := by
  obtain ⟨index, -, until_, rfl⟩ := installed
  have soon := bounded.now_le index expires
  obtain ⟨none, -⟩ | ⟨known, knows, requested, ending⟩ :=
    LeaseLoop.round_cases parse (start.after parse around index) (around index)
  · rw [none] at expires
    cases expires
  · rw [knows] at expires
    cases expires
    have ended := bounded.returnedAt_le requested soon
    have short := bounded.streak_le index
    obtain ⟨lease, -, -, -, now⟩ | ⟨-, failed, -, now⟩ := ending
    · rw [LeaseLoop.after, now] at until_
      simp only [latestRequest, seconds, leaseRefreshGraceSecs, leaseRefreshRetrySecs] at ended
      omega
    · -- One failure more would be the fourth, so there is one retry period left.
      have longer := bounded.streak_le (index + 1)
      rw [streak, failed, if_pos rfl] at longer
      rw [LeaseLoop.after, now] at until_
      simp only [latestRequest, seconds, leaseRefreshGraceSecs, leaseRefreshRetrySecs] at ended
      simp only [seconds, leaseRefreshRetrySecs] at until_
      omega

section Coverage

variable (parse start around) in
/-- The grants of a run, in their order: that of the lease with which it starts, and then those of
its rounds that install a lease. -/
def nthGrant : Nat → Option (Int × PostgresCredentialLease)
  | 0 => some (start.now, start.installed)
  | index + 1 =>
      ((start.after parse around index).grant parse (around index)).map fun lease =>
        ((start.after parse around index).grantedAt (around index), lease)

variable (parse start around) in
/-- A lease is the one that was granted last by some time. -/
def LastGranted (time : Int) (lease : PostgresCredentialLease) : Prop :=
  ∃ index since, nthGrant parse start around index = some (since, lease) ∧ since ≤ time ∧
    ∀ later > index, ∀ next other, nthGrant parse start around later = some (next, other) →
      time < next

/-- A lease is installed as soon as it is granted. -/
theorem BoundedFailures.installed_of_granted (bounded : BoundedFailures parse start around)
    {index : Nat} {since : Int} {lease : PostgresCredentialLease}
    (grants : nthGrant parse start around index = some (since, lease)) :
    (start.after parse around index).now = since ∧
      (start.after parse around index).installed = lease := by
  cases index with
  | zero =>
    cases grants
    exact ⟨rfl, rfl⟩
  | succ index =>
    obtain ⟨installs, grant, same⟩ := Option.map_eq_some_iff.mp grants
    cases same
    obtain ⟨-, quick⟩ := bounded.instant index
    obtain ⟨none, -⟩ | ⟨-, -, -, ⟨next, other, -, installed, now⟩ | ⟨denied, -⟩⟩ :=
      LeaseLoop.round_cases parse (start.after parse around index) (around index)
    · have stopped := (LeaseLoop.known _).trans none
      simp only [LeaseLoop.grant, LeaseLoop.attempt, stopped, Option.bind_none] at grant
      cases grant
    · obtain rfl := Option.some.inj (grant.symm.trans other)
      refine ⟨?_, installed⟩
      rw [LeaseLoop.after, now, LeaseLoop.returnedAt, quick]
      simp
    · rw [grant] at denied
      cases denied

/-- From the grant of a lease on, as long as no other is granted, the rounds fail and leave it
installed. So their intervals follow one another until one of them holds the time. -/
theorem BoundedFailures.installedAt_or_fails (bounded : BoundedFailures parse start around)
    {time expiry : Int} {lease : PostgresCredentialLease} {index : Nat}
    (began : (start.after parse around index).now ≤ time)
    (installed : (start.after parse around index).installed = lease)
    (expires : lease.expiresAt = some expiry)
    (last : ∀ later > index, ∀ next other, nthGrant parse start around later = some (next, other) →
      time < next) (count : Nat) :
    InstalledAt parse start around time lease ∨
      (start.after parse around (index + count)).now ≤ time ∧
        (start.after parse around (index + count)).installed = lease ∧
        ∀ offset < count,
          (start.after parse around (index + offset)).fails parse (around (index + offset)) =
            true := by
  induction count with
  | zero => exact .inr ⟨began, installed, fun _ none => absurd none (Nat.not_lt_zero _)⟩
  | succ count inductionHypothesis =>
    obtain found | ⟨top, holds, earlier⟩ := inductionHypothesis
    · exact .inl found
    obtain ⟨-, quick⟩ := bounded.instant (index + count)
    obtain ⟨none, -⟩ | ⟨-, -, -, ⟨next, grant, -, -, now⟩ | ⟨-, failed, same, -⟩⟩ :=
      LeaseLoop.round_cases parse (start.after parse around (index + count))
        (around (index + count))
    · rw [holds, expires] at none
      cases none
    · -- The grant of this round comes after the time, and it ends the round.
      have grants : nthGrant parse start around (index + count + 1) =
          some ((start.after parse around (index + count)).grantedAt (around (index + count)),
            next) := by
        rw [nthGrant, grant, Option.map_some]
      have after := last _ (by omega) _ _ grants
      refine .inl ⟨index + count, top, ?_, holds⟩
      rw [LeaseLoop.after, now, LeaseLoop.returnedAt, quick]
      omega
    · by_cases reached : (start.after parse around (index + count + 1)).now ≤ time
      · refine .inr ⟨reached, same.trans holds, ?_⟩
        intro offset inside
        rcases Nat.lt_succ_iff_lt_or_eq.mp inside with before | rfl
        · exact earlier offset before
        · exact failed
      · exact .inl ⟨index + count, top, Int.le_of_lt (Int.not_le.mp reached), holds⟩

/-- The intervals of the rounds leave out no time: a lease that expires is installed at every time
by which it is the last that was granted.

Proof: the first four rounds after the grant cannot all fail, so by one of them the time has been
reached, and until then the lease stays installed. -/
theorem BoundedFailures.installedAt (bounded : BoundedFailures parse start around)
    {time expiry : Int} {lease : PostgresCredentialLease}
    (last : LastGranted parse start around time lease) (expires : lease.expiresAt = some expiry) :
    InstalledAt parse start around time lease := by
  obtain ⟨index, since, grants, began, later⟩ := last
  obtain ⟨rfl, installed⟩ := bounded.installed_of_granted grants
  obtain found | ⟨-, -, failed⟩ := bounded.installedAt_or_fails began installed expires later 4
  · exact found
  · exact absurd failed (bounded.failures index)

/-- In every such run, at every time, the lease that was granted last by then has not lapsed. -/
theorem lastGranted_not_lapsed (bounded : BoundedFailures parse start around)
    {time expiry : Int} {lease : PostgresCredentialLease}
    (last : LastGranted parse start around time lease) (expires : lease.expiresAt = some expiry) :
    time < expiry :=
  bounded.not_lapsed (bounded.installedAt last expires) expires

end Coverage

end Tolerance

section Answers

/-- A lease for an address that expires at a time. -/
def leaseUntil (url : String) (expiry : Int) : PostgresCredentialLease :=
  ⟨url, none, none, some expiry⟩

/-- A worker at time zero, with a lease that expires at a time. -/
def loopUntil (credential : BrokerCredentialConfig) (url : String) (expiry : Int) :
    LeaseLoop Query Answer where
  now := 0
  worker := ⟨0, credential, "app", "data", ⟨20, 5, 10, 300⟩, some expiry⟩
  installed := leaseUntil url expiry
  pools := ⟨fun _ => 0, 1, [], .error "unavailable", .ok (), fun _ => .error (.configuration "")⟩
  known := rfl

/-- The broker grants a lease and the server can be reached. -/
def granting (afterGrant : Nat) (lease : PostgresCredentialLease) : Surroundings Query Answer :=
  ⟨0, afterGrant, [.broker (.ok lease), .server (.ok ())]⟩

/-- The broker cannot be reached. -/
def refusing : Surroundings Query Answer := ⟨0, 0, [.broker (.error "unavailable")]⟩

variable {parse : String → Except String PgConnectOptions} (state : LeaseLoop Query Answer)

/-- Without the broker nothing is granted. -/
theorem grant_refusing : state.grant parse refusing = none := by
  cases known : state.worker.nextExpiry with
  | none => simp only [LeaseLoop.grant, LeaseLoop.attempt, known, Option.bind_none]
  | some expiry =>
    simp only [LeaseLoop.grant, LeaseLoop.attempt, known]
    rfl

variable {expiry : Int} (expires : state.installed.expiresAt = some expiry)

include expires

/-- A lease that is granted, whose address can be read, is installed. -/
theorem grant_granting (afterGrant : Nat) {lease : PostgresCredentialLease}
    {options : PgConnectOptions} (parses : parse lease.databaseUrl = .ok options) :
    state.grant parse (granting afterGrant lease) = some lease := by
  have known := state.known.trans expires
  have reads : ∃ adapted, connectOptionsFromLease parse lease state.worker.applicationName
      state.worker.poolLabel = .ok adapted := by
    simp only [connectOptionsFromLease, parses]
    exact ⟨_, rfl⟩
  obtain ⟨adapted, reads⟩ := reads
  simp only [LeaseLoop.grant, LeaseLoop.attempt, known, granting, BrokerLeaseWorker.refreshLease,
    obtainBrokerLease]
  change (Program.paced exec drift [.server (.ok ())]
    (ofExcept (connectOptionsFromLease parse lease _ _) >>= _) _).1.toOption = _
  rw [reads]
  rfl

variable (parse) in
/-- A round that is granted a lease installs it, and is over as soon as its attempt is. -/
theorem round_granting (afterGrant : Nat) (lease : PostgresCredentialLease)
    {options : PgConnectOptions} (parses : parse lease.databaseUrl = .ok options) :
    (state.round parse (granting afterGrant lease)).installed = lease ∧
      (state.round parse (granting afterGrant lease)).now = state.requestedAt + afterGrant := by
  have granted := grant_granting state expires afterGrant parses
  obtain ⟨none, -⟩ | ⟨-, -, -, ⟨next, grants, -, installed, now⟩ | ⟨denied, -⟩⟩ :=
    LeaseLoop.round_cases parse state (granting afterGrant lease)
  · rw [none] at expires
    cases expires
  · obtain rfl := Option.some.inj (granted.symm.trans grants)
    refine ⟨installed, now.trans ?_⟩
    simp [LeaseLoop.returnedAt, LeaseLoop.grantedAt, granting]
  · rw [granted] at denied
    cases denied

end Answers

section Samples

/-- Read every address. -/
def readAddress (url : String) : Except String PgConnectOptions :=
  .ok ⟨url, .prefer, none, none, none⟩

/-- Credentials that are leased for one minute. -/
def minuteLease : BrokerCredentialConfig := ⟨"audience", [], 60⟩

end Samples

section Pauses

variable (parse : String → Except String PgConnectOptions) (start : LeaseLoop Query Answer)
  (around : Nat → Surroundings Query Answer)

/-- A run whose leases all last for the requested lifetime, from when they are granted. The first
one was granted before the worker started. -/
structure ExactLifetimes : Prop where
  first : ∃ granted ≤ start.now,
    start.installed.expiresAt = some (granted + seconds start.worker.credential.ttlSeconds)
  later : ∀ index lease,
    (start.after parse around index).grant parse (around index) = some lease →
      lease.expiresAt = some ((start.after parse around index).grantedAt (around index) +
        seconds start.worker.credential.ttlSeconds)

/-- The worker sleeps between any two requests that follow one another. -/
def SleepsBetween : Prop :=
  ∀ index, (start.after parse around index).Requests →
    (start.after parse around (index + 1)).Requests →
      0 < (start.after parse around index).slept parse (around index)

variable {parse start around}

/-- After an attempt that is over while the lease has more than one grace period left, and after
one that failed, the worker sleeps. -/
theorem ExactLifetimes.sleepsBetween (exact_ : ExactLifetimes parse start around)
    (quick : ∀ index, (around index).afterGrant + seconds leaseRefreshGraceSecs <
      seconds start.worker.credential.ttlSeconds) : SleepsBetween parse start around := by
  intro index requests _
  obtain ⟨none, -⟩ | ⟨-, -, -, ⟨lease, granted, passed, installed, now⟩ | ⟨-, failed, -, -⟩⟩ :=
    LeaseLoop.round_cases parse (start.after parse around index) (around index)
  · exact absurd ((LeaseLoop.known _).trans none) requests
  · have expires := exact_.later index lease granted
    rw [← installed] at expires
    rw [LeaseLoop.slept, passed, LeaseLoop.pause_eq expires, now]
    have sleeps := (waitDuration_pos_iff _ _).mpr (show
      (start.after parse around index).returnedAt (around index) + seconds leaseRefreshGraceSecs <
        (start.after parse around index).grantedAt (around index) +
          seconds start.worker.credential.ttlSeconds by
      have short := quick index
      rw [LeaseLoop.returnedAt]
      omega)
    simpa using sleeps
  · rw [LeaseLoop.slept, failed, if_pos rfl]
    have pauses : 0 ≤ ((start.after parse around index).round parse (around index)).pause := by
      unfold LeaseLoop.pause
      split
      · exact Int.le_refl 0
      · exact waitDuration_nonneg _ _
    simp only [seconds, leaseRefreshRetrySecs]
    omega

/-- The first attempt is granted a lease and takes some time after that; the others are refused. -/
def grantedOnce (latency : Nat) (lease : PostgresCredentialLease) : Nat → Surroundings Query Answer
  | 0 => granting latency lease
  | _ + 1 => refusing

/-- Where a lease has at most one grace period left when the attempt is over, the next request
follows without a sleep. -/
theorem exists_not_sleepsBetween {url : String} {options : PgConnectOptions}
    (parses : parse url = .ok options) (credential : BrokerCredentialConfig) (latency : Nat)
    (slow : seconds credential.ttlSeconds ≤ latency + seconds leaseRefreshGraceSecs) :
    ∃ (start : LeaseLoop Query Answer) (around : Nat → Surroundings Query Answer),
      start.worker.credential = credential ∧ ExactLifetimes parse start around ∧
      (∀ index, (around index).beforeGrant = 0 ∧ (around index).afterGrant ≤ latency) ∧
      ¬ SleepsBetween parse start around := by
  let start : LeaseLoop Query Answer := loopUntil credential url (seconds credential.ttlSeconds)
  let lease := leaseUntil url (start.requestedAt + seconds credential.ttlSeconds)
  have granted : start.grant parse (granting latency lease) = some lease :=
    grant_granting start rfl latency parses
  refine ⟨start, grantedOnce latency lease, rfl, ⟨⟨0, Int.le_refl 0, ?_⟩, ?_⟩, ?_, ?_⟩
  · simp [start, loopUntil, leaseUntil]
  · intro index installed grants
    cases index with
    | zero =>
      obtain rfl := Option.some.inj (granted.symm.trans grants)
      simp [lease, leaseUntil, LeaseLoop.after, LeaseLoop.grantedAt, grantedOnce, granting, start,
        loopUntil]
    | succ index =>
      rw [grantedOnce, grant_refusing] at grants
      cases grants
  · intro index
    cases index with
    | zero => exact ⟨rfl, Nat.le_refl latency⟩
    | succ index => exact ⟨rfl, Nat.zero_le latency⟩
  · intro sleeps
    obtain ⟨installed, now⟩ := round_granting parse start rfl latency lease parses
    have expires := congrArg PostgresCredentialLease.expiresAt installed
    have slept := sleeps 0 (by simp [LeaseLoop.Requests, LeaseLoop.after, start, loopUntil])
      (by
        intro none
        have known := (LeaseLoop.known _).symm.trans none
        rw [LeaseLoop.after, LeaseLoop.after, grantedOnce, expires] at known
        cases known)
    rw [LeaseLoop.after, grantedOnce, LeaseLoop.slept, LeaseLoop.fails_eq_false granted,
      LeaseLoop.pause_eq expires, now] at slept
    simp only [Bool.false_eq_true, ↓reduceIte, Int.zero_add, waitDuration_pos_iff] at slept
    omega

/-- Take leases that last for exactly the requested lifetime, and attempts that are over within
some time of the grant. The worker sleeps between the requests of every such run exactly when
the lifetime is more than that time and one grace period.

Proof: after a grant the worker waits until one grace period before the expiry, which is yet
to come if the attempt was over early enough; after a failure it always waits. Where the
lifetime is too short for that, one grant that takes all of the latency is followed by a
request without a wait. -/
theorem sleeps_between_requests_iff {url : String} {options : PgConnectOptions}
    (parses : parse url = .ok options) (credential : BrokerCredentialConfig) (latency : Nat) :
    (∀ (start : LeaseLoop Query Answer) (around : Nat → Surroundings Query Answer),
        start.worker.credential = credential → ExactLifetimes parse start around →
          (∀ index, (around index).afterGrant ≤ latency) → SleepsBetween parse start around) ↔
      latency + seconds 60 < seconds credential.ttlSeconds := by
  constructor
  · intro sleeps
    by_contra slow
    obtain ⟨start, around, requested, exact_, quick, spins⟩ :=
      @exists_not_sleepsBetween Query Answer parse url options parses credential latency
        (Int.not_lt.mp slow)
    exact spins (sleeps start around requested exact_ fun index => (quick index).2)
  · rintro long start around rfl exact_ quick
    apply exact_.sleepsBetween
    intro index
    have short := quick index
    simp only [leaseRefreshGraceSecs]
    omega

/-- The worker sleeps between its requests with leases of a quarter of an hour and attempts that
take ten seconds; with leases of a minute it does not. -/
theorem quarterHour_sleeps_minute_spins :
    (∀ (start : LeaseLoop Unit Unit) (around : Nat → Surroundings Unit Unit),
        start.worker.credential = ⟨"orders", [], 900⟩ → ExactLifetimes readAddress start around →
          (∀ index, (around index).afterGrant ≤ 10000000000) →
            SleepsBetween readAddress start around) ∧
      ¬ ∀ (start : LeaseLoop Unit Unit) (around : Nat → Surroundings Unit Unit),
        start.worker.credential = minuteLease → ExactLifetimes readAddress start around →
          (∀ index, (around index).afterGrant ≤ 0) → SleepsBetween readAddress start around := by
  have reads : readAddress "postgres://db" = .ok ⟨"postgres://db", .prefer, none, none, none⟩ := rfl
  constructor
  · exact (sleeps_between_requests_iff reads ⟨"orders", [], 900⟩ 10000000000).mpr (by decide)
  · exact fun sleeps => absurd ((sleeps_between_requests_iff reads minuteLease 0).mp sleeps)
      (by decide)

/-- An environment that names an audience and a lifetime. -/
def lifetimeEnvironment (ttlSeconds : String) (key : String) : EnvVar :=
  if key = "SECURE_DB_BROKER_AUDIENCE" then .text "orders"
  else if key = "SECURE_DB_BROKER_TTL_SECONDS" then .text ttlSeconds
  else .absent

/-- A lifetime of half a minute is admitted. With leases of that lifetime, and attempts that take
no time, there is a run in which a request follows another without a sleep. -/
theorem admitted_lifetime_spins :
    ∃ config credential,
      Native.loadNativeConfig Native.sampleDebug (lifetimeEnvironment "30") = .ok config ∧
        config.dataAuth = .broker credential ∧ credential.ttlSeconds = 30 ∧
        ∃ (start : LeaseLoop Unit Unit) (around : Nat → Surroundings Unit Unit),
          start.worker.credential = credential ∧ ExactLifetimes readAddress start around ∧
            (∀ index, (around index).beforeGrant = 0 ∧ (around index).afterGrant ≤ 0) ∧
            ¬ SleepsBetween readAddress start around := by
  have loaded : Native.loadNativeConfig Native.sampleDebug (lifetimeEnvironment "30") = .ok
      ⟨.broker ⟨"orders", [], 30⟩, none, 20, 5, 10, 300, "secure-database"⟩ := by
    rfl
  have reads : readAddress "postgres://db" = .ok ⟨"postgres://db", .prefer, none, none, none⟩ := rfl
  exact ⟨_, _, loaded, rfl, rfl, exists_not_sleepsBetween reads ⟨"orders", [], 30⟩ 0 (by decide)⟩

end Pauses

end SecureDatabase.Rotation
