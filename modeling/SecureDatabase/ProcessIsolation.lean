import SecureDatabase.CircuitCompleteness

/-!
# Calls of one process

All provers and verifiers of a process fetch their parameters from one cache, whose lock is
held while parameters are generated. Generating parameters that are too large panics and
leaves the lock poisoned, and every later call that gets to the cache panics as well, however
sound its own size is. A call that fails its checks first never notices.
-/

namespace SecureDatabase.Zk

open Foundation Process

/-- A call of the process. -/
inductive ProcessCall where
  | proveDigestEquality (k : UInt32) (userId : Uuid) (drawn : Drawn)
      (privateDigest expectedDigest : Bytes)
  | proveRelayAudit (k : UInt32) (userId : Uuid) (drawn : Drawn) (consensusDigest : Bytes)
      (guardCount exitCount : UInt32)
  | proveLogChainIntegrity (k : UInt32) (userId : Uuid) (drawn : Drawn)
      (previousHash entryHash : Bytes) (sequenceNumber : UInt64)
  | proveExecutionAttestation (k : UInt32) (userId : Uuid) (drawn : Drawn)
      (inputHash outputHash telemetryHash : Bytes)
  | verifyProof (bundle : ProofContent) (context : ZkVerificationContext)

/-- How a call ends: with a bundle, or with nothing to return. -/
abbrev Outcome := Except Failure (Option ZkProofBundle)

namespace ProcessCall

/-- What each call of a process computes. -/
def run (halo2 : Halo2Prover) : ProcessCall → Process (Option ZkProofBundle)
  | proveDigestEquality k userId drawn privateDigest expectedDigest => do
      return some (← ZkProver.proveDigestEquality halo2 k userId drawn privateDigest expectedDigest)
  | proveRelayAudit k userId drawn consensusDigest guardCount exitCount => do
      return some
        (← ZkProver.proveRelayAudit halo2 k userId drawn consensusDigest guardCount exitCount)
  | proveLogChainIntegrity k userId drawn previousHash entryHash sequenceNumber => do
      return some (← ZkProver.proveLogChainIntegrity halo2 k userId drawn previousHash entryHash
        sequenceNumber)
  | proveExecutionAttestation k userId drawn inputHash outputHash telemetryHash => do
      return some (← ZkProver.proveExecutionAttestation halo2 k userId drawn inputHash outputHash
        telemetryHash)
  | verifyProof bundle context => do
      Zk.verifyProof halo2.toHalo2 bundle context
      return none

/-- The parameter size that a call is about. -/
def size : ProcessCall → UInt32
  | proveDigestEquality k _ _ _ _ => k
  | proveRelayAudit k _ _ _ _ _ => k
  | proveLogChainIntegrity k _ _ _ _ _ => k
  | proveExecutionAttestation k _ _ _ _ _ => k
  | verifyProof bundle _ => bundle.circuitSecurity

/-- A call gets to the parameters: every proof does, and a verification whose bundle passes
the checks that come before. -/
def Reaches : ProcessCall → Prop
  | verifyProof bundle context =>
      ensureProtocol bundle = .ok () ∧
      match context with
      | .scalarDigest expectedDigest =>
          ensureCircuit bundle circuitIdScalar = .ok () ∧
          ensureExpectedHash bundle expectedDigest = .ok () ∧
          bundle.expectedHash = hashExpectedDigest (normaliseDigest expectedDigest).octets
      | .relayAudit expectedCommitment guardCount exitCount =>
          ensureCircuit bundle circuitIdRelayAudit = .ok () ∧
          ensureExpectedHash bundle expectedCommitment = .ok () ∧
          ensureRelayInputs bundle.publicInputs guardCount exitCount expectedCommitment = .ok ()
      | .logIntegrity expectedCommitment sequenceNumber =>
          ensureCircuit bundle circuitIdLogIntegrity = .ok () ∧
          ensureExpectedHash bundle expectedCommitment = .ok () ∧
          ensureLogInputs bundle.publicInputs sequenceNumber expectedCommitment = .ok ()
      | .execution expectedCommitment =>
          ensureCircuit bundle circuitIdExecution = .ok () ∧
          ensureExpectedHash bundle expectedCommitment = .ok () ∧
          ensureExecutionInputs bundle.publicInputs expectedCommitment = .ok ()
  | _ => True

end ProcessCall

/-- The outcomes of a sequence of calls, from a cache. -/
def outcomes (halo2 : Halo2Prover) : List ProcessCall → ParamsCache → List Outcome
  | [], _ => []
  | call :: rest, cache =>
      ((call.run halo2).runOn cache).1 :: outcomes halo2 rest ((call.run halo2).runOn cache).2

/-- The outcome of a call in a process of its own. -/
def freshOutcome (halo2 : Halo2Prover) (call : ProcessCall) : Outcome :=
  ((call.run halo2).runOn .fresh).1

namespace Process

variable {α β : Type}

/-- A computation does not look at the cache, and does not panic. -/
def Untouching (process : Process α) : Prop :=
  ∃ result : DbResult α, ∀ cache, process.runOn cache = (result.mapError Failure.error, cache)

/-- A result that is there does not touch the cache. -/
theorem untouching_ofResult (result : DbResult α) : (ofResult result).Untouching :=
  ⟨result, fun _ => rfl⟩

/-- Nor does a value. -/
theorem untouching_pure (value : α) : (pure value : Process α).Untouching :=
  ⟨.ok value, fun _ => rfl⟩

/-- Parts that do not touch the cache may be put together. -/
theorem Untouching.bind {first : Process α} {next : α → Process β} (start : first.Untouching)
    (rest : ∀ value, (next value).Untouching) : (first >>= next).Untouching := by
  obtain ⟨result, ran⟩ := start
  cases result with
  | error error =>
    refine ⟨.error error, fun cache => ?_⟩
    rw [runOn_bind, ran]
    rfl
  | ok value =>
    obtain ⟨final, continued⟩ := rest value
    refine ⟨final, fun cache => ?_⟩
    rw [runOn_bind, ran]
    exact continued cache

/-- A computation fetches the parameters of a size exactly when it reaches them, and is
independent of the cache otherwise. -/
structure Fetches (process : Process α) (reaches : Prop) (k : UInt32) : Prop where
  idle : ¬ reaches → process.Untouching
  reaching : reaches → ∃ result : DbResult α, ∀ cache, process.runOn cache =
    match (sharedParams k).runOn cache with
    | (.ok _, after) => (result.mapError Failure.error, after)
    | (.error failure, after) => (.error failure, after)

/-- What begins with fetching the parameters fetches them, if the rest does not touch the
cache. -/
theorem fetches_sharedParams {k : UInt32} {next : Unit → Process α}
    (rest : ∀ value, (next value).Untouching) : (sharedParams k >>= next).Fetches True k := by
  refine ⟨fun unreached => absurd trivial unreached, fun _ => ?_⟩
  obtain ⟨result, continued⟩ := rest ()
  refine ⟨result, fun cache => ?_⟩
  rw [runOn_bind]
  rcases (sharedParams k).runOn cache with ⟨failure | value, after⟩
  · rfl
  · exact continued after

/-- What only depends on how a computation runs. -/
theorem Fetches.congr {process other : Process α} {reaches reached : Prop} {k : UInt32}
    (fetches : process.Fetches reaches k)
    (same : ∀ cache, other.runOn cache = process.runOn cache) (equivalent : reached ↔ reaches) :
    other.Fetches reached k := by
  constructor
  · intro unreached
    obtain ⟨result, ran⟩ := fetches.idle (fun here => unreached (equivalent.mpr here))
    exact ⟨result, fun cache => (same cache).trans (ran cache)⟩
  · intro here
    obtain ⟨result, ran⟩ := fetches.reaching (equivalent.mp here)
    exact ⟨result, fun cache => (same cache).trans (ran cache)⟩

/-- A check that passes is passed over. -/
theorem runOn_ofResult_ok (value : β) (next : β → Process α) (cache : ParamsCache) :
    (ofResult (.ok value) >>= next).runOn cache = (next value).runOn cache := by
  rw [runOn_bind]
  rfl

/-- After a check the parameters are fetched exactly when it passes and the rest reaches
them. -/
theorem Fetches.check {first : DbResult Unit} {next : Unit → Process α} {reaches : Prop}
    {k : UInt32} (rest : (next ()).Fetches reaches k) :
    (ofResult first >>= next).Fetches (first = .ok () ∧ reaches) k := by
  cases first with
  | error error =>
    refine ⟨fun _ => ⟨.error error, fun cache => ?_⟩, fun reached => absurd reached.1 (by simp)⟩
    rw [runOn_bind]
    rfl
  | ok value => exact rest.congr (runOn_ofResult_ok () next) (by simp)

/-- What follows without touching the cache changes nothing about what is fetched. -/
theorem Fetches.bind {first : Process α} {next : α → Process β} {reaches : Prop} {k : UInt32}
    (start : first.Fetches reaches k) (rest : ∀ value, (next value).Untouching) :
    (first >>= next).Fetches reaches k := by
  refine ⟨fun unreached => (start.idle unreached).bind rest, fun reached => ?_⟩
  obtain ⟨result, ran⟩ := start.reaching reached
  obtain ⟨final, continued⟩ := (untouching_ofResult result).bind rest
  refine ⟨final, fun cache => ?_⟩
  rw [runOn_bind, ran]
  rcases (sharedParams k).runOn cache with ⟨failure | value, between⟩
  · rfl
  · have after := continued between
    rw [runOn_bind] at after
    exact after

end Process

section Calls

variable (halo2 : Halo2Prover)

/-- Every verification that gets to its instance fetches the parameters of the bundle's
size. -/
theorem verifyInstance_fetches (circuit : Circuit) (bundle : ProofContent)
    (columns : DbResult (List (List Fp))) :
    (verifyInstance halo2.toHalo2 circuit bundle columns).Fetches True bundle.circuitSecurity := by
  apply fetches_sharedParams
  intro _
  apply (untouching_ofResult _).bind
  intro _
  apply (untouching_ofResult _).bind
  intro _
  exact untouching_ofResult _

/-- A prover whose task is derived fetches the parameters. -/
theorem proveTask_fetches (k : UInt32) (userId : Uuid) (drawn : Drawn) {task : DbResult ProvingTask}
    (derived : ∃ found, task = .ok found) :
    (proveTask halo2 k userId drawn task).Fetches True k := by
  obtain ⟨found, rfl⟩ := derived
  refine Fetches.congr ?_ (runOn_ofResult_ok found _) Iff.rfl
  apply fetches_sharedParams
  intro _
  apply (untouching_ofResult _).bind
  intro _
  apply (untouching_ofResult _).bind
  intro _
  apply (untouching_ofResult _).bind
  intro _
  exact untouching_pure _

/-- Every verification fetches the parameters of its bundle exactly when the checks before
that pass. -/
theorem verifyProof_fetches (bundle : ProofContent) (context : ZkVerificationContext) :
    (verifyProof halo2.toHalo2 bundle context).Fetches
      (ProcessCall.verifyProof bundle context).Reaches bundle.circuitSecurity := by
  cases context with
  | scalarDigest expectedDigest =>
    refine ((verifyInstance_fetches halo2 _ bundle _).check.check.check.check.check).congr
      (fun _ => rfl) ?_
    -- The protocol and the circuit are checked twice.
    simp only [ProcessCall.Reaches, ensureProtocol, ensureCircuit, ensureExpectedHash,
      ensure_eq_ok_iff, decide_eq_true_eq, Bool.and_eq_true, and_true]
    constructor
    · rintro ⟨protocol, circuit, hash, digest⟩
      exact ⟨protocol, circuit, hash, ⟨protocol, circuit⟩, digest⟩
    · rintro ⟨protocol, circuit, hash, -, digest⟩
      exact ⟨protocol, circuit, hash, digest⟩
  | relayAudit expectedCommitment guardCount exitCount =>
    refine ((verifyInstance_fetches halo2 _ bundle _).check.check.check.check).congr
      (fun _ => rfl) ?_
    simp only [ProcessCall.Reaches, and_true]
  | logIntegrity expectedCommitment sequenceNumber =>
    refine ((verifyInstance_fetches halo2 _ bundle _).check.check.check.check).congr
      (fun _ => rfl) ?_
    simp only [ProcessCall.Reaches, and_true]
  | execution expectedCommitment =>
    refine ((verifyInstance_fetches halo2 _ bundle _).check.check.check.check).congr
      (fun _ => rfl) ?_
    simp only [ProcessCall.Reaches, and_true]

/-- Every call fetches the parameters of its size exactly when it reaches them. -/
theorem ProcessCall.run_fetches (call : ProcessCall) :
    (call.run halo2).Fetches call.Reaches call.size := by
  cases call with
  | proveDigestEquality k userId drawn privateDigest expectedDigest =>
    exact (proveTask_fetches halo2 k userId drawn ⟨_, rfl⟩).bind (fun _ => untouching_pure _)
  | proveRelayAudit k userId drawn consensusDigest guardCount exitCount =>
    obtain ⟨task, derived, -⟩ := honest_relayAudit consensusDigest guardCount exitCount
    exact (proveTask_fetches halo2 k userId drawn ⟨task, derived⟩).bind
      (fun _ => untouching_pure _)
  | proveLogChainIntegrity k userId drawn previousHash entryHash sequenceNumber =>
    obtain ⟨task, derived, -⟩ := honest_logChain previousHash entryHash sequenceNumber
    exact (proveTask_fetches halo2 k userId drawn ⟨task, derived⟩).bind
      (fun _ => untouching_pure _)
  | proveExecutionAttestation k userId drawn inputHash outputHash telemetryHash =>
    obtain ⟨task, derived, -⟩ := honest_execution inputHash outputHash telemetryHash
    exact (proveTask_fetches halo2 k userId drawn ⟨task, derived⟩).bind
      (fun _ => untouching_pure _)
  | verifyProof bundle context =>
    exact (verifyProof_fetches halo2 bundle context).bind (fun _ => untouching_pure _)

end Calls

/-- Parameters from a cache: a poisoned lock panics, a size that can be generated is handed
out, and a larger one panics and poisons the lock. -/
theorem sharedParams_poisoned {cache : ParamsCache} (poisoned : cache.poisoned = true)
    (k : UInt32) :
    (sharedParams k).runOn cache =
      (.error (.panic "params cache poisoned: PoisonError \x7b .. \x7d"), cache) := by
  change (sharedParams k) cache = _
  simp [sharedParams, ExceptT.mk, poisoned]

/-- A healthy process fetches parameters of a size that can be generated, and stays
healthy. -/
theorem sharedParams_small {cache : ParamsCache} (healthy : cache.poisoned = false) {k : UInt32}
    (small : k < 32) :
    ∃ after, (sharedParams k).runOn cache = (.ok (), after) ∧ after.poisoned = false := by
  refine ⟨((sharedParams k) cache).2, ?_, ?_⟩
  · change (sharedParams k) cache = _
    by_cases cached : k ∈ cache.cached <;>
      simp [sharedParams, ExceptT.mk, healthy, cached, small]
  · by_cases cached : k ∈ cache.cached <;>
      simp [sharedParams, ExceptT.mk, healthy, cached, small]

/-- A size from 32 on panics while the lock is held, and so poisons it. -/
theorem sharedParams_large {cache : ParamsCache} (healthy : cache.poisoned = false) {k : UInt32}
    (large : ¬ k < 32) :
    (sharedParams k).runOn cache =
      (.error (.panic "assertion failed: k < 32"), { cache with poisoned := true }) := by
  have absent : k ∉ cache.cached := fun member => large (cache.generated k member)
  change (sharedParams k) cache = _
  simp [sharedParams, ExceptT.mk, healthy, absent, large]

section Sequence

variable (halo2 : Halo2Prover)

/-- A call that does not reach the parameters ends as in a process of its own. -/
theorem run_idle {call : ProcessCall} (unreached : ¬ call.Reaches) (cache : ParamsCache) :
    (call.run halo2).runOn cache = (freshOutcome halo2 call, cache) := by
  obtain ⟨result, ran⟩ := (call.run_fetches halo2).idle unreached
  rw [freshOutcome, ran, ran]

/-- From a healthy cache every call ends as in a process of its own, and poisons the lock
exactly when it reaches the parameters with too large a size. -/
theorem run_healthy (call : ProcessCall) {cache : ParamsCache} (healthy : cache.poisoned = false) :
    ((call.run halo2).runOn cache).1 = freshOutcome halo2 call ∧
      (((call.run halo2).runOn cache).2.poisoned = true ↔ call.Reaches ∧ 32 ≤ call.size) := by
  by_cases reached : call.Reaches
  · obtain ⟨result, ran⟩ := (call.run_fetches halo2).reaching reached
    by_cases small : call.size < 32
    · obtain ⟨after, fetched, unpoisoned⟩ := sharedParams_small healthy small
      obtain ⟨first, fetchedFirst, -⟩ :=
        sharedParams_small (show ParamsCache.fresh.poisoned = false from rfl) small
      rw [freshOutcome, ran, ran, fetched, fetchedFirst]
      simp [unpoisoned, small]
    · rw [freshOutcome, ran, ran, sharedParams_large healthy small,
        sharedParams_large (show ParamsCache.fresh.poisoned = false from rfl) small]
      simp [reached, UInt32.not_lt.mp small]
  · rw [run_idle halo2 reached]
    simp [reached, healthy]

/-- On a poisoned lock a call that reaches the parameters does not end as in a process of
its own: there it would panic for another reason, or not at all. -/
theorem run_poisoned {call : ProcessCall} (reached : call.Reaches) {cache : ParamsCache}
    (poisoned : cache.poisoned = true) :
    ((call.run halo2).runOn cache).1 ≠ freshOutcome halo2 call ∧
      ((call.run halo2).runOn cache).2 = cache := by
  obtain ⟨result, ran⟩ := (call.run_fetches halo2).reaching reached
  rw [freshOutcome, ran, ran, sharedParams_poisoned poisoned]
  refine ⟨?_, rfl⟩
  by_cases small : call.size < 32
  · obtain ⟨first, fetched, -⟩ :=
      sharedParams_small (show ParamsCache.fresh.poisoned = false from rfl) small
    rw [fetched]
    cases result <;> simp [Except.mapError]
  · rw [sharedParams_large (show ParamsCache.fresh.poisoned = false from rfl) small]
    simp

/-- On a poisoned lock, calls end as in processes of their own exactly when none of them
reaches the parameters. -/
theorem outcomes_poisoned_iff (calls : List ProcessCall) {cache : ParamsCache}
    (poisoned : cache.poisoned = true) :
    outcomes halo2 calls cache = calls.map (freshOutcome halo2) ↔
      ∀ call ∈ calls, ¬ call.Reaches := by
  induction calls with
  | nil => simp [outcomes]
  | cons call rest ih =>
    rw [outcomes, List.map_cons, List.cons.injEq, List.forall_mem_cons]
    by_cases reached : call.Reaches
    · have differs := (run_poisoned halo2 reached poisoned).1
      simp [reached, differs]
    · rw [run_idle halo2 reached]
      simp [reached, ih]

/-- No call reaches the parameters after one that poisons the lock. -/
def Unspoiled (calls : List ProcessCall) : Prop :=
  calls.Pairwise fun earlier later => earlier.Reaches → 32 ≤ earlier.size → ¬ later.Reaches

/-- From a healthy process calls behave as in fresh ones exactly when none that would
spoil it comes before another that reaches the parameters. -/
theorem outcomes_healthy_iff (calls : List ProcessCall) {cache : ParamsCache}
    (healthy : cache.poisoned = false) :
    outcomes halo2 calls cache = calls.map (freshOutcome halo2) ↔ Unspoiled calls := by
  induction calls generalizing cache with
  | nil => simp [outcomes, Unspoiled]
  | cons call rest ih =>
    obtain ⟨same, poisons⟩ := run_healthy halo2 call healthy
    rw [outcomes, List.map_cons, List.cons.injEq, Unspoiled, List.pairwise_cons]
    by_cases spoils : call.Reaches ∧ 32 ≤ call.size
    · rw [outcomes_poisoned_iff halo2 rest (poisons.mpr spoils)]
      constructor
      · rintro ⟨-, unreached⟩
        refine ⟨fun later member _ _ => unreached later member, ?_⟩
        exact List.pairwise_of_forall_mem_list (fun _ _ later member _ _ => unreached later member)
      · rintro ⟨unreached, -⟩
        exact ⟨same, fun later member => unreached later member spoils.1 spoils.2⟩
    · have unpoisoned : ((call.run halo2).runOn cache).2.poisoned = false := by
        simpa using fun poisoned => spoils (poisons.mp poisoned)
      rw [ih unpoisoned]
      constructor
      · rintro ⟨-, unspoiled⟩
        exact ⟨fun _ _ reached large => absurd ⟨reached, large⟩ spoils, unspoiled⟩
      · rintro ⟨-, unspoiled⟩
        exact ⟨same, unspoiled⟩

end Sequence

/-- For every finite sequence of proofs and verifications in one process: each of them ends
as it would in a fresh process exactly when no call gets to the shared parameters after one
that got there with a size of 32 or more.

Proof: from a healthy cache a call ends as from a fresh one, whatever has been generated
already. The first call that generates too much poisons the lock; from then on the cache
does not change, and exactly the calls that get to it end differently. -/
theorem isolated_iff_unspoiled (halo2 : Halo2Prover) (calls : List ProcessCall) :
    outcomes halo2 calls .fresh = calls.map (freshOutcome halo2) ↔ Unspoiled calls :=
  outcomes_healthy_iff halo2 calls rfl

/-- A proof system that creates and accepts everything. -/
def obligingHalo2 : Halo2Prover where
  keygenVk _ _ := .ok ()
  keygenPk _ _ := .ok ()
  verifyProof _ _ _ _ := .ok ()
  createProof _ _ _ := .ok []

/-- The bundle of a stored row whose parameter size is -1 in its signed column. -/
def signExtendedBundle : ProofContent where
  protocol := protocolId
  circuit := circuitIdScalar
  circuitSecurity := 4294967295
  expectedHash := hashExpectedDigest (List.replicate 32 0)
  publicInputs := .null
  proof := []

/-- A proof of the default size. -/
def ordinaryProof : ProcessCall :=
  .proveDigestEquality 14 Uuid.nil ⟨Uuid.nil, ⟨0⟩⟩ (List.replicate 32 0) (List.replicate 32 0)

/-- The verification of that bundle. -/
def signExtendedVerification : ProcessCall :=
  .verifyProof signExtendedBundle (.scalarDigest (List.replicate 32 0))

/-- After the verification of one stored row, a proof of the default size panics. -/
theorem not_isolated_signExtended :
    (∃ bundle, freshOutcome obligingHalo2 ordinaryProof = .ok (some bundle)) ∧
      outcomes obligingHalo2 [signExtendedVerification, ordinaryProof] .fresh =
        [.error (.panic "assertion failed: k < 32"),
          .error (.panic "params cache poisoned: PoisonError \x7b .. \x7d")] ∧
      outcomes obligingHalo2 [signExtendedVerification, ordinaryProof] .fresh ≠
        [signExtendedVerification, ordinaryProof].map (freshOutcome obligingHalo2) := by
  have reached : signExtendedVerification.Reaches := by
    simp [signExtendedVerification, ProcessCall.Reaches, ensureProtocol, ensureCircuit,
      ensureExpectedHash, signExtendedBundle, normaliseDigest]
  obtain ⟨result, ran⟩ := (signExtendedVerification.run_fetches obligingHalo2).reaching reached
  obtain ⟨other, again⟩ := (ordinaryProof.run_fetches obligingHalo2).reaching trivial
  have ended : outcomes obligingHalo2 [signExtendedVerification, ordinaryProof] .fresh =
      [.error (.panic "assertion failed: k < 32"),
        .error (.panic "params cache poisoned: PoisonError \x7b .. \x7d")] := by
    rw [outcomes, outcomes, outcomes, ran, sharedParams_large rfl (by decide), again,
      sharedParams_poisoned rfl]
  have alone : ∃ bundle, freshOutcome obligingHalo2 ordinaryProof = .ok (some bundle) := ⟨_, rfl⟩
  refine ⟨alone, ended, ?_⟩
  obtain ⟨bundle, proved⟩ := alone
  simp [ended, proved]

end SecureDatabase.Zk
