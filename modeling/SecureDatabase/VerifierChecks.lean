import SecureDatabase.ProcessIsolation

/-!
# What the verifiers check before they ask the proof system

A verification succeeds when its own checks pass, parameters of its size can be generated, and
the proof system accepts the proof against the rebuilt instance columns. Two questions follow
from that alone: whether the two ways to verify an equality proof agree, and whether an accepted
bundle's public inputs say what was verified.
-/

namespace SecureDatabase.Zk

open Foundation Process

section Success

/-- A check succeeds in a process exactly when it succeeds. -/
theorem ofResult_ok_iff (check : DbResult Unit) (cache : ParamsCache) :
    ((ofResult check).runOn cache).1 = .ok () ↔ check = .ok () := by
  cases check with
  | error error => simp [ofResult, runOn, Except.mapError]
  | ok done => exact iff_of_true rfl rfl

/-- What begins with a check succeeds exactly when the check has a value and the rest
succeeds with it. -/
theorem ofResult_bind_ok_iff {α : Type} (check : DbResult α) (next : α → Process Unit)
    (cache : ParamsCache) :
    ((ofResult check >>= next).runOn cache).1 = .ok () ↔
      ∃ value, check = .ok value ∧ ((next value).runOn cache).1 = .ok () := by
  cases check with
  | error error =>
    rw [runOn_bind]
    simp [ofResult, runOn, Except.mapError]
  | ok value => simp [runOn_ofResult_ok]

/-- A check with nothing to return, and what follows it. -/
theorem check_bind_ok_iff (check : DbResult Unit) (next : Unit → Process Unit)
    (cache : ParamsCache) :
    ((ofResult check >>= next).runOn cache).1 = .ok () ↔
      check = .ok () ∧ ((next ()).runOn cache).1 = .ok () := by
  rw [ofResult_bind_ok_iff]
  exact ⟨fun ⟨_, passed, rest⟩ => ⟨passed, rest⟩, fun ⟨passed, rest⟩ => ⟨(), passed, rest⟩⟩

/-- Parameters are handed out exactly when the lock is not poisoned and the size is small. -/
theorem sharedParams_ok_iff (k : UInt32) (cache : ParamsCache) :
    ((sharedParams k).runOn cache).1 = .ok () ↔ cache.poisoned = false ∧ k < 32 := by
  cases locked : cache.poisoned with
  | true => simp [sharedParams_poisoned locked]
  | false =>
    by_cases small : k < 32
    · obtain ⟨after, ran, -⟩ := sharedParams_small locked small
      simp [ran, small]
    · simp [sharedParams_large locked small, small]

/-- What begins with fetching the parameters succeeds exactly when the process is healthy,
the size can be generated, and the rest succeeds, which it does from every cache or from
none. -/
theorem sharedParams_bind_ok_iff (k : UInt32) (next : Unit → Process Unit) (verdict : Prop)
    (settled : ∀ cache, ((next ()).runOn cache).1 = .ok () ↔ verdict) (cache : ParamsCache) :
    ((sharedParams k >>= next).runOn cache).1 = .ok () ↔
      cache.poisoned = false ∧ k < 32 ∧ verdict := by
  rw [← and_assoc, ← sharedParams_ok_iff, runOn_bind]
  rcases (sharedParams k).runOn cache with ⟨failure | done, after⟩
  · simp
  · simp [settled]

/-- The common end succeeds exactly when the lock is not poisoned, parameters of the size can
be generated, and the proof system derives the key and accepts the proof. -/
theorem verifyInstance_ok_iff (halo2 : Halo2) (circuit : Circuit) (bundle : ProofContent)
    (columns : DbResult (List (List Fp))) (cache : ParamsCache) :
    ((verifyInstance halo2 circuit bundle columns).runOn cache).1 = .ok () ↔
      cache.poisoned = false ∧ bundle.circuitSecurity < 32 ∧
        halo2.keygenVk circuit bundle.circuitSecurity = .ok () ∧
        ∃ found, columns = .ok found ∧
          halo2.verifyProof circuit bundle.circuitSecurity found bundle.proof = .ok () := by
  apply sharedParams_bind_ok_iff
  intro cache
  rw [ofPlonk, check_bind_ok_iff, mapError_eq_ok_iff, ofResult_bind_ok_iff]
  simp only [ofPlonk, ofResult_ok_iff, mapError_eq_ok_iff]

end Success

section EntryPoints

/-- What the direct way to verify an equality proof asks for. -/
theorem verifyScalarEquality_ok_iff (halo2 : Halo2) (bundle : ProofContent) (digest : Bytes)
    (cache : ParamsCache) :
    ((verifyScalarEquality halo2 bundle digest).runOn cache).1 = .ok () ↔
      (bundle.protocol = protocolId ∧ bundle.circuit = circuitIdScalar) ∧
      bundle.expectedHash = hashExpectedDigest (normaliseDigest digest).octets ∧
      ((verifyInstance halo2 .scalarEquality bundle
        (.ok [[digestToScalar (normaliseDigest digest)]])).runOn cache).1 = .ok () := by
  rw [verifyScalarEquality, check_bind_ok_iff, check_bind_ok_iff]
  simp only [ensure_eq_ok_iff, Bool.and_eq_true, decide_eq_true_eq]

/-- The way through the verification context asks for one hash more. -/
theorem verifyProof_scalarDigest_ok_iff (halo2 : Halo2) (bundle : ProofContent) (digest : Bytes)
    (cache : ParamsCache) :
    ((verifyProof halo2 bundle (.scalarDigest digest)).runOn cache).1 = .ok () ↔
      bundle.expectedHash = hashExpectedDigest digest ∧
        ((verifyScalarEquality halo2 bundle digest).runOn cache).1 = .ok () := by
  rw [verifyProof, check_bind_ok_iff, check_bind_ok_iff, check_bind_ok_iff,
    verifyScalarEquality_ok_iff]
  simp only [ensureProtocol, ensureCircuit, ensureExpectedHash, ensure_eq_ok_iff,
    decide_eq_true_eq]
  tauto

/-- The two ways to verify an equality proof give the same verdict on every bundle, whatever
the proof system answers and whatever ran before in the process. -/
def VerdictsAgree (digest : Bytes) : Prop :=
  ∀ halo2 bundle cache,
    ((verifyProof halo2 bundle (.scalarDigest digest)).runOn cache).1 = .ok () ↔
      ((verifyScalarEquality halo2 bundle digest).runOn cache).1 = .ok ()

/-- A bundle that was produced for an expected digest passes, right afterwards, every check
that is not the proof system's. -/
def ProducedPasses (digest : Bytes) : Prop :=
  ∀ (halo2 : Halo2Prover) k userId drawn privateDigest cache bundle after,
    (ZkProver.proveDigestEquality halo2 k userId drawn privateDigest digest).runOn cache =
      (.ok bundle, after) →
    ((verifyProof obligingHalo2.toHalo2 bundle.toProofContent (.scalarDigest digest)).runOn
      after).1 = .ok ()

/-- The hash of a digest is the hash of the normalised one. -/
def HashKept (digest : Bytes) : Prop := digest.length = 32 ∨ sha256 (sha256 digest) = sha256 digest

/-- Hashes are compared in hexadecimal, which loses nothing. -/
theorem hashExpectedDigest_eq_iff (left right : Bytes) :
    hashExpectedDigest left = hashExpectedDigest right ↔ sha256 left = sha256 right := by
  constructor
  · intro same
    exact hexDigits_injective (String.ofList_injective same)
  · intro same
    rw [hashExpectedDigest, hashExpectedDigest, same]

/-- A digest keeps its hash exactly when normalising it leaves the stored hash as it
was. -/
theorem hashKept_iff (digest : Bytes) :
    HashKept digest ↔
      hashExpectedDigest (normaliseDigest digest).octets = hashExpectedDigest digest := by
  rw [hashExpectedDigest_eq_iff, HashKept, normaliseDigest]
  by_cases size : digest.length = 32
  · simp [size]
  · simp [size]

/-- A success has passed its first check. -/
theorem ofResult_bind_eq_ok {α β : Type} {result : DbResult α} {next : α → Process β}
    {cache after : ParamsCache} {found : β}
    (succeeded : (ofResult result >>= next).runOn cache = (.ok found, after)) :
    ∃ value, result = .ok value ∧ (next value).runOn cache = (.ok found, after) := by
  cases result with
  | error error =>
    rw [runOn_bind] at succeeded
    cases succeeded
  | ok value =>
    rw [runOn_ofResult_ok] at succeeded
    exact ⟨value, rfl, succeeded⟩

/-- What a prover returns, and that it leaves the shared parameters usable. -/
theorem proveTask_eq_ok {halo2 : Halo2Prover} {k : UInt32} {userId : Uuid} {drawn : Drawn}
    {task : DbResult ProvingTask} {cache after : ParamsCache} {bundle : ZkProofBundle}
    (proved : (proveTask halo2 k userId drawn task).runOn cache = (.ok bundle, after)) :
    ∃ found proof, task = .ok found ∧ k < 32 ∧ after.poisoned = false ∧
      bundle.toProofContent =
        { protocol := protocolId
          circuit := found.circuitId
          circuitSecurity := k
          expectedHash := found.expectedHash
          publicInputs := found.publicInputs
          proof } := by
  obtain ⟨found, derived, proved⟩ := ofResult_bind_eq_ok proved
  obtain ⟨_, between, fetched, proved⟩ := (runOn_bind_eq_ok_iff _ _ _ _ _).mp proved
  obtain ⟨_, -, proved⟩ := ofResult_bind_eq_ok proved
  obtain ⟨_, -, proved⟩ := ofResult_bind_eq_ok proved
  obtain ⟨proof, -, proved⟩ := ofResult_bind_eq_ok proved
  cases proved
  have usable : cache.poisoned = false ∧ k < 32 := by
    rw [← sharedParams_ok_iff, fetched]
  obtain ⟨left, again, healthy⟩ := sharedParams_small usable.1 usable.2
  rw [fetched] at again
  cases again
  exact ⟨found, proof, derived, usable.2, healthy, rfl⟩

/-- A bundle with the hash of the normalised digest. -/
def normalisedBundle (digest : Bytes) : ProofContent where
  protocol := protocolId
  circuit := circuitIdScalar
  circuitSecurity := 14
  expectedHash := hashExpectedDigest (normaliseDigest digest).octets
  publicInputs := .null
  proof := []

/-- Verifiers that agree on every bundle agree on an honest one, so the digest keeps its
hash. -/
theorem hashKept_of_verdictsAgree {digest : Bytes} (agree : VerdictsAgree digest) :
    HashKept digest := by
  have direct : ((verifyScalarEquality obligingHalo2.toHalo2 (normalisedBundle digest)
      digest).runOn .fresh).1 = .ok () := by
    have small : (14 : UInt32) < 32 := by decide
    rw [verifyScalarEquality_ok_iff, verifyInstance_ok_iff]
    exact ⟨⟨rfl, rfl⟩, rfl, rfl, small, rfl, _, rfl, rfl⟩
  have through := (agree _ _ _).mpr direct
  rw [verifyProof_scalarDigest_ok_iff] at through
  exact (hashKept_iff digest).mpr through.1

/-- For every expected digest: the two ways to verify give the same verdict on every bundle,
and a bundle produced for that digest passes every check that is not the proof system's, if
and only if the digest has 32 octets or its hash is a fixed point of the hash function.

Proof: the way through the context compares the stored hash with the hash of the digest as
given, and both ways compare it with the hash of the normalised digest, which is the one that
the prover stores. -/
theorem verifiers_agree_iff (digest : Bytes) :
    VerdictsAgree digest ∧ ProducedPasses digest ↔ HashKept digest := by
  constructor
  · rintro ⟨agree, -⟩
    exact hashKept_of_verdictsAgree agree
  · intro kept
    rw [hashKept_iff] at kept
    have agree : VerdictsAgree digest := by
      intro halo2 bundle cache
      rw [verifyProof_scalarDigest_ok_iff]
      constructor
      · rintro ⟨-, direct⟩
        exact direct
      · intro direct
        refine ⟨?_, direct⟩
        rw [verifyScalarEquality_ok_iff] at direct
        exact direct.2.1.trans kept
    refine ⟨agree, ?_⟩
    intro halo2 k userId drawn privateDigest cache bundle after proved
    obtain ⟨task, proof, derived, small, healthy, content⟩ := proveTask_eq_ok proved
    cases derived
    rw [agree, verifyScalarEquality_ok_iff, verifyInstance_ok_iff, content]
    exact ⟨⟨rfl, rfl⟩, rfl, healthy, small, rfl, _, rfl, rfl⟩

/-- The digest of the round-trip test before it is hashed to 32 octets: its proof passes one
way and fails the other. -/
theorem not_verifiers_agree :
    ¬ (VerdictsAgree (utf8 "halo2-proof") ∧ ProducedPasses (utf8 "halo2-proof")) := by
  rintro ⟨agree, -⟩
  have kept := hashKept_of_verdictsAgree agree
  revert kept
  rw [HashKept]
  decide +kernel

end EntryPoints

section Advertised

/-- The check of the public inputs that a context calls for. -/
def checkInputs (inputs : Json) : ZkVerificationContext → DbResult Unit
  | .scalarDigest _ => .ok ()
  | .relayAudit commitment guardCount exitCount =>
      ensureRelayInputs inputs guardCount exitCount commitment
  | .logIntegrity commitment sequenceNumber => ensureLogInputs inputs sequenceNumber commitment
  | .execution commitment => ensureExecutionInputs inputs commitment

/-- Public inputs that hold no more than what a context's check reads. -/
def bareInputs : ZkVerificationContext → Json
  | .scalarDigest _ => .null
  | .relayAudit commitment guardCount exitCount =>
      .object [("guard_count", .number (.posInt guardCount.toUInt64)),
        ("exit_count", .number (.posInt exitCount.toUInt64)),
        ("commitment", .string (hexEncode commitment))]
  | .logIntegrity commitment sequenceNumber =>
      .object [("sequence", .number (.posInt sequenceNumber)),
        ("commitment", .string (hexEncode commitment))]
  | .execution commitment => .object [("commitment", .string (hexEncode commitment))]

/-- The fewest public inputs that a context asks for pass its checks. -/
theorem checkInputs_bareInputs (context : ZkVerificationContext) :
    checkInputs (bareInputs context) context = .ok () := by
  cases context <;>
    simp [checkInputs, bareInputs, ensureRelayInputs, ensureLogInputs, ensureExecutionInputs,
      Json.asObject, Json.field, List.lookup_cons, Json.asU64, Json.asStr, okOr, ensure, bind,
      Except.bind]

end Advertised

end SecureDatabase.Zk
