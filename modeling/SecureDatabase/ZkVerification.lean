import Mathlib.Data.ZMod.Basic
import SecureDatabase.Basic
import SecureDatabase.Foundation.Columns
import SecureDatabase.Foundation.Sha256

/-!
# Verification of proof bundles

What a stored proof is checked for: the protocol and circuit it names, the hash of
the expected digest or commitment, its public inputs, and the proof itself against
the instance columns rebuilt from the verification context. The proof system is a
parameter; which circuit, which parameter size, which instance columns and which
proof it is asked about is what is modelled here.

All calls of a process share one cache of public parameters behind a lock. Generating
parameters of size 32 or more panics, and a panic inside the lock leaves it poisoned
for every later call. A computation therefore returns its result or failure together
with the cache it left.
-/

namespace SecureDatabase.Zk

open Foundation

/-- The order of the Pallas base field. -/
def modulus : Nat := 0x40000000000000000000000000000000224698fc094cf91b992d30ed00000001

/-- The scalars of the circuits. -/
abbrev Fp := ZMod modulus

/-- The number a sequence of octets denotes, least significant first. -/
def littleEndian : Bytes → Nat
  | [] => 0
  | octet :: octets => octet.toNat + 256 * littleEndian octets

/-- `u64::from_le_bytes`. -/
def fromLeBytes (octets : Bytes) : UInt64 := UInt64.ofNat (littleEndian octets)

/-- `Fp::from_raw`: four limbs, least significant first, reduced by the modulus. -/
def fromRaw (first second third fourth : UInt64) : Fp :=
  ((first.toNat + 2 ^ 64 * second.toNat + 2 ^ 128 * third.toNat + 2 ^ 192 * fourth.toNat : Nat) : Fp)

/-- `Fp::from_repr`: only canonical encodings are read. -/
def fromRepr (octets : Bytes) : Option Fp :=
  if littleEndian octets < modulus then some (littleEndian octets : Fp) else none

/-- The circuits of the crate. -/
inductive Circuit where
  | scalarEquality
  | relayAudit
  | logIntegrity
  | execution
deriving DecidableEq

/-- The proof system: key generation for a circuit at a parameter size, and the
verdict on a proof against instance columns. Errors carry their text. -/
structure Halo2 where
  keygenVk : Circuit → UInt32 → Except String Unit
  verifyProof : Circuit → UInt32 → List (List Fp) → Bytes → Except String Unit

/-- The protocol that every bundle names. -/
def protocolId : String := "halo2-scalar-equality-v1"

/-- The name of the equality circuit in a bundle. -/
def circuitIdScalar : String := "scalar_equality"

/-- The name of the audit circuit in a bundle. -/
def circuitIdRelayAudit : String := "relay_audit_v1"

/-- The name of the log circuit in a bundle. -/
def circuitIdLogIntegrity : String := "log_chain_integrity_v1"

/-- The name of the execution circuit in a bundle. -/
def circuitIdExecution : String := "execution_attestation_v1"

/-- The fields of a bundle that say what is proved and how. -/
structure ProofContent where
  protocol : String
  circuit : String
  circuitSecurity : UInt32
  expectedHash : String
  publicInputs : Json
  proof : Bytes

/-- Compact proof bundle ready for database persistence. -/
structure ZkProofBundle extends ProofContent where
  proofId : Uuid
  userId : Uuid
  createdAt : DateTime

/-- Description of the context that must be satisfied when verifying a proof. -/
inductive ZkVerificationContext where
  | scalarDigest (expectedDigest : Bytes)
  | relayAudit (expectedCommitment : Bytes) (guardCount exitCount : UInt32)
  | logIntegrity (expectedCommitment : Bytes) (sequenceNumber : UInt64)
  | execution (expectedCommitment : Bytes)
deriving DecidableEq

/-- Verification request used when validating stored proofs. -/
structure ZkProofVerification where
  proofId : Uuid
  userId : Uuid
  context : ZkVerificationContext
deriving DecidableEq

/-- How a call ends without a result. -/
inductive Failure where
  | error (error : DatabaseError)
  | panic (message : String)
deriving DecidableEq

/-- The shared public parameters: the sizes generated so far, and whether a panic
has poisoned the lock. Only sizes below 32 can have been generated. -/
structure ParamsCache where
  cached : List UInt32
  poisoned : Bool
  generated : ∀ k ∈ cached, k < 32

/-- The cache of a process that has generated nothing yet. -/
def ParamsCache.fresh : ParamsCache := ⟨[], false, by simp⟩

/-- A computation of a process: its result or failure and the cache it left. -/
abbrev Process (α : Type) := ExceptT Failure (StateM ParamsCache) α

namespace Process

variable {α β : Type}

/-- Run a computation from a cache. -/
def runOn (cache : ParamsCache) (process : Process α) : Except Failure α × ParamsCache :=
  process.run.run cache

/-- A computation that does not touch the cache. -/
def ofResult (result : DbResult α) : Process α :=
  ExceptT.mk (pure (result.mapError Failure.error))

/-- An error of the proof system, as the crate reports it. -/
def ofPlonk (result : Except String α) : Process α :=
  ofResult (result.mapError DatabaseError.zeroKnowledge)

end Process

/-- Fetch the parameters of a size, generating them when absent. -/
def sharedParams (k : UInt32) : Process Unit := ExceptT.mk fun cache =>
  if cache.poisoned then (.error (.panic "params cache poisoned: PoisonError \x7b .. \x7d"), cache)
  else if k ∈ cache.cached then (.ok (), cache)
  else if small : k < 32 then
    (.ok (), { cache with
      cached := k :: cache.cached
      generated := by
        intro size member
        rcases List.mem_cons.mp member with rfl | old
        · exact small
        · exact cache.generated size old })
  else (.error (.panic "assertion failed: k < 32"), { cache with poisoned := true })

/-- `Err` unless a condition holds. -/
def ensure (condition : Bool) (error : DatabaseError) : DbResult Unit :=
  if condition then .ok () else .error error

/-- A check passes exactly when its condition holds. -/
@[simp] theorem ensure_eq_ok_iff (condition : Bool) (error : DatabaseError) :
    ensure condition error = .ok () ↔ condition = true := by
  cases condition <;> simp [ensure]

/-- `ensure_protocol`: a bundle of another protocol is refused. -/
def ensureProtocol (bundle : ProofContent) : DbResult Unit :=
  ensure (bundle.protocol = protocolId)
    (.zeroKnowledge ("unsupported protocol '" ++ bundle.protocol ++ "': expected " ++ protocolId))

/-- `ensure_circuit`: a bundle of another circuit is refused. -/
def ensureCircuit (bundle : ProofContent) (expected : String) : DbResult Unit :=
  ensure (bundle.circuit = expected)
    (.zeroKnowledge ("unexpected circuit '" ++ bundle.circuit ++ "', expected " ++ expected))

/-- The stored hash of an expected digest or commitment. -/
def hashExpectedDigest (digest : Bytes) : String := hexEncode (sha256 digest)

/-- `ensure_expected_hash`: the stored hash has to be that of what is expected. -/
def ensureExpectedHash (bundle : ProofContent) (expectedBytes : Bytes) : DbResult Unit :=
  ensure (bundle.expectedHash = hashExpectedDigest expectedBytes)
    (.integrity "expected commitment does not match stored hash")

/-- `ensure_relay_inputs`: both counts and the commitment are advertised, and are those of
the context. -/
def ensureRelayInputs (inputs : Json) (guardCount exitCount : UInt32)
    (expectedCommitment : Bytes) : DbResult Unit := do
  let obj ← okOr (.zeroKnowledge "relay proof missing public inputs") inputs.asObject
  let guard ← okOr (.zeroKnowledge "relay proof missing guard_count")
    ((Json.field obj "guard_count").bind Json.asU64)
  let exit ← okOr (.zeroKnowledge "relay proof missing exit_count")
    ((Json.field obj "exit_count").bind Json.asU64)
  let commitmentHex ← okOr (.zeroKnowledge "relay proof missing commitment")
    ((Json.field obj "commitment").bind Json.asStr)
  ensure (guard = guardCount.toUInt64 && exit = exitCount.toUInt64)
    (.integrity "relay proof public counts do not match verification context")
  ensure (hexEncode expectedCommitment = commitmentHex)
    (.integrity "relay proof commitment mismatch")

/-- `ensure_log_inputs`: the number and the commitment are advertised, and are those of
the context. -/
def ensureLogInputs (inputs : Json) (sequenceNumber : UInt64) (expectedCommitment : Bytes) :
    DbResult Unit := do
  let obj ← okOr (.zeroKnowledge "log proof missing public inputs") inputs.asObject
  let sequence ← okOr (.zeroKnowledge "log proof missing sequence")
    ((Json.field obj "sequence").bind Json.asU64)
  let commitmentHex ← okOr (.zeroKnowledge "log proof missing commitment")
    ((Json.field obj "commitment").bind Json.asStr)
  ensure (sequence = sequenceNumber)
    (.integrity "log proof sequence does not match verification context")
  ensure (hexEncode expectedCommitment = commitmentHex)
    (.integrity "log proof commitment mismatch")

/-- `ensure_execution_inputs`: the commitment is advertised, and is that of the
context. -/
def ensureExecutionInputs (inputs : Json) (expectedCommitment : Bytes) : DbResult Unit := do
  let obj ← okOr (.zeroKnowledge "execution proof missing public inputs") inputs.asObject
  let commitmentHex ← okOr (.zeroKnowledge "execution proof missing commitment")
    ((Json.field obj "commitment").bind Json.asStr)
  ensure (hexEncode expectedCommitment = commitmentHex)
    (.integrity "execution proof commitment mismatch")

/-- A digest of 32 octets. -/
structure Digest where
  octets : Bytes
  size : octets.length = 32

/-- A digest of another length is hashed. -/
def normaliseDigest (digest : Bytes) : Digest :=
  if size : digest.length = 32 then ⟨digest, size⟩ else ⟨sha256 digest, sha256_length digest⟩

/-- The scalar of a digest, read as four limbs. -/
def digestToScalar (digest : Digest) : Fp :=
  fromRaw (fromLeBytes (digest.octets.take 8)) (fromLeBytes ((digest.octets.drop 8).take 8))
    (fromLeBytes ((digest.octets.drop 16).take 8)) (fromLeBytes ((digest.octets.drop 24).take 8))

/-- `scalar_from_bytes`: 32 octets that encode a scalar in its least representative. -/
def scalarFromBytes (bytes : Bytes) : DbResult Fp := do
  ensure (bytes.length = 32) (.zeroKnowledge "proof commitment must be 32 bytes")
  okOr (.zeroKnowledge "invalid field encoding") (fromRepr bytes)

/-- What every verification ends with: fetch the parameters, derive the key, rebuild
the instance columns and ask the proof system. -/
def verifyInstance (halo2 : Halo2) (circuit : Circuit) (bundle : ProofContent)
    (columns : DbResult (List (List Fp))) : Process Unit := do
  sharedParams bundle.circuitSecurity
  Process.ofPlonk (halo2.keygenVk circuit bundle.circuitSecurity)
  let instanceColumns ← Process.ofResult columns
  Process.ofPlonk (halo2.verifyProof circuit bundle.circuitSecurity instanceColumns bundle.proof)

/-- Verify a stored equality proof against the supplied expected digest. -/
def verifyScalarEquality (halo2 : Halo2) (bundle : ProofContent) (expectedDigest : Bytes) :
    Process Unit := do
  Process.ofResult (ensure (bundle.protocol = protocolId && bundle.circuit = circuitIdScalar)
    (.zeroKnowledge "unsupported proof bundle"))
  let expected := normaliseDigest expectedDigest
  Process.ofResult (ensure (bundle.expectedHash = hashExpectedDigest expected.octets)
    (.integrity "expected digest does not match stored commitment"))
  verifyInstance halo2 .scalarEquality bundle (.ok [[digestToScalar expected]])

/-- `verify_relay_audit`: the checks of the bundle, and then the instance with the
commitment and the counts. -/
def verifyRelayAudit (halo2 : Halo2) (bundle : ProofContent) (expectedCommitment : Bytes)
    (guardCount exitCount : UInt32) : Process Unit := do
  Process.ofResult (ensureCircuit bundle circuitIdRelayAudit)
  Process.ofResult (ensureExpectedHash bundle expectedCommitment)
  Process.ofResult (ensureRelayInputs bundle.publicInputs guardCount exitCount expectedCommitment)
  verifyInstance halo2 .relayAudit bundle do
    let expectedScalar ← scalarFromBytes expectedCommitment
    return [[expectedScalar], [(guardCount.toNat : Fp)], [(exitCount.toNat : Fp)]]

/-- `verify_log_integrity`: the checks of the bundle, and then the instance with the
commitment and the number. -/
def verifyLogIntegrity (halo2 : Halo2) (bundle : ProofContent) (expectedCommitment : Bytes)
    (sequenceNumber : UInt64) : Process Unit := do
  Process.ofResult (ensureCircuit bundle circuitIdLogIntegrity)
  Process.ofResult (ensureExpectedHash bundle expectedCommitment)
  Process.ofResult (ensureLogInputs bundle.publicInputs sequenceNumber expectedCommitment)
  verifyInstance halo2 .logIntegrity bundle do
    let expectedScalar ← scalarFromBytes expectedCommitment
    return [[expectedScalar], [(sequenceNumber.toNat : Fp)]]

/-- `verify_execution_attestation`: the checks of the bundle, and then the instance with
the commitment. -/
def verifyExecutionAttestation (halo2 : Halo2) (bundle : ProofContent)
    (expectedCommitment : Bytes) : Process Unit := do
  Process.ofResult (ensureCircuit bundle circuitIdExecution)
  Process.ofResult (ensureExpectedHash bundle expectedCommitment)
  Process.ofResult (ensureExecutionInputs bundle.publicInputs expectedCommitment)
  verifyInstance halo2 .execution bundle do
    let expectedScalar ← scalarFromBytes expectedCommitment
    return [[expectedScalar]]

/-- Verify a stored proof with the supplied context. -/
def verifyProof (halo2 : Halo2) (bundle : ProofContent) (context : ZkVerificationContext) :
    Process Unit := do
  Process.ofResult (ensureProtocol bundle)
  match context with
  | .scalarDigest expectedDigest =>
      Process.ofResult (ensureCircuit bundle circuitIdScalar)
      Process.ofResult (ensureExpectedHash bundle expectedDigest)
      verifyScalarEquality halo2 bundle expectedDigest
  | .relayAudit expectedCommitment guardCount exitCount =>
      verifyRelayAudit halo2 bundle expectedCommitment guardCount exitCount
  | .logIntegrity expectedCommitment sequenceNumber =>
      verifyLogIntegrity halo2 bundle expectedCommitment sequenceNumber
  | .execution expectedCommitment => verifyExecutionAttestation halo2 bundle expectedCommitment

/-- The verdict of a process in which nothing else has run: the bundle satisfies the
context. -/
def Accepted (halo2 : Halo2) (bundle : ProofContent) (context : ZkVerificationContext) : Prop :=
  ((verifyProof halo2 bundle context).runOn .fresh).1 = .ok ()

/-- Whether a bundle is accepted can be computed, for a proof system that can be. -/
instance (halo2 : Halo2) (bundle : ProofContent) (context : ZkVerificationContext) :
    Decidable (Accepted halo2 bundle context) :=
  inferInstanceAs (Decidable (_ = _))

namespace Process

variable {α β : Type}

/-- A sequence continues from the cache its first part left, unless that failed. -/
theorem runOn_bind (cache : ParamsCache) (first : Process α) (next : α → Process β) :
    (first >>= next).runOn cache =
      match first.runOn cache with
      | (.ok result, after) => (next result).runOn after
      | (.error failure, after) => (.error failure, after) := by
  simp only [runOn, ExceptT.run_bind, StateT.run_bind]
  rcases StateT.run (ExceptT.run first) cache with ⟨_ | _, _⟩ <;> rfl

/-- A sequence succeeds exactly when both parts do, one after the other. -/
theorem runOn_bind_eq_ok_iff (cache last : ParamsCache) (first : Process α) (next : α → Process β)
    (result : β) :
    (first >>= next).runOn cache = (.ok result, last) ↔
      ∃ found between, first.runOn cache = (.ok found, between) ∧
        (next found).runOn between = (.ok result, last) := by
  rw [runOn_bind]
  rcases first.runOn cache with ⟨failure | found, between⟩
  · simp
  · constructor
    · exact fun rest => ⟨found, between, rfl, rest⟩
    · rintro ⟨_, _, same, rest⟩
      cases same
      exact rest

/-- What succeeds from some cache succeeds with the same result from every unpoisoned
one, and leaves that unpoisoned. -/
def Steady (process : Process α) : Prop :=
  ∀ cache after result, process.runOn cache = (.ok result, after) →
    ∀ other, other.poisoned = false →
      ∃ left, process.runOn other = (.ok result, left) ∧ left.poisoned = false

/-- A check does not look at the cache, so it is steady. -/
theorem steady_ofResult (result : DbResult α) : (ofResult result).Steady := by
  intro cache after value succeeded other healthy
  cases result with
  | error error => cases succeeded
  | ok found =>
    cases succeeded
    exact ⟨other, rfl, healthy⟩

/-- Neither does a step of the proof system. -/
theorem steady_ofPlonk (result : Except String α) : (ofPlonk result).Steady := steady_ofResult _

/-- Parameters are handed out only in sizes that can be generated. -/
theorem steady_sharedParams (k : UInt32) : (sharedParams k).Steady := by
  intro cache after value succeeded other healthy
  have small : k < 32 := by
    by_contra large
    have absent : k ∉ cache.cached := fun member => large (cache.generated k member)
    change (sharedParams k) cache = _ at succeeded
    simp only [sharedParams, ExceptT.mk, absent, large, ↓reduceIte, ↓reduceDIte] at succeeded
    split at succeeded <;> cases succeeded
  by_cases cached : k ∈ other.cached
  · refine ⟨other, ?_, healthy⟩
    change (sharedParams k) other = _
    simp [sharedParams, ExceptT.mk, healthy, cached]
  · refine ⟨((sharedParams k) other).2, ?_, ?_⟩
    · change (sharedParams k) other = _
      simp [sharedParams, ExceptT.mk, healthy, cached, small]
    · simp [sharedParams, ExceptT.mk, healthy, cached, small]

/-- Parts that are steady may be put together. -/
theorem Steady.bind {first : Process α} {next : α → Process β} (start : first.Steady)
    (rest : ∀ result, (next result).Steady) : (first >>= next).Steady := by
  intro cache after result succeeded other healthy
  obtain ⟨found, between, ran, continued⟩ := (runOn_bind_eq_ok_iff _ _ _ _ _).mp succeeded
  obtain ⟨left, again, unpoisoned⟩ := start cache between found ran other healthy
  rw [runOn_bind, again]
  exact rest found between after result continued left unpoisoned

end Process

open Process

/-- From the parameters on a verification is steady: parameters of a size are one value,
whenever they were generated. -/
theorem verifyInstance_steady (halo2 : Halo2) (circuit : Circuit) (bundle : ProofContent)
    (columns : DbResult (List (List Fp))) : (verifyInstance halo2 circuit bundle columns).Steady := by
  apply (steady_sharedParams _).bind
  intro _
  apply (steady_ofPlonk _).bind
  intro _
  apply (steady_ofResult _).bind
  intro _
  apply steady_ofPlonk

/-- The common end succeeds only when the proof system accepts the proof. -/
theorem verifyInstance_eq_ok {halo2 : Halo2} {circuit : Circuit} {bundle : ProofContent}
    {columns : DbResult (List (List Fp))} {cache after : ParamsCache}
    (succeeded : (verifyInstance halo2 circuit bundle columns).runOn cache = (.ok (), after)) :
    ∃ found, columns = .ok found ∧
      halo2.verifyProof circuit bundle.circuitSecurity found bundle.proof = .ok () := by
  obtain ⟨_, _, -, succeeded⟩ := (runOn_bind_eq_ok_iff _ _ _ _ _).mp succeeded
  obtain ⟨_, _, -, succeeded⟩ := (runOn_bind_eq_ok_iff _ _ _ _ _).mp succeeded
  obtain ⟨found, _, rebuilt, succeeded⟩ := (runOn_bind_eq_ok_iff _ _ _ _ _).mp succeeded
  refine ⟨found, ?_, ?_⟩
  · cases columns with
    | error error => cases rebuilt
    | ok others =>
      cases rebuilt
      rfl
  · generalize halo2.verifyProof circuit bundle.circuitSecurity found bundle.proof = verdict at *
    cases verdict with
    | error message => cases succeeded
    | ok done => rfl

/-- Verification depends on the rest of the process only through a poisoned lock. -/
theorem verifyProof_steady (halo2 : Halo2) (bundle : ProofContent)
    (context : ZkVerificationContext) : (verifyProof halo2 bundle context).Steady := by
  -- three checks of the circuit's own, then the common end
  have checked (circuit : Circuit) (first second third : DbResult Unit)
      (columns : DbResult (List (List Fp))) : Steady (do
        ofResult first
        ofResult second
        ofResult third
        verifyInstance halo2 circuit bundle columns) := by
    apply (steady_ofResult _).bind
    intro _
    apply (steady_ofResult _).bind
    intro _
    apply (steady_ofResult _).bind
    intro _
    apply verifyInstance_steady
  apply (steady_ofResult _).bind
  intro _
  cases context with
  | scalarDigest expectedDigest =>
    apply (steady_ofResult _).bind
    intro _
    apply checked
  | relayAudit expectedCommitment guardCount exitCount => apply checked
  | logIntegrity expectedCommitment sequenceNumber => apply checked
  | execution expectedCommitment => apply checked

/-- A bundle that some process accepts is accepted. -/
theorem accepted_of_runOn {halo2 : Halo2} {bundle : ProofContent}
    {context : ZkVerificationContext} {cache : ParamsCache}
    (succeeded : ((verifyProof halo2 bundle context).runOn cache).1 = .ok ()) :
    Accepted halo2 bundle context := by
  obtain ⟨left, ran, -⟩ := verifyProof_steady halo2 bundle context cache _ ()
    (Prod.ext succeeded rfl) .fresh rfl
  rw [Accepted, ran]

/-- What is accepted carries a proof that the proof system accepts. -/
theorem Accepted.proof {halo2 : Halo2} {bundle : ProofContent} {context : ZkVerificationContext}
    (accepted : Accepted halo2 bundle context) :
    ∃ circuit columns,
      halo2.verifyProof circuit bundle.circuitSecurity columns bundle.proof = .ok () := by
  have checked {circuit : Circuit} {first second third : DbResult Unit}
      {columns : DbResult (List (List Fp))} {cache after : ParamsCache}
      (succeeded : Process.runOn cache (do
        ofResult first
        ofResult second
        ofResult third
        verifyInstance halo2 circuit bundle columns) = (.ok (), after)) :
      ∃ circuit columns,
        halo2.verifyProof circuit bundle.circuitSecurity columns bundle.proof = .ok () := by
    obtain ⟨_, _, -, succeeded⟩ := (runOn_bind_eq_ok_iff _ _ _ _ _).mp succeeded
    obtain ⟨_, _, -, succeeded⟩ := (runOn_bind_eq_ok_iff _ _ _ _ _).mp succeeded
    obtain ⟨_, _, -, succeeded⟩ := (runOn_bind_eq_ok_iff _ _ _ _ _).mp succeeded
    obtain ⟨found, -, verdict⟩ := verifyInstance_eq_ok succeeded
    exact ⟨circuit, found, verdict⟩
  have succeeded : (verifyProof halo2 bundle context).runOn .fresh = (.ok (), _) :=
    Prod.ext accepted rfl
  obtain ⟨_, _, -, succeeded⟩ := (runOn_bind_eq_ok_iff _ _ _ _ _).mp succeeded
  cases context with
  | scalarDigest expectedDigest =>
    obtain ⟨_, _, -, succeeded⟩ := (runOn_bind_eq_ok_iff _ _ _ _ _).mp succeeded
    exact checked succeeded
  | relayAudit expectedCommitment guardCount exitCount => exact checked succeeded
  | logIntegrity expectedCommitment sequenceNumber => exact checked succeeded
  | execution expectedCommitment => exact checked succeeded

end SecureDatabase.Zk
