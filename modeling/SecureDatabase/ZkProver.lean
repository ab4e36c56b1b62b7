import SecureDatabase.ZkCircuits

/-!
# The provers

A prover derives its scalars and its public commitment, fetches the shared parameters,
generates the keys of its circuit and has the proof system create a proof. The proof system
is a parameter; its randomness is seeded by the parameter size, so a proof is a function of
the circuit, the size and the instance columns.

The identifier of a bundle and its time of creation are drawn when it is made, and are
arguments here.
-/

namespace SecureDatabase.Zk

open Foundation Plonkish

/-- The octets of a number, least significant first. -/
def leBytes : Nat → Nat → Bytes
  | 0, _ => []
  | size + 1, number => UInt8.ofNat (number % 256) :: leBytes size (number / 256)

/-- A number is written in as many octets as it is asked for. -/
theorem length_leBytes (size number : Nat) : (leBytes size number).length = size := by
  induction size generalizing number with
  | zero => rfl
  | succ size ih => rw [leBytes, List.length_cons, ih]

/-- A number that fits is read back from its octets. -/
theorem littleEndian_leBytes (size number : Nat) (fits : number < 256 ^ size) :
    littleEndian (leBytes size number) = number := by
  induction size generalizing number with
  | zero =>
    rw [pow_zero, Nat.lt_one_iff] at fits
    exact fits.symm
  | succ size ih =>
    have quotient : number / 256 < 256 ^ size :=
      Nat.div_lt_of_lt_mul (by rw [pow_succ, mul_comm] at fits; exact fits)
    have octet : (UInt8.ofNat (number % 256)).toNat = number % 256 := by
      simp
    rw [leBytes, littleEndian, ih _ quotient, octet]
    exact Nat.mod_add_div number 256

/-- `Fp::to_repr`. -/
def scalarToBytes (scalar : Fp) : Bytes := leBytes 32 scalar.val

/-- The modulus is not zero, so every number has a least representative. -/
instance : NeZero modulus := ⟨by decide⟩

/-- A scalar is read back from its own encoding. -/
theorem scalarFromBytes_scalarToBytes (scalar : Fp) :
    scalarFromBytes (scalarToBytes scalar) = .ok scalar := by
  have small : scalar.val < modulus := ZMod.val_lt scalar
  have size : modulus < 256 ^ 32 := by decide
  have read : littleEndian (scalarToBytes scalar) = scalar.val :=
    littleEndian_leBytes 32 _ (small.trans size)
  have canonical : fromRepr (scalarToBytes scalar) = some scalar := by
    simp [fromRepr, read, small]
  have length : (scalarToBytes scalar).length = 32 := length_leBytes 32 _
  simp [scalarFromBytes, ensure, length, canonical, okOr, bind, Except.bind]

/-- Commitment helper for relay audit proofs. -/
def deriveRelayCommitment (consensusDigest : Bytes) (guardCount exitCount : UInt32) : Bytes :=
  let consensus := digestToScalar (normaliseDigest consensusDigest)
  let guard : Fp := (guardCount.toNat : Fp)
  let exit : Fp := (exitCount.toNat : Fp)
  scalarToBytes (consensus + guard + exit)

/-- Commitment helper for audit log integrity proofs. -/
def deriveLogChainCommitment (previousHash entryHash : Bytes) (sequenceNumber : UInt64) : Bytes :=
  let previous := digestToScalar (normaliseDigest previousHash)
  let entry := digestToScalar (normaliseDigest entryHash)
  let sequence : Fp := (sequenceNumber.toNat : Fp)
  scalarToBytes (previous + entry * sequence)

/-- Commitment helper for execution attestation proofs. -/
def deriveExecutionCommitment (inputHash outputHash telemetryHash : Bytes) : Bytes :=
  let input := digestToScalar (normaliseDigest inputHash)
  let output := digestToScalar (normaliseDigest outputHash)
  let telemetry := digestToScalar (normaliseDigest telemetryHash)
  scalarToBytes (input + output + telemetry)

/-- The proof system on the prover's side. -/
structure Halo2Prover extends Halo2 where
  keygenPk : Circuit → UInt32 → Except String Unit
  createProof : AssignedCircuit → UInt32 → List (List Fp) → Except String Bytes

/-- What a prover hands to the proof system, and what it puts beside the proof. -/
structure ProvingTask where
  circuitId : String
  circuit : AssignedCircuit
  instanceColumns : List (List Fp)
  expectedHash : String
  publicInputs : Json

/-- What a bundle takes from its surroundings. -/
structure Drawn where
  proofId : Uuid
  createdAt : DateTime

/-- What `prove_digest_equality` proves: the scalar of the own digest, against that of the
expected one. -/
def digestEqualityTask (privateDigest expectedDigest : Bytes) : DbResult ProvingTask := do
  let own := normaliseDigest privateDigest
  let expected := normaliseDigest expectedDigest
  return {
    circuitId := circuitIdScalar
    circuit := .scalarEquality ⟨digestToScalar own⟩
    instanceColumns := [[digestToScalar expected]]
    expectedHash := hashExpectedDigest expected.octets
    publicInputs := .object [("expected_digest", .string (hexEncode expected.octets))] }

/-- What `prove_relay_audit` proves: the digest and the counts, against the commitment
that is derived from them. -/
def relayAuditTask (consensusDigest : Bytes) (guardCount exitCount : UInt32) :
    DbResult ProvingTask := do
  let consensusScalar := digestToScalar (normaliseDigest consensusDigest)
  let guardScalar : Fp := (guardCount.toNat : Fp)
  let exitScalar : Fp := (exitCount.toNat : Fp)
  let commitmentBytes := deriveRelayCommitment consensusDigest guardCount exitCount
  let expectedScalar ← scalarFromBytes commitmentBytes
  return {
    circuitId := circuitIdRelayAudit
    circuit := .relayAudit ⟨consensusScalar, guardScalar, exitScalar⟩
    instanceColumns := [[expectedScalar], [guardScalar], [exitScalar]]
    expectedHash := hashExpectedDigest commitmentBytes
    publicInputs := .object [("guard_count", .number (.posInt guardCount.toUInt64)),
      ("exit_count", .number (.posInt exitCount.toUInt64)),
      ("commitment", .string (hexEncode commitmentBytes))] }

/-- What `prove_log_chain_integrity` proves: the two hashes, against the commitment that
is derived from them and the number. -/
def logChainTask (previousHash entryHash : Bytes) (sequenceNumber : UInt64) :
    DbResult ProvingTask := do
  let previous := normaliseDigest previousHash
  let entry := normaliseDigest entryHash
  let sequenceScalar : Fp := (sequenceNumber.toNat : Fp)
  let commitmentBytes := deriveLogChainCommitment previousHash entryHash sequenceNumber
  let expectedScalar ← scalarFromBytes commitmentBytes
  return {
    circuitId := circuitIdLogIntegrity
    circuit := .logIntegrity ⟨digestToScalar previous, digestToScalar entry⟩
    instanceColumns := [[expectedScalar], [sequenceScalar]]
    expectedHash := hashExpectedDigest commitmentBytes
    publicInputs := .object [("sequence", .number (.posInt sequenceNumber)),
      ("commitment", .string (hexEncode commitmentBytes)),
      ("previous_hash", .string (hexEncode previous.octets)),
      ("entry_hash", .string (hexEncode entry.octets))] }

/-- What `prove_execution_attestation` proves: the three hashes, against the commitment
that is derived from them. -/
def executionTask (inputHash outputHash telemetryHash : Bytes) : DbResult ProvingTask := do
  let input := normaliseDigest inputHash
  let output := normaliseDigest outputHash
  let telemetry := normaliseDigest telemetryHash
  let commitmentBytes := deriveExecutionCommitment inputHash outputHash telemetryHash
  let expectedScalar ← scalarFromBytes commitmentBytes
  return {
    circuitId := circuitIdExecution
    circuit := .execution
      ⟨digestToScalar input, digestToScalar output, digestToScalar telemetry⟩
    instanceColumns := [[expectedScalar]]
    expectedHash := hashExpectedDigest commitmentBytes
    publicInputs := .object [("commitment", .string (hexEncode commitmentBytes)),
      ("input_hash", .string (hexEncode input.octets)),
      ("output_hash", .string (hexEncode output.octets)),
      ("telemetry_hash", .string (hexEncode telemetry.octets))] }

/-- What every prover ends with: fetch the parameters, generate the keys and create the
proof. -/
def proveTask (halo2 : Halo2Prover) (k : UInt32) (userId : Uuid) (drawn : Drawn)
    (task : DbResult ProvingTask) : Process ZkProofBundle := do
  let task ← Process.ofResult task
  sharedParams k
  Process.ofPlonk (halo2.keygenVk task.circuit.kind k)
  Process.ofPlonk (halo2.keygenPk task.circuit.kind k)
  let proof ← Process.ofPlonk (halo2.createProof task.circuit k task.instanceColumns)
  return {
    proofId := drawn.proofId
    userId
    protocol := protocolId
    circuit := task.circuitId
    circuitSecurity := k
    expectedHash := task.expectedHash
    publicInputs := task.publicInputs
    proof
    createdAt := drawn.createdAt }

namespace ZkProver

variable (halo2 : Halo2Prover) (k : UInt32) (userId : Uuid) (drawn : Drawn)

/-- `prove_digest_equality`: a bundle for that task. -/
def proveDigestEquality (privateDigest expectedDigest : Bytes) : Process ZkProofBundle :=
  proveTask halo2 k userId drawn (digestEqualityTask privateDigest expectedDigest)

/-- `prove_relay_audit`: a bundle for that task. -/
def proveRelayAudit (consensusDigest : Bytes) (guardCount exitCount : UInt32) :
    Process ZkProofBundle :=
  proveTask halo2 k userId drawn (relayAuditTask consensusDigest guardCount exitCount)

/-- `prove_log_chain_integrity`: a bundle for that task. -/
def proveLogChainIntegrity (previousHash entryHash : Bytes) (sequenceNumber : UInt64) :
    Process ZkProofBundle :=
  proveTask halo2 k userId drawn (logChainTask previousHash entryHash sequenceNumber)

/-- `prove_execution_attestation`: a bundle for that task. -/
def proveExecutionAttestation (inputHash outputHash telemetryHash : Bytes) :
    Process ZkProofBundle :=
  proveTask halo2 k userId drawn (executionTask inputHash outputHash telemetryHash)

end ZkProver

end SecureDatabase.Zk
