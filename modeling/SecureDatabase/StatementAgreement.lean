import SecureDatabase.PallasField
import SecureDatabase.VerifierChecks

/-!
# Prover and verifier agree on the statement

Three provers publish a commitment: a field element derived from digests and counts, written as
32 octets. The commitment is computed by a derivation function, enforced by the circuit's gate
and put in the instance columns; and the verifier reads it back from its octets, where only
canonical encodings are read. Digests enter by a conversion that reduces. Here is that the three
writings of the formula agree for every input: the prover gets to its proof, its row satisfies
the gate, and verification in the derived context comes down to the proof system's verdict on the
same instance columns.
-/

namespace SecureDatabase.Zk

open Foundation Plonkish Process

/-- What a prover of a commitment is called with. -/
inductive CommittedInput where
  | relayAudit (consensusDigest : Bytes) (guardCount exitCount : UInt32)
  | logChain (previousHash entryHash : Bytes) (sequenceNumber : UInt64)
  | execution (inputHash outputHash telemetryHash : Bytes)

namespace CommittedInput

/-- The call of the prover. -/
def prove (halo2 : Halo2Prover) (k : UInt32) (userId : Uuid) (drawn : Drawn) :
    CommittedInput → Process ZkProofBundle
  | relayAudit consensusDigest guardCount exitCount =>
      ZkProver.proveRelayAudit halo2 k userId drawn consensusDigest guardCount exitCount
  | logChain previousHash entryHash sequenceNumber =>
      ZkProver.proveLogChainIntegrity halo2 k userId drawn previousHash entryHash sequenceNumber
  | execution inputHash outputHash telemetryHash =>
      ZkProver.proveExecutionAttestation halo2 k userId drawn inputHash outputHash telemetryHash

/-- The matching derivation of the commitment. -/
def commitment : CommittedInput → Bytes
  | relayAudit consensusDigest guardCount exitCount =>
      deriveRelayCommitment consensusDigest guardCount exitCount
  | logChain previousHash entryHash sequenceNumber =>
      deriveLogChainCommitment previousHash entryHash sequenceNumber
  | execution inputHash outputHash telemetryHash =>
      deriveExecutionCommitment inputHash outputHash telemetryHash

/-- The context with the derived commitment and the same counts or sequence number. -/
def context (input : CommittedInput) : ZkVerificationContext :=
  match input with
  | relayAudit _ guardCount exitCount => .relayAudit input.commitment guardCount exitCount
  | logChain _ _ sequenceNumber => .logIntegrity input.commitment sequenceNumber
  | execution _ _ _ => .execution input.commitment

/-- The same input among those of all provers. -/
def proverInput : CommittedInput → ProverInput
  | relayAudit consensusDigest guardCount exitCount =>
      .relayAudit consensusDigest guardCount exitCount
  | logChain previousHash entryHash sequenceNumber =>
      .logChain previousHash entryHash sequenceNumber
  | execution inputHash outputHash telemetryHash =>
      .execution inputHash outputHash telemetryHash

/-- Every prover computes its task first and then asks the proof system, in the same
way. -/
theorem prove_eq_proveTask (input : CommittedInput) (halo2 : Halo2Prover) (k : UInt32)
    (userId : Uuid) (drawn : Drawn) :
    input.prove halo2 k userId drawn = proveTask halo2 k userId drawn input.proverInput.task := by
  cases input <;> rfl

/-- Every derived commitment is the encoding of a field element. -/
theorem commitment_canonical (input : CommittedInput) :
    ∃ scalar, scalarFromBytes input.commitment = .ok scalar := by
  cases input <;> exact ⟨_, scalarFromBytes_scalarToBytes _⟩

end CommittedInput

/-- A check that passes is followed by the rest. -/
theorem ofResult_ok_bind {α β : Type} (value : β) (next : β → Process α) :
    (ofResult (.ok value) >>= next) = next value := by
  funext cache
  exact runOn_ofResult_ok value next cache

/-- A verification whose four checks pass is its common end. -/
theorem checks_passed {protocol circuit hashed inputs : DbResult Unit}
    (passed : (protocol = .ok () ∧ circuit = .ok () ∧ hashed = .ok ()) ∧ inputs = .ok ())
    (ending : Process Unit) : (do
      ofResult protocol
      ofResult circuit
      ofResult hashed
      ofResult inputs
      ending) = ending := by
  obtain ⟨⟨rfl, rfl, rfl⟩, rfl⟩ := passed
  simp only [ofResult_ok_bind]

/-- A bundle names the protocol and carries what a prover put beside its proof. -/
structure Carries (bundle : ProofContent) (task : ProvingTask) : Prop where
  protocol : bundle.protocol = protocolId
  circuit : bundle.circuit = task.circuitId
  expectedHash : bundle.expectedHash = task.expectedHash
  publicInputs : bundle.publicInputs = task.publicInputs

section Verification

variable (verifier : Halo2) {bundle : ProofContent} {task : ProvingTask} {commitment : Bytes}
  {scalar : Fp} (read : scalarFromBytes commitment = .ok scalar)

/-- The checks that every verification of a commitment starts with. -/
theorem Carries.checks (carries : Carries bundle task)
    (hashed : task.expectedHash = hashExpectedDigest commitment) :
    ensureProtocol bundle = .ok () ∧ ensureCircuit bundle task.circuitId = .ok () ∧
      ensureExpectedHash bundle commitment = .ok () := by
  simp [ensureProtocol, ensureCircuit, ensureExpectedHash, carries.protocol, carries.circuit,
    carries.expectedHash, hashed]

include read

/-- Past its checks the verification of an audit is that of an instance with the
commitment and the counts. -/
theorem verifyProof_relayAudit {guardCount exitCount : UInt32}
    (passed : (ensureProtocol bundle = .ok () ∧ ensureCircuit bundle circuitIdRelayAudit = .ok () ∧
      ensureExpectedHash bundle commitment = .ok ()) ∧
      ensureRelayInputs bundle.publicInputs guardCount exitCount commitment = .ok ()) :
    verifyProof verifier bundle (.relayAudit commitment guardCount exitCount) =
      verifyInstance verifier .relayAudit bundle
        (.ok [[scalar], [(guardCount.toNat : Fp)], [(exitCount.toNat : Fp)]]) := by
  rw [verifyProof, verifyRelayAudit, read]
  exact checks_passed passed _

/-- Past its checks the verification of a log entry is that of an instance with the
commitment and the number. -/
theorem verifyProof_logIntegrity {sequenceNumber : UInt64}
    (passed : (ensureProtocol bundle = .ok () ∧
      ensureCircuit bundle circuitIdLogIntegrity = .ok () ∧
      ensureExpectedHash bundle commitment = .ok ()) ∧
      ensureLogInputs bundle.publicInputs sequenceNumber commitment = .ok ()) :
    verifyProof verifier bundle (.logIntegrity commitment sequenceNumber) =
      verifyInstance verifier .logIntegrity bundle
        (.ok [[scalar], [(sequenceNumber.toNat : Fp)]]) := by
  rw [verifyProof, verifyLogIntegrity, read]
  exact checks_passed passed _

/-- Past its checks the verification of an execution is that of an instance with the
commitment. -/
theorem verifyProof_execution
    (passed : (ensureProtocol bundle = .ok () ∧ ensureCircuit bundle circuitIdExecution = .ok () ∧
      ensureExpectedHash bundle commitment = .ok ()) ∧
      ensureExecutionInputs bundle.publicInputs commitment = .ok ()) :
    verifyProof verifier bundle (.execution commitment) =
      verifyInstance verifier .execution bundle (.ok [[scalar]]) := by
  rw [verifyProof, verifyExecutionAttestation, read]
  exact checks_passed passed _

end Verification

/-- In the derived context, what carries the public part of a task is verified by the proof
system's verdict on the task's instance columns. -/
theorem verifyProof_of_carries (verifier : Halo2) {input : CommittedInput} {task : ProvingTask}
    (derived : input.proverInput.task = .ok task) {bundle : ProofContent}
    (carries : Carries bundle task) :
    verifyProof verifier bundle input.context =
      verifyInstance verifier task.circuit.kind bundle (.ok task.instanceColumns) := by
  obtain ⟨scalar, read⟩ := input.commitment_canonical
  cases input with
  | relayAudit consensusDigest guardCount exitCount =>
    change scalarFromBytes (deriveRelayCommitment _ _ _) = _ at read
    rw [CommittedInput.proverInput, ProverInput.task, relayAuditTask, read] at derived
    cases derived
    refine verifyProof_relayAudit verifier read ⟨carries.checks rfl, ?_⟩
    rw [carries.publicInputs]
    exact checkInputs_bareInputs (.relayAudit _ guardCount exitCount)
  | logChain previousHash entryHash sequenceNumber =>
    change scalarFromBytes (deriveLogChainCommitment _ _ _) = _ at read
    rw [CommittedInput.proverInput, ProverInput.task, logChainTask, read] at derived
    cases derived
    refine verifyProof_logIntegrity verifier read ⟨carries.checks rfl, ?_⟩
    rw [carries.publicInputs]
    simp [ensureLogInputs, Json.asObject, Json.field, List.lookup_cons, Json.asU64, Json.asStr,
      okOr, ensure, bind, Except.bind]
  | execution inputHash outputHash telemetryHash =>
    change scalarFromBytes (deriveExecutionCommitment _ _ _) = _ at read
    rw [CommittedInput.proverInput, ProverInput.task, executionTask, read] at derived
    cases derived
    refine verifyProof_execution verifier read ⟨carries.checks rfl, ?_⟩
    rw [carries.publicInputs]
    simp [ensureExecutionInputs, CommittedInput.commitment, Json.asObject, Json.field, Json.asStr,
      okOr, ensure, bind, Except.bind]

/-- For every input of the three provers there is a task that the prover hands to the proof
system, whatever that is, whoever the user and whatever the parameter size: the derived commitment
is a canonical encoding. The row that the task assigns satisfies the gate, however many rows the
table has and however the rest is blinded. And verification of a returned bundle in the derived
context is the proof system's verdict on the instance columns of the task: every protocol,
circuit, hash and public-input check passes.

Proof: each prover derives its task without looking at the proof system, and the commitment is
the encoding of the scalar that the task has in its instance. The assigned row meets the gate
by construction. The bundle carries the task, and a verifier of a bundle that carries a task
makes the checks that the task passes. -/
theorem prover_verifier_agree (input : CommittedInput) :
    ∃ task scalar, scalarFromBytes input.commitment = .ok scalar ∧
      (∀ halo2 k userId drawn,
        input.prove halo2 k userId drawn = proveTask halo2 k userId drawn (.ok task)) ∧
      (∀ rows usable blinding, 0 < usable → usable ≤ rows →
        GatesHold task.circuit.constraints rows
          (proverTable usable task.circuit.layout task.instanceColumns blinding) 0) ∧
      ∀ halo2 k userId drawn cache bundle after,
        (input.prove halo2 k userId drawn).runOn cache = (.ok bundle, after) →
          ∀ verifier, verifyProof verifier bundle.toProofContent input.context =
            verifyInstance verifier task.circuit.kind bundle.toProofContent
              (.ok task.instanceColumns) := by
  obtain ⟨task, derived, -, honest⟩ := input.proverInput.honest
  obtain ⟨scalar, read⟩ := input.commitment_canonical
  have reaches (halo2 : Halo2Prover) (k : UInt32) (userId : Uuid) (drawn : Drawn) :
      input.prove halo2 k userId drawn = proveTask halo2 k userId drawn (.ok task) := by
    rw [input.prove_eq_proveTask, derived]
  refine ⟨task, scalar, read, reaches, ?_, ?_⟩
  · intro rows usable blinding first within
    rw [gatesHold_iff (first.trans_le within)]
    exact honest.assigned usable blinding first
  · intro halo2 k userId drawn cache bundle after proved verifier
    rw [reaches] at proved
    obtain ⟨found, proof, same, -, -, content⟩ := proveTask_eq_ok proved
    cases same
    have carries : Carries bundle.toProofContent task := by
      rw [content]
      exact ⟨rfl, rfl, rfl, rfl⟩
    exact verifyProof_of_carries verifier derived carries

/-- The relay audit of the formula's test. -/
def relayInput : CommittedInput := .relayAudit (utf8 "consensus-root") 5 7

/-- Where the proof system creates and accepts everything, the audit is proved, its row satisfies
the gate, and its bundle is accepted. -/
theorem relayInput_proved_and_accepted :
    ∃ (task : ProvingTask) (bundle : ZkProofBundle) (after : ParamsCache),
      (relayInput.prove obligingHalo2 14 .nil ⟨.nil, ⟨0⟩⟩).runOn .fresh = (.ok bundle, after) ∧
      GatesHold task.circuit.constraints 64
        (proverTable 58 task.circuit.layout task.instanceColumns (fun _ _ => 1)) 0 ∧
      ((verifyProof obligingHalo2.toHalo2 bundle.toProofContent relayInput.context).runOn
        after).1 = .ok () := by
  obtain ⟨task, scalar, -, reaches, gate, verified⟩ := prover_verifier_agree relayInput
  have proved : ∃ bundle after,
      (relayInput.prove obligingHalo2 14 .nil ⟨.nil, ⟨0⟩⟩).runOn .fresh = (.ok bundle, after) := by
    rw [reaches]
    exact ⟨_, _, rfl⟩
  obtain ⟨bundle, after, returned⟩ := proved
  refine ⟨task, bundle, after, returned, gate 64 58 _ (by decide) (by decide), ?_⟩
  rw [verified _ _ _ _ _ _ _ returned, verifyInstance_ok_iff]
  rw [reaches] at returned
  obtain ⟨_, _, -, small, healthy, content⟩ := proveTask_eq_ok returned
  exact ⟨healthy, by rw [content]; exact small, rfl, _, rfl, rfl⟩

end SecureDatabase.Zk
