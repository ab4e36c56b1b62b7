import SecureDatabase.ZkProver

/-!
# Completeness of the circuits

The table that an honest prover builds satisfies its circuit on the row that it assigns and
on the zero rows below. The gates have no selector, so they are enforced on the blinding rows
too, where the instance columns are zero and the advice columns are random: there the table
satisfies its circuit exactly when the blinding values happen to.
-/

namespace SecureDatabase.Zk

open Foundation Plonkish

/-- What the provers are called with. Equality is proved of digests that are equal. -/
inductive ProverInput where
  | digestEquality (privateDigest expectedDigest : Bytes)
      (equal : normaliseDigest privateDigest = normaliseDigest expectedDigest)
  | relayAudit (consensusDigest : Bytes) (guardCount exitCount : UInt32)
  | logChain (previousHash entryHash : Bytes) (sequenceNumber : UInt64)
  | execution (inputHash outputHash telemetryHash : Bytes)

namespace ProverInput

/-- What a prover computes from its inputs before the proof system is asked. -/
def task : ProverInput → DbResult ProvingTask
  | digestEquality privateDigest expectedDigest _ =>
      digestEqualityTask privateDigest expectedDigest
  | relayAudit consensusDigest guardCount exitCount =>
      relayAuditTask consensusDigest guardCount exitCount
  | logChain previousHash entryHash sequenceNumber =>
      logChainTask previousHash entryHash sequenceNumber
  | execution inputHash outputHash telemetryHash =>
      executionTask inputHash outputHash telemetryHash

/-- The circuit that a prover fills in. -/
def circuit : ProverInput → Circuit
  | digestEquality _ _ _ => .scalarEquality
  | relayAudit _ _ _ => .relayAudit
  | logChain _ _ _ => .logIntegrity
  | execution _ _ _ => .execution

end ProverInput

/-- The rows of a table of a size that do not hide others. -/
def usableRows (blindingFactors k : Nat) : Nat := 2 ^ k - (blindingFactors + 1)

/-- The assignment that a prover builds satisfies every gate on every row, and every copy. -/
def ProvingTask.Satisfied (task : ProvingTask) (blindingFactors k : Nat)
    (blinding : Nat → Nat → Fp) : Prop :=
  Satisfies task.circuit.constraints task.circuit.layout.copies (2 ^ k)
    (proverTable (usableRows blindingFactors k) task.circuit.layout task.instanceColumns blinding)

/-- The advice values of a row that a circuit's gate lets pass next to zero instances. -/
def Vanishes : Circuit → (Nat → Fp) → Prop
  | .scalarEquality, advice => advice 0 = 0
  | .relayAudit, advice => advice 0 = 0 ∧ advice 1 = 0 ∧ advice 2 = 0
  | .logIntegrity, advice => advice 0 = 0
  | .execution, advice => advice 0 + advice 1 + advice 2 = 0

/-- The blinding values of every blinding row vanish. -/
def BlindingVanishes (circuit : Circuit) (blindingFactors k : Nat)
    (blinding : Nat → Nat → Fp) : Prop :=
  ∀ row, usableRows blindingFactors k ≤ row → row < 2 ^ k →
    Vanishes circuit (fun column => blinding column row)

section Gates

variable {rows row : Nat} {table : Table Fp} (inside : row < rows)

/-- The gate of a circuit on a row. -/
def GateEquations (table : Table Fp) (row : Nat) : Circuit → Prop
  | .scalarEquality => table (.advice 0) row = table (.instances 0) row
  | .relayAudit =>
      table (.advice 1) row = table (.instances 1) row ∧
      table (.advice 2) row = table (.instances 2) row ∧
      table (.advice 0) row + table (.advice 1) row + table (.advice 2) row =
        table (.instances 0) row
  | .logIntegrity =>
      table (.advice 1) row * table (.instances 1) row + table (.advice 0) row =
        table (.instances 0) row
  | .execution =>
      table (.advice 0) row + table (.advice 1) row + table (.advice 2) row =
        table (.instances 0) row

include inside in
/-- The gates of a circuit hold on a row exactly when its equations do. -/
theorem gatesHold_iff (circuit : AssignedCircuit) :
    GatesHold circuit.constraints rows table row ↔ GateEquations table row circuit.kind := by
  cases circuit with
  | scalarEquality circuit =>
    have gates : (AssignedCircuit.scalarEquality circuit).constraints.gates =
        [⟨"value equals expected", [queryCur (.advice 0) - queryCur (.instances 0)]⟩] := rfl
    simp [GatesHold, gates, inside, sub_eq_zero, GateEquations, AssignedCircuit.kind]
  | relayAudit circuit =>
    have gates : (AssignedCircuit.relayAudit circuit).constraints.gates =
        [⟨"relay audit commitment",
          [queryCur (.advice 1) - queryCur (.instances 1),
            queryCur (.advice 2) - queryCur (.instances 2),
            queryCur (.advice 0) + queryCur (.advice 1) + queryCur (.advice 2) -
              queryCur (.instances 0)]⟩] := rfl
    simp [GatesHold, gates, inside, sub_eq_zero, GateEquations, AssignedCircuit.kind]
  | logIntegrity circuit =>
    have gates : (AssignedCircuit.logIntegrity circuit).constraints.gates =
        [⟨"log chain integrity",
          [queryCur (.advice 1) * queryCur (.instances 1) + queryCur (.advice 0) -
            queryCur (.instances 0)]⟩] := rfl
    simp [GatesHold, gates, inside, sub_eq_zero, GateEquations, AssignedCircuit.kind]
  | execution circuit =>
    have gates : (AssignedCircuit.execution circuit).constraints.gates =
        [⟨"execution attestation",
          [queryCur (.advice 0) + queryCur (.advice 1) + queryCur (.advice 2) -
            queryCur (.instances 0)]⟩] := rfl
    simp [GatesHold, gates, inside, sub_eq_zero, GateEquations, AssignedCircuit.kind]

end Gates

section Parts

variable {usable row : Nat} {layout : Layout Fp} {instances : List (List Fp)}
  {blinding : Nat → Nat → Fp} (top : TopRowOnly layout instances)

include top

/-- The zero rows satisfy every gate. -/
theorem gateEquations_padding (below : 0 < row) (inside : row < usable) (circuit : Circuit) :
    GateEquations (proverTable usable layout instances blinding) row circuit := by
  cases circuit <;>
    simp [GateEquations, proverTable_padding top _ below inside, proverTable_instances top _ below]

/-- A blinding row satisfies a gate exactly when its values vanish. -/
theorem gateEquations_blinding_iff (below : 0 < row) (blind : usable ≤ row) (circuit : Circuit) :
    GateEquations (proverTable usable layout instances blinding) row circuit ↔
      Vanishes circuit (fun column => blinding column row) := by
  cases circuit with
  | relayAudit =>
    simp only [GateEquations, Vanishes, proverTable_blinding _ blind,
      proverTable_instances top _ below]
    constructor
    · rintro ⟨guard, exit, sum⟩
      rw [guard, exit, add_zero, add_zero] at sum
      exact ⟨sum, guard, exit⟩
    · rintro ⟨consensus, guard, exit⟩
      rw [consensus, guard, exit]
      simp
  | scalarEquality =>
    simp only [GateEquations, Vanishes, proverTable_blinding _ blind,
      proverTable_instances top _ below]
  | logIntegrity =>
    simp only [GateEquations, Vanishes, proverTable_blinding _ blind,
      proverTable_instances top _ below, mul_zero, zero_add]
  | execution =>
    simp only [GateEquations, Vanishes, proverTable_blinding _ blind,
      proverTable_instances top _ below]

end Parts

/-- A task whose assigned row is right: it is the only one, it satisfies the gate, and the
copies agree. -/
structure ProvingTask.Honest (task : ProvingTask) : Prop where
  top : TopRowOnly task.circuit.layout task.instanceColumns
  assigned : ∀ usable blinding, 0 < usable →
    GateEquations (proverTable usable task.circuit.layout task.instanceColumns blinding) 0
      task.circuit.kind
  copied : ∀ usable blinding, 0 < usable → ∀ copied ∈ task.circuit.layout.copies,
    CopyHolds task.circuit.constraints
      (proverTable usable task.circuit.layout task.instanceColumns blinding) copied

/-- The table of an honest task is right but for its blinding rows. -/
theorem ProvingTask.Honest.satisfied_iff {task : ProvingTask} (honest : task.Honest)
    {blindingFactors k : Nat} (room : blindingFactors + 1 < 2 ^ k) (blinding : Nat → Nat → Fp) :
    task.Satisfied blindingFactors k blinding ↔
      BlindingVanishes task.circuit.kind blindingFactors k blinding := by
  have first : 0 < usableRows blindingFactors k := Nat.sub_pos_of_lt room
  have within : usableRows blindingFactors k ≤ 2 ^ k := Nat.sub_le _ _
  constructor
  · rintro ⟨gates, -⟩ row blind inside
    rw [← gateEquations_blinding_iff honest.top (by omega) blind]
    exact (gatesHold_iff inside _).mp (gates row inside)
  · intro vanishes
    refine ⟨(forall_rows_iff _ first within).mpr ⟨?_, ?_, ?_⟩, honest.copied _ _ first⟩
    · rw [gatesHold_iff (by omega)]
      exact honest.assigned _ _ first
    · intro row below inside
      rw [gatesHold_iff (by omega)]
      exact gateEquations_padding honest.top below inside _
    · intro row blind inside
      rw [gatesHold_iff inside, gateEquations_blinding_iff honest.top (by omega) blind]
      exact vanishes row blind inside

/-- The equality circuit assigns one cell and copies it to the instance column. -/
theorem layout_scalarEquality (value : Fp) :
    (AssignedCircuit.scalarEquality ⟨value⟩).layout =
      { columns := [(.advice 0, 1)]
        cells := [((.advice 0, 0), value)]
        copies := [((.advice 0, 0), (.instances 0, 0))] } := rfl

/-- Digests that agree after normalising are proved by a task that meets its equation. -/
theorem honest_digestEquality {privateDigest expectedDigest : Bytes}
    (equal : normaliseDigest privateDigest = normaliseDigest expectedDigest) :
    ∃ task, digestEqualityTask privateDigest expectedDigest = .ok task ∧
      task.circuit.kind = .scalarEquality ∧ task.Honest := by
  have value (usable : Nat) (blinding : Nat → Nat → Fp) (first : 0 < usable) :
      proverTable usable (AssignedCircuit.scalarEquality
        ⟨digestToScalar (normaliseDigest privateDigest)⟩).layout
        [[digestToScalar (normaliseDigest expectedDigest)]] blinding (.advice 0) 0 =
      digestToScalar (normaliseDigest expectedDigest) := by
    rw [← equal]
    exact proverTable_top first rfl
  refine ⟨_, rfl, rfl, ⟨?_, by simp⟩, value, ?_⟩
  · simp [layout_scalarEquality]
  · intro usable blinding first copied member
    rw [layout_scalarEquality] at member
    obtain rfl := List.mem_singleton.mp member
    exact ⟨List.mem_cons_self, List.mem_cons_of_mem _ List.mem_cons_self,
      value usable blinding first⟩

/-- The audit circuit assigns the digest and both counts to one row, and copies
nothing. -/
theorem layout_relayAudit (consensus guard exit : Fp) :
    (AssignedCircuit.relayAudit ⟨consensus, guard, exit⟩).layout =
      { columns := [(.advice 0, 1), (.advice 1, 1), (.advice 2, 1)]
        cells := [((.advice 2, 0), exit), ((.advice 1, 0), guard), ((.advice 0, 0), consensus)]
        copies := [] } := rfl

/-- Whatever the counts are, the task of an audit meets its equation: the commitment is
computed from them. -/
theorem honest_relayAudit (consensusDigest : Bytes) (guardCount exitCount : UInt32) :
    ∃ task, relayAuditTask consensusDigest guardCount exitCount = .ok task ∧
      task.circuit.kind = .relayAudit ∧ task.Honest := by
  have read := scalarFromBytes_scalarToBytes (digestToScalar (normaliseDigest consensusDigest) +
    (guardCount.toNat : Fp) + (exitCount.toNat : Fp))
  refine ⟨_, by rw [relayAuditTask, deriveRelayCommitment, read]; rfl, rfl, ⟨?_, by simp⟩, ?_, ?_⟩
  · simp [layout_relayAudit]
  · intro usable blinding first
    refine ⟨proverTable_top first rfl, proverTable_top first rfl, ?_⟩
    exact congrArg₂ (· + ·) (congrArg₂ (· + ·) (proverTable_top first rfl)
      (proverTable_top first rfl)) (proverTable_top first rfl)
  · intro _ _ _ _ member
    cases member

/-- The log circuit assigns the two hashes to one row, and copies nothing; the sequence
number is public only. -/
theorem layout_logIntegrity (previous entry : Fp) :
    (AssignedCircuit.logIntegrity ⟨previous, entry⟩).layout =
      { columns := [(.advice 0, 1), (.advice 1, 1)]
        cells := [((.advice 1, 0), entry), ((.advice 0, 0), previous)]
        copies := [] } := rfl

/-- The task of a log entry meets its equation. -/
theorem honest_logChain (previousHash entryHash : Bytes) (sequenceNumber : UInt64) :
    ∃ task, logChainTask previousHash entryHash sequenceNumber = .ok task ∧
      task.circuit.kind = .logIntegrity ∧ task.Honest := by
  have read := scalarFromBytes_scalarToBytes (digestToScalar (normaliseDigest previousHash) +
    digestToScalar (normaliseDigest entryHash) * (sequenceNumber.toNat : Fp))
  refine ⟨_, by rw [logChainTask, deriveLogChainCommitment, read]; rfl, rfl, ⟨?_, by simp⟩, ?_, ?_⟩
  · simp [layout_logIntegrity]
  · intro usable blinding first
    refine (congrArg₂ (· + ·) (congrArg (· * _) (proverTable_top first rfl))
      (proverTable_top first rfl)).trans ?_
    exact add_comm _ _
  · intro _ _ _ _ member
    cases member

/-- The execution circuit assigns its three hashes to one row, and copies nothing. -/
theorem layout_execution (input output telemetry : Fp) :
    (AssignedCircuit.execution ⟨input, output, telemetry⟩).layout =
      { columns := [(.advice 0, 1), (.advice 1, 1), (.advice 2, 1)]
        cells := [((.advice 2, 0), telemetry), ((.advice 1, 0), output), ((.advice 0, 0), input)]
        copies := [] } := rfl

/-- The task of an execution meets its equation. -/
theorem honest_execution (inputHash outputHash telemetryHash : Bytes) :
    ∃ task, executionTask inputHash outputHash telemetryHash = .ok task ∧
      task.circuit.kind = .execution ∧ task.Honest := by
  have read := scalarFromBytes_scalarToBytes (digestToScalar (normaliseDigest inputHash) +
    digestToScalar (normaliseDigest outputHash) + digestToScalar (normaliseDigest telemetryHash))
  refine ⟨_, by rw [executionTask, deriveExecutionCommitment, read]; rfl, rfl, ⟨?_, by simp⟩,
    ?_, ?_⟩
  · simp [layout_execution]
  · intro usable blinding first
    exact congrArg₂ (· + ·) (congrArg₂ (· + ·) (proverTable_top first rfl)
      (proverTable_top first rfl)) (proverTable_top first rfl)
  · intro _ _ _ _ member
    cases member

/-- Every prover gets to its task, and the row it assigns is right. -/
theorem ProverInput.honest (input : ProverInput) :
    ∃ task, input.task = .ok task ∧ task.circuit.kind = input.circuit ∧ task.Honest := by
  cases input with
  | digestEquality privateDigest expectedDigest equal => exact honest_digestEquality equal
  | relayAudit consensusDigest guardCount exitCount => exact honest_relayAudit _ _ _
  | logChain previousHash entryHash sequenceNumber => exact honest_logChain _ _ _
  | execution inputHash outputHash telemetryHash => exact honest_execution _ _ _

/-- For every table size with a usable row, every input of a prover and all blinding values:
the prover builds an assignment, and it satisfies every gate and copy of its circuit on all
rows exactly when the blinding values of each blinding row vanish: the value of an equality,
the three values of a relay audit, the previous value of a log chain, or the sum of an
execution.

Proof: the assigned row satisfies the gate since the commitment is derived by the same
formula, the rows below are zero, and on the blinding rows the instances are zero, so the
gate is a condition on the blinding values alone. -/
theorem satisfied_iff_blindingVanishes (blindingFactors k : Nat)
    (room : blindingFactors + 1 < 2 ^ k) (input : ProverInput) (blinding : Nat → Nat → Fp) :
    ∃ task, input.task = .ok task ∧
      (task.Satisfied blindingFactors k blinding ↔
        BlindingVanishes input.circuit blindingFactors k blinding) := by
  obtain ⟨task, derived, circuit, honest⟩ := input.honest
  refine ⟨task, derived, ?_⟩
  rw [← circuit]
  exact honest.satisfied_iff room blinding

/-- The input of the round-trip test. -/
def roundTripInput : ProverInput :=
  .digestEquality (sha256 (utf8 "halo2-proof")) (sha256 (utf8 "halo2-proof")) rfl

/-- Without blinding the table of the round trip is satisfied. -/
theorem satisfied_roundTrip_unblinded :
    5 + 1 < 2 ^ 14 ∧ ∃ task, roundTripInput.task = .ok task ∧
      task.Satisfied 5 14 (fun _ _ => 0) := by
  obtain ⟨task, derived, complete⟩ :=
    satisfied_iff_blindingVanishes 5 14 (by decide) roundTripInput (fun _ _ => 0)
  exact ⟨by decide, task, derived, complete.mpr (fun _ _ _ => rfl)⟩

/-- With a blinding value of one the table of the round trip is not satisfied. -/
theorem not_satisfied_roundTrip :
    ∃ task, roundTripInput.task = .ok task ∧ ¬ task.Satisfied 5 14 (fun _ _ => 1) := by
  obtain ⟨task, derived, circuit, honest⟩ := roundTripInput.honest
  refine ⟨task, derived, ?_⟩
  rw [honest.satisfied_iff (by decide), circuit]
  intro vanishes
  have last : (1 : Fp) = 0 := vanishes (2 ^ 14 - 1) (by decide) (by decide)
  exact absurd last (by decide)

end SecureDatabase.Zk
