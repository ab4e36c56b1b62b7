import SecureDatabase.Foundation.Plonkish
import SecureDatabase.ZkVerification

/-!
# The circuits

Each of the four circuits is configured as columns and one gate, and assigns the values that
the prover knows to one row. The gates relate that row to the public inputs with no selector,
so they speak about every other row of the table as well.
-/

namespace SecureDatabase.Zk

open Foundation Plonkish

/-- The private witness of the equality circuit: one scalar. -/
structure ScalarEqualityCircuit where
  privateValue : Fp

namespace ScalarEqualityCircuit

/-- One private and one public column; the gate compares their cells on every row. -/
def configure : Configure Fp (Column × Column) := do
  let value ← adviceColumn
  let expected ← instanceColumn
  enableEquality value
  enableEquality expected
  createGate "value equals expected" [queryCur value - queryCur expected]
  return (value, expected)

/-- The witness is assigned to the first row and copied to the public column. -/
def synthesize (circuit : ScalarEqualityCircuit) (config : Column × Column) :
    Synthesis Fp Unit := do
  let (valueCol, instanceCol) := config
  let start ← assignRegion [(valueCol, 0, circuit.privateValue)]
  constrainInstance (valueCol, start) instanceCol 0

end ScalarEqualityCircuit

/-- The private witness of the audit circuit: the digest and both counts. -/
structure RelayAuditCircuit where
  consensusValue : Fp
  guardValue : Fp
  exitValue : Fp

namespace RelayAuditCircuit

/-- Three private and three public columns; the gate binds the sum of the witnesses to the
commitment, and each count to its public cell. -/
def configure : Configure Fp (Column × Column × Column × Column × Column × Column) := do
  let consensus ← adviceColumn
  let guard ← adviceColumn
  let exit ← adviceColumn
  let expected ← instanceColumn
  let guardPublic ← instanceColumn
  let exitPublic ← instanceColumn
  enableEquality consensus
  enableEquality guard
  enableEquality exit
  createGate "relay audit commitment"
    [queryCur guard - queryCur guardPublic,
      queryCur exit - queryCur exitPublic,
      queryCur consensus + queryCur guard + queryCur exit - queryCur expected]
  return (consensus, guard, exit, expected, guardPublic, exitPublic)

/-- The witnesses are assigned to the first row. Nothing is copied: only the gate compares
them with the public columns. -/
def synthesize (circuit : RelayAuditCircuit)
    (config : Column × Column × Column × Column × Column × Column) : Synthesis Fp Unit := do
  let (consensusCol, guardCol, exitCol, _, _, _) := config
  let _ ← assignRegion [(consensusCol, 0, circuit.consensusValue),
    (guardCol, 0, circuit.guardValue), (exitCol, 0, circuit.exitValue)]

end RelayAuditCircuit

/-- The private witness of the log circuit: both hashes. The sequence number is public. -/
structure LogIntegrityCircuit where
  previousValue : Fp
  entryValue : Fp

namespace LogIntegrityCircuit

/-- Two private and two public columns; the gate binds the weighted sum of the hashes to
the commitment. -/
def configure : Configure Fp (Column × Column × Column × Column) := do
  let previous ← adviceColumn
  let entry ← adviceColumn
  let expected ← instanceColumn
  let sequence ← instanceColumn
  enableEquality previous
  enableEquality entry
  createGate "log chain integrity"
    [queryCur entry * queryCur sequence + queryCur previous - queryCur expected]
  return (previous, entry, expected, sequence)

/-- The hashes are assigned to the first row, and nothing is copied. -/
def synthesize (circuit : LogIntegrityCircuit) (config : Column × Column × Column × Column) :
    Synthesis Fp Unit := do
  let (previousCol, entryCol, _, _) := config
  let _ ← assignRegion [(previousCol, 0, circuit.previousValue),
    (entryCol, 0, circuit.entryValue)]

end LogIntegrityCircuit

/-- The private witness of the execution circuit: its three hashes. -/
structure ExecutionCircuit where
  inputValue : Fp
  outputValue : Fp
  telemetryValue : Fp

namespace ExecutionCircuit

/-- Three private columns and one public; the gate binds the sum of the hashes to the
commitment. -/
def configure : Configure Fp (Column × Column × Column × Column) := do
  let input ← adviceColumn
  let output ← adviceColumn
  let telemetry ← adviceColumn
  let expected ← instanceColumn
  enableEquality input
  enableEquality output
  enableEquality telemetry
  createGate "execution attestation"
    [queryCur input + queryCur output + queryCur telemetry - queryCur expected]
  return (input, output, telemetry, expected)

/-- The hashes are assigned to the first row, and nothing is copied. -/
def synthesize (circuit : ExecutionCircuit) (config : Column × Column × Column × Column) :
    Synthesis Fp Unit := do
  let (inputCol, outputCol, telemetryCol, _) := config
  let _ ← assignRegion [(inputCol, 0, circuit.inputValue),
    (outputCol, 0, circuit.outputValue), (telemetryCol, 0, circuit.telemetryValue)]

end ExecutionCircuit

/-- A circuit with the values that the prover knows. -/
inductive AssignedCircuit where
  | scalarEquality (circuit : ScalarEqualityCircuit)
  | relayAudit (circuit : RelayAuditCircuit)
  | logIntegrity (circuit : LogIntegrityCircuit)
  | execution (circuit : ExecutionCircuit)

namespace AssignedCircuit

/-- Which circuit it is. -/
def kind : AssignedCircuit → Circuit
  | scalarEquality _ => .scalarEquality
  | relayAudit _ => .relayAudit
  | logIntegrity _ => .logIntegrity
  | execution _ => .execution

/-- What configuration determines. -/
def constraints : AssignedCircuit → ConstraintSystem Fp
  | scalarEquality _ => (ScalarEqualityCircuit.configure.run {}).2
  | relayAudit _ => (RelayAuditCircuit.configure.run {}).2
  | logIntegrity _ => (LogIntegrityCircuit.configure.run {}).2
  | execution _ => (ExecutionCircuit.configure.run {}).2

/-- What synthesis lays out. -/
def layout : AssignedCircuit → Layout Fp
  | scalarEquality circuit =>
      ((circuit.synthesize (ScalarEqualityCircuit.configure.run {}).1).run {}).2
  | relayAudit circuit =>
      ((circuit.synthesize (RelayAuditCircuit.configure.run {}).1).run {}).2
  | logIntegrity circuit =>
      ((circuit.synthesize (LogIntegrityCircuit.configure.run {}).1).run {}).2
  | execution circuit =>
      ((circuit.synthesize (ExecutionCircuit.configure.run {}).1).run {}).2

end AssignedCircuit

end SecureDatabase.Zk
