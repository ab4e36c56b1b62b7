import SecureDatabase.Foundation.Program
import SecureDatabase.ZkVerification

/-!
# The table of stored proofs

`store_zk_proof` is one upsert; `verify_zk_proof` reads a row, checks its content in
the process that runs it and then flags the row in a second statement. The two SQL
statements of a verification are not one transaction, so calls are given as programs
over single statements and interleave between them. The check itself touches only the
shared parameters of the process, never the database.

A conflict of the upsert keeps the stored protocol and circuit. The flagging UPDATE
names the proof and not its user. Both are as in the source. The public inputs are a JSONB
column: what is stored, and read back, is the form that the server keeps of them.

`ProofChange` says once what a statement can do to the table.
-/

namespace SecureDatabase.Zk

open Foundation Program

/-- A row of `gateway_secrets.zk_proofs`. -/
structure ProofRow where
  id : Uuid
  userId : Uuid
  protocol : String
  circuit : String
  circuitSecurity : Int16
  expectedHash : String
  publicInputs : Json
  proof : Bytes
  createdAt : Int
  verified : Bool
  verifiedAt : Option Int

/-- The primary key. -/
def ProofRow.key (row : ProofRow) : Uuid × Uuid := (row.id, row.userId)

/-- The content of a row as a verification reads it; the size is widened with its
sign. -/
def ProofRow.content (row : ProofRow) : ProofContent where
  protocol := row.protocol
  circuit := row.circuit
  circuitSecurity := row.circuitSecurity.toInt32.toUInt32
  expectedHash := row.expectedHash
  publicInputs := row.publicInputs
  proof := row.proof

/-- Stored proofs, keyed by identifier and user. -/
abbrev Proofs := Table ProofRow.key

namespace Proofs

/-- The texts and the time that the upsert of `store_zk_proof` sends. -/
def parameters (bundle : ZkProofBundle) : List Parameter :=
  [.text bundle.protocol, .text bundle.circuit, .text bundle.expectedHash,
    .timestamptz bundle.createdAt.timestamptz]

/-- The row that an upsert without conflict inserts, with the public inputs in the form
that their column keeps; the size is bound as 16 bits. -/
def row (bundle : ZkProofBundle) (publicInputs : Json) : ProofRow where
  id := bundle.proofId
  userId := bundle.userId
  protocol := bundle.protocol
  circuit := bundle.circuit
  circuitSecurity := bundle.circuitSecurity.toUInt16.toInt16
  expectedHash := bundle.expectedHash
  publicInputs := publicInputs
  proof := bundle.proof
  createdAt := bundle.createdAt.timestamptz
  verified := false
  verifiedAt := none

/-- The SET clause of the upsert's conflict. -/
def overwrite (bundle : ZkProofBundle) (publicInputs : Json) (old : ProofRow) : ProofRow :=
  { old with
    expectedHash := bundle.expectedHash
    publicInputs := publicInputs
    proof := bundle.proof
    circuitSecurity := bundle.circuitSecurity.toUInt16.toInt16
    createdAt := bundle.createdAt.timestamptz
    verified := false
    verifiedAt := none }

/-- The SET clause that flags a row. -/
def flag (now : Int) (old : ProofRow) : ProofRow :=
  { old with verified := true, verifiedAt := some now }

/-- An upsert that meets a row keeps its key. -/
@[simp] theorem overwrite_key (bundle : ZkProofBundle) (publicInputs : Json) (old : ProofRow) :
    (overwrite bundle publicInputs old).key = old.key := rfl

/-- Flagging a row keeps its key. -/
@[simp] theorem flag_key (now : Int) (old : ProofRow) : (flag now old).key = old.key := rfl

/-- Flagging a row keeps what it proves. -/
@[simp] theorem flag_content (now : Int) (old : ProofRow) :
    (flag now old).content = old.content := rfl

/-- The upsert of `store_zk_proof`. -/
def upsert (bundle : ZkProofBundle) (publicInputs : Json) (proofs : Proofs) : Proofs :=
  match proofs.insert? (row bundle publicInputs) with
  | some inserted => inserted
  | none =>
      proofs.updateWhere (fun old => old.key = (bundle.proofId, bundle.userId))
        (overwrite bundle publicInputs) (overwrite_key bundle publicInputs)

/-- After an upsert its key selects the inserted or the overwritten row, and no other key
changed. -/
theorem find_upsert (bundle : ZkProofBundle) (publicInputs : Json) (proofs : Proofs)
    (key : Uuid × Uuid) :
    (upsert bundle publicInputs proofs).find key =
      if (bundle.proofId, bundle.userId) = key then
        some (((proofs.find key).map (overwrite bundle publicInputs)).getD
          (row bundle publicInputs))
      else proofs.find key := by
  unfold upsert
  cases inserted : proofs.insert? (row bundle publicInputs) with
  | some after =>
    obtain ⟨absent, rfl⟩ := (Table.insert?_eq_some_iff _ _ _).mp inserted
    rw [Table.find_insert]
    by_cases own : (bundle.proofId, bundle.userId) = key
    · have missing : proofs.find key = none := (congrArg proofs.find own).symm.trans absent
      rw [if_pos own, if_pos (show (row bundle publicInputs).key = key from own), missing]
      rfl
    · rw [if_neg own, if_neg (show ¬ (row bundle publicInputs).key = key from own)]
  | none =>
    rw [Table.find_updateWhere]
    by_cases own : (bundle.proofId, bundle.userId) = key
    · rw [if_pos own]
      cases found : proofs.find key with
      | none =>
        have absent : proofs.find (row bundle publicInputs).key = none :=
          (congrArg proofs.find own).trans found
        simp [Table.insert?, absent] at inserted
      | some old => simp [Table.key_of_find found, own]
    · rw [if_neg own]
      cases found : proofs.find key with
      | none => rfl
      | some old =>
        have other : ¬ old.key = (bundle.proofId, bundle.userId) := fun same =>
          own (same.symm.trans (Table.key_of_find found))
        simp [other]

/-- A row after an upsert is an unflagged one under the key of the bundle, or was stored
before under another key. -/
theorem mem_upsert {bundle : ZkProofBundle} {publicInputs : Json} {proofs : Proofs}
    {stored : ProofRow} (member : stored ∈ (upsert bundle publicInputs proofs).rows) :
    (bundle.proofId, bundle.userId) = stored.key ∧ stored.verified = false ∨
      (bundle.proofId, bundle.userId) ≠ stored.key ∧ stored ∈ proofs.rows := by
  have found := Table.find_of_mem member
  rw [find_upsert] at found
  split at found
  · rename_i own
    refine .inl ⟨own, ?_⟩
    rw [← Option.some.inj found]
    cases proofs.find stored.key <;> rfl
  · rename_i other
    exact .inr ⟨other, Table.mem_of_find found⟩

/-- The UPDATE of `verify_zk_proof`: every row of the proof, whoever its user is. -/
def updateVerified (id : Uuid) (now : Int) (proofs : Proofs) : Proofs :=
  proofs.updateWhere (fun old => old.id = id) (flag now) (flag_key now)

end Proofs

/-- What a verification rests on outside the crate: the proof system, and the form in which
the database keeps JSON. -/
structure Externals extends Halo2 where
  jsonb : Jsonb

/-- The database server, and the process whose calls use it: its shared parameters
and its local clock. -/
structure World where
  server : Server Proofs
  params : ParamsCache
  clock : DateTime

/-- One interaction of a call with the database or with its process. -/
inductive Statement where
  | upsertProof (bundle : ZkProofBundle)
  | selectProof (id userId : Uuid)
  | updateVerified (id : Uuid)
  | utcNow
  | verifyProof (bundle : ProofContent) (context : ZkVerificationContext)

/-- The type of each interaction's reply. -/
abbrev Reply : Statement → Type
  | .upsertProof _ => Except String Unit
  | .selectProof _ _ => Except String (Option ProofRow)
  | .updateVerified _ => Except String Unit
  | .utcNow => DateTime
  | .verifyProof _ _ => Except Failure Unit

/-- Execute a statement on the server. -/
def World.sql {Result : Type} (body : Int → Proofs → Except String (Result × Proofs))
    (world : World) : Except String Result × World :=
  ((world.server.execute body).1, { world with server := (world.server.execute body).2 })

/-- What the upsert of `store_zk_proof` does once its parameters are read: the public inputs
are stored in the form that the server keeps of them, unless it refuses them. -/
def Proofs.store (jsonb : Jsonb) (bundle : ZkProofBundle) (proofs : Proofs) :
    Except String (Unit × Proofs) := do
  let publicInputs ← jsonb bundle.publicInputs
  return ((), Proofs.upsert bundle publicInputs proofs)

/-- How database and process answer each interaction. -/
def exec (externals : Externals) : (stmt : Statement) → World → Reply stmt × World
  | .upsertProof bundle => World.sql fun _ proofs =>
      receive (Proofs.parameters bundle) (Proofs.store externals.jsonb bundle proofs)
  | .selectProof id userId => World.sql fun _ proofs => .ok (proofs.find (id, userId), proofs)
  | .updateVerified id => World.sql fun now proofs =>
      .ok ((), Proofs.updateVerified id now proofs)
  | .utcNow => fun world => (world.clock, world)
  | .verifyProof bundle context => fun world =>
      (((verifyProof externals.toHalo2 bundle context).runOn world.params).1,
        { world with params := ((verifyProof externals.toHalo2 bundle context).runOn world.params).2 })

/-- What may change by itself: the server's clock and connectivity, and the process
in any way, other computations and restarts included. -/
inductive Drift where
  | server (act : ServerDrift)
  | process (params : ParamsCache) (clock : DateTime)

/-- The store and its environment. -/
def machine (externals : Externals) : Machine World Drift Statement Reply where
  exec := exec externals
  drift
    | .server act, world => { world with server := world.server.drift act }
    | .process params clock, world => { world with params, clock }

/-- The machine executes statements as the server and the process do. -/
@[simp] theorem machine_exec (externals : Externals) : (machine externals).exec = exec externals := rfl

/-- A database operation of the crate. -/
abbrev Operation (α : Type) := Program Statement Reply Failure α

/-- `map_err(DatabaseError::from)` on the reply of the server. -/
def answer {α : Type} (reply : Except String α) : Operation α :=
  ofExcept (reply.mapError (fun message => Failure.error (.query message)))

/-- Persist a zero-knowledge proof bundle. -/
def storeZkProof (bundle : ZkProofBundle) : Operation Unit := do
  let reply ← ask (.upsertProof bundle)
  answer reply

/-- Verify a stored ZK proof and update verification metadata. -/
def verifyZkProof (verification : ZkProofVerification) : Operation Bool := do
  let reply ← ask (.selectProof verification.proofId verification.userId)
  let found ← answer reply
  let row ← ofExcept ((okOr (.query "proof not found") found).mapError Failure.error)
  if row.verified then return true
  let createdAt ← ask .utcNow
  let bundle : ZkProofBundle :=
    { row.content with
      proofId := verification.proofId
      userId := verification.userId
      createdAt }
  let verdict ← ask (.verifyProof bundle.toProofContent verification.context)
  ofExcept verdict
  let updated ← ask (.updateVerified verification.proofId)
  answer updated
  return true

/-- The calls a client can make. -/
inductive Call where
  | storeZkProof (bundle : ZkProofBundle)
  | verifyZkProof (verification : ZkProofVerification)

/-- What a call returns. -/
inductive Returned where
  | unit
  | bool (truth : Bool)
deriving DecidableEq

/-- The program of a call. -/
def Call.program : Call → Operation Returned
  | storeZkProof bundle => do
      Zk.storeZkProof bundle
      return .unit
  | verifyZkProof verification => do
      let truth ← Zk.verifyZkProof verification
      return .bool truth

/-- Calls over one database and process, with what they have executed. -/
abbrev ProofRun := Run World Statement Reply Failure Returned

/-- The stored proofs of a world. -/
def World.proofs (world : World) : Proofs := world.server.tables

/-- What a successful statement did to the table. -/
inductive Effect where
  | stored (bundle : ZkProofBundle)
  | flagged (id : Uuid)

/-- The effect that a statement with its reply shows. -/
def effect : Exchange Reply → Option Effect
  | ⟨.upsertProof bundle, Except.ok _⟩ => some (.stored bundle)
  | ⟨.updateVerified id, Except.ok _⟩ => some (.flagged id)
  | _ => none

/-- What one statement at a clock reading can do to the stored proofs. -/
inductive ProofChange (jsonb : Jsonb) (now : Int) (proofs : Proofs) :
    Option Effect → Proofs → Prop where
  | kept : ProofChange jsonb now proofs none proofs
  | stored (bundle : ZkProofBundle) (publicInputs : Json)
      (form : jsonb bundle.publicInputs = .ok publicInputs) :
      ProofChange jsonb now proofs (some (.stored bundle))
        (Proofs.upsert bundle publicInputs proofs)
  | flagged (id : Uuid) :
      ProofChange jsonb now proofs (some (.flagged id)) (Proofs.updateVerified id now proofs)

/-- Only storing under its key changes the content of a row. -/
theorem ProofChange.content {jsonb : Jsonb} {now : Int} {proofs after : Proofs}
    {change : Option Effect} (changed : ProofChange jsonb now proofs change after)
    {key : Uuid × Uuid} {row : ProofRow} (found : proofs.find key = some row)
    (other : ∀ bundle, change = some (.stored bundle) → (bundle.proofId, bundle.userId) ≠ key) :
    ∃ later, after.find key = some later ∧ later.content = row.content := by
  cases changed with
  | kept => exact ⟨row, found, rfl⟩
  | stored bundle publicInputs form =>
    refine ⟨row, ?_, rfl⟩
    rw [Proofs.find_upsert, if_neg (other bundle rfl), found]
  | flagged id =>
    refine ⟨_, by rw [Proofs.updateVerified, Table.find_updateWhere, found]; rfl, ?_⟩
    by_cases named : row.id = id
    · simp [named]
    · simp [named]

/-- A statement failed and changed nothing, or the server was reachable and the
statement's body gave the reply and the new table. -/
theorem World.sql_cases {Result : Type} (body : Int → Proofs → Except String (Result × Proofs))
    (world : World) :
    (∃ error, world.sql body = (.error error, world)) ∨
      ∃ result tables, world.server.outage = none ∧
        body world.server.now world.proofs = .ok (result, tables) ∧
        world.sql body = (.ok result, { world with server := { world.server with tables } }) := by
  unfold World.sql
  obtain ⟨error, failed⟩ | ⟨result, tables, reachable, computed, executed⟩ :=
    world.server.execute_cases body
  · rw [failed]
    exact .inl ⟨error, rfl⟩
  · rw [executed]
    exact .inr ⟨result, tables, reachable, computed, rfl⟩

/-- A stored bundle was received, and its public inputs are stored in the form that is kept
of them. -/
theorem Proofs.store_eq_ok {jsonb : Jsonb} {bundle : ZkProofBundle} {proofs tables : Proofs}
    {result : Unit} (computed : receive (Proofs.parameters bundle)
      (Proofs.store jsonb bundle proofs) = .ok (result, tables)) :
    ∃ publicInputs, jsonb bundle.publicInputs = .ok publicInputs ∧
      tables = Proofs.upsert bundle publicInputs proofs := by
  obtain ⟨-, stored⟩ := (receive_eq_ok_iff _ _ _).mp computed
  unfold Proofs.store at stored
  cases form : jsonb bundle.publicInputs with
  | error refused =>
    rw [form] at stored
    cases stored
  | ok publicInputs =>
    rw [form] at stored
    cases stored
    exact ⟨publicInputs, rfl, rfl⟩

/-- Every statement changes the stored proofs in one of these ways, and its effect says
which. -/
theorem exec_proofChange (externals : Externals) (stmt : Statement) (world : World) :
    ProofChange externals.jsonb world.server.now world.proofs
      (effect ⟨stmt, (exec externals stmt world).1⟩) (exec externals stmt world).2.proofs := by
  cases stmt with
  | upsertProof bundle =>
    obtain ⟨error, failed⟩ | ⟨result, tables, -, computed, executed⟩ :=
      world.sql_cases fun _ proofs =>
        receive (Proofs.parameters bundle) (Proofs.store externals.jsonb bundle proofs)
    · simp only [exec, failed]
      exact .kept
    · obtain ⟨publicInputs, form, rfl⟩ := Proofs.store_eq_ok computed
      simp only [exec, executed]
      exact .stored bundle publicInputs form
  | selectProof id userId =>
    obtain ⟨error, failed⟩ | ⟨result, tables, -, computed, executed⟩ :=
      world.sql_cases fun _ proofs => .ok (proofs.find (id, userId), proofs)
    · simp only [exec, failed]
      exact .kept
    · cases computed
      simp only [exec, executed]
      exact .kept
  | updateVerified id =>
    obtain ⟨error, failed⟩ | ⟨result, tables, -, computed, executed⟩ :=
      world.sql_cases fun now proofs => .ok ((), Proofs.updateVerified id now proofs)
    · simp only [exec, failed]
      exact .kept
    · cases computed
      simp only [exec, executed]
      exact .flagged id
  | utcNow => exact .kept
  | verifyProof bundle context => exact .kept

/-- A row that a SELECT returned was stored when the SELECT reached the server. -/
theorem exec_selectProof {externals : Externals} {world : World} {id userId : Uuid}
    {row : ProofRow} (read : (exec externals (.selectProof id userId) world).1 = .ok (some row)) :
    world.server.outage = none ∧ world.proofs.find (id, userId) = some row := by
  obtain ⟨error, failed⟩ | ⟨result, tables, reachable, computed, executed⟩ :=
    world.sql_cases fun _ proofs => .ok (proofs.find (id, userId), proofs)
  · simp only [exec, failed] at read
    cases read
  · cases computed
    simp only [exec, executed] at read
    exact ⟨reachable, Except.ok.inj read⟩

/-- What one move can do to the stored proofs and the log: the environment executes
nothing, or one call executes its next statement. -/
inductive ProofStep (externals : Externals) (run : ProofRun) (move : Move Drift)
    (after : ProofRun) : Prop where
  | quiet (log : after.log = run.log) (calls : after.calls = run.calls)
      (proofs : after.store.proofs = run.store.proofs)
  | executed (index : Nat) (stmt : Statement) (resume : Reply stmt → Operation Returned)
      (moved : move = .call index) (current : run.calls index = .issue stmt resume)
      (log : after.log = ⟨⟨stmt, (exec externals stmt run.store).1⟩, index, run.store⟩ :: run.log)
      (calls : after.calls =
        Function.update run.calls index (resume (exec externals stmt run.store).1))
      (proofs : ProofChange externals.jsonb run.store.server.now run.store.proofs
        (effect ⟨stmt, (exec externals stmt run.store).1⟩) after.store.proofs)

/-- Every move is such a step. -/
theorem proofStep (externals : Externals) (run : ProofRun) (move : Move Drift) :
    ProofStep externals run move (run.step (machine externals) move) := by
  obtain same | ⟨act, -, moved⟩ | ⟨index, stmt, resume, called, current, moved⟩ :=
    Run.step_cases (machine externals) run move
  · rw [same]
    exact .quiet rfl rfl rfl
  · rw [moved]
    cases act with
    | server act => exact .quiet rfl rfl (Server.drift_tables act run.store.server)
    | process params clock => exact .quiet rfl rfl rfl
  · rw [moved]
    exact .executed index stmt resume called current rfl rfl
      (exec_proofChange externals stmt run.store)

end SecureDatabase.Zk
