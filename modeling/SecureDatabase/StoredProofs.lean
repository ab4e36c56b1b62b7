import SecureDatabase.VerifiedFlag

/-!
# What a verification reads and what it writes

`verify_zk_proof` rebuilds a bundle from the stored row. The row is not simply the
bundle that was stored last: an upsert that meets a row keeps its protocol and its
circuit, the parameter size passes through a signed 16-bit column, and the server keeps
a form of its own of the public inputs. The row therefore holds a mixture of the first
and the last bundle stored under its key, and reading back is exact where the two agree
and the size and the public inputs survive.

The flagging UPDATE selects by the proof identifier alone, so a verification is
confined to its own row where no other user holds a row of the same identifier.

Both results are equivalences over every state that any schedule reaches.
-/

namespace SecureDatabase.Zk

open Foundation Program

/-- The key of the row that a verification names. -/
def ZkProofVerification.key (verification : ZkProofVerification) : Uuid × Uuid :=
  (verification.proofId, verification.userId)

section Alone

variable (externals : Externals) (world : World) (verification : ZkProofVerification)

/-- The check of a row's content in the process of a world. -/
def checked (row : ProofRow) : Except Failure Unit × ParamsCache :=
  (verifyProof externals.toHalo2 row.content verification.context).runOn world.params

/-- The world that the check of a row leaves. -/
def afterCheck (row : ProofRow) : World :=
  { world with params := (checked externals world verification row).2 }

/-- The world after the flagging UPDATE. -/
def afterFlag (row : ProofRow) : World :=
  { afterCheck externals world verification row with
    server := { world.server with
      tables := Proofs.updateVerified verification.proofId world.server.now world.proofs } }

variable {world verification}

/-- Nothing is executed on a server that cannot be reached. -/
theorem sql_unreachable {Result : Type} {body : Int → Proofs → Except String (Result × Proofs)}
    {error : String} (outage : world.server.outage = some error) :
    world.sql body = (.error error, world) := by
  simp [World.sql, Server.execute, outage]

/-- A reachable server executes a statement and answers what it computes. -/
theorem sql_reachable {Result : Type} {body : Int → Proofs → Except String (Result × Proofs)}
    (reachable : world.server.outage = none) {result : Result} {tables : Proofs}
    (computed : body world.server.now world.proofs = .ok (result, tables)) :
    world.sql body = (.ok result, { world with server := { world.server with tables } }) := by
  have done : body world.server.now world.server.tables = .ok (result, tables) := computed
  simp [World.sql, Server.execute, reachable, done]

/-- A verification that cannot read a row, or reads a flagged one, issues its SELECT only
and changes nothing. -/
theorem verifyZkProof_unchecked
    (unread : world.server.outage ≠ none ∨
      ∀ row, world.proofs.find verification.key = some row → row.verified = true) :
    (verifyZkProof verification).issued (exec externals) world =
        [.selectProof verification.proofId verification.userId] ∧
      ((verifyZkProof verification).run (exec externals) world).2 = world := by
  cases outage : world.server.outage with
  | some error =>
    have failed : exec externals (.selectProof verification.proofId verification.userId) world =
        (.error error, world) := sql_unreachable outage
    simp only [verifyZkProof, ask_bind, issued, run_issue, failed]
    exact ⟨rfl, rfl⟩
  | none =>
    have read : exec externals (.selectProof verification.proofId verification.userId) world =
        (.ok (world.proofs.find verification.key), world) := sql_reachable outage rfl
    simp only [verifyZkProof, ask_bind, issued, run_issue, read]
    cases found : world.proofs.find verification.key with
    | none => exact ⟨rfl, rfl⟩
    | some row =>
      have flagged : row.verified = true := by
        rcases unread with unreachable | all
        · exact absurd outage unreachable
        · exact all row found
      simp [answer, okOr, Except.mapError, flagged, issued]

/-- A verification that reads an unflagged row checks its content, and flags exactly when
the check passes. -/
theorem verifyZkProof_checked (reachable : world.server.outage = none) {row : ProofRow}
    (found : world.proofs.find verification.key = some row) (unflagged : row.verified = false) :
    Statement.verifyProof row.content verification.context ∈
        (verifyZkProof verification).issued (exec externals) world ∧
      (∀ content context, Statement.verifyProof content context ∈
        (verifyZkProof verification).issued (exec externals) world → content = row.content) ∧
      (verifyZkProof verification).run (exec externals) world =
        match (checked externals world verification row).1 with
        | .ok () => (.ok true, afterFlag externals world verification row)
        | .error refused => (.error refused, afterCheck externals world verification row) := by
  have read : exec externals (.selectProof verification.proofId verification.userId) world =
      (.ok (some row), world) := by
    rw [← found]
    exact sql_reachable reachable rfl
  have verdict : exec externals (.verifyProof row.content verification.context) world =
      ((checked externals world verification row).1,
        afterCheck externals world verification row) := rfl
  have updated : exec externals (.updateVerified verification.proofId)
      (afterCheck externals world verification row) =
      (.ok (), afterFlag externals world verification row) :=
    sql_reachable (show (afterCheck externals world verification row).server.outage = none
      from reachable) rfl
  have clock : exec externals .utcNow world = (world.clock, world) := rfl
  simp only [verifyZkProof, ask_bind, issued, run_issue, read]
  simp only [answer, okOr, Except.mapError, ofExcept_ok, value_bind, unflagged,
    Bool.false_eq_true, ↓reduceIte, issued, run_issue, clock, verdict]
  cases (checked externals world verification row).1 with
  | error refused => simp [issued]
  | ok passed => simp [issued, updated]

end Alone

/-- The bundles stored under a key, newest first. -/
def storedUnder (key : Uuid × Uuid) : List (Event World Reply) → List ZkProofBundle
  | [] => []
  | event :: earlier =>
      match effect event.toExchange with
      | some (.stored bundle) =>
          if (bundle.proofId, bundle.userId) = key then bundle :: storedUnder key earlier
          else storedUnder key earlier
      | _ => storedUnder key earlier

/-- A parameter size as it is read back from its 16-bit column. -/
def sizeReadBack (size : UInt32) : UInt32 := size.toUInt16.toInt16.toInt32.toUInt32

/-- What a row holds whose key was first stored with one bundle and last with another, the
public inputs of which are kept in this form. -/
def mixture (first last : ZkProofBundle) (publicInputs : Json) : ProofContent where
  protocol := first.protocol
  circuit := first.circuit
  circuitSecurity := sizeReadBack last.circuitSecurity
  expectedHash := last.expectedHash
  publicInputs := publicInputs
  proof := last.proof

/-- A row records its history: there is one exactly when something was stored under its
key, it holds the mixture of the first and the last bundle, and it is flagged exactly when
an UPDATE has named it since. -/
def Recorded (jsonb : Jsonb) (run : ProofRun) : Prop :=
  ∀ key, match storedUnder key run.log with
    | [] => run.store.proofs.find key = none
    | last :: earlier => ∃ row publicInputs, run.store.proofs.find key = some row ∧
        jsonb last.publicInputs = .ok publicInputs ∧
        row.content = mixture (earlier.getLastD last) last publicInputs ∧
        (row.verified = true ↔ flaggers key run.log ≠ [])

/-- Every move keeps the rows records of their history. -/
theorem Recorded.step {externals : Externals} {run : ProofRun}
    (recorded : Recorded externals.jsonb run) (move : Move Drift) :
    Recorded externals.jsonb (run.step (machine externals) move) := by
  intro key
  have before := recorded key
  obtain same | ⟨act, -, moved⟩ | ⟨index, stmt, resume, -, -, moved⟩ :=
    Run.step_cases (machine externals) run move
  · rw [same]
    exact before
  · rw [moved]
    have tables : ((machine externals).drift act run.store).proofs = run.store.proofs := by
      cases act with
      | server act => exact Server.drift_tables act run.store.server
      | process params clock => rfl
    simp only [tables]
    exact before
  · rw [moved]
    have changed := exec_proofChange externals stmt run.store
    simp only [machine_exec, storedUnder, flaggers]
    generalize effect ⟨stmt, (exec externals stmt run.store).1⟩ = change at changed ⊢
    generalize (exec externals stmt run.store).2.proofs = after at changed ⊢
    cases changed with
    | kept => exact before
    | stored bundle publicInputs form =>
      simp only [Proofs.find_upsert]
      by_cases own : (bundle.proofId, bundle.userId) = key
      · simp only [own, ↓reduceIte]
        refine ⟨_, publicInputs, rfl, form, ?_⟩
        cases history : storedUnder key run.log with
        | nil =>
          rw [history] at before
          rw [before]
          exact ⟨rfl, by simp [Proofs.row]⟩
        | cons last earlier =>
          rw [history] at before
          obtain ⟨row, kept, found, -, content, -⟩ := before
          rw [found, List.getLastD_cons]
          refine ⟨?_, by simp [Proofs.overwrite]⟩
          have protocol := congrArg ProofContent.protocol content
          have circuit := congrArg ProofContent.circuit content
          simp only [ProofRow.content, mixture] at protocol circuit
          simp only [Option.map_some, Option.getD_some, ProofRow.content, Proofs.overwrite,
            mixture, sizeReadBack, protocol, circuit]
      · simpa only [own, ↓reduceIte] using before
    | flagged id =>
      simp only [Proofs.updateVerified, Table.find_updateWhere]
      cases history : storedUnder key run.log with
      | nil =>
        rw [history] at before
        simp only [before, Option.map_none]
      | cons last earlier =>
        rw [history] at before
        obtain ⟨row, publicInputs, found, form, content, flags⟩ := before
        have named : row.id = key.1 := congrArg Prod.fst (Table.key_of_find found)
        refine ⟨_, publicInputs, by rw [found, Option.map_some], form, ?_⟩
        by_cases own : id = key.1
        · simp only [own, named, decide_true, ↓reduceIte]
          exact ⟨content, by simp [Proofs.flag]⟩
        · have unselected : ¬ row.id = id := fun same => own (same.symm.trans named)
          simpa [unselected, own] using And.intro content flags

section Forms

/-- Two contents say the same: they differ in nothing but the form of their public inputs. -/
structure ProofContent.Same (content other : ProofContent) : Prop where
  protocol : content.protocol = other.protocol
  circuit : content.circuit = other.circuit
  circuitSecurity : content.circuitSecurity = other.circuitSecurity
  expectedHash : content.expectedHash = other.expectedHash
  publicInputs : content.publicInputs.Same other.publicInputs
  proof : content.proof = other.proof

variable {inputs others : Json} (same : inputs.Same others)

include same

end Forms

/-- A verification gets to its UPDATE: the server is reachable, the row it reads is not
flagged, and the check of the row's content passes. -/
def Flags (externals : Externals) (world : World) (verification : ZkProofVerification) : Prop :=
  world.server.outage = none ∧ ∃ row, world.proofs.find verification.key = some row ∧
    row.verified = false ∧ (checked externals world verification row).1 = .ok ()

/-- Every row but the verification's own is as it was. -/
def Confined (verification : ZkProofVerification) (before after : Proofs) : Prop :=
  ∀ key, key ≠ verification.key → after.find key = before.find key

/-- Flagging a row that is flagged at the same instant leaves it as it is. -/
theorem flag_eq_self_iff (now : Int) (row : ProofRow) :
    Proofs.flag now row = row ↔ row.verified = true ∧ row.verifiedAt = some now := by
  cases row
  simp only [Proofs.flag, ProofRow.mk.injEq, true_and]
  exact and_congr eq_comm eq_comm

/-- The UPDATE is confined exactly when no other user's row of the identifier would change. -/
theorem confined_updateVerified_iff (verification : ZkProofVerification) (now : Int)
    (proofs : Proofs) :
    Confined verification proofs (Proofs.updateVerified verification.proofId now proofs) ↔
      ∀ row ∈ proofs.rows, row.id = verification.proofId → row.userId ≠ verification.userId →
        row.verified = true ∧ row.verifiedAt = some now := by
  simp only [Confined, Proofs.updateVerified, Table.find_updateWhere]
  constructor
  · intro confined row stored named other
    have key : row.key ≠ verification.key := fun same => other (congrArg Prod.snd same)
    have unchanged := confined row.key key
    rw [Table.find_of_mem stored] at unchanged
    simp only [named, decide_true, ↓reduceIte, Option.map_some, Option.some.injEq] at unchanged
    exact (flag_eq_self_iff now row).mp unchanged
  · intro flagged key other
    cases found : proofs.find key with
    | none => rfl
    | some row =>
      have keyed := Table.key_of_find found
      by_cases named : row.id = verification.proofId
      · have user : row.userId ≠ verification.userId := fun same =>
          other (keyed.symm.trans (Prod.ext named same))
        have same := (flag_eq_self_iff now row).mpr
          (flagged row (Table.mem_of_find found) named user)
        simp [named, same]
      · simp [named]

/-- From any world, a verification is confined exactly when its UPDATE would be, should it
get there. -/
theorem confined_iff_world (externals : Externals) (world : World) (verification : ZkProofVerification) :
    Confined verification world.proofs
        ((verifyZkProof verification).run (exec externals) world).2.proofs ↔
      (Flags externals world verification → ∀ row ∈ world.proofs.rows,
        row.id = verification.proofId → row.userId ≠ verification.userId →
        row.verified = true ∧ row.verifiedAt = some world.server.now) := by
  have unchanged : Confined verification world.proofs world.proofs := fun _ _ => rfl
  by_cases flags : Flags externals world verification
  · obtain ⟨reachable, row, found, unflagged, passed⟩ := id flags
    obtain ⟨-, -, ran⟩ := verifyZkProof_checked externals reachable found unflagged
    rw [passed] at ran
    have after : ((verifyZkProof verification).run (exec externals) world).2.proofs =
        Proofs.updateVerified verification.proofId world.server.now world.proofs := by
      rw [ran]
      rfl
    rw [after, confined_updateVerified_iff]
    exact ⟨fun confined _ => confined, fun confined => confined flags⟩
  · have same : ((verifyZkProof verification).run (exec externals) world).2.proofs = world.proofs := by
      by_cases unread : world.server.outage ≠ none ∨
          ∀ row, world.proofs.find verification.key = some row → row.verified = true
      · rw [(verifyZkProof_unchecked externals unread).2]
      · simp only [ne_eq, not_or, not_not, not_forall, Bool.not_eq_true] at unread
        obtain ⟨reachable, row, found, unflagged⟩ := unread
        obtain ⟨-, -, ran⟩ := verifyZkProof_checked externals reachable found unflagged
        cases verdict : (checked externals world verification row).1 with
        | ok passed => exact absurd ⟨reachable, row, found, unflagged, verdict⟩ flags
        | error refused =>
          rw [ran, verdict]
          rfl
    rw [same]
    exact ⟨fun _ reaches => absurd reaches flags, fun _ => unchanged⟩

/-- In every state that a schedule over a migrated database reaches: a verification leaves
every other row alone exactly when it does not get to its UPDATE, or every other user's row
of the same identifier is already flagged at this instant.

Proof: before its UPDATE a verification changes nothing but the process, and the UPDATE
changes exactly the rows of its identifier that are not flagged at this instant. -/
theorem confined_iff (externals : Externals) (calls : Nat → Call) (now : Int) (params : ParamsCache)
    (clock : DateTime) (moves : List (Move Drift)) (verification : ZkProofVerification) :
    let world := ((launch (.migrated now params clock) calls).play (machine externals) moves).store
    Confined verification world.proofs
        ((verifyZkProof verification).run (exec externals) world).2.proofs ↔
      (Flags externals world verification → ∀ row ∈ world.proofs.rows,
        row.id = verification.proofId → row.userId ≠ verification.userId →
        row.verified = true ∧ row.verifiedAt = some world.server.now) :=
  confined_iff_world externals _ verification

/-- Two users store a proof under one identifier. -/
def sharedIdentifier : Nat → Call
  | 0 => .storeZkProof (sampleBundle [1])
  | _ => .storeZkProof { sampleBundle [2] with userId := Uuid.last 3 }

/-- The verification of one user flags the other user's proof, which is rejected. -/
theorem not_confined_sharedIdentifier :
    ¬ Confined (sampleVerification (.scalarDigest zeroDigest))
      ((launch (.migrated 0 .fresh ⟨0⟩) sharedIdentifier).play (machine (accepting [1]))
        [.call 0, .call 1]).store.proofs
      ((verifyZkProof (sampleVerification (.scalarDigest zeroDigest))).run (exec (accepting [1]))
        ((launch (.migrated 0 .fresh ⟨0⟩) sharedIdentifier).play (machine (accepting [1]))
          [.call 0, .call 1]).store).2.proofs := by
  intro confined
  have same := confined (Uuid.last 1, Uuid.last 3) (by decide)
  have flags := congrArg (Option.map ProofRow.verified) same
  exact absurd flags (by decide +kernel)

end SecureDatabase.Zk
