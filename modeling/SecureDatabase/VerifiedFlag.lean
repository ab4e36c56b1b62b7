import SecureDatabase.ZkStore

/-!
# What the verified flag of a stored proof says

A row is flagged by the second statement of a verification whose check has passed on
what its first statement read, and a verification that meets a flagged row answers
from the flag alone. Two things follow from that shape and are made precise here.

The flag speaks about the content that was read. It speaks about the content that is
stored in every schedule in which each flagging UPDATE still meets what its call
read; where calls do not overlap this always holds.

The flag does not speak about a context. An answer given from the flag is right for
the asking context where a verification for the same user and context has flagged
the row since it was last stored.
-/

namespace SecureDatabase.Zk

open Foundation Program

/-- The request of a verifying call. -/
def Call.verification : Call → Option ZkProofVerification
  | storeZkProof _ => none
  | verifyZkProof verification => some verification

/-- The own exchanges of a verification show a row it read and that the content of
this row passed the check for its context. -/
def Checked (verification : ZkProofVerification) (row : ProofRow)
    (past : List (Exchange Reply)) : Prop :=
  ⟨.selectProof verification.proofId verification.userId, .ok (some row)⟩ ∈ past ∧
    ⟨.verifyProof row.content verification.context, .ok ()⟩ ∈ past

/-- What a call may issue after its own exchanges. -/
def Issues (call : Call) (past : List (Exchange Reply)) : Statement → Prop
  | .upsertProof bundle => past = [] ∧ call = .storeZkProof bundle
  | .selectProof id userId => past = [] ∧ ∃ verification,
      call.verification = some verification ∧ id = verification.proofId ∧
        userId = verification.userId
  | .updateVerified id => ∃ verification row, call.verification = some verification ∧
      id = verification.proofId ∧ Checked verification row past
  | .utcNow => True
  | .verifyProof _ _ => True

/-- What a verifying call concludes from its own exchanges, newest first: the answer
is never `false`, and it is given on reading a flagged row or after flagging. -/
def Concludes (call : Call) (past : List (Exchange Reply)) (result : Except Failure Returned) :
    Prop :=
  ∀ verification truth, call.verification = some verification → result = .ok (.bool truth) →
    truth = true ∧
      ((∃ row, row.verified = true ∧ past.head? =
          some ⟨.selectProof verification.proofId verification.userId, .ok (some row)⟩) ∨
        past.head? = some ⟨.updateVerified verification.proofId, .ok ()⟩)

/-- Every call follows its rule, whatever replies it receives. -/
theorem Call.follows (call : Call) : call.program.Follows (Issues call) (Concludes call) [] := by
  have failed {call : Call} {past : List (Exchange Reply)} (failure : Failure) :
      Concludes call past (.error failure) := by
    intro verification truth named returned
    cases returned
  cases call with
  | storeZkProof bundle =>
    refine ⟨⟨rfl, rfl⟩, ?_⟩
    rintro (message | done)
    · exact failed _
    · intro verification truth named
      cases named
  | verifyZkProof verification =>
    refine ⟨⟨rfl, verification, rfl, rfl, rfl⟩, ?_⟩
    rintro (message | found | row)
    · exact failed _
    · exact failed _
    · rcases row with ⟨id, userId, protocol, circuit, size, hash, inputs, proof, created, flag, at_⟩
      cases flag with
      | true =>
        rintro _ _ ⟨⟩ ⟨⟩
        exact ⟨rfl, .inl ⟨_, rfl, rfl⟩⟩
      | false =>
        refine ⟨trivial, fun now => ⟨trivial, ?_⟩⟩
        rintro (failure | passed)
        · exact failed _
        · refine ⟨⟨verification, _, rfl, rfl, ?_, List.mem_cons_self⟩, ?_⟩
          · exact List.mem_cons_of_mem _ (List.mem_cons_of_mem _ List.mem_cons_self)
          · rintro (message | done)
            · exact failed _
            · rintro _ _ ⟨⟩ ⟨⟩
              exact ⟨rfl, .inr rfl⟩

/-- A freshly migrated and reachable database, and a process in any state. -/
def World.migrated (now : Int) (params : ParamsCache) (clock : DateTime) : World :=
  ⟨⟨now, none, .empty⟩, params, clock⟩

/-- Calls that have not started, over an initial world. -/
def launch (world : World) (calls : Nat → Call) : ProofRun :=
  Run.start world (fun index => (calls index).program)

/-- The rules of the calls and the truth of the logged replies. -/
structure Regular (externals : Externals) (calls : Nat → Call) (run : ProofRun) : Prop where
  lawful : Run.Lawful (fun index => Issues (calls index)) (fun index => Concludes (calls index)) run
  answered : Run.Answered (machine externals) run

/-- Before anything is executed all calls keep their rules. -/
theorem regular_launch (externals : Externals) (world : World) (calls : Nat → Call) :
    Regular externals calls (launch world calls) :=
  ⟨Run.lawful_play (machine externals) world _ (fun index => (calls index).follows) [],
    Run.answered_play (machine externals) world _ []⟩

/-- A move keeps both: each call goes on as its program says, and a new reply is the one
that is given. -/
theorem Regular.step {externals : Externals} {calls : Nat → Call} {run : ProofRun}
    (regular : Regular externals calls run) (move : Move Drift) :
    Regular externals calls (run.step (machine externals) move) :=
  ⟨regular.lawful.step (machine externals) move, regular.answered.step move⟩

/-- A flagging effect is an UPDATE that reached the server. -/
theorem effect_flagged {externals : Externals} {stmt : Statement} {world : World} {id : Uuid}
    (shown : effect ⟨stmt, (exec externals stmt world).1⟩ = some (.flagged id)) :
    stmt = .updateVerified id ∧ world.server.outage = none := by
  cases stmt with
  | updateVerified other =>
    obtain ⟨error, failed⟩ | ⟨result, tables, reachable, computed, executed⟩ :=
      world.sql_cases fun now proofs => .ok ((), Proofs.updateVerified other now proofs)
    · simp only [exec, failed] at shown
      cases shown
    · simp only [exec, executed] at shown
      cases shown
      exact ⟨rfl, reachable⟩
  | upsertProof bundle =>
    generalize (exec externals (.upsertProof bundle) world).1 = reply at shown
    cases reply <;> cases shown
  | selectProof other userId => cases shown
  | utcNow => cases shown
  | verifyProof bundle context => cases shown

/-- A storing effect is an upsert. -/
theorem effect_stored {exchange : Exchange Reply} {bundle : ZkProofBundle}
    (shown : effect exchange = some (.stored bundle)) : exchange.stmt = .upsertProof bundle := by
  unfold effect at shown
  split at shown
  · cases shown
    rfl
  · cases shown
  · cases shown

/-- At a move that flags, the row its call read is still stored with the content the
call read. -/
def Undisturbed (calls : Nat → Call) (run : ProofRun) (move : Move Drift) : Prop :=
  ∀ index id resume verification row, move = .call index →
    run.calls index = .issue (.updateVerified id) resume → run.store.server.outage = none →
    (calls index).verification = some verification →
    ⟨.selectProof verification.proofId verification.userId, .ok (some row)⟩ ∈
      exchanges index run.log →
    ∃ held, run.store.proofs.find (verification.proofId, verification.userId) = some held ∧
      held.content = row.content

section Flagging

variable {externals : Externals} {calls : Nat → Call} {run : ProofRun} {move : Move Drift} {index : Nat}

/-- A passed check among a call's exchanges was passed in some process. -/
theorem Regular.accepted (regular : Regular externals calls run) {content : ProofContent}
    {context : ZkVerificationContext}
    (passed : ⟨.verifyProof content context, .ok ()⟩ ∈ exchanges index run.log) :
    Accepted externals.toHalo2 content context := by
  obtain ⟨⟨exchange, call, before⟩, logged, -, rfl⟩ := mem_exchanges.mp passed
  have answered := regular.answered _ logged
  simp only [Exchange.mk.injEq, heq_eq_eq, true_and] at answered
  exact accepted_of_runOn answered.symm

/-- An undisturbed UPDATE flags a row whose stored content its call's context
accepts. -/
theorem Regular.flagging (regular : Regular externals calls run)
    (undisturbed : Undisturbed calls run (.call index)) {id : Uuid}
    {resume : Reply (.updateVerified id) → Operation Returned}
    (current : run.calls index = .issue (.updateVerified id) resume)
    (reachable : run.store.server.outage = none) :
    ∃ verification held, (calls index).verification = some verification ∧
      id = verification.proofId ∧
      run.store.proofs.find (verification.proofId, verification.userId) = some held ∧
      Accepted externals.toHalo2 held.content verification.context := by
  obtain ⟨⟨verification, row, named, same, read, passed⟩, -⟩ := regular.lawful.issuing current
  obtain ⟨held, found, unchanged⟩ :=
    undisturbed index id resume verification row rfl current reachable named read
  exact ⟨verification, held, named, same, found, unchanged ▸ regular.accepted passed⟩

end Flagging

/-- No other call is in progress when a call executes a statement: whoever has executed
one before has returned. A schedule of such moves runs the calls one after another. -/
def Alone (run : ProofRun) : Move Drift → Prop
  | .drift _ => True
  | .call index => ∀ event ∈ run.log, event.call ≠ index →
      (run.calls event.call).outcome.isSome = true

/-- Whether a move disturbs no call in progress can be computed from the run before it. -/
instance (run : ProofRun) (move : Move Drift) : Decidable (Alone run move) :=
  match move with
  | .drift _ => .isTrue trivial
  | .call index => inferInstanceAs (Decidable (∀ event ∈ run.log, event.call ≠ index →
      (run.calls event.call).outcome.isSome = true))

/-- While a call is in progress, the row it read stays stored with the content it
read. -/
def Held (run : ProofRun) : Prop :=
  ∀ index, (run.calls index).outcome = none → ∀ key row,
    ⟨.selectProof key.1 key.2, .ok (some row)⟩ ∈ exchanges index run.log →
    ∃ held, run.store.proofs.find key = some held ∧ held.content = row.content

/-- Calls that run one after another find what they read unchanged. -/
theorem Held.step {externals : Externals} {calls : Nat → Call} {run : ProofRun} {move : Move Drift}
    (held : Held run) (regular : Regular externals calls run) (alone : Alone run move) :
    Held (run.step (machine externals) move) := by
  intro index unfinished key row read
  cases proofStep externals run move with
  | quiet log unstarted proofs =>
    rw [log] at read
    rw [unstarted] at unfinished
    rw [proofs]
    exact held index unfinished key row read
  | executed mover stmt resume moved current log continued proofs =>
    have issued := (regular.lawful.issuing current).1
    rw [log, exchanges_cons] at read
    by_cases own : mover = index
    · -- the call's own statements read a row, or leave the content of every row
      subst mover
      rw [if_pos rfl] at read
      rcases List.mem_cons.mp read with new | old
      · have same : stmt = .selectProof key.1 key.2 := (congrArg Exchange.stmt new).symm
        subst same
        simp only [Exchange.mk.injEq, heq_eq_eq, true_and] at new
        apply proofs.content (exec_selectProof new.symm).2
        intro bundle shown
        cases effect_stored shown
      · obtain ⟨earlier, found, unchanged⟩ := held index (by rw [current]; rfl) key row old
        have unstored (bundle : ZkProofBundle) :
            effect ⟨stmt, (exec externals stmt run.store).1⟩ ≠ some (.stored bundle) := by
          intro shown
          have same : stmt = .upsertProof bundle := effect_stored shown
          subst same
          rw [issued.1] at old
          cases old
        obtain ⟨later, located, kept⟩ :=
          proofs.content found (fun bundle shown => absurd shown (unstored bundle))
        exact ⟨later, located, kept.trans unchanged⟩
    · -- a call that has read is in progress, so nobody else moves
      simp only [own, ↓reduceIte] at read
      obtain ⟨event, logged, caller, -⟩ := mem_exchanges.mp read
      rw [moved] at alone
      have returned := alone event logged (fun same => own (same.symm.trans caller))
      rw [continued, Function.update_of_ne (fun same => own same.symm)] at unfinished
      rw [caller, unfinished] at returned
      cases returned

/-- Nothing was read before anything is executed. -/
theorem held_launch (world : World) (calls : Nat → Call) : Held (launch world calls) := by
  intro index unfinished key row read
  cases read

/-- A call that flags is in progress, so what it read is held. -/
theorem Held.undisturbed {run : ProofRun} (held : Held run) (calls : Nat → Call)
    (move : Move Drift) : Undisturbed calls run move := by
  intro index id resume verification row moved current reachable named read
  exact held index (by rw [current]; rfl) (verification.proofId, verification.userId) row read

/-- No two stored rows share a proof identifier across users. -/
def Unshared (run : ProofRun) : Prop :=
  ∀ row ∈ run.store.proofs.rows, ∀ other ∈ run.store.proofs.rows, row.id = other.id →
    row.userId = other.userId

/-- Every flagged row holds content that the context of some verification accepts,
one that has executed its UPDATE of this proof. -/
def Justified (externals : Externals) (calls : Nat → Call) (run : ProofRun) : Prop :=
  ∀ row ∈ run.store.proofs.rows, row.verified = true →
    ∃ event ∈ run.log, ∃ verification, event.stmt = .updateVerified row.id ∧
      (calls event.call).verification = some verification ∧
      Accepted externals.toHalo2 row.content verification.context

/-- A move keeps the flags justified when a flagging UPDATE is undisturbed and its
identifier belongs to one user. -/
theorem Justified.step {externals : Externals} {calls : Nat → Call} {run : ProofRun} {move : Move Drift}
    (justified : Justified externals calls run) (regular : Regular externals calls run)
    (unshared : Unshared run) (undisturbed : Undisturbed calls run move) :
    Justified externals calls (run.step (machine externals) move) := by
  intro row stored flagged
  cases proofStep externals run move with
  | quiet log unstarted proofs =>
    rw [proofs] at stored
    rw [log]
    exact justified row stored flagged
  | executed index stmt resume moved current log continued proofs =>
    rw [log]
    have kept (before : row ∈ run.store.proofs.rows) :=
      (justified row before flagged).imp fun _ => And.imp_left (List.mem_cons_of_mem
        (⟨⟨stmt, (exec externals stmt run.store).1⟩, index, run.store⟩ : Event World Reply))
    generalize shown : effect ⟨stmt, (exec externals stmt run.store).1⟩ = change at proofs
    generalize (run.step (machine externals) move).store.proofs = after at stored proofs
    cases proofs with
    | kept => exact kept stored
    | stored bundle publicInputs form =>
      rcases Proofs.mem_upsert stored with ⟨-, unflagged⟩ | ⟨-, before⟩
      · rw [unflagged] at flagged
        cases flagged
      · exact kept before
    | flagged id =>
      rcases (Table.mem_updateWhere _ _ _ _ _).mp stored with ⟨earlier, met, named, rfl⟩ | ⟨before, -⟩
      · obtain ⟨rfl, reachable⟩ := effect_flagged shown
        rw [moved] at undisturbed
        obtain ⟨verification, held, asked, same, found, accepted⟩ :=
          regular.flagging undisturbed current reachable
        have own : held = earlier := by
          have key := Table.key_of_find found
          have sameId : held.id = earlier.id :=
            (congrArg Prod.fst key).trans (same.symm.trans (of_decide_eq_true named).symm)
          have sameUser := unshared held (Table.mem_of_find found) earlier met sameId
          have selected := Table.find_of_mem met
          rw [ProofRow.key, ← sameId, ← sameUser] at selected
          exact Option.some.inj ((Table.find_of_mem (Table.mem_of_find found)).symm.trans selected)
        rw [own] at accepted
        refine ⟨_, List.mem_cons_self, verification, ?_, asked, accepted⟩
        exact congrArg Statement.updateVerified (of_decide_eq_true named).symm
      · exact kept before

/-- In every schedule over a migrated database in which no identifier is shared between
users and every flagging UPDATE is undisturbed, the flags are justified in every state
that is reached.

Proof: the rows start unflagged, an upsert leaves its row unflagged, and an UPDATE
reaches the server only after its call's check has passed. What passed is what the
call read, which is what the row still holds. -/
theorem justified_of_undisturbed (externals : Externals) (calls : Nat → Call) (now : Int)
    (params : ParamsCache) (clock : DateTime) (moves : List (Move Drift))
    (along : Along (Run.step (machine externals))
      (fun run move => Unshared run ∧ Undisturbed calls run move)
      (launch (.migrated now params clock) calls) moves) (first last : List (Move Drift))
    (split : moves = first ++ last) :
    Justified externals calls
      ((launch (.migrated now params clock) calls).play (machine externals) first) := by
  rw [split] at along
  have within := ((Along.append_iff _ first last).mp along).1
  have start : Regular externals calls (launch (.migrated now params clock) calls) ∧
      Justified externals calls (launch (.migrated now params clock) calls) :=
    ⟨regular_launch externals _ calls, fun _ stored => absurd stored List.not_mem_nil⟩
  have reached := within.invariant
    (fun run => Regular externals calls run ∧ Justified externals calls run) start
    (fun _ move holds meets =>
      ⟨holds.1.step move, holds.2.step holds.1 meets.1 meets.2⟩)
  exact reached.2

/-- Whether no two rows share an identifier can be computed from the rows. -/
instance (run : ProofRun) : Decidable (Unshared run) :=
  inferInstanceAs (Decidable (∀ row ∈ run.store.proofs.rows,
    ∀ other ∈ run.store.proofs.rows, row.id = other.id → row.userId = other.userId))

/-- A proof system that generates every key and accepts one proof, and a database that
keeps JSON as it is. -/
def accepting (accepted : Bytes) : Externals where
  keygenVk _ _ := .ok ()
  verifyProof _ _ _ proof := if proof = accepted then .ok () else .error "invalid proof"
  jsonb := .ok

/-- A digest of zero octets. -/
def zeroDigest : Bytes := List.replicate 32 0

/-- An equality bundle for the zero digest with the given proof. -/
def sampleBundle (proof : Bytes) : ZkProofBundle where
  protocol := protocolId
  circuit := circuitIdScalar
  circuitSecurity := 4
  expectedHash := hashExpectedDigest zeroDigest
  publicInputs := .null
  proof := proof
  proofId := Uuid.last 1
  userId := Uuid.last 2
  createdAt := ⟨0⟩

/-- A verification of the sample bundle. -/
def sampleVerification (context : ZkVerificationContext) : ZkProofVerification :=
  ⟨Uuid.last 1, Uuid.last 2, context⟩

/-- A bundle is stored and verified, and the same proof is stored again. -/
def restored : Nat → Call
  | 0 => .storeZkProof (sampleBundle [1])
  | 1 => .verifyZkProof (sampleVerification (.scalarDigest zeroDigest))
  | _ => .storeZkProof (sampleBundle [2])

/-- The second upsert comes between the check and the UPDATE of the verification. -/
def restoredSchedule : List (Move Drift) :=
  [.call 0, .call 1, .call 1, .call 1, .call 2, .call 1]

/-- The verification alone, after the first upsert. -/
theorem justified_restored_once :
    (∃ row ∈ ((launch (.migrated 0 .fresh ⟨0⟩) restored).play (machine (accepting [1]))
        [.call 0, .call 1, .call 1, .call 1, .call 1]).store.proofs.rows, row.verified = true) ∧
      Justified (accepting [1]) restored
        ((launch (.migrated 0 .fresh ⟨0⟩) restored).play (machine (accepting [1]))
          [.call 0, .call 1, .call 1, .call 1, .call 1]) := by
  refine ⟨by decide +kernel, justified_of_undisturbed _ _ _ _ _ _ ?_ _ [] (List.append_nil _).symm⟩
  have separate : Along (Run.step (machine (accepting [1])))
      (fun run move => Unshared run ∧ Alone run move) (launch (.migrated 0 .fresh ⟨0⟩) restored)
      [.call 0, .call 1, .call 1, .call 1, .call 1] := by
    decide +kernel
  apply separate.derive (fun run => Regular (accepting [1]) restored run ∧ Held run)
  · exact ⟨regular_launch _ _ _, held_launch _ _⟩
  · exact fun run move holds meets => ⟨holds.1.step move, holds.2.step holds.1 meets.2⟩
  · exact fun run move holds meets => ⟨meets.1, holds.2.undisturbed restored move⟩

/-- A proof that no context accepts is flagged as verified. -/
theorem not_justified_restored :
    Along (Run.step (machine (accepting [1]))) (fun run _ => Unshared run)
        (launch (.migrated 0 .fresh ⟨0⟩) restored) restoredSchedule ∧
      ¬ Justified (accepting [1]) restored
        ((launch (.migrated 0 .fresh ⟨0⟩) restored).play (machine (accepting [1]))
          restoredSchedule) := by
  refine ⟨by decide +kernel, ?_⟩
  intro justified
  have flagged : ∃ row ∈ ((launch (.migrated 0 .fresh ⟨0⟩) restored).play (machine (accepting [1]))
      restoredSchedule).store.proofs.rows, row.verified = true ∧ row.proof = [2] := by
    decide +kernel
  obtain ⟨row, stored, verified, proof⟩ := flagged
  obtain ⟨event, -, verification, -, -, accepted⟩ := justified row stored verified
  obtain ⟨circuit, columns, verdict⟩ := accepted.proof
  have rejected : row.content.proof ≠ [1] := by
    rw [show row.content.proof = [2] from proof]
    decide
  simp [accepting, rejected] at verdict

/-- The calls whose UPDATE has flagged a key since it was last stored, newest first. -/
def flaggers (key : Uuid × Uuid) : List (Event World Reply) → List Nat
  | [] => []
  | event :: earlier =>
      match effect event.toExchange with
      | some (.stored bundle) =>
          if (bundle.proofId, bundle.userId) = key then [] else flaggers key earlier
      | some (.flagged id) =>
          if id = key.1 then event.call :: flaggers key earlier else flaggers key earlier
      | none => flaggers key earlier

/-- A verification that is about to read a flagged row has a forerunner: one of the calls
that have flagged the row since it was last stored verified for the same user and
context. -/
def Foretold (calls : Nat → Call) (run : ProofRun) : Move Drift → Prop
  | .drift _ => True
  | .call index => ∀ verification ∈ (calls index).verification,
      (exchanges index run.log).isEmpty = true → run.store.server.outage = none →
      ∀ row ∈ run.store.proofs.find (verification.proofId, verification.userId),
        row.verified = true →
        ∃ flagger ∈ flaggers (verification.proofId, verification.userId) run.log,
          (calls flagger).verification = some verification

/-- Whether a verification is foretold can be computed from the log before it. -/
instance (calls : Nat → Call) (run : ProofRun) (move : Move Drift) :
    Decidable (Foretold calls run move) :=
  match move with
  | .drift _ => .isTrue trivial
  | .call index => inferInstanceAs (Decidable (∀ verification ∈ (calls index).verification,
      (exchanges index run.log).isEmpty = true → run.store.server.outage = none →
      ∀ row ∈ run.store.proofs.find (verification.proofId, verification.userId),
        row.verified = true →
        ∃ flagger ∈ flaggers (verification.proofId, verification.userId) run.log,
          (calls flagger).verification = some verification))

/-- Every call that has flagged a row since it was last stored, and was made for its
user, accepts what the row holds. -/
def Vouched (externals : Externals) (calls : Nat → Call) (run : ProofRun) : Prop :=
  ∀ row ∈ run.store.proofs.rows, ∀ flagger ∈ flaggers row.key run.log, ∀ verification,
    (calls flagger).verification = some verification → verification.userId = row.userId →
    Accepted externals.toHalo2 row.content verification.context

/-- An undisturbed move keeps the flags vouched for. -/
theorem Vouched.step {externals : Externals} {calls : Nat → Call} {run : ProofRun} {move : Move Drift}
    (vouched : Vouched externals calls run) (regular : Regular externals calls run)
    (undisturbed : Undisturbed calls run move) :
    Vouched externals calls (run.step (machine externals) move) := by
  intro row stored flagger member verification named user
  cases proofStep externals run move with
  | quiet log unstarted proofs =>
    rw [proofs] at stored
    rw [log] at member
    exact vouched row stored flagger member verification named user
  | executed index stmt resume moved current log continued proofs =>
    rw [log, flaggers] at member
    have vouch (before : row ∈ run.store.proofs.rows) (earlier : flagger ∈ flaggers row.key run.log) :=
      vouched row before flagger earlier verification named user
    generalize shown : effect ⟨stmt, (exec externals stmt run.store).1⟩ = change at proofs member
    generalize (run.step (machine externals) move).store.proofs = after at stored proofs
    cases proofs with
    | kept => exact vouch stored member
    | stored bundle publicInputs form =>
      rcases Proofs.mem_upsert stored with ⟨own, -⟩ | ⟨other, before⟩
      · simp [own] at member
      · exact vouch before (by simpa [other] using member)
    | flagged id =>
      rcases (Table.mem_updateWhere _ _ _ _ _).mp stored with ⟨old, met, selected, rfl⟩ | ⟨before, other⟩
      · have same : id = old.id := (of_decide_eq_true selected).symm
        rcases List.mem_cons.mp (by simpa [ProofRow.key, Proofs.flag, same] using member) with
          rfl | earlier
        · obtain ⟨rfl, reachable⟩ := effect_flagged shown
          rw [moved] at undisturbed
          obtain ⟨request, held, asked, requested, found, accepted⟩ :=
            regular.flagging undisturbed current reachable
          have sameRequest : request = verification := Option.some.inj (asked.symm.trans named)
          subst sameRequest
          have key : (request.proofId, request.userId) = old.key :=
            Prod.ext (requested.symm.trans same) user
          rw [key, Table.find_of_mem met] at found
          exact Option.some.inj found ▸ accepted
        · exact vouched old met flagger earlier verification named user
      · have differs : ¬ id = row.key.1 := fun same => of_decide_eq_false other same.symm
        exact vouch before (by simpa [differs] using member)

/-- A move at which a verification returns `true`. -/
def Confirms (externals : Externals) (calls : Nat → Call) (verification : ZkProofVerification)
    (run : ProofRun) (move : Move Drift) : Prop :=
  ∃ index, move = .call index ∧ (calls index).verification = some verification ∧
    (run.calls index).outcome = none ∧
    ((run.step (machine externals) move).calls index).outcome = some (.ok (.bool true))

/-- Whenever a verification returns `true`, what is stored under its key is accepted
for its own context. -/
def SoundVerification (externals : Externals) (calls : Nat → Call) (run : ProofRun)
    (moves : List (Move Drift)) : Prop :=
  ∀ first move last verification, moves = first ++ move :: last →
    Confirms externals calls verification (run.play (machine externals) first) move →
    ∃ row, (run.play (machine externals) (first ++ [move])).store.proofs.find
        (verification.proofId, verification.userId) = some row ∧
      Accepted externals.toHalo2 row.content verification.context

/-- A confirming move leaves an accepted row, given the facts about the state before
it. -/
theorem Confirms.accepted {externals : Externals} {calls : Nat → Call} {run : ProofRun}
    {move : Move Drift} {verification : ZkProofVerification}
    (confirms : Confirms externals calls verification run move) (regular : Regular externals calls run)
    (undisturbed : Undisturbed calls run move) (vouched : Vouched externals calls run)
    (foretold : Foretold calls run move) :
    ∃ row, (run.step (machine externals) move).store.proofs.find
        (verification.proofId, verification.userId) = some row ∧
      Accepted externals.toHalo2 row.content verification.context := by
  obtain ⟨index, rfl, named, unfinished, returned⟩ := confirms
  cases current : run.calls index with
  | value result => simp [current, outcome] at unfinished
  | failure failure => simp [current, outcome] at unfinished
  | issue stmt resume =>
    obtain ⟨issued, follows⟩ := regular.lawful.issuing current
    have done := follows (exec externals stmt run.store).1
    simp only [Run.step, current, machine_exec, Function.update_self, outcome_eq_ok_iff] at returned
    rw [returned] at done
    -- what the last statement read or flagged is still there after it
    have remains {row : ProofRow}
        (found : run.store.proofs.find (verification.proofId, verification.userId) = some row)
        (accepted : Accepted externals.toHalo2 row.content verification.context)
        (unstored : ∀ bundle, stmt ≠ .upsertProof bundle) :
        ∃ row, (run.step (machine externals) (.call index)).store.proofs.find
            (verification.proofId, verification.userId) = some row ∧
          Accepted externals.toHalo2 row.content verification.context := by
      obtain ⟨later, located, unchanged⟩ := (exec_proofChange externals stmt run.store).content found
        (fun bundle shown => absurd (effect_stored shown) (unstored bundle))
      refine ⟨later, ?_, unchanged ▸ accepted⟩
      simpa only [Run.step, current, machine_exec] using located
    obtain ⟨-, ⟨row, flagged, read⟩ | updated⟩ := done verification true named rfl
    · have same : stmt = .selectProof verification.proofId verification.userId :=
        congrArg Exchange.stmt (Option.some.inj read)
      subst same
      simp only [List.head?_cons, Option.some.injEq, Exchange.mk.injEq, heq_eq_eq, true_and] at read
      obtain ⟨reachable, found⟩ := exec_selectProof read
      obtain ⟨flagger, member, forerunner⟩ := foretold verification named
        (by rw [issued.1]; rfl) reachable row found flagged
      have key := Table.key_of_find found
      have accepted := vouched row (Table.mem_of_find found) flagger (by rwa [key]) verification
        forerunner (congrArg Prod.snd key).symm
      exact remains found accepted (by rintro bundle ⟨⟩)
    · have same : stmt = .updateVerified verification.proofId :=
        congrArg Exchange.stmt (Option.some.inj updated)
      subst same
      simp only [List.head?_cons, Option.some.injEq, Exchange.mk.injEq, heq_eq_eq, true_and]
        at updated
      have shown : effect ⟨_, (exec externals (.updateVerified verification.proofId) run.store).1⟩ =
          some (.flagged verification.proofId) := by
        rw [updated]
        rfl
      obtain ⟨request, held, asked, -, found, accepted⟩ :=
        regular.flagging undisturbed current (effect_flagged shown).2
      have sameRequest : request = verification := Option.some.inj (asked.symm.trans named)
      subst sameRequest
      exact remains found accepted (by rintro bundle ⟨⟩)

/-- In every schedule over a migrated database that runs the calls one after another, with
any environment in between, verification is sound when every verification that reads a
flagged row has a forerunner.

Proof: calls that do not overlap leave each flagging UPDATE undisturbed, so every call
that has flagged a row since it was last stored accepts what the row holds. A `true`
after an UPDATE is vouched for by the call itself, a `true` from the flag by the
forerunner. -/
theorem soundVerification_of_foretold (externals : Externals) (calls : Nat → Call) (now : Int)
    (params : ParamsCache) (clock : DateTime) (moves : List (Move Drift))
    (along : Along (Run.step (machine externals))
      (fun run move => Alone run move ∧ Foretold calls run move)
      (launch (.migrated now params clock) calls) moves) :
    SoundVerification externals calls (launch (.migrated now params clock) calls) moves := by
  rintro first move last verification rfl confirms
  obtain ⟨⟨regular, held, vouched⟩, -, foretold⟩ := along.reaches
    (fun run => Regular externals calls run ∧ Held run ∧ Vouched externals calls run)
    ⟨regular_launch externals _ calls, held_launch _ calls,
      fun _ stored => absurd stored List.not_mem_nil⟩
    (fun run move holds meets => ⟨holds.1.step move, holds.2.1.step holds.1 meets.1,
      holds.2.2.step holds.1 (holds.2.1.undisturbed calls move)⟩)
  have accepted := confirms.accepted regular (held.undisturbed calls move) vouched foretold
  rwa [Run.play_append, Run.play_cons, Run.play_nil]

/-- A bundle is stored, verified for its digest, and verified once more. -/
def askedAgain (context : ZkVerificationContext) : Nat → Call
  | 0 => .storeZkProof (sampleBundle [1])
  | 1 => .verifyZkProof (sampleVerification (.scalarDigest zeroDigest))
  | _ => .verifyZkProof (sampleVerification context)

/-- The calls one after another. -/
def askedAgainSchedule : List (Move Drift) :=
  [.call 0, .call 1, .call 1, .call 1, .call 1, .call 2]

/-- Asked for the same context again, the verification answers soundly from the flag. -/
theorem soundVerification_askedAgain :
    Confirms (accepting [1]) (askedAgain (.scalarDigest zeroDigest))
        (sampleVerification (.scalarDigest zeroDigest))
        ((launch (.migrated 0 .fresh ⟨0⟩) (askedAgain (.scalarDigest zeroDigest))).play
          (machine (accepting [1])) askedAgainSchedule.dropLast) (.call 2) ∧
      SoundVerification (accepting [1]) (askedAgain (.scalarDigest zeroDigest))
        (launch (.migrated 0 .fresh ⟨0⟩) (askedAgain (.scalarDigest zeroDigest)))
        askedAgainSchedule :=
  ⟨⟨2, rfl, rfl, by decide +kernel, by decide +kernel⟩,
    soundVerification_of_foretold _ _ _ _ _ _ (by decide +kernel)⟩

/-- Asked for the context of another circuit, the verification of a flagged row still
answers `true`. -/
theorem not_soundVerification_askedAgain :
    Along (Run.step (machine (accepting [1]))) Alone
        (launch (.migrated 0 .fresh ⟨0⟩) (askedAgain (.execution zeroDigest))) askedAgainSchedule ∧
      ¬ SoundVerification (accepting [1]) (askedAgain (.execution zeroDigest))
        (launch (.migrated 0 .fresh ⟨0⟩) (askedAgain (.execution zeroDigest)))
        askedAgainSchedule := by
  refine ⟨by decide +kernel, ?_⟩
  intro sound
  obtain ⟨row, found, accepted⟩ := sound askedAgainSchedule.dropLast (.call 2) []
    (sampleVerification (.execution zeroDigest)) rfl
    ⟨2, rfl, rfl, by decide +kernel, by decide +kernel⟩
  have rejected : ∀ row ∈ ((launch (.migrated 0 .fresh ⟨0⟩)
      (askedAgain (.execution zeroDigest))).play (machine (accepting [1]))
        askedAgainSchedule).store.proofs.find (Uuid.last 1, Uuid.last 2),
      ¬ Accepted (accepting [1]).toHalo2 row.content (.execution zeroDigest) := by
    decide +kernel
  exact rejected row found accepted

end SecureDatabase.Zk
