import SecureDatabase.AttestationLog

/-!
# How long a registered nonce is refused

A nonce is refused while its entry is in the log, and its entry leaves the log when
some DELETE takes it for stale. A DELETE with the lifetime under which the nonce was
registered does so only after that lifetime has passed. Among calls with one lifetime
the entry therefore stays for the whole window, however their statements interleave.
Calls with shorter lifetimes prune the same log, so in general the window is only
guaranteed against DELETEs whose cutoff is not later than the entry.
-/

namespace SecureDatabase.Attestation

open Foundation Program

variable {jsonb : Jsonb}

/-- What a call may issue after its own exchanges. -/
def Issues (call : Call) (past : List (Exchange Reply)) : Statement → Prop
  | .pruneNonces ttl => past = [] ∧ ∃ registration,
      call.registration = some registration ∧ ttl = max registration.ttlSeconds 0
  | .insertNonce nonceDigest enclaveId =>
      (∃ ttl, past.head? = some ⟨.pruneNonces ttl, .ok ()⟩) ∧ ∃ registration,
        call.registration = some registration ∧ nonceDigest = registration.nonceDigest ∧
          enclaveId = registration.enclaveId
  | .deleteNonce nonceDigest =>
      call.registration = none ∧ call.invalidates nonceDigest = true
  | .pruneDecisions => call.registration = none
  | .upsertDecision _ => call.registration = none
  | .deleteDecision _ => call.registration = none

/-- What a registering call concludes from its own exchanges, newest first: it answers
exactly after its INSERT, and whether a row was affected is the answer. -/
def Concludes (call : Call) (past : List (Exchange Reply)) (result : DbResult Returned) : Prop :=
  ∀ registration, call.registration = some registration →
    match result with
    | .ok returned => ∃ rows, returned = .bool (decide (0 < rows)) ∧ past.head? =
        some ⟨.insertNonce registration.nonceDigest registration.enclaveId, .ok rows⟩
    | .error _ => ∀ nonceDigest enclaveId rows,
        past.head? ≠ some ⟨.insertNonce nonceDigest enclaveId, .ok rows⟩

/-- The statements of a call that registers nothing are allowed; such a call concludes
nothing. -/
structure Unregistered {α : Type} (call : Call) (program : Operation α) : Prop where
  issues : ∀ past, program.Follows (Issues call) (fun _ _ => True) past

namespace Unregistered

variable {α β : Type} {call : Call}

/-- What is computed registers nothing. -/
theorem ofExcept (result : DbResult α) : Unregistered call (Program.ofExcept result) := by
  constructor
  intro past
  cases result <;> trivial

/-- A statement that is no registration registers nothing. -/
theorem sql (stmt : Statement) (issued : ∀ past, Issues call past stmt) :
    Unregistered call (sql stmt) := by
  constructor
  intro past
  refine ⟨issued past, ?_⟩
  rintro (message | result) <;> trivial

/-- Parts that register nothing may be put together. -/
theorem bind {first : Operation α} {next : α → Operation β} (start : Unregistered call first)
    (rest : ∀ result, Unregistered call (next result)) : Unregistered call (first >>= next) := by
  constructor
  intro past
  refine Follows.bind (fun _ _ => True) ((start.issues past).weaken ?_)
    (fun later result _ => (rest result).issues later)
  rintro later (error | result) _ <;> trivial

/-- Such a call follows its rule. -/
theorem follows {program : Operation Unit} (unregistered : Unregistered call program)
    (unnamed : call.registration = none) :
    (program >>= fun _ => pure Returned.unit).Follows (Issues call) (Concludes call) [] := by
  have whole : Unregistered call (program >>= fun _ => pure Returned.unit) :=
    unregistered.bind (fun result => ⟨fun _ => trivial⟩)
  refine (whole.issues []).weaken ?_
  intro later result _ registration named
  rw [unnamed] at named
  cases named

end Unregistered

/-- A caching call registers no nonce: its statements are on the cache. -/
theorem cacheAttestationDecision_unregistered (quoteHash : Bytes) (tee : String)
    (expiresAt : DateTime)
    (decision : Json) : Unregistered (.cache quoteHash tee expiresAt decision)
      (cacheAttestationDecision quoteHash tee expiresAt decision) := by
  apply Unregistered.bind
  · exact .sql .pruneDecisions (fun _ => rfl)
  · exact fun _ => .sql (.upsertDecision _) (fun _ => rfl)

/-- An invalidation registers no nonce; it may only delete entries. -/
theorem invalidateAttestationArtifacts_unregistered (quoteHashHex : String)
    (nonceDigestHex : Option String) : Unregistered (.invalidate quoteHashHex nonceDigestHex)
      (invalidateAttestationArtifacts quoteHashHex nonceDigestHex) := by
  apply Unregistered.bind (.ofExcept _)
  intro quoteHashBytes
  refine Unregistered.bind (.sql (.deleteDecision quoteHashBytes) ?_) ?_
  · exact fun _ => rfl
  intro _
  cases nonceDigestHex with
  | none => exact .ofExcept (.ok ())
  | some nonceHex =>
    dsimp only
    split
    · exact .ofExcept (.ok ())
    · cases nonce : hexDecode (trim nonceHex) with
      | none => exact .ofExcept (.error _)
      | some nonceBytes =>
        have named : (Call.invalidate quoteHashHex (some nonceHex)).invalidates nonceBytes = true := by
          simp only [Call.invalidates, nonce, decide_true]
        rw [okOr, ofExcept_ok, value_bind]
        exact .sql (.deleteNonce nonceBytes) (fun _ => ⟨rfl, named⟩)

/-- Every call follows its rule, whatever replies it receives. -/
theorem Call.follows (call : Call) : call.program.Follows (Issues call) (Concludes call) [] := by
  cases call with
  | register registration =>
    refine ⟨⟨rfl, registration, rfl, rfl⟩, ?_⟩
    rintro (message | ⟨⟩)
    · rintro _ - nonceDigest enclaveId rows same
      cases same
    · refine ⟨⟨⟨_, rfl⟩, registration, rfl, rfl, rfl⟩, ?_⟩
      rintro (message | rows)
      · rintro _ - nonceDigest enclaveId rows same
        cases same
      · rintro _ ⟨⟩
        exact ⟨rows, rfl, rfl⟩
  | cache quoteHash tee expiresAt decision =>
    have unregistered := cacheAttestationDecision_unregistered quoteHash tee expiresAt decision
    rw [program]
    generalize cacheAttestationDecision quoteHash tee expiresAt decision = program at *
    exact unregistered.follows rfl
  | invalidate quoteHashHex nonceDigestHex =>
    have unregistered := invalidateAttestationArtifacts_unregistered quoteHashHex nonceDigestHex
    rw [program]
    generalize invalidateAttestationArtifacts quoteHashHex nonceDigestHex = program at *
    exact unregistered.follows rfl

/-- What one statement at a clock reading can do to the nonce log. -/
inductive NonceChange (now : Int) (log : NonceLog) : Statement → NonceLog → Prop where
  | kept (stmt : Statement) : NonceChange now log stmt log
  | pruned (ttl : Int64) :
      NonceChange now log (.pruneNonces ttl) (log.deleteWhere (Tables.stale ttl now))
  | inserted (nonceDigest : Bytes) (enclaveId : String) (absent : log.find nonceDigest = none) :
      NonceChange now log (.insertNonce nonceDigest enclaveId)
        (log.insert ⟨nonceDigest, enclaveId, now⟩ absent)
  | deleted (nonceDigest : Bytes) :
      NonceChange now log (.deleteNonce nonceDigest)
        (log.deleteWhere (fun row => row.nonceDigest = nonceDigest))

/-- Every statement changes the nonce log in one of these ways. -/
theorem body_nonceChange {stmt : Statement} {now : Int} {tables after : Tables}
    {result : Answer stmt} (computed : body jsonb stmt now tables = .ok (result, after)) :
    NonceChange now tables.nonceLog stmt after.nonceLog := by
  cases stmt with
  | pruneNonces ttl =>
    simp only [body, Tables.pruneNonces] at computed
    split at computed
    · cases computed
    · split at computed
      · cases computed
      · cases computed
        exact .pruned ttl
  | insertNonce nonceDigest enclaveId =>
    obtain ⟨-, inserted⟩ := (receive_eq_ok_iff _ _ _).mp computed
    simp only [Tables.insertNonce, Except.ok.injEq] at inserted
    split at inserted
    next nonceLog found =>
      obtain ⟨absent, rfl⟩ := (Table.insert?_eq_some_iff _ _ _).mp found
      cases inserted
      exact .inserted nonceDigest enclaveId absent
    next =>
      cases inserted
      exact .kept _
  | pruneDecisions =>
    cases computed
    exact .kept _
  | upsertDecision row =>
    obtain ⟨decision, -, rfl⟩ := upsertDecision_eq_ok computed
    rw [Tables.upsertDecision_nonceLog]
    exact .kept _
  | deleteDecision quoteHash =>
    cases computed
    exact .kept _
  | deleteNonce nonceDigest =>
    cases computed
    exact .deleted nonceDigest

/-- What one move can do to the nonce log and the clock: the environment lets time pass
and executes nothing, or one call executes its next statement. -/
inductive AttestationStep (run : AttestationRun) (move : Move ServerDrift)
    (after : AttestationRun) : Prop where
  | quiet (log : after.store.tables.nonceLog = run.store.tables.nonceLog)
      (now : run.store.now ≤ after.store.now)
  | executed (index : Nat) (stmt : Statement) (resume : Reply stmt → Operation Returned)
      (moved : move = .call index) (current : run.calls index = .issue stmt resume)
      (now : after.store.now = run.store.now)
      (reached : after.store.tables.nonceLog = run.store.tables.nonceLog ∨
        run.store.outage = none)
      (log : NonceChange run.store.now run.store.tables.nonceLog stmt after.store.tables.nonceLog)

/-- Every move is such a step. -/
theorem attestationStep (run : AttestationRun) (move : Move ServerDrift) :
    AttestationStep run move (run.step (machine jsonb) move) := by
  obtain same | ⟨act, -, moved⟩ | ⟨index, stmt, resume, called, current, moved⟩ :=
    Run.step_cases (machine jsonb) run move
  · rw [same]
    exact .quiet rfl (Int.le_refl _)
  · rw [moved]
    exact .quiet (congrArg Tables.nonceLog (Server.drift_tables act run.store))
      (Server.drift_now act run.store)
  · rw [moved]
    obtain ⟨error, failed⟩ | ⟨result, tables, reachable, computed, executed⟩ :=
      run.store.execute_cases (body jsonb stmt)
    · simp only [machine_exec, failed]
      exact .executed index stmt resume called current rfl (.inl rfl) (.kept stmt)
    · simp only [machine_exec, executed]
      exact .executed index stmt resume called current rfl (.inr reachable)
        (body_nonceChange computed)

/-- The clock never runs backwards. -/
theorem now_step (run : AttestationRun) (move : Move ServerDrift) :
    run.store.now ≤ (run.step (machine jsonb) move).store.now := by
  cases attestationStep run move with
  | quiet log now => exact now
  | executed index stmt resume moved current now reached log => exact Int.le_of_eq now.symm

/-- A move that reaches the server neither prunes an entry of this age nor deletes the
nonce by name. -/
def Spares (nonceDigest : Bytes) (since : Int) (run : AttestationRun)
    (move : Move ServerDrift) : Prop :=
  ∀ index stmt resume, move = .call index → run.calls index = .issue stmt resume →
    run.store.outage = none →
    stmt ≠ .deleteNonce nonceDigest ∧
      ∀ ttl, stmt = .pruneNonces ttl → run.store.now - ttl.toInt * second ≤ since

/-- The nonce has been in the log since the given time. -/
def SeenSince (nonceDigest : Bytes) (since : Int) (run : AttestationRun) : Prop :=
  ∃ row, run.store.tables.nonceLog.find nonceDigest = some row ∧ row.seenAt = since

/-- An entry stays through a move that spares it. -/
theorem SeenSince.step {nonceDigest : Bytes} {since : Int} {run : AttestationRun}
    {move : Move ServerDrift} (seen : SeenSince nonceDigest since run)
    (spares : Spares nonceDigest since run move) :
    SeenSince nonceDigest since (run.step (machine jsonb) move) := by
  obtain ⟨row, found, time⟩ := seen
  cases attestationStep run move with
  | quiet log now => exact ⟨row, by rw [log, found], time⟩
  | executed index stmt resume moved current now reached log =>
    refine ⟨row, ?_, time⟩
    generalize (run.step (machine jsonb) move).store.tables.nonceLog = after at log reached
    rcases reached with rfl | reachable
    · exact found
    obtain ⟨unnamed, recent⟩ := spares index stmt resume moved current reachable
    cases log with
    | kept => exact found
    | pruned ttl =>
      have young : ¬ row.seenAt < run.store.now - ttl.toInt * second := by
        have cutoff := recent ttl rfl
        omega
      rw [Table.find_deleteWhere, found]
      simp [Tables.stale, young]
    | inserted other enclaveId absent =>
      have differs : other ≠ nonceDigest := by
        rintro rfl
        rw [absent] at found
        cases found
      rw [Table.find_insert, if_neg differs, found]
    | deleted other =>
      have differs : row.nonceDigest ≠ other := by
        rintro rfl
        exact unnamed (congrArg Statement.deleteNonce (Table.key_of_find found))
      rw [Table.find_deleteWhere, found]
      simp [differs]

/-- While the window is open, the nonce has been in the log since the given time. -/
def Remembered (nonceDigest : Bytes) (since window : Int) (run : AttestationRun) : Prop :=
  run.store.now ≤ since + window → SeenSince nonceDigest since run

/-- A move spares the entry as long as the window is open. -/
def SparesWithin (nonceDigest : Bytes) (since window : Int) (run : AttestationRun)
    (move : Move ServerDrift) : Prop :=
  SeenSince nonceDigest since run → run.store.now ≤ since + window →
    Spares nonceDigest since run move

/-- An entry is remembered through every schedule that spares it while the window is
open. -/
theorem remembered_play {nonceDigest : Bytes} {since window : Int} {run : AttestationRun}
    {moves : List (Move ServerDrift)} (entered : SeenSince nonceDigest since run)
    (spared : Along (Run.step (machine jsonb)) (SparesWithin nonceDigest since window) run moves) :
    Remembered nonceDigest since window (run.play (machine jsonb) moves) := by
  apply spared.invariant (Remembered nonceDigest since window)
  · exact fun _ => entered
  · intro current move remembered spares opened
    have before : current.store.now ≤ since + window :=
      Int.le_trans (now_step current move) opened
    exact (remembered before).step (spares (remembered before) before)

/-- A move at which the server executes the INSERT of a registration of this nonce with
this lifetime in seconds: it can be reached and receives the name of the enclave. -/
def Inserts (calls : Nat → Call) (nonceDigest : Bytes) (ttlSeconds : Int64)
    (run : AttestationRun) (move : Move ServerDrift) : Prop :=
  ∃ index enclaveId resume, move = .call index ∧
    (calls index).registration = some ⟨nonceDigest, enclaveId, ttlSeconds⟩ ∧
    run.calls index = .issue (.insertNonce nonceDigest enclaveId) resume ∧
    run.store.outage = none ∧ Received [.text enclaveId]

/-- A move at which a registration of this nonce with this lifetime returns an answer. -/
def Answers (jsonb : Jsonb) (calls : Nat → Call) (nonceDigest : Bytes) (ttlSeconds : Int64)
    (new : Bool) (run : AttestationRun) (move : Move ServerDrift) : Prop :=
  ∃ index enclaveId, move = .call index ∧
    (calls index).registration = some ⟨nonceDigest, enclaveId, ttlSeconds⟩ ∧
    (run.calls index).outcome = none ∧
    ((run.step (machine jsonb) move).calls index).outcome = some (.ok (.bool new))

/-- An INSERT that reaches the server and is received affects a row exactly when the nonce
is absent. -/
theorem execute_insertNonce {server : Server Tables} (reachable : server.outage = none)
    (nonceDigest : Bytes) {enclaveId : String} (received : Received [.text enclaveId]) :
    (server.execute (body jsonb (.insertNonce nonceDigest enclaveId))).1 =
      .ok (if server.tables.nonceLog.find nonceDigest = none then 1 else 0) := by
  simp only [Server.execute, reachable, body, receive_of_received received, Tables.insertNonce,
    Table.insert?]
  by_cases absent : server.tables.nonceLog.find nonceDigest = none
  · simp [absent]
  · simp [absent]

/-- Nothing is issued after the INSERT of a registration. -/
theorem not_issues_after {call : Call} {registration : Registration}
    (named : call.registration = some registration) {nonceDigest : Bytes} {enclaveId : String}
    {reply : Reply (.insertNonce nonceDigest enclaveId)} {past : List (Exchange Reply)}
    (stmt : Statement) : ¬ Issues call (⟨.insertNonce nonceDigest enclaveId, reply⟩ :: past) stmt := by
  intro issued
  cases stmt with
  | pruneNonces ttl => exact absurd issued.1 (List.cons_ne_nil _ _)
  | insertNonce other otherEnclave =>
    obtain ⟨⟨ttl, pruned⟩, -⟩ := issued
    cases pruned
  | deleteNonce other => cases named.symm.trans issued.1
  | pruneDecisions => cases named.symm.trans issued
  | upsertDecision row => cases named.symm.trans issued
  | deleteDecision quoteHash => cases named.symm.trans issued

section Answering

variable {calls : Nat → Call} {run : AttestationRun} {move : Move ServerDrift}
  {nonceDigest : Bytes} {ttlSeconds : Int64}

/-- A registration answers exactly where the server executes its INSERT, and it answers
`true` exactly when the nonce is not in the log. -/
theorem answers_iff
    (lawful : Run.Lawful (fun index => Issues (calls index)) (fun index => Concludes (calls index))
      run) (new : Bool) :
    Answers jsonb calls nonceDigest ttlSeconds new run move ↔
      Inserts calls nonceDigest ttlSeconds run move ∧
        new = (run.store.tables.nonceLog.find nonceDigest).isNone := by
  constructor
  · rintro ⟨index, enclaveId, rfl, named, unfinished, returned⟩
    cases current : run.calls index with
    | value result => simp [current, outcome] at unfinished
    | failure error => simp [current, outcome] at unfinished
    | issue stmt resume =>
      have follows := (lawful.issuing current).2 (run.store.execute (body jsonb stmt)).1
      simp only [Run.step, current, machine_exec, Function.update_self, outcome_eq_ok_iff]
        at returned
      rw [returned] at follows
      obtain ⟨rows, same, inserted⟩ := follows _ named
      have insert : stmt = .insertNonce nonceDigest enclaveId :=
        congrArg Exchange.stmt (Option.some.inj inserted)
      subst insert
      simp only [List.head?_cons, Option.some.injEq, Exchange.mk.injEq, heq_eq_eq, true_and]
        at inserted
      have executed : run.store.outage = none ∧ Received [.text enclaveId] := by
        obtain ⟨error, failed⟩ | ⟨_, _, reachable, computed, -⟩ :=
          run.store.execute_cases (body jsonb (.insertNonce nonceDigest enclaveId))
        · rw [failed] at inserted
          cases inserted
        · exact ⟨reachable, ((receive_eq_ok_iff _ _ _).mp computed).1⟩
      refine ⟨⟨index, enclaveId, resume, rfl, named, current, executed⟩, ?_⟩
      rw [execute_insertNonce executed.1 nonceDigest executed.2] at inserted
      cases inserted
      cases same
      cases run.store.tables.nonceLog.find nonceDigest <;> rfl
  · rintro ⟨⟨index, enclaveId, resume, rfl, named, current, reachable, received⟩, rfl⟩
    refine ⟨index, enclaveId, rfl, named, by rw [current]; rfl, ?_⟩
    have follows := (lawful.issuing current).2
      (run.store.execute (body jsonb (.insertNonce nonceDigest enclaveId))).1
    simp only [Run.step, current, machine_exec, Function.update_self]
    rw [execute_insertNonce reachable nonceDigest received] at follows ⊢
    generalize resume _ = rest at follows ⊢
    cases rest with
    | value result =>
      obtain ⟨rows, rfl, inserted⟩ := follows _ named
      cases inserted
      cases run.store.tables.nonceLog.find nonceDigest <;> rfl
    | failure error => exact absurd rfl (follows _ named nonceDigest enclaveId _)
    | issue stmt resume => exact absurd follows.1 (not_issues_after named stmt)

/-- A registration that answers `true` has put the nonce into the log at that time. -/
theorem Answers.seenSince
    (lawful : Run.Lawful (fun index => Issues (calls index)) (fun index => Concludes (calls index))
      run) (registered : Answers jsonb calls nonceDigest ttlSeconds true run move) :
    SeenSince nonceDigest run.store.now (run.step (machine jsonb) move) := by
  obtain ⟨⟨index, enclaveId, resume, rfl, named, current, reachable, received⟩, new⟩ :=
    (answers_iff lawful true).mp registered
  have absent : run.store.tables.nonceLog.find nonceDigest = none :=
    Option.isNone_iff_eq_none.mp new.symm
  refine ⟨⟨nonceDigest, enclaveId, run.store.now⟩, ?_, rfl⟩
  simp only [Run.step, current, machine_exec, Server.execute, reachable, body,
    receive_of_received received, Tables.insertNonce, Table.insert?, absent, ↓reduceDIte]
  rw [Table.find_insert]
  exact if_pos rfl

end Answering

/-- In every schedule each call keeps its rule. -/
theorem lawful_calls (jsonb : Jsonb) (server : Server Tables) (calls : Nat → Call)
    (moves : List (Move ServerDrift)) :
    Run.Lawful (fun index => Issues (calls index)) (fun index => Concludes (calls index))
      ((launch server calls).play (machine jsonb) moves) :=
  Run.lawful_play (machine jsonb) server _ (fun index => (calls index).follows) moves

/-- While the window is open, DELETEs with the window's own lifetime spare the entry. -/
theorem spares_of_uniform {calls : Nat → Call} {run : AttestationRun} {nonceDigest : Bytes}
    {ttlSeconds : Int64}
    (lawful : Run.Lawful (fun index => Issues (calls index)) (fun index => Concludes (calls index))
      run)
    (uniform : ∀ index registration, (calls index).registration = some registration →
      registration.ttlSeconds = ttlSeconds)
    (uninvalidated : ∀ index, (calls index).invalidates nonceDigest = false)
    (since : Int) (move : Move ServerDrift) :
    SparesWithin nonceDigest since ((max ttlSeconds 0).toInt * second) run move := by
  intro _ opened index stmt resume moved current reachable
  have issued := (lawful.issuing current).1
  constructor
  · rintro rfl
    exact Bool.noConfusion ((uninvalidated index).symm.trans issued.2)
  · rintro ttl rfl
    obtain ⟨-, registration, named, rfl⟩ := issued
    rw [uniform index registration named]
    omega

/-- Among any calls over any initial log, where all registrations use one lifetime and no
call invalidates the nonce, two registrations that both answer `true` insert the nonce
more than the lifetime apart, however the statements interleave.

Proof: from the first INSERT on, the entry is in the log for as long as the window is
open. A DELETE in that time has a cutoff one lifetime back, which is not after the
entry; nobody deletes the nonce by name; and a conflicting INSERT leaves the entry as
it is. So the second INSERT, which met no entry, came after the window. -/
theorem registrations_apart (server : Server Tables) (calls : Nat → Call) (nonceDigest : Bytes)
    (ttlSeconds : Int64)
    (uniform : ∀ index registration, (calls index).registration = some registration →
      registration.ttlSeconds = ttlSeconds)
    (uninvalidated : ∀ index, (calls index).invalidates nonceDigest = false)
    (first middle : List (Move ServerDrift)) (move next : Move ServerDrift)
    (registered : Answers jsonb calls nonceDigest ttlSeconds true
      ((launch server calls).play (machine jsonb) first) move)
    (again : Answers jsonb calls nonceDigest ttlSeconds true
      ((launch server calls).play (machine jsonb) (first ++ move :: middle)) next) :
    ((launch server calls).play (machine jsonb) first).store.now + (max ttlSeconds 0).toInt * second <
      ((launch server calls).play (machine jsonb) (first ++ move :: middle)).store.now := by
  have lawful := lawful_calls jsonb server calls
  have entered := registered.seenSince (lawful first)
  obtain ⟨-, new⟩ := (answers_iff (lawful _) true).mp again
  rw [Run.play_append, Run.play_cons] at new ⊢
  by_contra early
  generalize ((launch server calls).play (machine jsonb) first).store.now = since at *
  have spared := (Along.unconditional _ middle).derive
    (Run.Lawful (fun index => Issues (calls index)) (fun index => Concludes (calls index)))
    ((lawful first).step (machine jsonb) move) (fun _ move kept _ => kept.step (machine jsonb) move)
    (fun _ move kept _ => spares_of_uniform kept uniform uninvalidated since move)
  obtain ⟨row, found, -⟩ := remembered_play entered spared (Int.not_lt.mp early)
  rw [found] at new
  cases new

/-- Every call registers one nonce for a second. -/
def sameRegistration : Nat → Call := fun _ => .register ⟨[1], "enclave", 1⟩

/-- A second registration succeeds when a second and a microsecond have passed. -/
theorem registrations_apart_sameRegistration :
    Answers .ok sameRegistration [1] 1 true
        ((launch ⟨0, none, ⟨.empty, .empty⟩⟩ sameRegistration).play (machine .ok)
          [.call 0, .call 0, .drift (.tick 1000001), .call 1]) (.call 1) ∧
      ((launch ⟨0, none, ⟨.empty, .empty⟩⟩ sameRegistration).play (machine .ok) [.call 0]).store.now +
          (max (1 : Int64) 0).toInt * second <
        ((launch ⟨0, none, ⟨.empty, .empty⟩⟩ sameRegistration).play (machine .ok)
          [.call 0, .call 0, .drift (.tick 1000001), .call 1]).store.now := by
  have again : Answers .ok sameRegistration [1] 1 true
      ((launch ⟨0, none, ⟨.empty, .empty⟩⟩ sameRegistration).play (machine .ok)
        [.call 0, .call 0, .drift (.tick 1000001), .call 1]) (.call 1) :=
    ⟨1, "enclave", rfl, rfl, by decide +kernel, by decide +kernel⟩
  refine ⟨again, ?_⟩
  apply registrations_apart _ sameRegistration [1] 1 ?_ (fun _ => rfl) [.call 0] _ (.call 0) (.call 1)
    ⟨0, "enclave", rfl, rfl, by decide +kernel, by decide +kernel⟩ again
  rintro index registration ⟨⟩
  rfl

/-- A registration that is about to prune, other than one of this nonce with this
lifetime, has a lifetime that reaches back to the nonce's entry while the entry is
within its window. -/
def Considerate (calls : Nat → Call) (nonceDigest : Bytes) (ttlSeconds : Int64)
    (run : AttestationRun) : Move ServerDrift → Prop
  | .drift _ => True
  | .call index => ∀ registration ∈ (calls index).registration,
      (exchanges index run.log).isEmpty = true → run.store.outage = none →
      ¬ (registration.nonceDigest = nonceDigest ∧ registration.ttlSeconds = ttlSeconds) →
      ∀ row ∈ run.store.tables.nonceLog.find nonceDigest,
        run.store.now ≤ row.seenAt + ttlSeconds.toInt * second →
        run.store.now - (max registration.ttlSeconds 0).toInt * second ≤ row.seenAt

/-- Whether a step is considerate can be computed from the run before it. -/
instance (calls : Nat → Call) (nonceDigest : Bytes) (ttlSeconds : Int64) (run : AttestationRun)
    (move : Move ServerDrift) : Decidable (Considerate calls nonceDigest ttlSeconds run move) :=
  match move with
  | .drift _ => .isTrue trivial
  | .call index => inferInstanceAs (Decidable (∀ registration ∈ (calls index).registration,
      (exchanges index run.log).isEmpty = true → run.store.outage = none →
      ¬ (registration.nonceDigest = nonceDigest ∧ registration.ttlSeconds = ttlSeconds) →
      ∀ row ∈ run.store.tables.nonceLog.find nonceDigest,
        run.store.now ≤ row.seenAt + ttlSeconds.toInt * second →
        run.store.now - (max registration.ttlSeconds 0).toInt * second ≤ row.seenAt))

/-- After a registration of a nonce with a lifetime has answered `true`, every later one
with that lifetime whose INSERT is executed before the lifetime has passed answers
`false`. -/
def Shielded (jsonb : Jsonb) (calls : Nat → Call) (nonceDigest : Bytes) (ttlSeconds : Int64)
    (run : AttestationRun) (moves : List (Move ServerDrift)) : Prop :=
  ∀ first move middle next last, moves = first ++ move :: (middle ++ next :: last) →
    Answers jsonb calls nonceDigest ttlSeconds true (run.play (machine jsonb) first) move →
    Inserts calls nonceDigest ttlSeconds (run.play (machine jsonb) (first ++ move :: middle)) next →
    (run.play (machine jsonb) (first ++ move :: middle)).store.now ≤
      (run.play (machine jsonb) first).store.now + ttlSeconds.toInt * second →
    Answers jsonb calls nonceDigest ttlSeconds false
      (run.play (machine jsonb) (first ++ move :: middle)) next

/-- The clamp keeps a lifetime that is not negative. -/
theorem clamp_of_nonneg {ttlSeconds : Int64} (nonnegative : 0 ≤ ttlSeconds) :
    max ttlSeconds 0 = ttlSeconds := by
  change (if ttlSeconds ≤ 0 then 0 else ttlSeconds) = ttlSeconds
  split
  next nonpositive => exact Int64.le_antisymm nonnegative nonpositive
  next => rfl

/-- A considerate move of registrations spares the entry while its window is open. -/
theorem Considerate.spares {registrations : Nat → Registration} {run : AttestationRun}
    {nonceDigest : Bytes} {ttlSeconds : Int64} {move : Move ServerDrift}
    (considerate : Considerate (fun index => .register (registrations index)) nonceDigest
      ttlSeconds run move)
    (lawful : Run.Lawful (fun index => Issues (.register (registrations index)))
      (fun index => Concludes (.register (registrations index))) run)
    (nonnegative : 0 ≤ ttlSeconds) (since : Int) :
    SparesWithin nonceDigest since (ttlSeconds.toInt * second) run move := by
  rintro ⟨row, found, rfl⟩ opened index stmt resume rfl current reachable
  have issued := (lawful.issuing current).1
  constructor
  · rintro rfl
    cases issued.1
  · rintro ttl rfl
    obtain ⟨unstarted, registration, named, rfl⟩ := issued
    by_cases own : registration.nonceDigest = nonceDigest ∧ registration.ttlSeconds = ttlSeconds
    · rw [own.2, clamp_of_nonneg nonnegative]
      omega
    · exact considerate registration named (by rw [unstarted]; rfl) reachable own row found opened

/-- In every schedule of registrations over any initial log, a nonce registered with a
non-negative lifetime is shielded for that lifetime when every other registration is
considerate.

Proof: while the window is open, a DELETE of the nonce's own lifetime has its cutoff at
or before the entry, and every other DELETE does by assumption. The entry is still there
when the later INSERT meets the log, so that INSERT affects no row. -/
theorem shielded_of_considerate (server : Server Tables) (registrations : Nat → Registration)
    (nonceDigest : Bytes) (ttlSeconds : Int64) (nonnegative : 0 ≤ ttlSeconds)
    (moves : List (Move ServerDrift))
    (along : Along (Run.step (machine jsonb))
      (Considerate (fun index => .register (registrations index)) nonceDigest ttlSeconds)
      (launch server (fun index => .register (registrations index))) moves) :
    Shielded jsonb (fun index => .register (registrations index)) nonceDigest ttlSeconds
      (launch server (fun index => .register (registrations index))) moves := by
  have lawful := lawful_calls jsonb server (fun index => .register (registrations index))
  generalize launch server (fun index => .register (registrations index)) = run at *
  rintro first move middle next last rfl registered inserts opened
  have entered := registered.seenSince (lawful first)
  refine (answers_iff (lawful _) false).mpr ⟨inserts, ?_⟩
  rw [Run.play_append, Run.play_cons] at opened ⊢
  generalize (run.play (machine jsonb) first).store.now = since at *
  have after := ((Along.append_iff run first _).mp along).2.2
  have between := ((Along.append_iff _ middle _).mp after).1
  have spared := between.derive
    (Run.Lawful (fun index => Issues (.register (registrations index)))
      (fun index => Concludes (.register (registrations index))))
    ((lawful first).step (machine jsonb) move) (fun _ move kept _ => kept.step (machine jsonb) move)
    (fun _ _ kept considerate => considerate.spares kept nonnegative since)
  obtain ⟨row, found, -⟩ := remembered_play entered spared opened
  rw [found]
  rfl

/-- A nonce is registered for a minute, then another nonce with the given lifetime, then
the first again. -/
def interleavedRegistrations (ttlSeconds : Int64) : Nat → Registration
  | 0 => ⟨[1], "enclave", 60⟩
  | 1 => ⟨[2], "other", ttlSeconds⟩
  | _ => ⟨[1], "enclave", 60⟩

/-- The registrations one after another, a microsecond passing after the first. -/
def interleavedSchedule : List (Move ServerDrift) :=
  [.call 0, .call 0, .drift (.tick 1), .call 1, .call 1, .call 2, .call 2]

/-- With a lifetime of its own minute, the other registration leaves the nonce shielded. -/
theorem shielded_interleaved :
    Shielded .ok (fun index => .register (interleavedRegistrations 60 index)) [1] 60
      (launch ⟨0, none, ⟨.empty, .empty⟩⟩
        (fun index => .register (interleavedRegistrations 60 index))) interleavedSchedule :=
  shielded_of_considerate _ _ _ _ (by decide) _ (by decide +kernel)

/-- With a lifetime of zero, the other registration removes the nonce, and the replayed
nonce is taken for new within its minute. -/
theorem not_shielded_interleaved :
    ¬ Shielded .ok (fun index => .register (interleavedRegistrations 0 index)) [1] 60
      (launch ⟨0, none, ⟨.empty, .empty⟩⟩
        (fun index => .register (interleavedRegistrations 0 index))) interleavedSchedule := by
  intro shielded
  obtain ⟨index, enclaveId, moved, -, -, returned⟩ := shielded [.call 0] (.call 0)
    [.drift (.tick 1), .call 1, .call 1, .call 2] (.call 2) [] rfl
    ⟨0, "enclave", rfl, rfl, by decide +kernel, by decide +kernel⟩
    ⟨2, "enclave", _, rfl, rfl, rfl, rfl, by decide⟩ (by decide +kernel)
  cases moved
  revert returned
  decide +kernel

end SecureDatabase.Attestation
