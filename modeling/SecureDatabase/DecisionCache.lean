import SecureDatabase.Foundation.Histories
import SecureDatabase.AttestationLog

/-!
# Which decision is cached

The cache holds one decision for each quote. A call that caches a decision first deletes what has
expired, of every quote, and then writes its own. An invalidation deletes by the quote. None of
this is one transaction, and calls of all kinds are under way at once.

Still the cache is what its history says. The decision found for a quote is the one written last,
and it is there until it is overwritten, invalidated, or expired when some caching call deletes.
An invalidation ends what was written before its DELETE, and nothing else: a decision whose
caching call had begun before and writes after it stays. It is found as its columns keep it, in
the server's form of JSON and with its expiry cut to the microsecond.
-/

namespace SecureDatabase.Attestation

open Foundation Program

section Statements

variable (jsonb : Jsonb) (quoteHash : Bytes)

/-- The decision of the quote that an event wrote, as it is kept. -/
def written (event : Event (Server Tables) Reply) : Option DecisionRow :=
  match event.toExchange with
  | ⟨.upsertDecision row, .ok _⟩ =>
      if row.quoteHash = quoteHash then
        (jsonb row.decision).toOption.map fun decision => { row with decision }
      else none
  | _ => none

/-- The event deleted a decision, if it was there. -/
def dropped (event : Event (Server Tables) Reply) (row : DecisionRow) : Bool :=
  match event.toExchange with
  | ⟨.deleteDecision deleted, .ok _⟩ => row.quoteHash = deleted
  | ⟨.pruneDecisions, .ok _⟩ => row.expiresAt < event.before.now
  | _ => false

/-- The decision of a quote. -/
def cached (server : Server Tables) : Option DecisionRow := server.tables.cache.find quoteHash

/-- After an upsert its quote finds the new decision, and every other finds what it
found. -/
theorem find_upsertDecision (row : DecisionRow) (tables : Tables) :
    (tables.upsertDecision row).cache.find quoteHash =
      if row.quoteHash = quoteHash then some row else tables.cache.find quoteHash := by
  unfold Tables.upsertDecision
  split
  case h_1 cache inserted =>
    obtain ⟨absent, rfl⟩ := (Table.insert?_eq_some_iff _ _ _).mp inserted
    exact Table.find_insert _ _ absent quoteHash
  case h_2 conflict =>
    have present : tables.cache.find row.quoteHash ≠ none := by
      intro absent
      rw [Table.insert?, dif_pos absent] at conflict
      cases conflict
    obtain ⟨old, found⟩ := Option.ne_none_iff_exists'.mp present
    have named := Table.key_of_find found
    rw [Table.find_updateWhere]
    by_cases same : row.quoteHash = quoteHash
    · subst same
      rw [found, Option.map_some, if_pos rfl, if_pos (decide_eq_true named), named]
    · rw [if_neg same]
      cases kept : tables.cache.find quoteHash with
      | none => rfl
      | some other =>
        have differs : ¬ decide (other.quoteHash = row.quoteHash) = true := by
          rw [decide_eq_true_iff, Table.key_of_find kept]
          exact fun equal => same equal.symm
        rw [Option.map_some, if_neg differs]

/-- A statement that failed leaves every decision. -/
theorem leaves_of_error (stmt : Statement) (error : String) (index : Nat) (server : Server Tables)
    (row : DecisionRow) :
    Run.Leaves (written jsonb quoteHash) dropped row
      ⟨⟨stmt, .error error⟩, index, server⟩ := by
  cases stmt <;> exact ⟨rfl, rfl⟩

/-- What a statement that succeeded makes of the decision. -/
theorem find_of_ok (stmt : Statement) (result : Answer stmt) (index : Nat)
    {server : Server Tables} {tables : Tables}
    (executed : body jsonb stmt server.now server.tables = .ok (result, tables)) :
    tables.cache.find quoteHash = Run.remember (written jsonb quoteHash) dropped
      ⟨⟨stmt, .ok result⟩, index, server⟩ (server.tables.cache.find quoteHash) := by
  cases stmt with
  | upsertDecision row =>
    obtain ⟨decision, form, rfl⟩ := upsertDecision_eq_ok executed
    rw [find_upsertDecision]
    by_cases same : row.quoteHash = quoteHash
    · simp [Run.remember, written, same, form, Except.toOption]
    · rw [if_neg same, Run.remember_of_leaves]
      exact fun _ => ⟨if_neg same, rfl⟩
  | deleteDecision deleted =>
    cases executed
    exact Table.find_deleteWhere server.tables.cache _ quoteHash
  | pruneDecisions =>
    cases executed
    exact Table.find_deleteWhere server.tables.cache _ quoteHash
  | pruneNonces ttl =>
    simp only [body, Tables.pruneNonces] at executed
    split at executed
    · cases executed
    · split at executed
      · cases executed
      · cases executed
        exact (Run.remember_of_leaves (fun _ => ⟨rfl, rfl⟩) _).symm
  | insertNonce nonceDigest enclaveId =>
    obtain ⟨-, inserted⟩ := (receive_eq_ok_iff _ _ _).mp executed
    simp only [Tables.insertNonce] at inserted
    split at inserted
    · cases inserted
      exact (Run.remember_of_leaves (fun _ => ⟨rfl, rfl⟩) _).symm
    · cases inserted
      exact (Run.remember_of_leaves (fun _ => ⟨rfl, rfl⟩) _).symm
  | deleteNonce nonceDigest =>
    cases executed
    exact (Run.remember_of_leaves (fun _ => ⟨rfl, rfl⟩) _).symm

/-- Statements change the decision of a quote as their events say. -/
theorem cached_folds :
    Run.Folds (cached quoteHash) (Run.remember (written jsonb quoteHash) dropped)
      (fun _ => True) (fun _ => True) (machine jsonb) := by
  refine ⟨fun _ _ _ _ _ => trivial, fun _ _ _ => trivial, ?_, ?_⟩
  · intro index stmt server _ _
    rw [Run.event, machine_exec]
    obtain ⟨error, failed⟩ | ⟨result, tables, -, executed, replied⟩ :=
      server.execute_cases (body jsonb stmt)
    · rw [failed]
      exact (Run.remember_of_leaves (leaves_of_error jsonb quoteHash stmt error index
        server) _).symm
    · rw [replied]
      exact find_of_ok jsonb quoteHash stmt result index executed
  · intro act server
    rw [cached, cached]
    exact congrArg (fun tables : Tables => tables.cache.find quoteHash)
      (Server.drift_tables act server)

end Statements

section Rules

/-- What a call may do to the cache: a caching call deletes what has expired and writes its own
decision, an invalidation deletes the decision of its quote. -/
def CacheRule (call : Call) : Statement → Prop
  | .upsertDecision row => ∃ expiresAt,
      call = .cache row.quoteHash row.tee expiresAt row.decision ∧
        row.expiresAt = expiresAt.timestamptz
  | .pruneDecisions => ∃ quoteHash tee expiresAt decision,
      call = .cache quoteHash tee expiresAt decision
  | .deleteDecision deleted => ∃ quoteHashHex nonceDigestHex,
      call = .invalidate quoteHashHex nonceDigestHex ∧
        hexDecode (trim quoteHashHex) = some deleted
  | _ => True

/-- What a call that succeeds has done to the cache. -/
def CacheDone (call : Call) (past : List (Exchange Reply)) : DbResult Returned → Prop
  | .error _ => True
  | .ok _ =>
      match call with
      | .register _ => True
      | .cache quoteHash tee expiresAt decision =>
          ⟨.upsertDecision ⟨quoteHash, tee, decision, expiresAt.timestamptz⟩, .ok ()⟩ ∈ past
      | .invalidate quoteHashHex _ => ∃ quoteHash, hexDecode (trim quoteHashHex) = some quoteHash ∧
          ⟨.deleteDecision quoteHash, .ok ()⟩ ∈ past

/-- An invalidation deletes the decision first, and the rest does nothing to the cache. -/
theorem invalidateAttestationArtifacts_follows {quoteHashHex : String}
    {nonceDigestHex : Option String} {invalidation : Operation Unit}
    (same : invalidation = invalidateAttestationArtifacts quoteHashHex nonceDigestHex) :
    invalidation.Follows (fun _ => CacheRule (.invalidate quoteHashHex nonceDigestHex))
      (fun past result => ∀ done, result = .ok done →
        ∃ quoteHash, hexDecode (trim quoteHashHex) = some quoteHash ∧
          ⟨.deleteDecision quoteHash, .ok ()⟩ ∈ past) [] := by
  unfold invalidateAttestationArtifacts at same
  rw [same]
  cases read : hexDecode (trim quoteHashHex) with
  | none =>
    rintro _ ⟨⟩
  | some quoteHash =>
    rw [okOr, ofExcept_ok, value_bind]
    refine ⟨⟨quoteHashHex, nonceDigestHex, rfl, read⟩, ?_⟩
    rintro (message | ⟨⟩)
    · rintro _ ⟨⟩
    · have deleted (past : List (Exchange Reply))
          (member : (⟨.deleteDecision quoteHash, .ok ()⟩ : Exchange Reply) ∈ past)
          (result : DbResult Unit) (done : Unit) (_ : result = .ok done) :
          ∃ known, some quoteHash = some known ∧
            (⟨.deleteDecision known, .ok ()⟩ : Exchange Reply) ∈ past :=
        ⟨quoteHash, rfl, member⟩
      cases nonceDigestHex with
      | none => exact deleted _ List.mem_cons_self _
      | some nonceHex =>
        dsimp only
        by_cases empty : (trim nonceHex).isEmpty = true
        · rw [if_pos empty]
          exact deleted _ List.mem_cons_self _
        · rw [if_neg empty]
          cases hexDecode (trim nonceHex) with
          | none =>
            rintro _ ⟨⟩
          | some nonceBytes =>
            rw [okOr, ofExcept_ok, value_bind]
            refine ⟨trivial, ?_⟩
            rintro (message | ⟨⟩)
            · rintro _ ⟨⟩
            · exact deleted _ (List.mem_cons_of_mem _ List.mem_cons_self) _

/-- A call makes only the statements of its kind, and has made its own when it
succeeds. -/
theorem Call.follows_cacheRule (call : Call) :
    call.program.Follows (fun _ => CacheRule call) (CacheDone call) [] := by
  cases call with
  | register registration =>
    refine ⟨trivial, ?_⟩
    rintro (message | ⟨⟩)
    · trivial
    · refine ⟨trivial, ?_⟩
      rintro (message | rows)
      · trivial
      · trivial
  | cache quoteHash tee expiresAt decision =>
    refine ⟨⟨quoteHash, tee, expiresAt, decision, rfl⟩, ?_⟩
    rintro (message | ⟨⟩)
    · trivial
    · refine ⟨⟨expiresAt, rfl, rfl⟩, ?_⟩
      rintro (message | ⟨⟩)
      · trivial
      · exact List.mem_cons_self
  | invalidate quoteHashHex nonceDigestHex =>
    rw [program]
    generalize made : invalidateAttestationArtifacts quoteHashHex nonceDigestHex = invalidation
    have follows := invalidateAttestationArtifacts_follows made.symm
    refine Follows.bind (fun later _ => ∃ quoteHash,
      hexDecode (trim quoteHashHex) = some quoteHash ∧
        ⟨.deleteDecision quoteHash, .ok ()⟩ ∈ later) (follows.weaken ?_) ?_
    · intro later result reached
      cases result with
      | error error => trivial
      | ok done => exact reached done rfl
    · exact fun _ _ deleted => deleted

end Rules

section History

variable (jsonb : Jsonb) (calls : Nat → Call)

/-- A caching call wrote its decision, which is kept as this row. -/
def Caches (row : DecisionRow) (event : Event (Server Tables) Reply) : Prop :=
  ∃ expiresAt decision, calls event.call = .cache row.quoteHash row.tee expiresAt decision ∧
    row.expiresAt = expiresAt.timestamptz ∧ jsonb decision = .ok row.decision ∧
    event.toExchange = ⟨.upsertDecision { row with decision }, .ok ()⟩

/-- An invalidation deleted the decision of a quote. -/
def Invalidates (quoteHash : Bytes) (event : Event (Server Tables) Reply) : Prop :=
  (∃ quoteHashHex nonceDigestHex, calls event.call = .invalidate quoteHashHex nonceDigestHex ∧
    hexDecode (trim quoteHashHex) = some quoteHash) ∧
    event.toExchange = ⟨.deleteDecision quoteHash, .ok ()⟩

/-- The decision had expired when a caching call deleted what has. -/
def Expires (row : DecisionRow) (event : Event (Server Tables) Reply) : Prop :=
  (∃ quoteHash tee expiresAt decision, calls event.call = .cache quoteHash tee expiresAt decision) ∧
    event.toExchange = ⟨.pruneDecisions, .ok ()⟩ ∧ row.expiresAt < event.before.now

/-- The decision is overwritten, invalidated or expires. -/
def Ends (row : DecisionRow) (event : Event (Server Tables) Reply) : Prop :=
  (∃ other, other.quoteHash = row.quoteHash ∧ Caches jsonb calls other event) ∨
    Invalidates calls row.quoteHash event ∨ Expires calls row event

/-- What a call that succeeded leaves in the log. -/
def Recorded (log : List (Event (Server Tables) Reply)) (index : Nat) : Prop :=
  match calls index with
  | .register _ => True
  | .cache quoteHash tee expiresAt _ => ∃ event ∈ log, event.call = index ∧
      ∃ kept, Caches jsonb calls ⟨quoteHash, tee, kept, expiresAt.timestamptz⟩ event
  | .invalidate _ _ => ∃ event ∈ log, event.call = index ∧
      ∃ quoteHash, Invalidates calls quoteHash event

variable {jsonb calls}

/-- A decision was written by a caching call. -/
theorem written_eq_some_iff {quoteHash : Bytes} {row : DecisionRow}
    {event : Event (Server Tables) Reply} (allowed : CacheRule (calls event.call) event.stmt) :
    written jsonb quoteHash event = some row ↔
      row.quoteHash = quoteHash ∧ Caches jsonb calls row event := by
  obtain ⟨⟨stmt, reply⟩, call, before⟩ := event
  constructor
  · intro found
    cases stmt with
    | upsertDecision other =>
      cases reply with
      | error error => cases found
      | ok result =>
        simp only [written] at found
        split at found
        case isTrue same =>
          obtain ⟨expiresAt, asked, cut⟩ := allowed
          cases form : jsonb other.decision with
          | error refused =>
            rw [form] at found
            cases found
          | ok kept =>
            rw [form] at found
            cases found
            exact ⟨same, expiresAt, other.decision, asked, cut, form, rfl⟩
        case isFalse => cases found
    | pruneNonces ttl => cases found
    | insertNonce nonceDigest enclaveId => cases found
    | pruneDecisions => cases found
    | deleteDecision deleted => cases found
    | deleteNonce nonceDigest => cases found
  · rintro ⟨same, expiresAt, decision, -, -, form, exchange⟩
    cases exchange
    subst same
    simp [written, form, Except.toOption]

/-- What is deleted, is deleted by an invalidation of its quote or because it has expired. -/
theorem dropped_iff {row : DecisionRow} {event : Event (Server Tables) Reply}
    (allowed : CacheRule (calls event.call) event.stmt) :
    dropped event row = true ↔ Invalidates calls row.quoteHash event ∨ Expires calls row event := by
  obtain ⟨⟨stmt, reply⟩, call, before⟩ := event
  constructor
  · intro found
    cases stmt with
    | deleteDecision deleted =>
      cases reply with
      | error error => cases found
      | ok result =>
        obtain rfl : row.quoteHash = deleted := of_decide_eq_true found
        exact .inl ⟨allowed, rfl⟩
    | pruneDecisions =>
      cases reply with
      | error error => cases found
      | ok result => exact .inr ⟨allowed, rfl, of_decide_eq_true found⟩
    | pruneNonces ttl => cases found
    | insertNonce nonceDigest enclaveId => cases found
    | upsertDecision other => cases found
    | deleteNonce nonceDigest => cases found
  · rintro (⟨-, exchange⟩ | ⟨-, exchange, expired⟩)
    · cases exchange
      exact decide_eq_true rfl
    · cases exchange
      exact decide_eq_true expired

/-- An event leaves a decision if it does not end it. -/
theorem leaves_iff {row : DecisionRow} {event : Event (Server Tables) Reply}
    (allowed : CacheRule (calls event.call) event.stmt) :
    Run.Leaves (written jsonb row.quoteHash) dropped row event ↔ ¬ Ends jsonb calls row event := by
  have unwritten : written jsonb row.quoteHash event = none ↔
      ¬ ∃ other, other.quoteHash = row.quoteHash ∧ Caches jsonb calls other event := by
    rw [← not_iff_not, not_not, ← ne_eq, Option.ne_none_iff_exists']
    exact exists_congr fun other => written_eq_some_iff allowed
  rw [Run.Leaves, unwritten, ← Bool.not_eq_true, dropped_iff allowed, Ends, ← not_or]

/-- A write that the server answered without an error was kept in some form. -/
theorem form_of_stored {server : Server Tables} {row : DecisionRow}
    (stored : (server.execute (body jsonb (.upsertDecision row))).1 = .ok ()) :
    ∃ kept, jsonb row.decision = .ok kept := by
  obtain ⟨error, failed⟩ | ⟨result, tables, -, computed, -⟩ :=
    server.execute_cases (body jsonb (.upsertDecision row))
  · rw [failed] at stored
    cases stored
  · obtain ⟨kept, form, -⟩ := upsertDecision_eq_ok computed
    exact ⟨kept, form⟩

variable (jsonb) (server : Server Tables) (moves : List (Move ServerDrift))

/-- In every schedule of caching calls, invalidations and registrations: the decision found for a
quote is the one that was written last, or the first one, as long as it was not overwritten,
invalidated or deleted as expired since. A call that succeeded is among those that count.

Proof: each statement does to the decision of one quote what its event says, so the decision found
is the fold of the log, and such a fold finds the last write that nothing ended. The rules of the
calls turn the events into writes, invalidations and expiries by calls. -/
theorem cached_decision_history :
    (∀ quoteHash row,
      cached quoteHash ((launch server calls).play (machine jsonb) moves).store = some row ↔
        row.quoteHash = quoteHash ∧
        ((∃ later writing earlier,
            ((launch server calls).play (machine jsonb) moves).log = later ++ writing :: earlier ∧
            Caches jsonb calls row writing ∧ ∀ event ∈ later, ¬ Ends jsonb calls row event) ∨
          (cached quoteHash server = some row ∧
            ∀ event ∈ ((launch server calls).play (machine jsonb) moves).log,
              ¬ Ends jsonb calls row event))) ∧
    ∀ index returned,
      (((launch server calls).play (machine jsonb) moves).calls index).outcome =
          some (.ok returned) →
        Recorded jsonb calls ((launch server calls).play (machine jsonb) moves).log index := by
  have lawful : Run.Lawful (fun index _ => CacheRule (calls index))
      (fun index => CacheDone (calls index)) ((launch server calls).play (machine jsonb) moves) :=
    Run.lawful_play (machine jsonb) server _ (fun index => (calls index).follows_cacheRule) moves
  have allowed : ∀ event ∈ ((launch server calls).play (machine jsonb) moves).log,
      CacheRule (calls event.call) event.stmt := by
    intro event member
    obtain ⟨later, earlier, split⟩ := List.append_of_mem member
    exact lawful.executed later event earlier split
  refine ⟨?_, ?_⟩
  · intro quoteHash row
    have folded : cached quoteHash ((launch server calls).play (machine jsonb) moves).store =
        ((launch server calls).play (machine jsonb) moves).log.foldr
          (Run.remember (written jsonb quoteHash) dropped) (cached quoteHash server) :=
      Run.view_play (cached_folds jsonb quoteHash) trivial _ moves fun _ _ => trivial
    rw [folded, Run.foldr_remember_eq_some_iff]
    constructor
    · rintro (⟨later, writing, earlier, split, wrote, kept⟩ | ⟨first, kept⟩)
      · have member : writing ∈ ((launch server calls).play (machine jsonb) moves).log := by
          simp [split]
        obtain ⟨rfl, caches⟩ := (written_eq_some_iff (allowed writing member)).mp wrote
        refine ⟨rfl, .inl ⟨later, writing, earlier, split, caches, fun event newer => ?_⟩⟩
        exact (leaves_iff (allowed event (by simp [split, newer]))).mp (kept event newer)
      · obtain rfl : row.quoteHash = quoteHash := Table.key_of_find first
        exact ⟨rfl, .inr ⟨first, fun event member =>
          (leaves_iff (allowed event member)).mp (kept event member)⟩⟩
    · rintro ⟨rfl, ⟨later, writing, earlier, split, caches, kept⟩ | ⟨first, kept⟩⟩
      · have member : writing ∈ ((launch server calls).play (machine jsonb) moves).log := by
          simp [split]
        refine .inl ⟨later, writing, earlier, split,
          (written_eq_some_iff (allowed writing member)).mpr ⟨rfl, caches⟩, fun event newer => ?_⟩
        exact (leaves_iff (allowed event (by simp [split, newer]))).mpr (kept event newer)
      · exact .inr ⟨first, fun event member =>
          (leaves_iff (allowed event member)).mpr (kept event member)⟩
  · intro index returned finished
    have answered := Run.answered_play (machine jsonb) server
      (fun index => (calls index).program) moves
    have done := lawful.remaining index
    rw [(outcome_eq_ok_iff _ _).mp finished] at done
    unfold Recorded
    unfold Program.Follows CacheDone at done
    cases made : calls index with
    | register registration => trivial
    | cache quoteHash tee expiresAt decision =>
      rw [made] at done
      obtain ⟨event, member, own, exchange⟩ := mem_exchanges.mp done
      have replied := answered event member
      rw [exchange] at replied
      simp only [machine_exec, Exchange.mk.injEq, heq_eq_eq, true_and] at replied
      obtain ⟨kept, form⟩ := form_of_stored replied.symm
      exact ⟨event, member, own, kept, expiresAt, decision, by rw [own, made], rfl, form, exchange⟩
    | invalidate quoteHashHex nonceDigestHex =>
      rw [made] at done
      obtain ⟨quoteHash, read, deleted⟩ := done
      obtain ⟨event, member, own, exchange⟩ := mem_exchanges.mp deleted
      exact ⟨event, member, own, quoteHash, ⟨quoteHashHex, nonceDigestHex, by rw [own, made], read⟩,
        exchange⟩

/-- A caching call and an invalidation of its quote. -/
def overtaken : Nat → Call
  | 0 => .cache [1] "tdx" (.ofTimestamptz 3600) .null
  | _ => .invalidate "01" none

/-- An invalidation that comes between the two statements of a caching call is overtaken. -/
example : (cached [1] ((launch ⟨0, none, ⟨Table.empty, Table.empty⟩⟩ overtaken).play (machine .ok)
    [.call 0, .call 1, .call 0]).store).isSome = true := by
  decide +kernel

end History

end SecureDatabase.Attestation
