import SecureDatabase.TorCalls

/-!
# Submitted credentials and stored credentials

Creating a credential and importing the bootstrap credential both assemble the credential they
return from their arguments. Creation stores exactly that row under a fresh identifier. An import
under an identifier that is taken updates the listed columns only: the operational onion, the
rotation time and the creation time of the stored row stay, while the returned credential has
none, none and the time of the import.

Entry onions are unique as texts. Creation and import trim the submitted text; `set_entry_onion`
stores it as it is given, so the stored texts are trimmed as long as its arguments are.
-/

namespace SecureDatabase.TorAuth

open Foundation Program

variable {σ : Type}

namespace World

/-- The credential table. -/
def credentials (world : World σ) : Table TorCredential.id := world.server.tables.credentials

end World

namespace TorTables

/-- The SET clause of an import's conflict. -/
def overwrite (row : TorCredential) (now : Int) (old : TorCredential) : TorCredential :=
  { old with
    onionEntry := row.onionEntry
    tier := row.tier
    credentialHash := row.credentialHash
    guardNodes := row.guardNodes
    rateLimitPerMinute := row.rateLimitPerMinute
    expiresAt := row.expiresAt
    updatedAt := now
    disabled := false }

/-- An import that overwrites a credential keeps its identifier. -/
@[simp] theorem overwrite_id (row : TorCredential) (now : Int) (old : TorCredential) :
    (overwrite row now old).id = old.id := rfl

/-- A created credential has a fresh identifier and a free entry onion. -/
theorem insertCredential_eq_ok {row : TorCredential} {tables after : TorTables} {result : Unit}
    (done : tables.insertCredential row = .ok (result, after)) :
    tables.entryTaken row.id row.onionEntry = false ∧
      ∃ absent : tables.credentials.find row.id = none,
        after.credentials = tables.credentials.insert row absent := by
  unfold insertCredential at done
  split at done
  · cases done
  · rename_i credentials inserted
    split at done
    · cases done
    · rename_i free
      obtain ⟨absent, content⟩ := (Table.insert?_eq_some_iff _ _ _).mp inserted
      cases done
      exact ⟨by simpa using free, absent, content⟩

/-- An imported credential has a free entry onion. It is stored under a fresh identifier, or
overwrites the columns of the row it finds. -/
theorem upsertCredential_eq_ok {row : TorCredential} {now : Int} {tables after : TorTables}
    {result : Unit} (done : tables.upsertCredential row now = .ok (result, after)) :
    tables.entryTaken row.id row.onionEntry = false ∧
      ((∃ absent : tables.credentials.find row.id = none,
          after.credentials = tables.credentials.insert row absent) ∨
        (tables.credentials.find row.id).isSome = true ∧
          after.credentials = tables.credentials.updateWhere (fun old => old.id = row.id)
            (overwrite row now) (overwrite_id row now)) := by
  unfold upsertCredential at done
  split at done
  · cases done
  · rename_i free
    refine ⟨by simpa using free, ?_⟩
    split at done
    · rename_i credentials inserted
      obtain ⟨absent, content⟩ := (Table.insert?_eq_some_iff _ _ _).mp inserted
      cases done
      exact .inl ⟨absent, content⟩
    · rename_i taken
      cases done
      refine .inr ⟨?_, rfl⟩
      rw [← Option.not_isSome_iff_eq_none] at taken
      rw [Option.isSome_iff_ne_none]
      intro absent
      exact taken (by simp [Table.insert?, absent])

/-- What is found after a creation. -/
theorem find_insertCredential {row : TorCredential} {tables after : TorTables} {result : Unit}
    (done : tables.insertCredential row = .ok (result, after)) (wanted : Uuid) :
    after.credentials.find wanted =
      if row.id = wanted then some row else tables.credentials.find wanted := by
  obtain ⟨-, absent, content⟩ := insertCredential_eq_ok done
  rw [content, Table.find_insert]

/-- What is found after an import. -/
theorem find_upsertCredential {row : TorCredential} {now : Int} {tables after : TorTables}
    {result : Unit} (done : tables.upsertCredential row now = .ok (result, after))
    (wanted : Uuid) :
    after.credentials.find wanted =
      if row.id = wanted then
        some (((tables.credentials.find row.id).map (overwrite row now)).getD row)
      else tables.credentials.find wanted := by
  obtain ⟨-, ⟨absent, content⟩ | ⟨present, content⟩⟩ := upsertCredential_eq_ok done
  · rw [content, Table.find_insert, absent]
    rfl
  · obtain ⟨stored, found⟩ := Option.isSome_iff_exists.mp present
    rw [content, Table.find_updateWhere]
    by_cases same : row.id = wanted
    · subst wanted
      simp [found, Table.key_of_find found]
    · rw [if_neg same]
      cases other : tables.credentials.find wanted with
      | none => rfl
      | some kept =>
        have differs : ¬ kept.id = row.id :=
          fun equal => same (equal.symm.trans (Table.key_of_find other))
        simp [differs]

end TorTables

/-- Two credentials agree in every column except the update time. -/
def SameButUpdated (stored credential : TorCredential) : Prop :=
  { stored with updatedAt := credential.updatedAt } = credential

/-- What a call that submits a credential returns is what is stored. A fetch right after it finds
the returned credential up to the update time and every other credential is as before; a call
that fails has changed no credential. -/
structure ReturnsStored (externals : Externals σ) (submission : Operation TorCredential)
    (world : World σ) : Prop where
  fetched : ∀ credential, (submission.run (exec externals) world).1 = .ok credential →
    ∃ stored, ((fetchTorCredentialById credential.id).run (exec externals)
        (submission.run (exec externals) world).2).1 = .ok (some stored) ∧
      SameButUpdated stored credential
  others : ∀ credential, (submission.run (exec externals) world).1 = .ok credential →
    ∀ id, id ≠ credential.id →
      (submission.run (exec externals) world).2.credentials.find id = world.credentials.find id
  failed : ∀ error, (submission.run (exec externals) world).1 = .error error →
    (submission.run (exec externals) world).2.credentials = world.credentials

section Submissions

variable (externals : Externals σ) (world : World σ)

/-- How a submission ends: with the credential and its statement done, or with an error and the
tables as they were. Only the outside has moved besides. -/
inductive Submitted (parameters : List Parameter)
    (body : Int → TorTables → Except String (Unit × TorTables)) (credential : TorCredential) :
    DbResult TorCredential × World σ → Prop where
  | refused (error : DatabaseError) (outside : σ)
      (undone : world.server.outage = none → Received parameters →
        ∀ tables, body world.now world.server.tables ≠ .ok ((), tables)) :
      Submitted parameters body credential (.error error, { world with outside })
  | stored (tables : TorTables) (outside : σ) (reachable : world.server.outage = none)
      (received : Received parameters)
      (done : body world.now world.server.tables = .ok ((), tables)) :
      Submitted parameters body credential
        (.ok credential, ⟨⟨world.now, none, tables⟩, outside⟩)

/-- The last statement of a submission and the return of its credential. -/
theorem submitted_run (outside : σ) (parameters : List Parameter)
    (body : Int → TorTables → Except String (Unit × TorTables)) (credential : TorCredential) :
    Submitted world parameters body credential
      ((queried ({ world with outside : World σ }.sql parameters body).1 >>=
        fun _ => pure credential).run (exec externals)
          ({ world with outside : World σ }.sql parameters body).2) := by
  cases reachable : world.server.outage with
  | some error =>
    simp only [World.sql, Server.execute, reachable]
    refine .refused (.query error) outside ?_
    intro none
    rw [reachable] at none
    cases none
  | none =>
    cases computed : receive parameters (body world.now world.server.tables) with
    | error error =>
      have failed : receive parameters (body world.server.now world.server.tables) =
          .error error := computed
      simp only [World.sql, Server.execute, reachable, failed]
      refine .refused (.query error) outside ?_
      intro _ received tables done
      rw [receive_of_received received, done] at computed
      cases computed
    | ok answer =>
      have executed : receive parameters (body world.server.now world.server.tables) =
          .ok answer := computed
      obtain ⟨received, done⟩ := (receive_eq_ok_iff _ _ _).mp computed
      simp only [World.sql, Server.execute, reachable, executed]
      exact .stored answer.2 outside reachable received done

variable (credentialId : Uuid) (entryOnion credentialHash tier : String)
  (rateLimitPerMinute : Int32) (expiresAt : Option Int) (guardNodes : List String)

/-- A creation inserts the credential it returns. -/
theorem createTorCredential_submitted :
    ∃ id now, Submitted world
      (newCredential id now entryOnion credentialHash tier rateLimitPerMinute expiresAt
        guardNodes).parameters
      (fun _ tables => tables.insertCredential (newCredential id now entryOnion credentialHash tier
        rateLimitPerMinute expiresAt guardNodes))
      (newCredential id now entryOnion credentialHash tier rateLimitPerMinute expiresAt guardNodes)
      ((createTorCredential entryOnion credentialHash tier rateLimitPerMinute expiresAt
        guardNodes).run (exec externals) world) :=
  ⟨_, _, submitted_run externals world _ _ _ _⟩

/-- An import upserts the credential it returns. -/
theorem importBootstrapTorCredential_submitted :
    Submitted world
      (newCredential credentialId (externals.utcNow world.outside).1 entryOnion credentialHash tier
        rateLimitPerMinute expiresAt guardNodes).parameters
      (fun now tables => tables.upsertCredential (newCredential credentialId
        (externals.utcNow world.outside).1 entryOnion credentialHash tier rateLimitPerMinute
        expiresAt guardNodes) now)
      (newCredential credentialId (externals.utcNow world.outside).1 entryOnion credentialHash tier
        rateLimitPerMinute expiresAt guardNodes)
      ((importBootstrapTorCredential credentialId entryOnion credentialHash tier
        rateLimitPerMinute expiresAt guardNodes).run (exec externals) world) :=
  submitted_run externals world _ _ _ _

/-- A fetch on a reachable server returns the stored row. -/
theorem fetchTorCredentialById_run (reachable : world.server.outage = none) (id : Uuid) :
    ((fetchTorCredentialById id).run (exec externals) world).1 =
      .ok (world.credentials.find id) := by
  simp only [fetchTorCredentialById, ask_bind, run_issue, exec, World.sql, Server.execute,
    reachable]
  rfl

variable {externals world}

/-- A submission returns what is stored exactly when, if its statement is done, the row it leaves
is the returned credential up to the update time. -/
theorem Submitted.returnsStored_iff {parameters : List Parameter}
    {body : Int → TorTables → Except String (Unit × TorTables)} {credential kept : TorCredential}
    {submission : Operation TorCredential}
    (submitted : Submitted world parameters body credential
      (submission.run (exec externals) world))
    (find_after : ∀ tables, body world.now world.server.tables = .ok ((), tables) →
      ∀ wanted, tables.credentials.find wanted =
        if credential.id = wanted then some kept else world.credentials.find wanted) :
    ReturnsStored externals submission world ↔
      ∀ tables, world.server.outage = none → Received parameters →
        body world.now world.server.tables = .ok ((), tables) → SameButUpdated kept credential := by
  generalize ended : submission.run (exec externals) world = ending at submitted
  cases submitted with
  | refused error outside undone =>
    refine iff_of_true ⟨?_, ?_, ?_⟩ fun tables reachable received done =>
      absurd done (undone reachable received tables)
    · intro returned same
      rw [ended] at same
      cases same
    · intro returned same
      rw [ended] at same
      cases same
    · intro _ _
      rw [ended]
      rfl
  | stored tables outside reachable received done =>
    have found := find_after tables done
    have fetch : ((fetchTorCredentialById credential.id).run (exec externals)
        ⟨⟨world.now, none, tables⟩, outside⟩).1 = .ok (some kept) := by
      rw [fetchTorCredentialById_run externals _ rfl, World.credentials, found, if_pos rfl]
    constructor
    · intro stores after _ _ _
      obtain ⟨stored, fetched, same⟩ := stores.fetched credential (by rw [ended])
      rw [ended, fetch] at fetched
      cases fetched
      exact same
    · intro same
      refine ⟨?_, ?_, ?_⟩
      · intro returned is
        rw [ended] at is
        cases is
        refine ⟨kept, ?_, same tables reachable received done⟩
        rw [ended, fetch]
      · intro returned is id differs
        rw [ended] at is
        cases is
        rw [ended]
        exact (found id).trans (if_neg (Ne.symm differs))
      · intro error is
        rw [ended] at is
        cases is

/-- A creation returns what it stores. -/
theorem createTorCredential_returnsStored :
    ReturnsStored externals (createTorCredential entryOnion credentialHash tier rateLimitPerMinute
      expiresAt guardNodes) world := by
  obtain ⟨id, now, submitted⟩ := createTorCredential_submitted externals world entryOnion
    credentialHash tier rateLimitPerMinute expiresAt guardNodes
  rw [submitted.returnsStored_iff (fun tables done => TorTables.find_insertCredential done)]
  exact fun _ _ _ _ => rfl

/-- An import finds nothing that it does not overwrite: there is no credential under its
identifier, or one without an operational onion that was never rotated and was created at the
time of the import. An import that fails, for one of the parameters it sends or otherwise,
overwrites nothing. -/
def ImportsAfresh (externals : Externals σ) (world : World σ) (credentialId : Uuid)
    (entryOnion : String) (sent : List Parameter) : Prop :=
  world.server.outage = none → Received sent →
    world.server.tables.entryTaken credentialId (trim entryOnion) = false →
      ∀ stored, world.credentials.find credentialId = some stored →
        stored.operationalOnion = none ∧ stored.lastRotatedAt = none ∧
          stored.createdAt = (externals.utcNow world.outside).1

/-- What an import leaves agrees with what it returns exactly when the columns it does not list
already agree. -/
theorem sameButUpdated_overwrite_iff {credential stored : TorCredential} {now : Int}
    (named : stored.id = credential.id) (enabled : credential.disabled = false) :
    SameButUpdated (TorTables.overwrite credential now stored) credential ↔
      stored.operationalOnion = credential.operationalOnion ∧
        stored.lastRotatedAt = credential.lastRotatedAt ∧
          stored.createdAt = credential.createdAt := by
  obtain ⟨id, onionEntry, tier, credentialHash, operationalOnion, guardNodes, createdAt, updatedAt,
    expiresAt, disabled, rateLimitPerMinute, lastRotatedAt⟩ := credential
  simp only at named enabled
  simp only [SameButUpdated, TorTables.overwrite, named, enabled, TorCredential.mk.injEq, true_and]
  tauto

/-- The import's statement is done exactly when no other credential has the entry onion. -/
theorem TorTables.upsertCredential_done_iff (row : TorCredential) (now : Int) (tables : TorTables) :
    (∃ after, tables.upsertCredential row now = .ok ((), after)) ↔
      tables.entryTaken row.id row.onionEntry = false := by
  unfold TorTables.upsertCredential
  constructor
  · rintro ⟨after, done⟩
    split at done
    · cases done
    · rename_i free
      simpa using free
  · intro free
    rw [free]
    simp only [Bool.false_eq_true, ↓reduceIte]
    split
    · exact ⟨_, rfl⟩
    · exact ⟨_, rfl⟩

/-- What an upsert leaves agrees with the submitted row exactly when the columns of a row found
under its identifier that it does not list agree. -/
theorem sameButUpdated_upserted_iff (tables : TorTables) (now : Int) {credential : TorCredential}
    (enabled : credential.disabled = false) :
    SameButUpdated (((tables.credentials.find credential.id).map
        (TorTables.overwrite credential now)).getD credential) credential ↔
      ∀ stored, tables.credentials.find credential.id = some stored →
        stored.operationalOnion = credential.operationalOnion ∧
          stored.lastRotatedAt = credential.lastRotatedAt ∧
            stored.createdAt = credential.createdAt := by
  cases found : tables.credentials.find credential.id with
  | none => exact iff_of_true rfl (fun _ absent => nomatch absent)
  | some stored =>
    rw [Option.map_some, Option.getD_some,
      sameButUpdated_overwrite_iff (Table.key_of_find found) enabled]
    constructor
    · rintro agrees _ ⟨⟩
      exact agrees
    · exact fun agrees => agrees stored rfl

/-- An import returns what is stored exactly when it imports afresh. -/
theorem importBootstrapTorCredential_returnsStored_iff :
    ReturnsStored externals (importBootstrapTorCredential credentialId entryOnion credentialHash
        tier rateLimitPerMinute expiresAt guardNodes) world ↔
      ImportsAfresh externals world credentialId entryOnion
        (newCredential credentialId (externals.utcNow world.outside).1 entryOnion credentialHash
          tier rateLimitPerMinute expiresAt guardNodes).parameters := by
  rw [(importBootstrapTorCredential_submitted externals world credentialId entryOnion credentialHash
    tier rateLimitPerMinute expiresAt guardNodes).returnsStored_iff
    (fun tables done => TorTables.find_upsertCredential done)]
  constructor
  · intro same reachable received free
    obtain ⟨after, done⟩ := (TorTables.upsertCredential_done_iff (newCredential credentialId
      (externals.utcNow world.outside).1 entryOnion credentialHash tier rateLimitPerMinute expiresAt
      guardNodes) world.now world.server.tables).mpr free
    exact (sameButUpdated_upserted_iff world.server.tables world.now rfl).mp
      (same after reachable received done)
  · intro afresh after reachable received done
    apply (sameButUpdated_upserted_iff world.server.tables world.now rfl).mpr
    exact afresh reachable received ((TorTables.upsertCredential_done_iff _ _ _).mp ⟨after, done⟩)

/-- In every world a creation returns what it stores, and an import does so exactly when it
imports afresh.

Proof: the answer of a submission is built from the values that were bound, so it is what is
stored up to the update time exactly when the statement stored these values. An INSERT does;
an upsert keeps three columns of the old row, if there is one. -/
theorem submissions_returnStored :
    ReturnsStored externals (createTorCredential entryOnion credentialHash tier rateLimitPerMinute
        expiresAt guardNodes) world ∧
      (ReturnsStored externals (importBootstrapTorCredential credentialId entryOnion credentialHash
          tier rateLimitPerMinute expiresAt guardNodes) world ↔
        ImportsAfresh externals world credentialId entryOnion
          (newCredential credentialId (externals.utcNow world.outside).1 entryOnion credentialHash
            tier rateLimitPerMinute expiresAt guardNodes).parameters) :=
  ⟨createTorCredential_returnsStored entryOnion credentialHash tier rateLimitPerMinute expiresAt
      guardNodes,
    importBootstrapTorCredential_returnsStored_iff credentialId entryOnion credentialHash tier
      rateLimitPerMinute expiresAt guardNodes⟩

end Submissions

/-- The import of a bootstrap credential under the all-zero identifier. -/
def bootstrap : Operation TorCredential :=
  importBootstrapTorCredential .nil "entry" "hash" "tier" 30 none []

/-- A migrated database after the bootstrap import and one rotation of the credential. -/
def rotatedWorld : World Unit :=
  ((bootstrap >>= fun _ => rotateOperationalOnion .nil "onion" []).run
    (exec (fixedExternals zeroLease zeroNonce)) (World.migrated 0 ())).2

/-- A second import returns a credential without an operational onion; the stored one has it. -/
theorem reimport_forgets_operational_onion :
    ¬ ReturnsStored (fixedExternals zeroLease zeroNonce) bootstrap rotatedWorld := by
  intro stores
  obtain ⟨stored, fetched, same⟩ := stores.fetched
    (newCredential .nil 0 "entry" "hash" "tier" 30 none []) (by decide +kernel)
  have onion : (fun result : DbResult (Option TorCredential) => result.toOption.bind
      (fun found => found.bind TorCredential.operationalOnion)) (.ok (some stored)) =
        some "onion" := by
    rw [← fetched]
    decide +kernel
  rw [SameButUpdated] at same
  have absent : stored.operationalOnion = none := congrArg TorCredential.operationalOnion same
  have present : stored.operationalOnion = some "onion" := onion
  rw [absent] at present
  cases present

end SecureDatabase.TorAuth
