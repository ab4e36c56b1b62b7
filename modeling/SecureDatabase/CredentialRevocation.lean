import SecureDatabase.EntryOnions
import SecureDatabase.Foundation.Histories

/-!
# Deleted credentials stay revoked

Sessions and tickets refer to credentials, and go with the credential that they refer to.
`TablesChange` says once what a statement can do to the three tables together. From it, in
every schedule every stored session and ticket has its credential, and attested tickets have
attestation sessions of their own.

Deleting a credential is therefore final until somebody stores one under its identifier
again: no session or ticket of it is left, and none is stored any more, not even by a call
that had sealed its values before the deletion.
-/

namespace SecureDatabase.TorAuth

open Foundation Program

variable {σ : Type}

/-- The identifier under which a statement with its reply shows a credential to be stored. -/
def credentialStored : Exchange Reply → Option Uuid
  | ⟨.insertCredential row, Except.ok _⟩ => some row.id
  | ⟨.upsertCredential row, Except.ok _⟩ => some row.id
  | _ => none

/-- The columns of a ticket that refer to others. -/
structure SameReferences (old new : TicketRow) : Prop where
  id : new.id = old.id
  credentialId : new.credentialId = old.credentialId
  attestationSessionId : new.attestationSessionId = old.attestationSessionId

/-- What one statement can do to the three tables, given the identifier under which it shows a
credential to be stored. -/
inductive TablesChange (now : Int) (tables : TorTables) : Option Uuid → TorTables → Prop where
  | kept (new : Option Uuid) : TablesChange now tables new tables
  | credentials (new : Option Uuid) (after : Credentials)
      (same : ∀ id, new ≠ some id →
        (after.find id).isSome = (tables.credentials.find id).isSome)
      (kept : ∀ id, (tables.credentials.find id).isSome = true → (after.find id).isSome = true) :
      TablesChange now tables new { tables with credentials := after }
  | revoked (id : Uuid) (count : Nat) (after : TorTables)
      (deleted : tables.deleteCredential id = .ok (count, after)) :
      TablesChange now tables none after
  | session (columns : SessionRecord Int) (sessionKey : Uuid)
      (absent : tables.sessions.find columns.id = none)
      (credential : (tables.credentials.find columns.credentialId).isSome = true) :
      TablesChange now tables none { tables with
        sessions := tables.sessions.insert { columns with sessionKey, issuedAt := now } absent }
  | ticket (columns : TicketRecord Int)
      (absent : tables.tickets.find (TorTables.ticketRow columns now).id = none)
      (free : tables.attestationSessionTaken columns.attestationSessionId = false)
      (credential : (tables.credentials.find columns.credentialId).isSome = true) :
      TablesChange now tables none { tables with
        tickets := tables.tickets.insert (TorTables.ticketRow columns now) absent }
  | updated (id : Uuid) (change : TicketRow → TicketRow) (keeps : ∀ row, (change row).id = row.id)
      (same : ∀ row, SameReferences row (change row)) :
      TablesChange now tables none { tables with
        tickets := tables.tickets.updateWhere (fun row => row.id = id) change keeps }
  | collected (condition : TicketRow → Bool) :
      TablesChange now tables none { tables with
        tickets := tables.tickets.deleteWhere condition }

namespace TorTables

variable {tables after : TorTables} {now : Int}

/-- Storing a session takes a stored credential and a fresh identifier. -/
theorem insertSession_done {columns : SessionRecord Int} {sessionKey : Uuid} {result : Unit}
    (done : tables.insertSession columns sessionKey now = .ok (result, after)) :
    (tables.credentials.find columns.credentialId).isSome = true ∧
      ∃ absent : tables.sessions.find columns.id = none, after = { tables with
        sessions := tables.sessions.insert { columns with sessionKey, issuedAt := now } absent } := by
  unfold insertSession at done
  split at done
  · cases done
  · rename_i sessions inserted
    split at done
    · rename_i credential
      obtain ⟨absent, rfl⟩ := (Table.insert?_eq_some_iff _ _ _).mp inserted
      cases done
      exact ⟨credential, absent, rfl⟩
    · cases done

/-- Storing a ticket takes a stored credential, a free attestation session and a fresh
identifier. -/
theorem insertTicket_done {columns : TicketRecord Int} {result : TicketRow}
    (done : tables.insertTicket columns now = .ok (result, after)) :
    (tables.credentials.find columns.credentialId).isSome = true ∧
      tables.attestationSessionTaken columns.attestationSessionId = false ∧
      ∃ absent : tables.tickets.find (ticketRow columns now).id = none, after = { tables with
        tickets := tables.tickets.insert (ticketRow columns now) absent } := by
  unfold insertTicket at done
  split at done
  · cases done
  · rename_i tickets inserted
    split at done
    · cases done
    · rename_i free
      split at done
      · rename_i credential
        obtain ⟨absent, rfl⟩ := (Table.insert?_eq_some_iff _ _ _).mp inserted
        cases done
        exact ⟨credential, by simpa using free, absent, rfl⟩
      · cases done

/-- A credential that is updated in place stays under its identifier. -/
theorem updateCredential_change (new : Option Uuid) (id : Uuid)
    (change : TorCredential → TorCredential) (keeps : ∀ row, (change row).id = row.id) :
    TablesChange now tables new (tables.updateCredential id change keeps) := by
  have found (wanted : Uuid) :
      ((tables.credentials.updateWhere (fun row => row.id = id) change keeps).find wanted).isSome =
        (tables.credentials.find wanted).isSome := by
    rw [Table.find_updateWhere, Option.isSome_map]
  refine .credentials new _ (fun wanted _ => found wanted) ?_
  intro wanted present
  rw [found]
  exact present

/-- A credential that is stored is found, and the others as before. -/
theorem insert_change (row : TorCredential) (absent : tables.credentials.find row.id = none) :
    TablesChange now tables (some row.id)
      { tables with credentials := tables.credentials.insert row absent } := by
  refine .credentials _ _ ?_ ?_
  · intro id other
    rw [Table.find_insert, if_neg (fun same => other (congrArg some same))]
  · intro id present
    rw [Table.find_insert]
    split
    · rfl
    · exact present

/-- A statement that changed the credentials alone. -/
theorem change_of_rest {new : Option Uuid}
    (rest : after.sessions = tables.sessions ∧ after.tickets = tables.tickets)
    (changed : TablesChange now tables new { tables with credentials := after.credentials }) :
    TablesChange now tables new after := by
  obtain ⟨credentials, sessions, tickets⟩ := after
  obtain ⟨rfl, rfl⟩ := rest
  exact changed

end TorTables

/-- A statement that failed kept the tables; one that is done left those of its body. -/
theorem World.sql_change {Result : Type} {parameters : List Parameter}
    (body : Int → TorTables → Except String (Result × TorTables)) (world : World σ)
    (new : Except String Result → Option Uuid)
    (changes : ∀ result after, body world.now world.server.tables = .ok (result, after) →
      TablesChange world.now world.server.tables (new (.ok result)) after) :
    TablesChange world.now world.server.tables (new (world.sql parameters body).1)
      (world.sql parameters body).2.server.tables := by
  obtain ⟨error, failed⟩ | ⟨result, tables, -, -, computed, executed⟩ :=
    world.sql_cases parameters body
  · rw [failed]
    exact .kept _
  · rw [executed]
    exact changes result tables computed

/-- A statement that only looks something up keeps the tables. -/
theorem World.lookup_change {Result : Type} {parameters : List Parameter}
    (lookup : TorTables → Result) (world : World σ) :
    TablesChange world.now world.server.tables none
      (world.sql parameters (fun _ tables => .ok (lookup tables, tables))).2.server.tables := by
  refine world.sql_change _ (fun _ => none) (fun result after done => ?_)
  cases done
  exact .kept none

/-- Every statement changes the tables in one of these ways. -/
theorem exec_tablesChange (externals : Externals σ) (stmt : Statement) (world : World σ) :
    TablesChange world.now world.server.tables
      (credentialStored ⟨stmt, (exec externals stmt world).1⟩)
      (exec externals stmt world).2.server.tables := by
  cases stmt with
  | mintAeadKeyV2 params => exact .kept none
  | unwrapSecretV2 params => exact .kept none
  | renewLease handle seconds => exact .kept none
  | fillNonce => exact .kept none
  | newUuid => exact .kept none
  | utcNow => exact .kept none
  | selectCredential id => exact world.lookup_change _
  | selectCredentialByEntry onionEntry => exact world.lookup_change _
  | selectSession id => exact world.lookup_change _
  | selectTicket id => exact world.lookup_change _
  | insertCredential row =>
    refine world.sql_change _ (fun reply => credentialStored ⟨.insertCredential row, reply⟩)
      (fun result after done => ?_)
    obtain ⟨-, absent, content⟩ := TorTables.insertCredential_eq_ok done
    apply TorTables.change_of_rest (TorTables.insertCredential_rest done)
    rw [content]
    exact TorTables.insert_change row absent
  | upsertCredential row =>
    refine world.sql_change _ (fun reply => credentialStored ⟨.upsertCredential row, reply⟩)
      (fun result after done => ?_)
    apply TorTables.change_of_rest (TorTables.upsertCredential_rest done)
    obtain ⟨-, ⟨absent, content⟩ | ⟨-, content⟩⟩ := TorTables.upsertCredential_eq_ok done
    · rw [content]
      exact TorTables.insert_change row absent
    · rw [content]
      exact TorTables.updateCredential_change _ row.id _ (TorTables.overwrite_id row world.now)
  | rotateOperationalOnion id newOnion guardNodes =>
    refine world.sql_change _ (fun _ => none) (fun result after done => ?_)
    cases done
    exact TorTables.updateCredential_change none id _ _
  | setEntryOnion id entryOnion guardNodes =>
    refine world.sql_change _ (fun _ => none) (fun result after done => ?_)
    apply TorTables.change_of_rest (TorTables.setEntryOnion_rest done)
    rw [(TorTables.setEntryOnion_eq_ok done).1]
    exact TorTables.updateCredential_change none id _ (TorTables.rename_id _ _ _)
  | updateDisabled id disabled =>
    refine world.sql_change _ (fun _ => none) (fun result after done => ?_)
    cases done
    exact TorTables.updateCredential_change none id _ _
  | deleteCredential id =>
    exact world.sql_change _ (fun _ => none) (fun result after done => .revoked id _ after done)
  | insertSession columns sessionKey =>
    refine world.sql_change _ (fun _ => none) (fun result after done => ?_)
    obtain ⟨credential, absent, rfl⟩ := TorTables.insertSession_done done
    exact .session columns sessionKey absent credential
  | insertTicket columns =>
    refine world.sql_change _ (fun _ => none) (fun result after done => ?_)
    obtain ⟨credential, free, absent, rfl⟩ := TorTables.insertTicket_done done
    exact .ticket columns absent free credential
  | updateRedeemed id onion =>
    refine world.sql_change _ (fun _ => none) (fun result after done => ?_)
    cases done
    exact .updated id _ _ (fun _ => ⟨rfl, rfl, rfl⟩)
  | updateExpired id =>
    refine world.sql_change _ (fun _ => none) (fun result after done => ?_)
    cases done
    exact .updated id _ _ (fun _ => ⟨rfl, rfl, rfl⟩)
  | deleteExpired retentionDays =>
    refine world.sql_change _ (fun _ => none) (fun result after done => ?_)
    rw [TorTables.deleteExpired_eq_ok done]
    exact .collected _

/-- Every session and ticket has its credential, and no attestation session but the all-zero
one has two tickets. -/
structure Referenced (tables : TorTables) : Prop where
  sessions : ∀ row ∈ tables.sessions.rows, (tables.credentials.find row.credentialId).isSome = true
  tickets : ∀ row ∈ tables.tickets.rows, (tables.credentials.find row.credentialId).isSome = true
  attested : ∀ left ∈ tables.tickets.rows, ∀ right ∈ tables.tickets.rows,
    left.attestationSessionId ≠ Uuid.nil →
      left.attestationSessionId = right.attestationSessionId → left.id = right.id

/-- A ticket with a free attestation session shares it with no other. -/
theorem unshared_of_free {tables : TorTables} {session : Uuid}
    (free : tables.attestationSessionTaken session = false) (real : session ≠ Uuid.nil)
    {row : TicketRow} (stored : row ∈ tables.tickets.rows) : row.attestationSessionId ≠ session := by
  intro same
  unfold TorTables.attestationSessionTaken at free
  simp only [real, ne_eq, not_false_eq_true, decide_true, Bool.true_and, List.any_eq_false,
    decide_eq_true_eq] at free
  exact free row stored same

/-- What a credential's deletion leaves: the rows of the other credentials. -/
theorem TorTables.deleteCredential_eq_ok {tables after : TorTables} {id : Uuid} {count : Nat}
    (deleted : tables.deleteCredential id = .ok (count, after)) :
    after.credentials.find id = none ∧
      (∀ other, other ≠ id → after.credentials.find other = tables.credentials.find other) ∧
      (∀ row ∈ after.sessions.rows, row ∈ tables.sessions.rows ∧
        (row.credentialId = id → tables.credentials.find id = none)) ∧
      ∀ row ∈ after.tickets.rows, row ∈ tables.tickets.rows ∧
        (row.credentialId = id → tables.credentials.find id = none) := by
  cases deleted
  refine ⟨?_, ?_, ?_, ?_⟩
  · rw [Table.find_deleteWhere]
    cases found : tables.credentials.find id with
    | none => rfl
    | some row => simp [Table.key_of_find found]
  · intro other differs
    rw [Table.find_deleteWhere]
    cases found : tables.credentials.find other with
    | none => rfl
    | some row => simp [Table.key_of_find found, differs]
  · intro row stored
    obtain ⟨present, unselected⟩ := (Table.mem_deleteWhere _ _ _).mp stored
    exact ⟨present, fun same => by simpa [same] using unselected⟩
  · intro row stored
    obtain ⟨present, unselected⟩ := (Table.mem_deleteWhere _ _ _).mp stored
    exact ⟨present, fun same => by simpa [same] using unselected⟩

namespace TablesChange

variable {now : Int} {tables after : TorTables} {new : Option Uuid}

/-- A statement keeps every reference. -/
theorem referenced (changed : TablesChange now tables new after) (references : Referenced tables) :
    Referenced after := by
  cases changed with
  | kept => exact references
  | credentials _ credentials same kept =>
    exact ⟨fun row stored => kept _ (references.sessions row stored),
      fun row stored => kept _ (references.tickets row stored), references.attested⟩
  | revoked id count _ deleted =>
    obtain ⟨-, others, sessions, tickets⟩ := TorTables.deleteCredential_eq_ok deleted
    -- a row that stays refers to another credential, since the deleted one was there
    have refers {credentialId : Uuid}
        (present : (tables.credentials.find credentialId).isSome = true)
        (missing : credentialId = id → tables.credentials.find id = none) :
        (after.credentials.find credentialId).isSome = true := by
      rw [others credentialId ?_]
      · exact present
      · rintro rfl
        rw [missing rfl] at present
        cases present
    refine ⟨?_, ?_, ?_⟩
    · intro row stored
      exact refers (references.sessions row (sessions row stored).1) (sessions row stored).2
    · intro row stored
      exact refers (references.tickets row (tickets row stored).1) (tickets row stored).2
    · intro left leftStored right rightStored
      exact references.attested left (tickets left leftStored).1 right (tickets right rightStored).1
  | session columns sessionKey absent credential =>
    refine ⟨?_, references.tickets, references.attested⟩
    intro row stored
    obtain present | rfl := (Table.mem_insert _ _ _ absent).mp stored
    · exact references.sessions row present
    · exact credential
  | ticket columns absent free credential =>
    refine ⟨references.sessions, ?_, ?_⟩
    · intro row stored
      obtain present | rfl := (Table.mem_insert _ _ _ absent).mp stored
      · exact references.tickets row present
      · exact credential
    · intro left leftStored right rightStored real same
      obtain leftPresent | rfl := (Table.mem_insert _ _ _ absent).mp leftStored
      · obtain rightPresent | rfl := (Table.mem_insert _ _ _ absent).mp rightStored
        · exact references.attested left leftPresent right rightPresent real same
        · exact absurd same (unshared_of_free free (by rwa [same] at real) leftPresent)
      · obtain rightPresent | rfl := (Table.mem_insert _ _ _ absent).mp rightStored
        · exact absurd same.symm (unshared_of_free free real rightPresent)
        · rfl
  | updated id change keeps same =>
    -- an updated ticket refers to what it referred to before
    have origin (row : TicketRow)
        (stored : row ∈ (tables.tickets.updateWhere (fun row => row.id = id) change keeps).rows) :
        ∃ old ∈ tables.tickets.rows, SameReferences old row := by
      obtain ⟨old, present, -, rfl⟩ | ⟨present, -⟩ := (Table.mem_updateWhere _ _ _ _ _).mp stored
      · exact ⟨old, present, same old⟩
      · exact ⟨row, present, rfl, rfl, rfl⟩
    refine ⟨references.sessions, ?_, ?_⟩
    · intro row stored
      obtain ⟨old, present, refers⟩ := origin row stored
      rw [refers.credentialId]
      exact references.tickets old present
    · intro left leftStored right rightStored real shared
      obtain ⟨oldLeft, leftPresent, leftRefers⟩ := origin left leftStored
      obtain ⟨oldRight, rightPresent, rightRefers⟩ := origin right rightStored
      rw [leftRefers.attestationSessionId] at real shared
      rw [rightRefers.attestationSessionId] at shared
      rw [leftRefers.id, rightRefers.id]
      exact references.attested oldLeft leftPresent oldRight rightPresent real shared
  | collected condition =>
    refine ⟨references.sessions, ?_, ?_⟩
    · intro row stored
      exact references.tickets row ((Table.mem_deleteWhere _ _ _).mp stored).1
    · intro left leftStored right rightStored
      exact references.attested left ((Table.mem_deleteWhere _ _ _).mp leftStored).1 right
        ((Table.mem_deleteWhere _ _ _).mp rightStored).1

/-- A statement that stores no credential under an identifier finds none there where there was
none. -/
theorem absent (changed : TablesChange now tables new after) {id : Uuid}
    (missing : tables.credentials.find id = none) (other : new ≠ some id) :
    after.credentials.find id = none := by
  cases changed with
  | kept => exact missing
  | credentials _ credentials same kept =>
    have found := same id other
    rw [missing] at found
    simpa using found
  | revoked deletedId count _ deleted =>
    obtain ⟨gone, others, -⟩ := TorTables.deleteCredential_eq_ok deleted
    by_cases same : id = deletedId
    · rw [same]
      exact gone
    · rw [others id same]
      exact missing
  | session columns sessionKey absent credential => exact missing
  | ticket columns absent free credential => exact missing
  | updated id change keeps same => exact missing
  | collected condition => exact missing

end TablesChange

/-- No trace of a credential is stored. -/
structure Revoked (id : Uuid) (tables : TorTables) : Prop where
  credential : tables.credentials.find id = none
  sessions : ∀ row ∈ tables.sessions.rows, row.credentialId ≠ id
  tickets : ∀ row ∈ tables.tickets.rows, row.credentialId ≠ id

/-- Without the credential nothing refers to it. -/
theorem Referenced.revoked {tables : TorTables} (references : Referenced tables) {id : Uuid}
    (missing : tables.credentials.find id = none) : Revoked id tables := by
  have dangling {credentialId : Uuid}
      (present : (tables.credentials.find credentialId).isSome = true) : credentialId ≠ id := by
    rintro rfl
    rw [missing] at present
    cases present
  exact ⟨missing, fun row stored => dangling (references.sessions row stored),
    fun row stored => dangling (references.tickets row stored)⟩

/-- Whether a statement with its reply shows something of a credential: it found the credential
itself, or found or stored a session or ticket of it. -/
def Shows (id : Uuid) : Exchange Reply → Prop
  | ⟨.selectCredential _, Except.ok (some row)⟩ => row.id = id
  | ⟨.selectCredentialByEntry _, Except.ok (some row)⟩ => row.id = id
  | ⟨.selectSession _, Except.ok (some row)⟩ => row.credentialId = id
  | ⟨.insertSession columns _, Except.ok _⟩ => columns.credentialId = id
  | ⟨.selectTicket _, Except.ok (some row)⟩ => row.credentialId = id
  | ⟨.insertTicket columns, Except.ok _⟩ => columns.credentialId = id
  | _ => False

/-- A statement shows what its reply shows when it is done, and nothing when it fails. -/
theorem World.sql_silent {Result : Type} {parameters : List Parameter}
    (body : Int → TorTables → Except String (Result × TorTables)) (world : World σ)
    (shown : Except String Result → Prop) (failed : ∀ error, ¬ shown (.error error))
    (done : ∀ result after, body world.now world.server.tables = .ok (result, after) →
      ¬ shown (.ok result)) :
    ¬ shown (world.sql parameters body).1 := by
  obtain ⟨error, stopped⟩ | ⟨result, tables, -, -, computed, executed⟩ :=
    world.sql_cases parameters body
  · rw [stopped]
    exact failed error
  · rw [executed]
    exact done result tables computed

/-- Of a credential without trace no statement shows anything. -/
theorem Revoked.silent {id : Uuid} (externals : Externals σ) (stmt : Statement) {world : World σ}
    (revoked : Revoked id world.server.tables) :
    ¬ Shows id ⟨stmt, (exec externals stmt world).1⟩ := by
  cases stmt with
  | selectCredential wanted =>
    refine world.sql_silent _ (fun reply => Shows id ⟨.selectCredential wanted, reply⟩)
      (fun _ shown => shown) (fun result after done => ?_)
    cases done
    cases found : world.server.tables.credentials.find wanted with
    | none => exact fun shown => shown
    | some row =>
      rintro rfl
      exact (Table.find_eq_none_iff _ _).mp revoked.credential row (Table.mem_of_find found) rfl
  | selectCredentialByEntry onionEntry =>
    refine world.sql_silent _ (fun reply => Shows id ⟨.selectCredentialByEntry onionEntry, reply⟩)
      (fun _ shown => shown) (fun result after done => ?_)
    cases done
    cases found : world.server.tables.credentials.rows.find? (fun row => row.onionEntry = onionEntry)
      with
    | none => exact fun shown => shown
    | some row =>
      rintro rfl
      exact (Table.find_eq_none_iff _ _).mp revoked.credential row
        (List.mem_of_find?_eq_some found) rfl
  | selectSession wanted =>
    refine world.sql_silent _ (fun reply => Shows id ⟨.selectSession wanted, reply⟩)
      (fun _ shown => shown) (fun result after done => ?_)
    cases done
    cases found : world.server.tables.sessions.find wanted with
    | none => exact fun shown => shown
    | some row => exact revoked.sessions row (Table.mem_of_find found)
  | selectTicket wanted =>
    refine world.sql_silent _ (fun reply => Shows id ⟨.selectTicket wanted, reply⟩)
      (fun _ shown => shown) (fun result after done => ?_)
    cases done
    cases found : world.server.tables.tickets.find wanted with
    | none => exact fun shown => shown
    | some row => exact revoked.tickets row (Table.mem_of_find found)
  | insertSession columns sessionKey =>
    refine world.sql_silent _ (fun reply => Shows id ⟨.insertSession columns sessionKey, reply⟩)
      (fun _ shown => shown) (fun result after done => ?_)
    rintro rfl
    have credential := (TorTables.insertSession_done done).1
    rw [revoked.credential] at credential
    cases credential
  | insertTicket columns =>
    refine world.sql_silent _ (fun reply => Shows id ⟨.insertTicket columns, reply⟩)
      (fun _ shown => shown) (fun result after done => ?_)
    rintro rfl
    have credential := (TorTables.insertTicket_done done).1
    rw [revoked.credential] at credential
    cases credential
  | _ => exact fun shown => shown

/-- The identifier whose credential a statement with its reply shows to be gone. -/
def credentialDeleted : Exchange Reply → Option Uuid
  | ⟨.deleteCredential id, Except.ok _⟩ => some id
  | _ => none

/-- A deletion that is answered without an error leaves no credential under its identifier. -/
theorem exec_deleted (externals : Externals σ) {stmt : Statement} {world : World σ} {id : Uuid}
    (deleted : credentialDeleted ⟨stmt, (exec externals stmt world).1⟩ = some id) :
    (exec externals stmt world).2.server.tables.credentials.find id = none := by
  cases stmt with
  | deleteCredential wanted =>
    simp only [exec] at deleted ⊢
    obtain ⟨error, failed⟩ | ⟨count, tables, -, -, computed, executed⟩ :=
      world.sql_cases [] (fun _ tables => tables.deleteCredential wanted)
    · rw [failed] at deleted
      cases deleted
    · rw [executed] at deleted ⊢
      cases deleted
      exact (TorTables.deleteCredential_eq_ok computed).1
  | _ => cases deleted

/-- The credential for which a call stores a ticket or a session. -/
def Call.grants : Call → Option Uuid
  | .issueTorTicket ticket => some ticket.credentialId
  | .recordTorSession session => some session.credentialId
  | _ => none

section Runs

variable (externals : Externals σ) (aead : Aead tagLength)

/-- The surroundings leave the tables alone. -/
theorem drift_tables (act : Drift σ) (world : World σ) :
    ((machine externals).drift act world).server.tables = world.server.tables := by
  cases act with
  | server act => exact Server.drift_tables act world.server
  | outside next => rfl

/-- No statement leaves a session or a ticket without its credential, nor two of what may
be there once. -/
theorem exec_referenced (stmt : Statement) (world : World σ)
    (references : Referenced world.server.tables) :
    Referenced ((machine externals).exec stmt world).2.server.tables :=
  (exec_tablesChange externals stmt world).referenced references

/-- What happens by itself changes no row, so the references stay intact. -/
theorem drift_referenced (act : Drift σ) (world : World σ)
    (references : Referenced world.server.tables) :
    Referenced ((machine externals).drift act world).server.tables := by
  rw [drift_tables]
  exact references

/-- A deletion lasts until a credential is stored under the identifier again. -/
theorem deletion_lasts (id : Uuid) :
    Run.Lasts (machine externals) (fun exchange => credentialDeleted exchange = some id)
      (fun exchange => credentialStored exchange = some id)
      (fun world => Referenced world.server.tables)
      (fun world => Revoked id world.server.tables) where
  invariant_exec := exec_referenced externals
  invariant_drift := drift_referenced externals
  established stmt world references deleted :=
    (exec_referenced externals stmt world references).revoked (exec_deleted externals deleted)
  kept stmt world references revoked unrestored :=
    (exec_referenced externals stmt world references).revoked
      ((exec_tablesChange externals stmt world).absent revoked.credential unrestored)
  drifts act world revoked := by
    rw [drift_tables]
    exact revoked

/-- In a migrated database there is nothing whose references could be broken. -/
theorem referenced_empty : Referenced TorTables.empty :=
  ⟨fun _ member => absurd member List.not_mem_nil, fun _ member => absurd member List.not_mem_nil,
    fun _ member => absurd member List.not_mem_nil⟩

/-- In every schedule of calls over a migrated database, every stored session and ticket has its
credential, tickets with a real attestation session have it to themselves, and no two credentials
have one entry onion.

Proof: both properties hold of empty tables. A statement that would break a reference or store
a second credential under an entry onion is refused, a deletion takes along what refers to it,
and the environment moves the clock and the connection only. -/
theorem references_intact (now : Int) (outside : σ) (calls : Nat → Call)
    (moves : List (Move (Drift σ))) :
    Referenced ((launch aead (World.migrated now outside) calls).play (machine externals)
        moves).store.server.tables ∧
      DistinctEntries ((launch aead (World.migrated now outside) calls).play (machine externals)
        moves).store.credentials := by
  refine Run.play_invariant (machine externals)
    (fun run => Referenced run.store.server.tables ∧ DistinctEntries run.store.credentials)
    ⟨referenced_empty, fun _ member => absurd member List.not_mem_nil⟩ ?_ moves
  rintro run move ⟨references, distinct⟩
  obtain same | ⟨act, -, moved⟩ | ⟨index, stmt, resume, -, -, moved⟩ :=
    Run.step_cases (machine externals) run move
  · rw [same]
    exact ⟨references, distinct⟩
  · rw [moved, drift_credentials]
    exact ⟨drift_referenced externals act run.store references, distinct⟩
  · rw [moved]
    exact ⟨exec_referenced externals stmt run.store references,
      (exec_credentialChange externals stmt run.store).distinctEntries distinct⟩

/-- The newest exchange of a call is a logged event. -/
theorem event_of_head {run : TorRun σ} {index : Nat} {exchange : Exchange Reply}
    (newest : (exchanges index run.log).head? = some exchange) :
    ∃ event ∈ run.log, event.call = index ∧ event.toExchange = exchange :=
  mem_exchanges.mp (List.mem_of_mem_head? newest)

/-- A call that issued a ticket or recorded a session has logged an INSERT that shows the
credential which the call was given. -/
theorem inserted_of_ok {calls : Nat → Call} {run : TorRun σ}
    (lawful : Run.Lawful (fun index => Writes aead (calls index))
      (fun index => Concludes (calls index)) run) {index : Nat} {returned : Returned}
    (succeeded : (run.calls index).outcome = some (.ok returned)) {id : Uuid}
    (grants : (calls index).grants = some id) :
    ∃ event ∈ run.log, event.call = index ∧ isWrite event.stmt = true ∧
      Shows id event.toExchange := by
  have concluded : Concludes (calls index) (exchanges index run.log) (.ok returned) := by
    have follows := lawful.remaining index
    rw [(outcome_eq_ok_iff _ _).mp succeeded] at follows
    exact follows
  cases called : calls index with
  | issueTorTicket ticket =>
    rw [called] at concluded grants
    obtain ⟨columns, shown⟩ := concluded returned rfl
    obtain ⟨exchange, newest, shown⟩ := Option.bind_eq_some_iff.mp shown
    obtain ⟨row, rfl⟩ := effect_eq_some shown
    obtain ⟨event, logged, rfl, same⟩ := event_of_head newest
    obtain ⟨later, earlier, split⟩ := List.append_of_mem logged
    have rule := (lawful.executed later event earlier split).2
    obtain ⟨⟨stmt, reply⟩, index, before⟩ := event
    cases same
    obtain ⟨submitted, submits, admitted⟩ := rule
    rw [called] at submits
    cases submits
    refine ⟨_, logged, rfl, rfl, ?_⟩
    have verbatim : columns.credentialId = ticket.credentialId := by
      rw [admitted.verbatim]
      rfl
    exact verbatim.trans (Option.some.inj grants)
  | recordTorSession session =>
    rw [called] at concluded grants
    obtain ⟨columns, shown⟩ := concluded returned rfl
    obtain ⟨exchange, newest, shown⟩ := Option.bind_eq_some_iff.mp shown
    obtain ⟨sessionKey, rfl⟩ := sessionEffect_eq_some shown
    obtain ⟨event, logged, rfl, same⟩ := event_of_head newest
    obtain ⟨later, earlier, split⟩ := List.append_of_mem logged
    have rule := (lawful.executed later event earlier split).2
    obtain ⟨⟨stmt, reply⟩, index, before⟩ := event
    cases same
    obtain ⟨submitted, submits, admitted⟩ := rule
    rw [called] at submits
    cases submits
    refine ⟨_, logged, rfl, rfl, ?_⟩
    have verbatim : columns.credentialId = session.credentialId := by
      rw [admitted.verbatim]
      rfl
    exact verbatim.trans (Option.some.inj grants)
  | _ =>
    rw [called] at grants
    cases grants

/-- A deletion shows nothing of the credential. -/
theorem not_shows_of_deleted {exchange : Exchange Reply} {id : Uuid}
    (deleted : credentialDeleted exchange = some id) : ¬ Shows id exchange := by
  unfold credentialDeleted at deleted
  split at deleted
  · exact fun shown => shown
  · cases deleted

/-- Once a credential is deleted, and as long as none is stored under its identifier again,
nothing of it is stored, no statement since found or stored anything of it, and a call that
issues a ticket or records a session for it succeeds only if its INSERT came before.

Proof: the deletion leaves nothing of the credential, and only storing it again ends that, as
an INSERT for it is refused meanwhile. So a statement since then finds nothing, and a call
that returned has its INSERT in the log, where only the earlier part is left for it. -/
theorem deleted_credential_stays_revoked (now : Int) (outside : σ) (calls : Nat → Call)
    (moves : List (Move (Drift σ))) {later earlier : List (Event (World σ) Reply)}
    {deletion : Event (World σ) Reply} {id : Uuid}
    (split : ((launch aead (World.migrated now outside) calls).play (machine externals)
      moves).log = later ++ deletion :: earlier)
    (deleted : credentialDeleted deletion.toExchange = some id)
    (unrestored : ∀ event ∈ later, credentialStored event.toExchange ≠ some id) :
    Revoked id ((launch aead (World.migrated now outside) calls).play (machine externals)
        moves).store.server.tables ∧
      (∀ event ∈ later, ¬ Shows id event.toExchange) ∧
      ∀ index returned, (calls index).grants = some id →
        (((launch aead (World.migrated now outside) calls).play (machine externals)
          moves).calls index).outcome = some (.ok returned) →
        ∃ event ∈ earlier, event.call = index ∧ isWrite event.stmt = true ∧
          Shows id event.toExchange := by
  have lasting : Run.Lasting _ _ _ _ ((launch aead (World.migrated now outside) calls).play
      (machine externals) moves) :=
    Run.lasting_play (deletion_lasts externals id) referenced_empty _ moves
  obtain ⟨revoked, since⟩ := lasting.after split deleted unrestored
  have answered : Run.Answered (machine externals)
      ((launch aead (World.migrated now outside) calls).play (machine externals) moves) :=
    Run.answered_play (machine externals) _ _ moves
  have silent (event) (member : event ∈ later) : ¬ Shows id event.toExchange := by
    have logged := answered event (split ▸ List.mem_append_left _ member)
    rw [logged]
    exact (since event member).silent externals event.stmt
  refine ⟨revoked, silent, ?_⟩
  intro index returned grants succeeded
  have lawful := lawful_calls externals aead (World.migrated now outside) calls moves
  obtain ⟨event, logged, issuedBy, write, shown⟩ := inserted_of_ok aead lawful succeeded grants
  rw [split, List.mem_append, List.mem_cons] at logged
  obtain inLater | rfl | inEarlier := logged
  · exact absurd shown (silent event inLater)
  · exact absurd shown (not_shows_of_deleted deleted)
  · exact ⟨event, inEarlier, issuedBy, write, shown⟩

end Runs

/-- A credential is imported and deleted while a session of it is being recorded. -/
def deletingCalls : Nat → Call
  | 0 => .importBootstrapTorCredential Uuid.nil "entry" "hash" "tier" 30 none []
  | 1 => .recordTorSession { sampleSession "" with clientOnion := none }
  | _ => .deleteTorCredential Uuid.nil

/-- The session's key is drawn before the deletion and its INSERT executed after it. -/
def deletingRun : TorRun Unit :=
  (launch (Aead.framed tagLength) (World.migrated 0 ()) deletingCalls).play
    (machine (fixedExternals zeroLease zeroNonce))
    [.call 0, .call 0, .call 1, .call 2, .call 1]

/-- The session of the deleted credential is not stored, and its call did not succeed. -/
theorem deleted_credential_stays_revoked_deletingRun :
    Revoked Uuid.nil deletingRun.store.server.tables ∧
      ∀ returned, (deletingRun.calls 1).outcome ≠ some (.ok returned) := by
  obtain ⟨inserted, deletion, earlier, log, deleted, refused, importing⟩ :
      ∃ inserted deletion earlier, deletingRun.log = [inserted] ++ deletion :: earlier ∧
        credentialDeleted deletion.toExchange = some Uuid.nil ∧
        credentialStored inserted.toExchange = none ∧
        ∀ event ∈ earlier, isWrite event.stmt = true → event.call = 0 :=
    ⟨_, _, [_, _, _], rfl, rfl, rfl, by decide +kernel⟩
  have unrestored : ∀ event ∈ [inserted], credentialStored event.toExchange ≠ some Uuid.nil := by
    simp [refused]
  obtain ⟨revoked, -, granted⟩ := deleted_credential_stays_revoked
    (fixedExternals zeroLease zeroNonce) (Aead.framed tagLength) 0 () deletingCalls
    [.call 0, .call 0, .call 1, .call 2, .call 1] log deleted unrestored
  refine ⟨revoked, fun returned succeeded => ?_⟩
  obtain ⟨event, member, issuedBy, write, -⟩ := granted 1 returned rfl succeeded
  rw [importing event member write] at issuedBy
  cases issuedBy

end SecureDatabase.TorAuth
