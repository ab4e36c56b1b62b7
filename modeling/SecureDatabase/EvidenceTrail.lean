import Mathlib.Data.List.Sort
import SecureDatabase.Foundation.Columns
import SecureDatabase.Foundation.Histories
import SecureDatabase.Foundation.Sha256
import SecureDatabase.Basic

/-!
# The trail of audits and attestations

Connections, operations and attestations leave one row each. Nothing updates or deletes such a
row. An operation is audited by the digest of its payload, and its row has the time of the server;
an attestation has the time at which its client took it, cut to the microsecond. The server draws
the identifiers of the rows, and refuses one that is taken. It keeps documents in a form of its own.

The attestations of a user can be listed, most recent first, up to a limit of at most a thousand.
Rows with equal times are listed in an order that is up to the server. What is listed is a
selection from everything that was recorded for the user until then, and what is left out is not
more recent.
-/

namespace SecureDatabase.Trail

open Foundation Program

/-- What a client submits of an attestation, and what is kept of it. -/
structure TeeAttestation where
  appId : String
  instanceId : String
  deviceId : String
  composeHash : String
  keyProviderInfo : String
  quote : Bytes
  rtmr : Json
  eventLog : Json
  recordedAt : DateTime

/-- A row of `gateway_data.tor_connect_audits`. -/
structure ConnectRow where
  id : Uuid
  userId : Uuid
  occurredAt : Int
deriving DecidableEq

/-- A row of `gateway_secrets.audit_logs`. -/
structure AuditRow where
  id : Uuid
  userId : Uuid
  operation : String
  payloadHash : String
  createdAt : Int
deriving DecidableEq

/-- A row of `gateway_secrets.tee_attestations`. -/
structure AttestationRow where
  id : Uuid
  userId : Uuid
  attestation : TeeAttestation

/-- Their primary keys. -/
def ConnectRow.key (row : ConnectRow) : Uuid × Int := (row.id, row.occurredAt)

/-- An attestation is stored under its identifier and its user. -/
def AttestationRow.key (row : AttestationRow) : Uuid × Uuid := (row.id, row.userId)

/-- The audits of connections, in the data database. -/
abbrev Connects := Table ConnectRow.key

/-- The two tables behind the secrets pool. -/
structure Secrets where
  audits : Table AuditRow.id
  attestations : Table AttestationRow.key

/-- The servers behind the two pools, and the identifier that `gen_random_uuid` draws next. -/
structure Servers where
  data : Server Connects
  secrets : Server Secrets
  nextId : Uuid

/-- The statements of the four operations. -/
inductive Statement where
  | connect (userId : Uuid)
  | audit (userId : Uuid) (operation payloadHash : String)
  | record (userId : Uuid) (attestation : TeeAttestation)
  | recent (userId : Uuid) (limit : Int)

/-- What a successful statement answers. -/
abbrev Answer : Statement → Type
  | .recent _ _ => List TeeAttestation
  | .connect _ => Unit
  | .audit _ _ _ => Unit
  | .record _ _ => Unit

/-- What a statement is answered: its result, or the error of the server. -/
abbrev Reply (stmt : Statement) : Type := Except String (Answer stmt)

section Semantics

/-- What is up to the server: the order in which it reads the rows of the table, and how it
keeps a document in a JSONB column, if it accepts it. -/
structure Storage where
  rows : Table AttestationRow.key → List AttestationRow
  all : ∀ table, (rows table).Perm table.rows
  jsonb : Jsonb

/-- The texts that a statement sends. -/
def Statement.texts : Statement → List String
  | .connect _ => []
  | .audit _ operation payloadHash => [operation, payloadHash]
  | .record _ attestation => [attestation.appId, attestation.instanceId, attestation.deviceId,
      attestation.composeHash, attestation.keyProviderInfo]
  | .recent _ _ => []

/-- INSERT of one row; texts with a NUL are refused. -/
def insertRow {Row Key : Type} [DecidableEq Key] {key : Row → Key} (texts : List String)
    (row : Row) (table : Table key) : Except String (Table key) :=
  receive (texts.map .text)
    (match table.insert? row with
      | some inserted => .ok inserted
      | none => .error "duplicate key value violates unique constraint")

/-- What is kept of an attestation, as it is read back: documents in the form of their columns,
and a time in whole microseconds that has to be in the range of its column. -/
def stored (storage : Storage) (attestation : TeeAttestation) : Except String TeeAttestation := do
  let rtmr ← storage.jsonb attestation.rtmr
  let eventLog ← storage.jsonb attestation.eventLog
  if isTimestamp attestation.recordedAt.timestamptz then
    return { attestation with rtmr, eventLog, recordedAt := attestation.recordedAt.kept }
  else .error "timestamp out of range"

/-- ORDER BY recorded_at DESC. -/
abbrev LatestFirst (left right : TeeAttestation) : Prop :=
  right.recordedAt.nanoseconds ≤ left.recordedAt.nanoseconds

/-- The attestations of a user among some rows. -/
def attestationsOf (userId : Uuid) (rows : List AttestationRow) : List TeeAttestation :=
  (rows.filter fun row => row.userId = userId).map AttestationRow.attestation

/-- SELECT of `recent_tee_attestations`. -/
def selectRecent (storage : Storage) (userId : Uuid) (limit : Int)
    (table : Table AttestationRow.key) : Except String (List TeeAttestation) :=
  if limit < 0 then .error "LIMIT must not be negative"
  else .ok (((attestationsOf userId (storage.rows table)).insertionSort LatestFirst).take
    limit.toNat)

/-- A statement is executed by the server of its pool. -/
def exec (storage : Storage) : (stmt : Statement) → Servers → Reply stmt × Servers
  | .connect userId, servers =>
      let answer := servers.data.execute fun now connects => do
        let inserted ← insertRow [] ⟨servers.nextId, userId, now⟩ connects
        return ((), inserted)
      (answer.1, { servers with data := answer.2 })
  | .audit userId operation payloadHash, servers =>
      let answer := servers.secrets.execute fun now tables => do
        let audits ← insertRow (Statement.audit userId operation payloadHash).texts
          ⟨servers.nextId, userId, operation, payloadHash, now⟩ tables.audits
        return ((), { tables with audits })
      (answer.1, { servers with secrets := answer.2 })
  | .record userId attestation, servers =>
      let answer := servers.secrets.execute fun _ tables => do
        let kept ← stored storage attestation
        let attestations ← insertRow (Statement.record userId attestation).texts
          ⟨servers.nextId, userId, kept⟩ tables.attestations
        return ((), { tables with attestations })
      (answer.1, { servers with secrets := answer.2 })
  | .recent userId limit, servers =>
      let answer := servers.secrets.execute fun _ tables => do
        let listed ← selectRecent storage userId limit tables.attestations
        return (listed, tables)
      (answer.1, { servers with secrets := answer.2 })

/-- What the surroundings may do: each server has a clock and a connection of its own, and a new
identifier is drawn. -/
inductive Drift where
  | data (act : ServerDrift)
  | secrets (act : ServerDrift)
  | draw (id : Uuid)

/-- What happens by itself: to each of the two servers, and to the generator of
identifiers. -/
def drift : Drift → Servers → Servers
  | .data act, servers => { servers with data := servers.data.drift act }
  | .secrets act, servers => { servers with secrets := servers.secrets.drift act }
  | .draw id, servers => { servers with nextId := id }

/-- The two servers and the generator with their surroundings. -/
def machine (storage : Storage) : Machine Servers Drift Statement Reply := ⟨exec storage, drift⟩

end Semantics

section Operations

/-- A call in terms of the statements that it makes, with the errors of the crate. -/
abbrev Operation (α : Type) := Program Statement Reply DatabaseError α

/-- Execute a statement, with `map_err(DatabaseError::from)` on the reply. -/
def sql (stmt : Statement) : Operation (Answer stmt) := do
  let reply ← ask stmt
  ofExcept (Except.mapError DatabaseError.query reply)

/-- Record a Tor connection audit entry. -/
def auditTorConnect (userId : Uuid) : Operation Unit := sql (.connect userId)

/-- Record the digest of the payload of an operation. -/
def auditOperation (userId : Uuid) (operation : String) (payload : Bytes) : Operation Unit :=
  sql (.audit userId operation (hexEncode (sha256 payload)))

/-- Record a TEE attestation emitted by the configured runtime. -/
def recordTeeAttestation (userId : Uuid) (attestation : TeeAttestation) : Operation Unit :=
  sql (.record userId attestation)

/-- Retrieve recent TEE attestations for one user. -/
def recentTeeAttestations (userId : Uuid) (limit : Int64) : Operation (List TeeAttestation) := do
  if limit ≤ 0 then
    .failure (.configuration "attestation query limit must be greater than zero")
  else sql (.recent userId (min limit 1000).toInt)

/-- The calls a client can make. -/
inductive Call where
  | auditTorConnect (userId : Uuid)
  | auditOperation (userId : Uuid) (operation : String) (payload : Bytes)
  | recordTeeAttestation (userId : Uuid) (attestation : TeeAttestation)
  | recentTeeAttestations (userId : Uuid) (limit : Int64)

/-- What a call returns; only a listing has something to return. -/
abbrev Returned := List TeeAttestation

/-- What a call does. -/
def Call.program : Call → Operation Returned
  | .auditTorConnect userId => do
      Trail.auditTorConnect userId
      return []
  | .auditOperation userId operation payload => do
      Trail.auditOperation userId operation payload
      return []
  | .recordTeeAttestation userId attestation => do
      Trail.recordTeeAttestation userId attestation
      return []
  | .recentTeeAttestations userId limit => Trail.recentTeeAttestations userId limit

/-- A run of calls over the two databases. -/
abbrev TrailRun := Run Servers Statement Reply DatabaseError Returned

/-- All calls before their first statements. -/
def launch (servers : Servers) (calls : Nat → Call) : TrailRun :=
  Run.start servers fun index => (calls index).program

end Operations

section Rows

variable (storage : Storage)

/-- The row that an event adds to the audited connections. -/
def connected : Event Servers Reply → Option ConnectRow
  | ⟨⟨.connect userId, .ok _⟩, _, before⟩ => some ⟨before.nextId, userId, before.data.now⟩
  | _ => none

/-- The row that an event adds to the audited operations. -/
def audited : Event Servers Reply → Option AuditRow
  | ⟨⟨.audit userId operation payloadHash, .ok _⟩, _, before⟩ =>
      some ⟨before.nextId, userId, operation, payloadHash, before.secrets.now⟩
  | _ => none

/-- The row that an event adds to the attestations. -/
def attested : Event Servers Reply → Option AttestationRow
  | ⟨⟨.record userId attestation, .ok _⟩, _, before⟩ =>
      (stored storage attestation).toOption.map fun kept => ⟨before.nextId, userId, kept⟩
  | _ => none

/-- A row that is inserted comes last. -/
theorem insertRow_eq_ok {Row Key : Type} [DecidableEq Key] {key : Row → Key} {texts : List String}
    {row : Row} {table inserted : Table key}
    (done : insertRow texts row table = .ok inserted) : inserted.rows = table.rows ++ [row] := by
  obtain ⟨-, grown⟩ := (receive_eq_ok_iff _ _ _).mp done
  split at grown
  · rename_i kept
    cases grown
    obtain ⟨absent, rfl⟩ := (Table.insert?_eq_some_iff _ _ _).mp kept
    rfl
  · cases grown

/-- What a statement leaves in the tables are the old rows and those that its event adds. -/
structure Grows (event : Event Servers Reply) (after : Servers) : Prop where
  connects : after.data.tables.rows =
    event.before.data.tables.rows ++ (connected event).toList
  audits : after.secrets.tables.audits.rows =
    event.before.secrets.tables.audits.rows ++ (audited event).toList
  attestations : after.secrets.tables.attestations.rows =
    event.before.secrets.tables.attestations.rows ++ (attested storage event).toList

/-- A statement that adds nothing leaves the tables as they are. -/
theorem grows_of_none {event : Event Servers Reply} (connect : connected event = none)
    (audit : audited event = none) (attest : attested storage event = none) :
    Grows storage event event.before := by
  constructor
  · rw [connect, Option.toList_none, List.append_nil]
  · rw [audit, Option.toList_none, List.append_nil]
  · rw [attest, Option.toList_none, List.append_nil]

/-- A failed statement adds nothing. -/
theorem grows_of_error (stmt : Statement) (error : String) (index : Nat) (servers : Servers) :
    Grows storage ⟨⟨stmt, .error error⟩, index, servers⟩ servers := by
  cases stmt <;> exact grows_of_none storage rfl rfl rfl

/-- Each INSERT adds its own row, and a listing none. -/
theorem exec_grows (index : Nat) (stmt : Statement) (servers : Servers) :
    Grows storage (Run.event (machine storage) index stmt servers)
      ((machine storage).exec stmt servers).2 := by
  rw [Run.event]
  cases stmt with
  | connect userId =>
    simp only [machine, exec]
    obtain ⟨error, failed⟩ | ⟨result, tables, -, executed, replied⟩ :=
      servers.data.execute_cases fun now connects => do
        let inserted ← insertRow [] ⟨servers.nextId, userId, now⟩ connects
        return ((), inserted)
    · rw [failed]
      exact grows_of_error storage _ error index servers
    · rw [replied]
      obtain ⟨inserted, done, returned⟩ := (bind_eq_ok_iff _ _ _).mp executed
      cases returned
      exact ⟨insertRow_eq_ok done, (List.append_nil _).symm, (List.append_nil _).symm⟩
  | audit userId operation payloadHash =>
    simp only [machine, exec]
    obtain ⟨error, failed⟩ | ⟨result, tables, -, executed, replied⟩ :=
      servers.secrets.execute_cases fun now tables => do
        let audits ← insertRow (Statement.audit userId operation payloadHash).texts
          ⟨servers.nextId, userId, operation, payloadHash, now⟩ tables.audits
        return ((), { tables with audits })
    · rw [failed]
      exact grows_of_error storage _ error index servers
    · rw [replied]
      obtain ⟨audits, done, returned⟩ := (bind_eq_ok_iff _ _ _).mp executed
      cases returned
      exact ⟨(List.append_nil _).symm, insertRow_eq_ok done, (List.append_nil _).symm⟩
  | record userId attestation =>
    simp only [machine, exec]
    obtain ⟨error, failed⟩ | ⟨result, tables, -, executed, replied⟩ :=
      servers.secrets.execute_cases fun _ tables => do
        let kept ← stored storage attestation
        let attestations ← insertRow (Statement.record userId attestation).texts
          ⟨servers.nextId, userId, kept⟩ tables.attestations
        return ((), { tables with attestations })
    · rw [failed]
      exact grows_of_error storage _ error index servers
    · rw [replied]
      obtain ⟨kept, keeps, executed⟩ := (bind_eq_ok_iff _ _ _).mp executed
      obtain ⟨attestations, done, returned⟩ := (bind_eq_ok_iff _ _ _).mp executed
      cases returned
      refine ⟨(List.append_nil _).symm, (List.append_nil _).symm, ?_⟩
      rw [attested, keeps]
      exact insertRow_eq_ok done
  | recent userId limit =>
    simp only [machine, exec]
    obtain ⟨error, failed⟩ | ⟨result, tables, -, executed, replied⟩ :=
      servers.secrets.execute_cases fun _ tables => do
        let listed ← selectRecent storage userId limit tables.attestations
        return (listed, tables)
    · rw [failed]
      exact grows_of_error storage _ error index servers
    · rw [replied]
      obtain ⟨listed, selected, returned⟩ := (bind_eq_ok_iff _ _ _).mp executed
      cases returned
      exact grows_of_none storage rfl rfl rfl

/-- The environment leaves the tables alone. -/
theorem drift_tables (act : Drift) (servers : Servers) :
    (drift act servers).data.tables = servers.data.tables ∧
      (drift act servers).secrets.tables = servers.secrets.tables := by
  cases act with
  | data act => exact ⟨Server.drift_tables act _, rfl⟩
  | secrets act => exact ⟨rfl, Server.drift_tables act _⟩
  | draw id => exact ⟨rfl, rfl⟩

end Rows

section Rules

/-- The statement of a call; a listing without a positive limit has none. -/
def Call.statement : Call → Option Statement
  | .auditTorConnect userId => some (.connect userId)
  | .auditOperation userId operation payload =>
      some (.audit userId operation (hexEncode (sha256 payload)))
  | .recordTeeAttestation userId attestation => some (.record userId attestation)
  | .recentTeeAttestations userId limit =>
      if limit ≤ 0 then none else some (.recent userId (min limit 1000).toInt)

/-- What a call returns of the answer to its statement. -/
def returned : (stmt : Statement) → Answer stmt → Returned
  | .recent _ _, listed => listed
  | .connect _, _ => []
  | .audit _ _ _, _ => []
  | .record _ _, _ => []

/-- A call executes its statement, once. -/
def OwnStatement (call : Call) (past : List (Exchange Reply)) (stmt : Statement) : Prop :=
  past = [] ∧ call.statement = some stmt

/-- A call reports what became of its statement. -/
def Reports (call : Call) (past : List (Exchange Reply)) : DbResult Returned → Prop
  | .ok result => ∃ stmt answer, call.statement = some stmt ∧ past = [⟨stmt, .ok answer⟩] ∧
      result = returned stmt answer
  | .error error =>
      (∃ stmt message, call.statement = some stmt ∧ past = [⟨stmt, .error message⟩] ∧
        error = .query message) ∨
      (call.statement = none ∧ past = [])

/-- A call makes only statements that are its own, with what it was called with, and
reports what they answered. -/
theorem Call.follows_reports (call : Call) :
    call.program.Follows (OwnStatement call) (Reports call) [] := by
  cases call with
  | auditTorConnect userId =>
    refine ⟨⟨rfl, rfl⟩, ?_⟩
    rintro (message | answer)
    · exact .inl ⟨_, message, rfl, rfl, rfl⟩
    · exact ⟨_, answer, rfl, rfl, rfl⟩
  | auditOperation userId operation payload =>
    refine ⟨⟨rfl, rfl⟩, ?_⟩
    rintro (message | answer)
    · exact .inl ⟨_, message, rfl, rfl, rfl⟩
    · exact ⟨_, answer, rfl, rfl, rfl⟩
  | recordTeeAttestation userId attestation =>
    refine ⟨⟨rfl, rfl⟩, ?_⟩
    rintro (message | answer)
    · exact .inl ⟨_, message, rfl, rfl, rfl⟩
    · exact ⟨_, answer, rfl, rfl, rfl⟩
  | recentTeeAttestations userId limit =>
    rw [Call.program, Trail.recentTeeAttestations]
    by_cases unlimited : limit ≤ 0
    · rw [if_pos unlimited]
      exact .inr ⟨if_pos unlimited, rfl⟩
    · rw [if_neg unlimited]
      have known : (Call.recentTeeAttestations userId limit).statement =
          some (.recent userId (min limit 1000).toInt) := if_neg unlimited
      refine ⟨⟨rfl, known⟩, ?_⟩
      rintro (message | answer)
      · exact .inl ⟨_, message, known, rfl, rfl⟩
      · exact ⟨_, answer, known, rfl, rfl⟩

end Rules

section Accounts

/-- The connection that a call audits. -/
def Call.connection : Call → Option Uuid
  | .auditTorConnect userId => some userId
  | _ => none

/-- The operation that a call audits, with the digest of its payload. -/
def Call.audit : Call → Option (Uuid × String × String)
  | .auditOperation userId operation payload =>
      some (userId, operation, hexEncode (sha256 payload))
  | _ => none

/-- The attestation that a call records, as the server keeps it. -/
def Call.attestation (storage : Storage) : Call → Option (Uuid × Except String TeeAttestation)
  | .recordTeeAttestation userId attestation => some (userId, stored storage attestation)
  | _ => none

/-- The call has returned without an error. -/
def succeeded (program : Operation Returned) : Bool :=
  match program.outcome with
  | some (.ok _) => true
  | _ => false

/-- The rows that a call has added. -/
def rowsOf {Row : Type} (index : Nat) (added : Event Servers Reply → Option Row)
    (log : List (Event Servers Reply)) : List Row :=
  (log.filter fun event => event.call = index).filterMap added

/-- A call that succeeds leaves the row it is for, and a call that has not succeeded leaves
none. -/
structure Accounts (storage : Storage) (calls : Nat → Call) (run : TrailRun) (index : Nat) :
    Prop where
  connects : (rowsOf index connected run.log).map ConnectRow.userId =
    if succeeded (run.calls index) then (calls index).connection.toList else []
  audits : (rowsOf index audited run.log).map
      (fun row => (row.userId, row.operation, row.payloadHash)) =
    if succeeded (run.calls index) then (calls index).audit.toList else []
  attestations : (rowsOf index (attested storage) run.log).map
      (fun row => (row.userId, Except.ok row.attestation)) =
    if succeeded (run.calls index) then ((calls index).attestation storage).toList else []

variable {storage : Storage}

/-- An attestation was recorded as the server keeps it. -/
theorem stored_of_ok {userId : Uuid} {attestation : TeeAttestation} {servers : Servers}
    {answer : Unit} (done : (exec storage (.record userId attestation) servers).1 = .ok answer) :
    ∃ kept, stored storage attestation = .ok kept := by
  simp only [exec] at done
  obtain ⟨error, failed⟩ | ⟨result, tables, -, executed, replied⟩ :=
    servers.secrets.execute_cases fun _ tables => do
      let kept ← stored storage attestation
      let attestations ← insertRow (Statement.record userId attestation).texts
        ⟨servers.nextId, userId, kept⟩ tables.attestations
      return ((), { tables with attestations })
  · rw [failed] at done
    cases done
  · obtain ⟨kept, keeps, -⟩ := (bind_eq_ok_iff _ _ _).mp executed
    exact ⟨kept, keeps⟩

/-- A failed statement adds no row. -/
theorem added_of_error (storage : Storage) {stmt : Statement} {message : String}
    {event : Event Servers Reply}
    (failed : event.toExchange = ⟨stmt, .error message⟩) :
    connected event = none ∧ audited event = none ∧ attested storage event = none := by
  obtain ⟨exchange, call, before⟩ := event
  subst failed
  cases stmt <;> exact ⟨rfl, rfl, rfl⟩

/-- A call without a statement of its own has added nothing. -/
theorem accounts_of_unexecuted {calls : Nat → Call} {run : TrailRun} {index : Nat}
    (unfinished : succeeded (run.calls index) = false)
    (own : run.log.filter (fun event => event.call = index) = []) :
    Accounts storage calls run index := by
  constructor <;> simp [rowsOf, own, unfinished]

/-- A call whose statement failed has added nothing. -/
theorem accounts_of_error {calls : Nat → Call} {run : TrailRun} {index : Nat}
    (unfinished : succeeded (run.calls index) = false) {event : Event Servers Reply}
    (own : run.log.filter (fun event => event.call = index) = [event]) {stmt : Statement}
    {message : String} (failed : event.toExchange = ⟨stmt, .error message⟩) :
    Accounts storage calls run index := by
  obtain ⟨connect, audit, attest⟩ := added_of_error storage failed
  constructor <;> simp [rowsOf, own, unfinished, connect, audit, attest]

/-- A call whose statement succeeded has added its row. -/
theorem accounts_of_ok {calls : Nat → Call} {run : TrailRun} {index : Nat}
    (finished : succeeded (run.calls index) = true) {event : Event Servers Reply}
    (own : run.log.filter (fun event => event.call = index) = [event]) {stmt : Statement}
    {answer : Answer stmt} (known : (calls index).statement = some stmt)
    (done : event.toExchange = ⟨stmt, .ok answer⟩)
    (answered : (exec storage stmt event.before).1 = .ok answer) :
    Accounts storage calls run index := by
  obtain ⟨exchange, call, before⟩ := event
  subst done
  cases made : calls index with
  | auditTorConnect userId =>
    rw [made] at known
    cases known
    constructor <;> simp [rowsOf, own, finished, made, Call.connection, Call.audit,
      Call.attestation, connected, audited, attested]
  | auditOperation userId operation payload =>
    rw [made] at known
    cases known
    constructor <;> simp [rowsOf, own, finished, made, Call.connection, Call.audit,
      Call.attestation, connected, audited, attested]
  | recordTeeAttestation userId attestation =>
    rw [made] at known
    cases known
    obtain ⟨kept, keeps⟩ := stored_of_ok answered
    constructor <;> simp [rowsOf, own, finished, made, Call.connection, Call.audit,
      Call.attestation, connected, audited, attested, keeps, Except.toOption]
  | recentTeeAttestations userId limit =>
    rw [made, Call.statement] at known
    split at known
    · cases known
    · cases known
      constructor <;> simp [rowsOf, own, finished, made, Call.connection, Call.audit,
        Call.attestation, connected, audited, attested]

variable (storage) (servers : Servers) (calls : Nat → Call) (moves : List (Move Drift))

/-- In every schedule the calls keep these rules, whatever happens between their
statements. -/
theorem lawful_trail : Run.Lawful (fun index => OwnStatement (calls index))
    (fun index => Reports (calls index)) ((launch servers calls).play (machine storage) moves) :=
  Run.lawful_play (machine storage) servers _ (fun index => (calls index).follows_reports) moves

/-- In every schedule, the attestations are the first ones and those of the log. -/
theorem attestations_play :
    ((launch servers calls).play (machine storage) moves).store.secrets.tables.attestations.rows =
      servers.secrets.tables.attestations.rows ++
        ((launch servers calls).play (machine storage) moves).log.reverse.filterMap
          (attested storage) :=
  Run.appended_play (fun servers : Servers => servers.secrets.tables.attestations.rows)
    (fun index stmt store => (exec_grows storage index stmt store).attestations)
    (fun act store => congrArg (fun tables : Secrets => tables.attestations.rows)
      (drift_tables act store).2) servers _ moves

/-- In every schedule, the rows of a call are accounted for. -/
theorem accounts_play (index : Nat) :
    Accounts storage calls ((launch servers calls).play (machine storage) moves) index := by
  have lawful := lawful_trail storage servers calls moves
  have answered := Run.answered_play (machine storage) servers
    (fun index => (calls index).program) moves
  generalize reached : (launch servers calls).play (machine storage) moves = run at *
  rw [launch] at reached
  rw [reached] at answered
  have follows := lawful.remaining index
  cases current : run.calls index with
  | issue stmt resume =>
    obtain ⟨⟨unexecuted, -⟩, -⟩ := lawful.issuing current
    exact accounts_of_unexecuted (by rw [current]; rfl) (List.map_eq_nil_iff.mp unexecuted)
  | failure error =>
    rw [current] at follows
    obtain ⟨stmt, message, -, executed, -⟩ | ⟨-, unexecuted⟩ := follows
    · obtain ⟨event, own, failed⟩ := List.map_eq_singleton_iff.mp executed
      exact accounts_of_error (by rw [current]; rfl) own failed
    · exact accounts_of_unexecuted (by rw [current]; rfl) (List.map_eq_nil_iff.mp unexecuted)
  | value result =>
    rw [current] at follows
    obtain ⟨stmt, answer, known, executed, -⟩ := follows
    obtain ⟨event, own, done⟩ := List.map_eq_singleton_iff.mp executed
    have member : event ∈ run.log := by
      refine (List.mem_filter.mp (?_ : event ∈ run.log.filter fun event => event.call = index)).1
      rw [own]
      exact List.mem_singleton_self event
    refine accounts_of_ok (by rw [current]; rfl) own known done ?_
    have truth := answered event member
    obtain ⟨exchange, call, before⟩ := event
    subst done
    exact (eq_of_heq (Exchange.mk.inj truth).2).symm

/-- In every schedule, the three tables hold their first rows and those that the log added, in
the order of the log. Each call that has succeeded added the row it is for, once, and every other
call none.

Proof: each statement appends to its table exactly the row that its event in the log stands
for, and nothing removes one. A call issues one statement, so the log has at most one event of
it, and exactly one that succeeded if the call has. -/
theorem trail_accounted :
    (((launch servers calls).play (machine storage) moves).store.data.tables.rows =
      servers.data.tables.rows ++
        ((launch servers calls).play (machine storage) moves).log.reverse.filterMap connected) ∧
    (((launch servers calls).play (machine storage) moves).store.secrets.tables.audits.rows =
      servers.secrets.tables.audits.rows ++
        ((launch servers calls).play (machine storage) moves).log.reverse.filterMap audited) ∧
    (((launch servers calls).play (machine storage) moves).store.secrets.tables.attestations.rows =
      servers.secrets.tables.attestations.rows ++
        ((launch servers calls).play (machine storage) moves).log.reverse.filterMap
          (attested storage)) ∧
    ∀ index, Accounts storage calls ((launch servers calls).play (machine storage) moves) index := by
  refine ⟨?_, ?_, attestations_play storage servers calls moves,
    accounts_play storage servers calls moves⟩
  · exact Run.appended_play (fun servers : Servers => servers.data.tables.rows)
      (fun index stmt store => (exec_grows storage index stmt store).connects)
      (fun act store => congrArg Table.rows (drift_tables act store).1) servers _ moves
  · exact Run.appended_play (fun servers : Servers => servers.secrets.tables.audits.rows)
      (fun index stmt store => (exec_grows storage index stmt store).audits)
      (fun act store => congrArg (fun tables : Secrets => tables.audits.rows)
        (drift_tables act store).2) servers _ moves

end Accounts

section Listings

/-- Some of the attestations are listed and the rest is not: as many as the limit allows, most
recent first, and none of the rest is more recent. -/
structure Selected (limit : Nat) (all listed rest : List TeeAttestation) : Prop where
  parts : (listed ++ rest).Perm all
  ordered : listed.Pairwise LatestFirst
  latest : ∀ shown ∈ listed, ∀ hidden ∈ rest, LatestFirst shown hidden
  full : listed.length = min limit all.length

/-- What the server selects is a selection of the rows of the user, however it reads them. -/
theorem selectRecent_eq_ok {storage : Storage} {userId : Uuid} {limit : Int}
    {table : Table AttestationRow.key} {listed : List TeeAttestation}
    (selected : selectRecent storage userId limit table = .ok listed) :
    ∃ rest, Selected limit.toNat (attestationsOf userId table.rows) listed rest := by
  unfold selectRecent at selected
  split at selected
  case isTrue => cases selected
  case isFalse =>
    cases selected
    have sorted := List.pairwise_insertionSort LatestFirst (attestationsOf userId (storage.rows table))
    have same : ((attestationsOf userId (storage.rows table)).insertionSort LatestFirst).Perm
        (attestationsOf userId table.rows) :=
      (List.perm_insertionSort _ _).trans (((storage.all table).filter _).map _)
    generalize (attestationsOf userId (storage.rows table)).insertionSort LatestFirst = rows at *
    rw [← List.take_append_drop limit.toNat rows, List.pairwise_append] at sorted
    refine ⟨rows.drop limit.toNat, ?_, sorted.1, sorted.2.2, ?_⟩
    · rw [List.take_append_drop]
      exact same
    · rw [List.length_take, same.length_eq]

/-- A listing reads the table as it is. -/
theorem recent_eq_ok {storage : Storage} {userId : Uuid} {limit : Int} {servers : Servers}
    {listed : List TeeAttestation}
    (answered : (exec storage (.recent userId limit) servers).1 = .ok listed) :
    selectRecent storage userId limit servers.secrets.tables.attestations = .ok listed := by
  simp only [exec] at answered
  obtain ⟨error, failed⟩ | ⟨result, tables, -, executed, replied⟩ :=
    servers.secrets.execute_cases fun _ tables => do
      let listed ← selectRecent storage userId limit tables.attestations
      return (listed, tables)
  · rw [failed] at answered
    cases answered
  · rw [replied] at answered
    cases answered
    obtain ⟨listed, selected, same⟩ := (bind_eq_ok_iff _ _ _).mp executed
    cases same
    exact selected

variable (storage : Storage) (servers : Servers) (calls : Nat → Call) (moves : List (Move Drift))

/-- In every schedule, a listing that was returned is a selection from the attestations of the
user that were there at first or were recorded before the listing was asked for.

Proof: a listing that was returned is the reply to one statement, executed at one moment of
the run. The table there holds its first rows and those that the log has added by then, and
the reply is the top of these by the order of the query. -/
theorem recent_attestations_exact {index : Nat} {userId : Uuid} {limit : Int64}
    {listed : List TeeAttestation} (made : calls index = .recentTeeAttestations userId limit)
    (finished : (((launch servers calls).play (machine storage) moves).calls index).outcome =
      some (.ok listed)) :
    0 < limit ∧ ∃ later asking earlier rest,
      ((launch servers calls).play (machine storage) moves).log = later ++ asking :: earlier ∧
      asking.call = index ∧
      Selected (min limit 1000).toInt.toNat
        (attestationsOf userId (servers.secrets.tables.attestations.rows ++
          earlier.reverse.filterMap (attested storage))) listed rest := by
  have reports := (lawful_trail storage servers calls moves).remaining index
  rw [(outcome_eq_ok_iff _ _).mp finished] at reports
  obtain ⟨stmt, answer, known, executed, same⟩ := reports
  rw [made, Call.statement] at known
  split at known
  · cases known
  · rename_i limited
    cases known
    obtain rfl : listed = answer := same
    refine ⟨Int64.not_le.mp limited, ?_⟩
    obtain ⟨asking, member, own, asked⟩ := mem_exchanges.mp
      (executed ▸ List.mem_singleton_self _ :
        _ ∈ exchanges index ((launch servers calls).play (machine storage) moves).log)
    obtain ⟨before, after, resume, later, rfl, -, happened, split⟩ :=
      Run.exists_moment (machine storage) (launch servers calls) rfl moves member
    have answered : (exec storage (.recent userId (min limit 1000).toInt)
        ((launch servers calls).play (machine storage) before).store).1 = .ok listed := by
      obtain ⟨exchange, call, store⟩ := asking
      subst asked
      have replied := congrArg Event.toExchange happened
      exact (eq_of_heq (Exchange.mk.inj replied).2).symm
    obtain ⟨rest, selected⟩ := selectRecent_eq_ok (recent_eq_ok answered)
    rw [attestations_play] at selected
    exact ⟨later, asking, _, rest, split, own, selected⟩

/-- A server that reads the rows in order and keeps documents as they are. -/
def plainStorage : Storage := ⟨Table.rows, fun _ => .refl _, .ok⟩

/-- An attestation that a client took at some time. -/
def takenAt (microseconds : Int) : TeeAttestation :=
  ⟨"", "", "", "", "", [], .null, .null, .ofTimestamptz microseconds⟩

/-- Two attestations of one user, and a listing of the most recent one. -/
def twoAttestations : Nat → Call
  | 0 => .recordTeeAttestation Uuid.nil (takenAt 1)
  | 1 => .recordTeeAttestation Uuid.nil (takenAt 2)
  | _ => .recentTeeAttestations Uuid.nil 1

/-- Both databases before the first evidence. -/
def emptyServers : Servers :=
  ⟨⟨0, none, Table.empty⟩, ⟨0, none, ⟨Table.empty, Table.empty⟩⟩, Uuid.nil⟩

/-- Of two attestations the listing of one returns the later. -/
theorem recent_attestations_exact_twoAttestations :
    (0 : Int64) < 1 ∧ ∃ later asking earlier rest,
      ((launch emptyServers twoAttestations).play (machine plainStorage)
        [.call 0, .drift (.draw (Uuid.last 1)), .call 1, .call 2]).log =
          later ++ asking :: earlier ∧
      asking.call = 2 ∧
      Selected (min (1 : Int64) 1000).toInt.toNat
        (attestationsOf Uuid.nil (emptyServers.secrets.tables.attestations.rows ++
          earlier.reverse.filterMap (attested plainStorage))) [takenAt 2] rest :=
  recent_attestations_exact plainStorage emptyServers twoAttestations _ rfl rfl

end Listings

end SecureDatabase.Trail
