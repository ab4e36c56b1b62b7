import SecureDatabase.Envelope
import SecureDatabase.Foundation.Columns
import SecureDatabase.Foundation.Program

/-!
# Credential, session and ticket tables and their statements

The three tables of the Tor authentication store with their primary keys, the
unique entry onion, the partial unique attestation session and the cascading
references of sessions and tickets to credentials. Each SQL statement of the
source is one function of the clock and the tables; a violated constraint is an
error and changes nothing, and so is a parameter that the server refuses. Columns that
no modelled function reads or writes are left out.

The times of a submitted session or ticket are those of the process; the tables hold
the microseconds that their INSERT binds. The times of a credential are taken as exact
and counted in microseconds throughout.

Beside the database, a call talks to the secret broker and draws randomness.
These replies come from an arbitrary state machine outside the crate.
-/

namespace SecureDatabase.TorAuth

open Foundation

/-- A stored Tor credential, a row of `tor_auth_credentials`. -/
structure TorCredential where
  id : Uuid
  onionEntry : String
  tier : String
  credentialHash : String
  operationalOnion : Option String
  guardNodes : List String
  createdAt : Int
  updatedAt : Int
  expiresAt : Option Int
  disabled : Bool
  rateLimitPerMinute : Int32
  lastRotatedAt : Option Int
deriving DecidableEq

/-- The texts and times that the INSERT of a credential sends. -/
def TorCredential.parameters (row : TorCredential) : List Parameter :=
  ([row.onionEntry, row.tier, row.credentialHash] ++ row.guardNodes).map .text ++
    (row.expiresAt.toList ++ [row.createdAt]).map .timestamptz

/-- The columns of a session that its INSERT binds, with times of either kind. -/
structure SessionRecord (Time : Type) where
  id : Uuid
  credentialId : Uuid
  circuitId : Option String
  fingerprint : Option String
  guardNodes : List String
  clientOnion : Option String
  expiresAt : Option Time
deriving DecidableEq

/-- Session record used to persist successful authentications. -/
abbrev TorSessionRecord := SessionRecord DateTime

/-- What a submitted session binds: its time is sent in microseconds. -/
def SessionRecord.bound (session : TorSessionRecord) : SessionRecord Int :=
  { session with expiresAt := session.expiresAt.map DateTime.timestamptz }

/-- The texts and times that the INSERT of a session sends. -/
def SessionRecord.parameters (columns : SessionRecord Int) : List Parameter :=
  (columns.circuitId.toList ++ columns.fingerprint.toList ++ columns.guardNodes ++
    columns.clientOnion.toList).map .text ++ columns.expiresAt.toList.map .timestamptz

/-- A row of `tor_auth_sessions`: the bound columns, the generated session key
and the defaulted issue time. -/
structure SessionRow extends SessionRecord Int where
  sessionKey : Uuid
  issuedAt : Int
deriving DecidableEq

/-- The columns of a ticket that its INSERT binds, with times of either kind. -/
structure TicketRecord (Time : Type) where
  id : Uuid
  credentialId : Uuid
  entryOnion : String
  tokenHash : String
  expiresAt : Time
  clientFingerprint : Option String
  clientAuthPublicKey : String
  clientAuthSecretPath : String
  clientAuthSecretRedeemToken : Option String
  attestationSessionId : Uuid
  attestationNonceDigest : String
  attestationQuoteHash : String
  attestedAt : Time
  teeKind : String
  teeLabel : Option String
  teePolicy : Option String
  tlsPubkeyDigest : String
deriving DecidableEq

/-- A ticket as submitted for issue. -/
abbrev NewTorAccessTicket := TicketRecord DateTime

/-- What a submitted ticket binds: its times are sent in microseconds. -/
def TicketRecord.bound (ticket : NewTorAccessTicket) : TicketRecord Int :=
  { ticket with
    expiresAt := ticket.expiresAt.timestamptz
    attestedAt := ticket.attestedAt.timestamptz }

/-- The texts and times that the INSERT of a ticket sends, in their order. -/
def TicketRecord.parameters (columns : TicketRecord Int) : List Parameter :=
  [.text columns.tokenHash, .text columns.entryOnion] ++
    columns.clientFingerprint.toList.map .text ++
    [.timestamptz columns.expiresAt, .text columns.clientAuthPublicKey,
      .text columns.clientAuthSecretPath] ++
    columns.clientAuthSecretRedeemToken.toList.map .text ++
    [.text columns.attestationNonceDigest, .text columns.attestationQuoteHash,
      .timestamptz columns.attestedAt, .text columns.teeKind] ++
    (columns.teeLabel.toList ++ columns.teePolicy.toList).map .text ++
    [.text columns.tlsPubkeyDigest]

/-- A row of `tor_access_tickets`: the bound columns, the defaulted creation time
and the redemption columns. -/
structure TicketRow extends TicketRecord Int where
  createdAt : Int
  redeemedAt : Option Int
  redeemedOperationalOnion : Option String
deriving DecidableEq

/-- The session table, keyed by the submitted identifier. -/
abbrev Sessions := Table (fun row : SessionRow => row.id)

/-- The ticket table, keyed by the submitted identifier. -/
abbrev Tickets := Table (fun row : TicketRow => row.id)

/-- The three tables. -/
structure TorTables where
  credentials : Table TorCredential.id
  sessions : Sessions
  tickets : Tickets

namespace TorTables

/-- A freshly migrated database. -/
def empty : TorTables := ⟨.empty, .empty, .empty⟩

/-- The message of the server for a row whose unique columns another has. -/
def uniqueViolation (constraint : String) : String :=
  "duplicate key value violates unique constraint " ++ constraint

/-- The message of the server for a row whose reference leads nowhere. -/
def foreignKeyViolation (table constraint : String) : String :=
  "insert or update on table " ++ table ++ " violates foreign key constraint " ++ constraint

/-- Whether a credential other than the named one already has the entry onion. -/
def entryTaken (tables : TorTables) (id : Uuid) (onionEntry : String) : Bool :=
  tables.credentials.rows.any (fun row => row.id ≠ id && row.onionEntry = onionEntry)

/-- Replace the columns of the credential under a key. -/
def updateCredential (tables : TorTables) (id : Uuid) (change : TorCredential → TorCredential)
    (keeps : ∀ row, (change row).id = row.id) : TorTables :=
  { tables with
    credentials := tables.credentials.updateWhere (fun row => row.id = id) change keeps }

/-- INSERT of `create_tor_credential`. -/
def insertCredential (row : TorCredential) (tables : TorTables) :
    Except String (Unit × TorTables) :=
  match tables.credentials.insert? row with
  | none => .error (uniqueViolation "tor_auth_credentials_pkey")
  | some credentials =>
      if tables.entryTaken row.id row.onionEntry then
        .error (uniqueViolation "tor_auth_credentials_onion_entry_key")
      else .ok ((), { tables with credentials })

/-- INSERT of `import_bootstrap_tor_credential`: a conflict on the key updates the
listed columns, and the touch trigger sets the update time. -/
def upsertCredential (row : TorCredential) (now : Int) (tables : TorTables) :
    Except String (Unit × TorTables) :=
  if tables.entryTaken row.id row.onionEntry then
    .error (uniqueViolation "tor_auth_credentials_onion_entry_key")
  else
    match tables.credentials.insert? row with
    | some credentials => .ok ((), { tables with credentials })
    | none =>
        .ok ((), tables.updateCredential row.id
          (fun old => { old with
            onionEntry := row.onionEntry
            tier := row.tier
            credentialHash := row.credentialHash
            guardNodes := row.guardNodes
            rateLimitPerMinute := row.rateLimitPerMinute
            expiresAt := row.expiresAt
            updatedAt := now
            disabled := false }) (fun _ => rfl))

/-- UPDATE of `rotate_operational_onion`. -/
def rotateOperationalOnion (id : Uuid) (newOnion : String) (guardNodes : List String)
    (now : Int) (tables : TorTables) : Except String (Unit × TorTables) :=
  .ok ((), tables.updateCredential id
    (fun old => { old with
      operationalOnion := some newOnion
      guardNodes := guardNodes
      lastRotatedAt := some now
      updatedAt := now }) (fun _ => rfl))

/-- UPDATE of `set_entry_onion`. -/
def setEntryOnion (id : Uuid) (entryOnion : String) (guardNodes : List String)
    (now : Int) (tables : TorTables) : Except String (Unit × TorTables) :=
  if (tables.credentials.find id).isSome && tables.entryTaken id entryOnion then
    .error (uniqueViolation "tor_auth_credentials_onion_entry_key")
  else .ok ((), tables.updateCredential id
    (fun old => { old with
      onionEntry := entryOnion
      guardNodes := guardNodes
      updatedAt := now }) (fun _ => rfl))

/-- UPDATE of `update_tor_credential_disabled`. -/
def updateDisabled (id : Uuid) (disabled : Bool) (now : Int) (tables : TorTables) :
    Except String (Unit × TorTables) :=
  .ok ((), tables.updateCredential id
    (fun old => { old with disabled := disabled, updatedAt := now }) (fun _ => rfl))

/-- DELETE of `delete_tor_credential`; sessions and tickets of the credential go
with it. Returns the number of deleted credentials. -/
def deleteCredential (id : Uuid) (tables : TorTables) : Except String (Nat × TorTables) :=
  .ok (tables.credentials.countWhere (fun row => row.id = id),
    { credentials := tables.credentials.deleteWhere (fun row => row.id = id)
      sessions := tables.sessions.deleteWhere
        (fun row => row.credentialId = id && (tables.credentials.find id).isSome)
      tickets := tables.tickets.deleteWhere
        (fun row => row.credentialId = id && (tables.credentials.find id).isSome) })

/-- INSERT of `record_tor_session`. -/
def insertSession (columns : SessionRecord Int) (sessionKey : Uuid) (now : Int)
    (tables : TorTables) : Except String (Unit × TorTables) :=
  match tables.sessions.insert? { columns with sessionKey, issuedAt := now } with
  | none => .error (uniqueViolation "tor_auth_sessions_pkey")
  | some sessions =>
      if (tables.credentials.find columns.credentialId).isSome then
        .ok ((), { tables with sessions })
      else .error (foreignKeyViolation "tor_auth_sessions" "tor_auth_sessions_credential_id_fkey")

/-- Whether some ticket already has the attestation session; the all-zero session
is not indexed. -/
def attestationSessionTaken (tables : TorTables) (session : Uuid) : Bool :=
  session ≠ Uuid.nil && tables.tickets.rows.any (fun row => row.attestationSessionId = session)

/-- The row that an INSERT of bound columns stores. -/
def ticketRow (columns : TicketRecord Int) (now : Int) : TicketRow :=
  { columns with createdAt := now, redeemedAt := none, redeemedOperationalOnion := none }

/-- INSERT of `issue_tor_ticket`, returning the stored row. -/
def insertTicket (columns : TicketRecord Int) (now : Int) (tables : TorTables) :
    Except String (TicketRow × TorTables) :=
  match tables.tickets.insert? (ticketRow columns now) with
  | none => .error (uniqueViolation "tor_access_tickets_pkey")
  | some tickets =>
      if tables.attestationSessionTaken columns.attestationSessionId then
        .error (uniqueViolation "idx_tor_access_tickets_attestation_session")
      else if (tables.credentials.find columns.credentialId).isSome then
        .ok (ticketRow columns now, { tables with tickets })
      else .error (foreignKeyViolation "tor_access_tickets" "tor_access_tickets_credential_id_fkey")

/-- The SET clause of `mark_tor_ticket_redeemed`. -/
def redeem (onion : String) (now : Int) (row : TicketRow) : TicketRow :=
  { row with redeemedOperationalOnion := some onion, redeemedAt := some now }

/-- The SET clause of `expire_tor_ticket_now`. -/
def expire (now : Int) (row : TicketRow) : TicketRow := { row with expiresAt := now - second }

/-- A redemption keeps the identifier of the ticket. -/
@[simp] theorem redeem_id (onion : String) (now : Int) (row : TicketRow) :
    (redeem onion now row).id = row.id := rfl

/-- So does an early expiry. -/
@[simp] theorem expire_id (now : Int) (row : TicketRow) : (expire now row).id = row.id := rfl

/-- UPDATE of `mark_tor_ticket_redeemed`, returning the affected rows. -/
def updateRedeemed (id : Uuid) (onion : String) (now : Int) (tables : TorTables) :
    Except String (Nat × TorTables) :=
  .ok (tables.tickets.countWhere (fun row => row.id = id),
    { tables with
      tickets := tables.tickets.updateWhere (fun row => row.id = id) (redeem onion now)
        (redeem_id onion now) })

/-- UPDATE of `expire_tor_ticket_now`, returning the affected rows. -/
def updateExpired (id : Uuid) (now : Int) (tables : TorTables) :
    Except String (Nat × TorTables) :=
  .ok (tables.tickets.countWhere (fun row => row.id = id),
    { tables with
      tickets := tables.tickets.updateWhere (fun row => row.id = id) (expire now)
        (expire_id now) })

/-- `NOW() - make_interval(days => $1)`. The driver's sessions are in UTC, so a day is
24 hours. -/
def retentionCutoff (retentionDays : Int32) (now : Int) : Int :=
  now - retentionDays.toInt * day

/-- The rows that `gc_expired_tickets` deletes: expired before the cutoff, and redeemed
or expired. -/
def collectible (retentionDays : Int32) (now : Int) (row : TicketRow) : Bool :=
  row.expiresAt < retentionCutoff retentionDays now &&
    (row.redeemedAt.isSome || row.expiresAt < now)

/-- DELETE of `gc_expired_tickets`, returning the affected rows. -/
def deleteExpired (retentionDays : Int32) (now : Int) (tables : TorTables) :
    Except String (Nat × TorTables) :=
  if isTimestamp (retentionCutoff retentionDays now) then
    .ok (tables.tickets.countWhere (collectible retentionDays now),
      { tables with tickets := tables.tickets.deleteWhere (collectible retentionDays now) })
  else .error "timestamp out of range"

end TorTables

/-- Broker-side lifecycle of a secret. -/
inductive SecretLifecycle where
  | singleUseUnwrap
  | renewableLease
  | serviceBootstrap
deriving DecidableEq

/-- What the crate fills in when it asks the broker for a key; the request's other
fields are always absent. -/
structure MintAeadKeyV2Params where
  ttlSeconds : Option Nat
  label : Option String
  lifecycle : Option SecretLifecycle
  initialLeaseSeconds : Option Nat
deriving DecidableEq

/-- A minted key with the handle and token that redeem it. -/
structure MintAeadKeyV2Lease where
  handle : String
  redeemToken : Option String
  key : Bytes
deriving DecidableEq

/-- What the crate fills in when it redeems a handle. -/
structure UnwrapSecretV2Params where
  handle : String
  redeemToken : Option String
deriving DecidableEq

/-- The replies from outside the database: the broker's, the random generator's
and the local clock's, as transitions of one arbitrary state. -/
structure Externals (σ : Type) where
  mintAeadKeyV2 : MintAeadKeyV2Params → σ → Except String MintAeadKeyV2Lease × σ
  unwrapSecretV2 : UnwrapSecretV2Params → σ → Except String Bytes × σ
  renewLease : String → Nat → σ → Except String Unit × σ
  fillNonce : σ → Except String Nonce × σ
  newUuid : σ → Uuid × σ
  utcNow : σ → Int × σ

/-- The database server and everything outside it. -/
structure World (σ : Type) where
  server : Server TorTables
  outside : σ

/-- One interaction of a call with the database or with the outside. -/
inductive Statement where
  | mintAeadKeyV2 (params : MintAeadKeyV2Params)
  | unwrapSecretV2 (params : UnwrapSecretV2Params)
  | renewLease (handle : String) (leaseDurationSeconds : Nat)
  | fillNonce
  | newUuid
  | utcNow
  | selectCredential (id : Uuid)
  | selectCredentialByEntry (onionEntry : String)
  | insertCredential (row : TorCredential)
  | upsertCredential (row : TorCredential)
  | rotateOperationalOnion (id : Uuid) (newOnion : String) (guardNodes : List String)
  | setEntryOnion (id : Uuid) (entryOnion : String) (guardNodes : List String)
  | updateDisabled (id : Uuid) (disabled : Bool)
  | deleteCredential (id : Uuid)
  | selectSession (id : Uuid)
  | insertSession (columns : SessionRecord Int) (sessionKey : Uuid)
  | selectTicket (id : Uuid)
  | insertTicket (columns : TicketRecord Int)
  | updateRedeemed (id : Uuid) (onion : String)
  | updateExpired (id : Uuid)
  | deleteExpired (retentionDays : Int32)
deriving DecidableEq

/-- The type of each interaction's reply. -/
abbrev Reply : Statement → Type
  | .mintAeadKeyV2 _ => Except String MintAeadKeyV2Lease
  | .unwrapSecretV2 _ => Except String Bytes
  | .renewLease _ _ => Except String Unit
  | .fillNonce => Except String Nonce
  | .newUuid => Uuid
  | .utcNow => Int
  | .selectCredential _ => Except String (Option TorCredential)
  | .selectCredentialByEntry _ => Except String (Option TorCredential)
  | .insertCredential _ => Except String Unit
  | .upsertCredential _ => Except String Unit
  | .rotateOperationalOnion _ _ _ => Except String Unit
  | .setEntryOnion _ _ _ => Except String Unit
  | .updateDisabled _ _ => Except String Unit
  | .deleteCredential _ => Except String Nat
  | .selectSession _ => Except String (Option SessionRow)
  | .insertSession _ _ => Except String Unit
  | .selectTicket _ => Except String (Option TicketRow)
  | .insertTicket _ => Except String TicketRow
  | .updateRedeemed _ _ => Except String Nat
  | .updateExpired _ => Except String Nat
  | .deleteExpired _ => Except String Nat

variable {σ : Type}

/-- Pass a request to the outside. -/
def World.ask {Answer : Type} (request : σ → Answer × σ) (world : World σ) : Answer × World σ :=
  ((request world.outside).1, { world with outside := (request world.outside).2 })

/-- Execute a statement on the server once its parameters are read. -/
def World.sql {Result : Type} (parameters : List Parameter)
    (body : Int → TorTables → Except String (Result × TorTables)) (world : World σ) :
    Except String Result × World σ :=
  let answer := world.server.execute fun now tables => receive parameters (body now tables)
  (answer.1, { world with server := answer.2 })

/-- How database and outside answer each interaction. -/
def exec (externals : Externals σ) : (stmt : Statement) → World σ → Reply stmt × World σ
  | .mintAeadKeyV2 params => World.ask (externals.mintAeadKeyV2 params)
  | .unwrapSecretV2 params => World.ask (externals.unwrapSecretV2 params)
  | .renewLease handle seconds => World.ask (externals.renewLease handle seconds)
  | .fillNonce => World.ask externals.fillNonce
  | .newUuid => World.ask externals.newUuid
  | .utcNow => World.ask externals.utcNow
  | .selectCredential id => World.sql [] (fun _ tables => .ok (tables.credentials.find id, tables))
  | .selectCredentialByEntry onionEntry => World.sql [.text onionEntry] (fun _ tables =>
      .ok (tables.credentials.rows.find? (fun row => row.onionEntry = onionEntry), tables))
  | .insertCredential row => World.sql row.parameters (fun _ tables => tables.insertCredential row)
  | .upsertCredential row => World.sql row.parameters (fun now tables =>
      tables.upsertCredential row now)
  | .rotateOperationalOnion id newOnion guardNodes =>
      World.sql (.text newOnion :: guardNodes.map .text) (fun now tables =>
        tables.rotateOperationalOnion id newOnion guardNodes now)
  | .setEntryOnion id entryOnion guardNodes =>
      World.sql (.text entryOnion :: guardNodes.map .text) (fun now tables =>
        tables.setEntryOnion id entryOnion guardNodes now)
  | .updateDisabled id disabled => World.sql [] (fun now tables =>
      tables.updateDisabled id disabled now)
  | .deleteCredential id => World.sql [] (fun _ tables => tables.deleteCredential id)
  | .selectSession id => World.sql [] (fun _ tables => .ok (tables.sessions.find id, tables))
  | .insertSession columns sessionKey => World.sql columns.parameters (fun now tables =>
      tables.insertSession columns sessionKey now)
  | .selectTicket id => World.sql [] (fun _ tables => .ok (tables.tickets.find id, tables))
  | .insertTicket columns => World.sql columns.parameters (fun now tables =>
      tables.insertTicket columns now)
  | .updateRedeemed id onion => World.sql [.text onion] (fun now tables =>
      tables.updateRedeemed id onion now)
  | .updateExpired id => World.sql [] (fun now tables => tables.updateExpired id now)
  | .deleteExpired retentionDays => World.sql [] (fun now tables =>
      tables.deleteExpired retentionDays now)

/-- What may change by itself: the server's clock and connectivity, and the
outside in any way, lapsing leases included. -/
inductive Drift (σ : Type) where
  | server (act : ServerDrift)
  | outside (next : σ)

/-- The store and its environment. -/
def machine (externals : Externals σ) : Machine (World σ) (Drift σ) Statement Reply where
  exec := exec externals
  drift
    | .server act, world => { world with server := world.server.drift act }
    | .outside next, world => { world with outside := next }

/-- The machine executes statements as the database and the broker do. -/
@[simp] theorem machine_exec (externals : Externals σ) : (machine externals).exec = exec externals :=
  rfl

end SecureDatabase.TorAuth
