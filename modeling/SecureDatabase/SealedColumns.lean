import SecureDatabase.Foundation.TwoRuns
import SecureDatabase.RateLimits

/-!
# Protected columns show in their recovery only

Status and lifecycle operations do not recover secrets. This is a statement about two runs:
the databases agree but for the protected columns of some tickets and sessions, and the
calls, the schedule and the outside are the same. As long as no call recovers one of these
rows, every call ends alike in both runs, the same statements and broker requests are issued
in the same order and answered alike, and the databases go on agreeing but for these columns.
The counting reads then return the same numbers. They are read off the world a schedule
reaches, for they change nothing.

The rows in question are chosen freely. Calls that recover other rows take part as well, so
one ticket's secrets do not show in what is returned about another.
-/

namespace SecureDatabase.TorAuth

open Foundation Program

variable {σ : Type}

/-- The tickets and sessions whose protected columns are in question. -/
structure Concealed where
  tickets : Uuid → Bool
  sessions : Uuid → Bool

/-- A ticket with its protected columns blanked out. -/
def TicketRow.unprotected (row : TicketRow) : TicketRow :=
  { row with
    clientAuthPublicKey := ""
    clientAuthSecretPath := ""
    clientAuthSecretRedeemToken := none
    attestationNonceDigest := ""
    attestationQuoteHash := ""
    tlsPubkeyDigest := ""
    redeemedOperationalOnion := none }

/-- A session with its protected column blanked out. -/
def SessionRow.unprotected (row : SessionRow) : SessionRow := { row with clientOnion := none }

namespace Concealed

variable (concealed : Concealed)

/-- Two versions of a ticket that agree, but for the protected columns if these are in
question. -/
structure AlikeTickets (left right : TicketRow) : Prop where
  lifecycle : left.unprotected = right.unprotected
  shown : concealed.tickets left.id = false → left = right

/-- Two versions of a session that agree, but for its protected column if it is in question. -/
structure AlikeSessions (left right : SessionRow) : Prop where
  rest : left.unprotected = right.unprotected
  shown : concealed.sessions left.id = false → left = right

/-- Databases that agree but for the columns in question. -/
structure AlikeTables (left right : TorTables) : Prop where
  credentials : left.credentials = right.credentials
  sessions : Table.Alike concealed.AlikeSessions left.sessions right.sessions
  tickets : Table.Alike concealed.AlikeTickets left.tickets right.tickets

/-- Servers at the same time and in the same state, with such databases, and the same
outside. -/
structure AlikeWorlds (left right : World σ) : Prop where
  now : left.server.now = right.server.now
  outage : left.server.outage = right.server.outage
  tables : concealed.AlikeTables left.server.tables right.server.tables
  outside : left.outside = right.outside

end Concealed

/-- The same error, or related answers. -/
inductive SameReply {Answer : Type} (related : Answer → Answer → Prop) :
    Except String Answer → Except String Answer → Prop where
  | error (message : String) : SameReply related (.error message) (.error message)
  | ok {left right : Answer} (answers : related left right) :
      SameReply related (.ok left) (.ok right)

/-- Replies that are the same up to equal answers are equal. -/
theorem SameReply.eq {Answer : Type} {left right : Except String Answer}
    (same : SameReply Eq left right) : left = right := by
  cases same with
  | error message => rfl
  | ok answers => rw [answers]

/-- What replies may show: a selected row up to the columns in question, everything else as
it is. -/
def Concealed.AlikeReplies (concealed : Concealed) : (stmt : Statement) → Reply stmt → Reply stmt → Prop
  | .selectTicket id, left, right =>
      SameReply (Option.Rel fun first second => first.id = id ∧ concealed.AlikeTickets first second)
        left right
  | .selectSession id, left, right =>
      SameReply (Option.Rel fun first second => first.id = id ∧ concealed.AlikeSessions first second)
        left right
  | _, left, right => left = right

namespace Concealed

variable {concealed : Concealed}

section Rows

variable {left right : TicketRow} (alike : concealed.AlikeTickets left right)

include alike

/-- Tickets that look alike have one identifier, so an update finds both or neither. -/
theorem AlikeTickets.id : left.id = right.id := congrArg (·.id) alike.lifecycle

/-- They belong to one credential, so its deletion takes both. -/
theorem AlikeTickets.credentialId : left.credentialId = right.credentialId :=
  congrArg (·.credentialId) alike.lifecycle

/-- They were attested in one session, so an insertion conflicts with both or with
neither. -/
theorem AlikeTickets.attestationSessionId :
    left.attestationSessionId = right.attestationSessionId :=
  congrArg (·.attestationSessionId) alike.lifecycle

/-- They expire together. -/
theorem AlikeTickets.expiresAt : left.expiresAt = right.expiresAt :=
  congrArg (·.expiresAt) alike.lifecycle

/-- They were issued together. -/
theorem AlikeTickets.createdAt : left.createdAt = right.createdAt :=
  congrArg (·.createdAt) alike.lifecycle

/-- They were redeemed together, if at all: a redemption shows in its time, and not only
in the protected onion. -/
theorem AlikeTickets.redeemedAt : left.redeemedAt = right.redeemedAt :=
  congrArg (·.redeemedAt) alike.lifecycle

/-- A change that sets columns without reading the protected ones keeps tickets alike. -/
theorem AlikeTickets.change {change : TicketRow → TicketRow} (keeps : ∀ row, (change row).id = row.id)
    (blind : ∀ row, (change row).unprotected = (change row.unprotected).unprotected) :
    concealed.AlikeTickets (change left) (change right) := by
  refine ⟨?_, ?_⟩
  · rw [blind left, blind right, alike.lifecycle]
  · intro shown
    rw [keeps] at shown
    rw [alike.shown shown]

end Rows

/-- A ticket looks like itself. -/
theorem AlikeTickets.refl (row : TicketRow) : concealed.AlikeTickets row row := ⟨rfl, fun _ => rfl⟩

/-- A session looks like itself. -/
theorem AlikeSessions.refl (row : SessionRow) : concealed.AlikeSessions row row :=
  ⟨rfl, fun _ => rfl⟩

/-- Sessions that look alike have one identifier, so a fetch finds both or neither. -/
theorem AlikeSessions.id {left right : SessionRow} (alike : concealed.AlikeSessions left right) :
    left.id = right.id := congrArg (·.id) alike.rest

/-- They belong to one credential, so its deletion takes both. -/
theorem AlikeSessions.credentialId {left right : SessionRow}
    (alike : concealed.AlikeSessions left right) : left.credentialId = right.credentialId :=
  congrArg (·.credentialId) alike.rest

/-- They were recorded together, so counts within a window take both or neither. -/
theorem AlikeSessions.issuedAt {left right : SessionRow}
    (alike : concealed.AlikeSessions left right) : left.issuedAt = right.issuedAt :=
  congrArg (·.issuedAt) alike.rest

/-- They expire together, so counts of the active ones take both or neither. -/
theorem AlikeSessions.expiresAt {left right : SessionRow}
    (alike : concealed.AlikeSessions left right) : left.expiresAt = right.expiresAt :=
  congrArg (·.expiresAt) alike.rest

/-- A statement fails alike in both databases, or answers as related and leaves them alike. -/
inductive AlikeResults (concealed : Concealed) {Result : Type} (related : Result → Result → Prop) :
    Except String (Result × TorTables) → Except String (Result × TorTables) → Prop where
  | error (message : String) : AlikeResults concealed related (.error message) (.error message)
  | ok {leftResult rightResult : Result} {left right : TorTables}
      (answers : related leftResult rightResult) (tables : concealed.AlikeTables left right) :
      AlikeResults concealed related (.ok (leftResult, left)) (.ok (rightResult, right))

/-- Alike worlds answer a statement alike that does so on alike databases. -/
theorem AlikeWorlds.sql {Result : Type} {related : Result → Result → Prop} {left right : World σ}
    (alike : concealed.AlikeWorlds left right)
    {parameters : List Parameter} {body : Int → TorTables → Except String (Result × TorTables)}
    (results : ∀ now, AlikeResults concealed related (body now left.server.tables)
      (body now right.server.tables)) :
    SameReply related (left.sql parameters body).1 (right.sql parameters body).1 ∧
      concealed.AlikeWorlds (left.sql parameters body).2 (right.sql parameters body).2 := by
  have computed := results left.server.now
  simp only [World.sql, Server.execute, ← alike.now, ← alike.outage]
  cases left.server.outage with
  | some message => exact ⟨.error message, alike⟩
  | none =>
    -- a refused parameter fails in both worlds, and the texts sent are the same
    simp only [receive]
    cases parameters.findSome? Parameter.refusal with
    | some message => exact ⟨.error message, alike⟩
    | none =>
      generalize body left.server.now left.server.tables = first at computed
      generalize body left.server.now right.server.tables = second at computed
      cases computed with
      | error message => exact ⟨.error message, alike⟩
      | ok answers tables => exact ⟨.ok answers, ⟨rfl, rfl, tables, alike.outside⟩⟩

section Statements

variable {left right : TorTables} (alike : concealed.AlikeTables left right)

include alike

/-- Credentials are no part of what may differ, so an entry onion is taken in both tables
or in neither. -/
theorem AlikeTables.entryTaken (id : Uuid) (onionEntry : String) :
    left.entryTaken id onionEntry = right.entryTaken id onionEntry := by
  simp only [TorTables.entryTaken, alike.credentials]

/-- A credential is inserted in both tables or refused by both. -/
theorem AlikeTables.insertCredential (row : TorCredential) :
    AlikeResults concealed Eq (left.insertCredential row) (right.insertCredential row) := by
  simp only [TorTables.insertCredential, alike.entryTaken, alike.credentials]
  cases right.credentials.insert? row with
  | none => exact .error _
  | some credentials =>
    cases right.entryTaken row.id row.onionEntry with
    | true => exact .error _
    | false => exact .ok rfl ⟨rfl, alike.sessions, alike.tickets⟩

/-- An update of a credential leaves alike tables alike. -/
theorem AlikeTables.updateCredential (id : Uuid) (change : TorCredential → TorCredential)
    (keeps : ∀ row, (change row).id = row.id) :
    concealed.AlikeTables (left.updateCredential id change keeps)
      (right.updateCredential id change keeps) :=
  ⟨by simp only [TorTables.updateCredential, alike.credentials], alike.sessions, alike.tickets⟩

/-- An import has the same outcome on both. -/
theorem AlikeTables.upsertCredential (row : TorCredential) (now : Int) :
    AlikeResults concealed Eq (left.upsertCredential row now) (right.upsertCredential row now) := by
  simp only [TorTables.upsertCredential, alike.entryTaken, alike.credentials]
  cases right.entryTaken row.id row.onionEntry with
  | true => exact .error _
  | false =>
    cases right.credentials.insert? row with
    | none => exact .ok rfl (alike.updateCredential _ _ _)
    | some credentials => exact .ok rfl ⟨rfl, alike.sessions, alike.tickets⟩

/-- So has a new entry onion, which may be refused. -/
theorem AlikeTables.setEntryOnion (id : Uuid) (entryOnion : String) (guardNodes : List String)
    (now : Int) : AlikeResults concealed Eq (left.setEntryOnion id entryOnion guardNodes now)
      (right.setEntryOnion id entryOnion guardNodes now) := by
  simp only [TorTables.setEntryOnion, alike.entryTaken, alike.credentials]
  cases (right.credentials.find id).isSome && right.entryTaken id entryOnion with
  | true => exact .error _
  | false => exact .ok rfl (alike.updateCredential _ _ _)

/-- A deletion takes the same sessions and tickets with it, because alike rows belong to
one credential. -/
theorem AlikeTables.deleteCredential (id : Uuid) :
    AlikeResults concealed Eq (left.deleteCredential id) (right.deleteCredential id) := by
  simp only [TorTables.deleteCredential, ← alike.credentials]
  refine .ok rfl ⟨rfl, alike.sessions.deleteWhere ?_, alike.tickets.deleteWhere ?_⟩
  · intro old new same
    rw [same.credentialId]
  · intro old new same
    rw [same.credentialId]

/-- A session is inserted in both tables or refused by both: neither its key nor its
credential is protected. -/
theorem AlikeTables.insertSession (columns : SessionRecord Int) (sessionKey : Uuid) (now : Int) :
    AlikeResults concealed Eq (left.insertSession columns sessionKey now)
      (right.insertSession columns sessionKey now) := by
  have inserted := alike.sessions.insert? (fun _ _ same => same.id)
    (AlikeSessions.refl { columns with sessionKey, issuedAt := now })
  simp only [TorTables.insertSession, ← alike.credentials]
  generalize left.sessions.insert? { columns with sessionKey, issuedAt := now } = first at inserted ⊢
  generalize right.sessions.insert? { columns with sessionKey, issuedAt := now } = second
    at inserted ⊢
  cases inserted with
  | none => exact .error _
  | some sessions =>
    simp only
    split
    · exact .ok rfl ⟨rfl, sessions, alike.tickets⟩
    · exact .error _

/-- So is a ticket, for what makes it unique is its identifier and its attestation
session. -/
theorem AlikeTables.insertTicket (columns : TicketRecord Int) (now : Int) :
    AlikeResults concealed Eq (left.insertTicket columns now) (right.insertTicket columns now) := by
  have inserted := alike.tickets.insert? (fun _ _ same => same.id)
    (AlikeTickets.refl (TorTables.ticketRow columns now))
  have taken : left.attestationSessionTaken columns.attestationSessionId =
      right.attestationSessionTaken columns.attestationSessionId := by
    unfold TorTables.attestationSessionTaken
    congr 1
    refine alike.tickets.any ?_
    intro old new same
    rw [same.attestationSessionId]
  simp only [TorTables.insertTicket, ← alike.credentials, ← taken]
  generalize left.tickets.insert? (TorTables.ticketRow columns now) = first at inserted ⊢
  generalize right.tickets.insert? (TorTables.ticketRow columns now) = second at inserted ⊢
  cases inserted with
  | none => exact .error _
  | some tickets =>
    simp only
    split
    · exact .error _
    · split
      · exact .ok rfl ⟨rfl, alike.sessions, tickets⟩
      · exact .error _

/-- An UPDATE of the ticket under an identifier that does not read the protected columns. -/
theorem AlikeTables.updateTicket (id : Uuid) {change : TicketRow → TicketRow}
    (keeps : ∀ row, (change row).id = row.id)
    (blind : ∀ row, (change row).unprotected = (change row.unprotected).unprotected) :
    AlikeResults concealed Eq
      (.ok (left.tickets.countWhere (fun row => row.id = id),
        { left with tickets := left.tickets.updateWhere (fun row => row.id = id) change keeps }))
      (.ok (right.tickets.countWhere (fun row => row.id = id),
        { right with
          tickets := right.tickets.updateWhere (fun row => row.id = id) change keeps })) := by
  have named (old new : TicketRow) (same : concealed.AlikeTickets old new) :
      decide (old.id = id) = decide (new.id = id) := by
    rw [same.id]
  refine .ok (alike.tickets.countWhere named) ⟨alike.credentials, alike.sessions, ?_⟩
  exact alike.tickets.updateWhere keeps named (fun old new same => same.change keeps blind)

/-- A collection takes the same tickets, because it looks at their times only. -/
theorem AlikeTables.deleteExpired (retentionDays : Int32) (now : Int) :
    AlikeResults concealed Eq (left.deleteExpired retentionDays now)
      (right.deleteExpired retentionDays now) := by
  have selected (old new : TicketRow) (same : concealed.AlikeTickets old new) :
      TorTables.collectible retentionDays now old = TorTables.collectible retentionDays now new := by
    unfold TorTables.collectible
    rw [same.expiresAt, same.redeemedAt]
  unfold TorTables.deleteExpired
  split
  · exact .ok (alike.tickets.countWhere selected)
      ⟨alike.credentials, alike.sessions, alike.tickets.deleteWhere selected⟩
  · exact .error _

end Statements

/-- A request to the outside is answered alike. -/
theorem AlikeWorlds.ask {Answer : Type} {left right : World σ}
    (alike : concealed.AlikeWorlds left right) (request : σ → Answer × σ) :
    (left.ask request).1 = (right.ask request).1 ∧
      concealed.AlikeWorlds (left.ask request).2 (right.ask request).2 := by
  unfold World.ask
  rw [alike.outside]
  exact ⟨rfl, alike.now, alike.outage, alike.tables, rfl⟩

/-- Every interaction is answered alike and leaves alike worlds. -/
theorem AlikeWorlds.exec {left right : World σ} (alike : concealed.AlikeWorlds left right)
    (externals : Externals σ) (stmt : Statement) :
    concealed.AlikeReplies stmt (TorAuth.exec externals stmt left).1
        (TorAuth.exec externals stmt right).1 ∧
      concealed.AlikeWorlds (TorAuth.exec externals stmt left).2
        (TorAuth.exec externals stmt right).2 := by
  have sharp {Result : Type} {parameters : List Parameter}
      {body : Int → TorTables → Except String (Result × TorTables)}
      (results : ∀ now, AlikeResults concealed Eq (body now left.server.tables)
        (body now right.server.tables)) :
      (left.sql parameters body).1 = (right.sql parameters body).1 ∧
        concealed.AlikeWorlds (left.sql parameters body).2 (right.sql parameters body).2 := by
    obtain ⟨replies, worlds⟩ := alike.sql results
    exact ⟨replies.eq, worlds⟩
  have tables := alike.tables
  cases stmt with
  | mintAeadKeyV2 params => exact alike.ask _
  | unwrapSecretV2 params => exact alike.ask _
  | renewLease handle seconds => exact alike.ask _
  | fillNonce => exact alike.ask _
  | newUuid => exact alike.ask _
  | utcNow => exact alike.ask _
  | selectCredential id =>
    exact sharp (fun _ => .ok (by rw [tables.credentials]) tables)
  | selectCredentialByEntry onionEntry =>
    exact sharp (fun _ => .ok (by rw [tables.credentials]) tables)
  | insertCredential row => exact sharp (fun _ => tables.insertCredential row)
  | upsertCredential row => exact sharp (fun now => tables.upsertCredential row now)
  | rotateOperationalOnion id newOnion guardNodes =>
    exact sharp (fun _ => .ok rfl (tables.updateCredential _ _ _))
  | setEntryOnion id entryOnion guardNodes =>
    exact sharp (fun now => tables.setEntryOnion id entryOnion guardNodes now)
  | updateDisabled id disabled =>
    exact sharp (fun _ => .ok rfl (tables.updateCredential _ _ _))
  | deleteCredential id => exact sharp (fun _ => tables.deleteCredential id)
  | selectSession id =>
    exact alike.sql fun _ => .ok (tables.sessions.find (fun _ _ same => same.id) id) tables
  | insertSession columns sessionKey =>
    exact sharp (fun now => tables.insertSession columns sessionKey now)
  | selectTicket id =>
    exact alike.sql fun _ => .ok (tables.tickets.find (fun _ _ same => same.id) id) tables
  | insertTicket columns => exact sharp (fun now => tables.insertTicket columns now)
  | updateRedeemed id onion =>
    exact sharp (fun now => tables.updateTicket id (TorTables.redeem_id onion now) (fun _ => rfl))
  | updateExpired id =>
    exact sharp (fun now => tables.updateTicket id (TorTables.expire_id now) (fun _ => rfl))
  | deleteExpired retentionDays => exact sharp (fun now => tables.deleteExpired retentionDays now)

/-- A count that comes out the same on alike databases is the same in alike worlds. -/
theorem AlikeWorlds.count {left right : World σ} (alike : concealed.AlikeWorlds left right)
    {body : Int → TorTables → Except String Nat}
    (blind : ∀ now, body now left.server.tables = body now right.server.tables) :
    left.count body = right.count body := by
  let select (now : Int) (tables : TorTables) : Except String (Nat × TorTables) :=
    (body now tables).map fun total => (total, tables)
  have selected (now : Int) : AlikeResults concealed Eq (select now left.server.tables)
      (select now right.server.tables) := by
    simp only [select, ← blind now]
    cases body now left.server.tables with
    | error message => exact .error message
    | ok total => exact .ok rfl alike.tables
  have counted : SameReply Eq (left.sql [] select).1 (right.sql [] select).1 :=
    (alike.sql selected).1
  exact congrArg (Except.mapError DatabaseError.query) counted.eq

/-- Every counting read returns the same in alike worlds. No protected column decides
whether a row counts. -/
theorem AlikeWorlds.countingRead {left right : World σ} (alike : concealed.AlikeWorlds left right)
    (read : CountingRead) : read.run left = read.run right := by
  have sessions := alike.tables.sessions
  cases read with
  | recentSessions credentialId windowSeconds =>
    refine alike.count fun now => ?_
    refine congrArg (recentCutoff windowSeconds now >>= ·) (funext fun cutoff => ?_)
    refine congrArg Except.ok (sessions.countWhere fun old new same => ?_)
    simp only [sessionSince, same.credentialId, same.issuedAt]
  | recentTickets credentialId windowSeconds =>
    refine alike.count fun now => ?_
    refine congrArg (recentCutoff windowSeconds now >>= ·) (funext fun cutoff => ?_)
    refine congrArg Except.ok (alike.tables.tickets.countWhere fun old new same => ?_)
    simp only [ticketAfter, same.credentialId, same.createdAt]
  | activeSessions =>
    refine alike.count fun now => congrArg Except.ok (sessions.countWhere fun old new same => ?_)
    rw [same.expiresAt]
  | totalSessions =>
    exact alike.count fun now => congrArg Except.ok (sessions.countWhere fun _ _ _ => rfl)
  | activeCredentials =>
    refine alike.count fun now => ?_
    rw [alike.tables.credentials]

/-- The store and its environment do not look at the columns in question. -/
theorem machine_respects (concealed : Concealed) (externals : Externals σ) :
    (machine externals).Respects concealed.AlikeReplies concealed.AlikeWorlds where
  replies stmt _ _ alike := (alike.exec externals stmt).1
  stores stmt _ _ alike := (alike.exec externals stmt).2
  drifts := by
    intro act left right alike
    cases act with
    | outside next => exact ⟨alike.now, alike.outage, alike.tables, rfl⟩
    | server act =>
      cases act with
      | tick microseconds =>
        exact ⟨congrArg (· + (microseconds : Int)) alike.now, alike.outage, alike.tables,
          alike.outside⟩
      | connectivity outage => exact ⟨alike.now, rfl, alike.tables, alike.outside⟩

end Concealed

/-- The requests that seal a protected value. -/
def Statement.IsSealing : Statement → Prop
  | .mintAeadKeyV2 _ => True
  | .fillNonce => True
  | _ => False

/-- The requests that open a protected value. -/
def Statement.IsOpening : Statement → Prop
  | .unwrapSecretV2 _ => True
  | .renewLease _ _ => True
  | _ => False

/-- What a call can issue. -/
def Call.Issues : Call → Statement → Prop
  | .fetchTorCredential onionEntry, stmt => stmt = .selectCredentialByEntry onionEntry
  | .fetchTorCredentialById id, stmt => stmt = .selectCredential id
  | .recordTorSession _, stmt =>
      stmt.IsSealing ∨ stmt = .newUuid ∨ ∃ columns sessionKey, stmt = .insertSession columns sessionKey
  | .fetchTorSession id, stmt => stmt = .selectSession id ∨ stmt.IsOpening
  | .rotateOperationalOnion id newOnion guardNodes, stmt =>
      stmt = .rotateOperationalOnion id newOnion guardNodes
  | .setEntryOnion id entryOnion guardNodes, stmt => stmt = .setEntryOnion id entryOnion guardNodes
  | .importBootstrapTorCredential _ _ _ _ _ _ _, stmt =>
      stmt = .utcNow ∨ ∃ row, stmt = .upsertCredential row
  | .createTorCredential _ _ _ _ _ _, stmt =>
      stmt = .newUuid ∨ stmt = .utcNow ∨ ∃ row, stmt = .insertCredential row
  | .updateTorCredentialDisabled id disabled, stmt => stmt = .updateDisabled id disabled
  | .deleteTorCredential id, stmt => stmt = .deleteCredential id
  | .issueTorTicket _, stmt => stmt.IsSealing ∨ ∃ columns, stmt = .insertTicket columns
  | .fetchTorTicketForVerification id, stmt => stmt = .selectTicket id ∨ stmt.IsOpening
  | .getTorTicketStatus id, stmt => stmt = .selectTicket id
  | .markTorTicketRedeemed id _, stmt => stmt.IsSealing ∨ ∃ onion, stmt = .updateRedeemed id onion
  | .expireTorTicketNow id, stmt => stmt = .updateExpired id
  | .gcExpiredTickets retentionDays, stmt => stmt = .deleteExpired retentionDays

section Footprints

variable (aead : Aead tagLength) {kind : Statement → Prop}

/-- Wrapping the error of a reply asks for nothing. -/
theorem only_mapErr {α : Type} (errors : String → DatabaseError) (reply : Except String α) :
    (mapErr errors reply).Only kind := by
  cases reply <;> trivial

/-- Sealing asks for a key and a nonce only. -/
theorem encryptWithNewAead_only (seals : ∀ stmt : Statement, stmt.IsSealing → kind stmt)
    (plaintext aad : Bytes) (label : String) :
    (encryptWithNewAead aead plaintext aad label).Only kind := by
  refine (only_ask (seals (.mintAeadKeyV2 _) trivial)).bind fun reply => ?_
  refine (only_mapErr _ reply).bind fun lease => (only_ofExcept _).bind fun token => ?_
  refine (only_ask (seals .fillNonce trivial)).bind fun random => ?_
  exact (only_mapErr _ random).bind fun nonce => (only_ofExcept _).bind fun _ => trivial

/-- What may be sealed or kept asks for no more than sealing does. -/
theorem ensureAeadEncrypted_only (seals : ∀ stmt : Statement, stmt.IsSealing → kind stmt)
    (submitted : Option String) (aad : Bytes) (label : String) :
    (ensureAeadEncrypted aead submitted aad label).Only kind := by
  cases submitted with
  | none => trivial
  | some existing =>
    simp only [ensureAeadEncrypted]
    split
    · trivial
    · split
      · trivial
      · exact (encryptWithNewAead_only aead seals _ _ _).bind fun _ => trivial

/-- Nor does what has to be sealed or kept. -/
theorem ensureAeadEncryptedRequired_only (seals : ∀ stmt : Statement, stmt.IsSealing → kind stmt)
    (submitted : String) (aad : Bytes) (label field : String) :
    (ensureAeadEncryptedRequired aead submitted aad label field).Only kind :=
  (ensureAeadEncrypted_only aead seals _ _ _).bind fun _ => only_ofExcept _

/-- Opening asks for the redemption of a handle, and for the renewal of its lease. -/
theorem decryptWithBroker_only (opens : ∀ stmt : Statement, stmt.IsOpening → kind stmt)
    (encoded : String) (aad : Bytes) : (decryptWithBroker aead encoded aad).Only kind := by
  refine (only_ofExcept _).bind ?_
  rintro ⟨handle, redeemToken, ciphertext⟩
  refine (only_ofExcept _).bind fun token => ?_
  refine (only_ask (opens (.unwrapSecretV2 _) trivial)).bind fun reply => ?_
  refine (only_mapErr _ reply).bind fun key => ?_
  refine (only_ask (opens (.renewLease _ _) trivial)).bind fun _ => ?_
  exact (only_ofExcept _).bind fun _ => only_ofExcept _

/-- What may be absent asks for no more than opening does. -/
theorem decryptAeadOptional_only (opens : ∀ stmt : Statement, stmt.IsOpening → kind stmt)
    (cell : Option String) (aad : Bytes) (label : String) :
    (decryptAeadOptional aead cell aad label).Only kind := by
  cases cell with
  | none => trivial
  | some stored =>
    simp only [decryptAeadOptional]
    split
    · exact (decryptWithBroker_only aead opens _ _).bind fun _ => trivial
    · split <;> trivial

/-- Nor does what has to be there. -/
theorem decryptAeadRequired_only (opens : ∀ stmt : Statement, stmt.IsOpening → kind stmt)
    (cell : String) (aad : Bytes) (label field : String) :
    (decryptAeadRequired aead cell aad label field).Only kind :=
  (decryptAeadOptional_only aead opens _ _ _).bind fun _ => only_ofExcept _

/-- The recovery of a ticket asks for its six openings. -/
theorem recoverTicket_only (opens : ∀ stmt : Statement, stmt.IsOpening → kind stmt)
    (row : TicketRow) : (recoverTicket aead row).Only kind := by
  refine (decryptAeadRequired_only aead opens _ _ _ _).bind fun _ => ?_
  refine (decryptAeadRequired_only aead opens _ _ _ _).bind fun _ => ?_
  refine (decryptAeadOptional_only aead opens _ _ _).bind fun _ => ?_
  refine (decryptAeadRequired_only aead opens _ _ _ _).bind fun _ => ?_
  refine (decryptAeadRequired_only aead opens _ _ _ _).bind fun _ => ?_
  exact (decryptAeadRequired_only aead opens _ _ _ _).bind fun _ => trivial

/-- A call issues what it can, whatever replies it receives. -/
theorem Call.only_issues (call : Call) : (call.program aead).Only call.Issues := by
  cases call with
  | fetchTorCredential onionEntry => exact ⟨rfl, by rintro (message | found) <;> trivial⟩
  | fetchTorCredentialById id => exact ⟨rfl, by rintro (message | found) <;> trivial⟩
  | recordTorSession session =>
    refine Only.bind ?_ fun _ => trivial
    refine (ensureAeadEncrypted_only aead (fun _ => Or.inl) _ _ _).bind fun onion => ?_
    refine ⟨.inr (.inl rfl), fun sessionKey => ⟨.inr (.inr ⟨_, _, rfl⟩), ?_⟩⟩
    rintro (message | done) <;> trivial
  | fetchTorSession id =>
    refine Only.bind ?_ fun _ => trivial
    refine ⟨.inl rfl, ?_⟩
    rintro (message | _ | row)
    · trivial
    · trivial
    · have recovered : (intoRecord aead row).Only (Call.fetchTorSession id).Issues :=
        (decryptAeadOptional_only aead (fun _ => Or.inr) _ _ _).bind fun _ => trivial
      exact recovered.bind fun _ => trivial
  | rotateOperationalOnion id newOnion guardNodes =>
    exact ⟨rfl, by rintro (message | done) <;> trivial⟩
  | setEntryOnion id entryOnion guardNodes =>
    exact ⟨rfl, by rintro (message | done) <;> trivial⟩
  | importBootstrapTorCredential id entry hash tier rate expiresAt guardNodes =>
    refine ⟨.inl rfl, fun now => ⟨.inr ⟨_, rfl⟩, ?_⟩⟩
    rintro (message | done) <;> trivial
  | createTorCredential entry hash tier rate expiresAt guardNodes =>
    refine ⟨.inl rfl, fun id => ⟨.inr (.inl rfl), fun now => ⟨.inr (.inr ⟨_, rfl⟩), ?_⟩⟩⟩
    rintro (message | done) <;> trivial
  | updateTorCredentialDisabled id disabled =>
    exact ⟨rfl, by rintro (message | done) <;> trivial⟩
  | deleteTorCredential id => exact ⟨rfl, by rintro (message | done) <;> trivial⟩
  | issueTorTicket ticket =>
    have seals : ∀ stmt : Statement, stmt.IsSealing → (Call.issueTorTicket ticket).Issues stmt :=
      fun _ => Or.inl
    refine Only.bind ?_ fun _ => trivial
    refine (ensureAeadEncryptedRequired_only aead seals _ _ _ _).bind fun _ => ?_
    refine (ensureAeadEncryptedRequired_only aead seals _ _ _ _).bind fun _ => ?_
    refine (ensureAeadEncryptedRequired_only aead seals _ _ _ _).bind fun _ => ?_
    refine (ensureAeadEncryptedRequired_only aead seals _ _ _ _).bind fun _ => ?_
    refine (ensureAeadEncrypted_only aead seals _ _ _).bind fun _ => ?_
    refine (ensureAeadEncryptedRequired_only aead seals _ _ _ _).bind fun _ => ?_
    refine ⟨.inr ⟨_, rfl⟩, ?_⟩
    rintro (message | row) <;> trivial
  | fetchTorTicketForVerification id =>
    refine Only.bind ?_ fun _ => trivial
    refine ⟨.inl rfl, ?_⟩
    rintro (message | _ | row)
    · trivial
    · trivial
    · exact (recoverTicket_only aead (fun _ => Or.inr) row).bind fun _ => trivial
  | getTorTicketStatus id => exact ⟨rfl, by rintro (message | found) <;> trivial⟩
  | markTorTicketRedeemed id onion =>
    have stored : (storedOnion aead id onion).Only (Call.markTorTicketRedeemed id onion).Issues := by
      unfold storedOnion
      split
      · trivial
      · exact encryptWithNewAead_only aead (fun _ => Or.inl) _ _ _
    refine Only.bind (stored.bind fun onion => ⟨.inr ⟨_, rfl⟩, ?_⟩) fun _ => trivial
    rintro (message | count) <;> trivial
  | expireTorTicketNow id => exact ⟨rfl, by rintro (message | done) <;> trivial⟩
  | gcExpiredTickets retentionDays => exact ⟨rfl, by rintro (message | done) <;> trivial⟩

end Footprints

/-- Whether a call recovers the protected columns of a row in question. -/
def Concealed.recoveredBy (concealed : Concealed) : Call → Bool
  | .fetchTorTicketForVerification id => concealed.tickets id
  | .fetchTorSession id => concealed.sessions id
  | _ => false

/-- Whether a call recovers protected columns at all. -/
def Call.recovers : Call → Bool
  | .fetchTorTicketForVerification _ | .fetchTorSession _ => true
  | _ => false

namespace Concealed

variable {concealed : Concealed}

/-- Other statements than the selection of a row in question show no difference. -/
theorem eq_of_alikeReplies {stmt : Statement} {left right : Reply stmt}
    (alike : concealed.AlikeReplies stmt left right)
    (shownTicket : ∀ id, stmt = .selectTicket id → concealed.tickets id = false)
    (shownSession : ∀ id, stmt = .selectSession id → concealed.sessions id = false) :
    left = right := by
  cases stmt with
  | selectTicket id =>
    cases alike with
    | error message => rfl
    | ok answers =>
      cases answers with
      | none => rfl
      | some same => rw [same.2.shown (by rw [same.1]; exact shownTicket id rfl)]
  | selectSession id =>
    cases alike with
    | error message => rfl
    | ok answers =>
      cases answers with
      | none => rfl
      | some same => rw [same.2.shown (by rw [same.1]; exact shownSession id rfl)]
  | _ => exact alike

/-- The status of a ticket is the same in both databases. -/
theorem getTorTicketStatus_inStep (aead : Aead tagLength) (id : Uuid) :
    InStep concealed.AlikeReplies ((Call.getTorTicketStatus id).program aead)
      ((Call.getTorTicketStatus id).program aead) := by
  refine .issue (Statement.selectTicket id) ?_
  intro first second alike
  cases alike with
  | error message => exact .failure _
  | ok answers =>
    cases answers with
    | none => exact .value _
    | some same =>
      change InStep _ (.value (Returned.status (some _))) (.value (Returned.status (some _)))
      simp only [same.2.id, same.2.credentialId, same.2.expiresAt, same.2.redeemedAt]
      exact .value _

/-- A call that recovers no row in question goes on alike in both runs. -/
theorem inStep_of_unrecovered (aead : Aead tagLength) {call : Call}
    (unrecovered : concealed.recoveredBy call = false) :
    InStep concealed.AlikeReplies (call.program aead) (call.program aead) := by
  cases call with
  | getTorTicketStatus id => exact getTorTicketStatus_inStep aead id
  | fetchTorTicketForVerification id =>
    refine InStep.of_only ((Call.only_issues aead _).mono ?_)
    rintro stmt (rfl | opens) first second alike
    · refine eq_of_alikeReplies alike ?_ (fun _ same => nomatch same)
      rintro other ⟨⟩
      exact unrecovered
    · refine eq_of_alikeReplies alike ?_ ?_ <;>
        · rintro other rfl
          exact opens.elim
  | fetchTorSession id =>
    refine InStep.of_only ((Call.only_issues aead _).mono ?_)
    rintro stmt (rfl | opens) first second alike
    · refine eq_of_alikeReplies alike (fun _ same => nomatch same) ?_
      rintro other ⟨⟩
      exact unrecovered
    · refine eq_of_alikeReplies alike ?_ ?_ <;>
        · rintro other rfl
          exact opens.elim
  | _ =>
    -- none of the other calls selects a ticket or a session
    refine InStep.of_only ((Call.only_issues aead _).mono ?_)
    intro stmt issues first second alike
    refine eq_of_alikeReplies alike ?_ ?_ <;>
      · rintro other rfl
        simp [Call.Issues, Statement.IsSealing] at issues

end Concealed

section Runs

variable (externals : Externals σ) (aead : Aead tagLength)

/-- In every schedule, keys of stored values are redeemed and renewed by calls that recover
protected columns, and by no others. -/
theorem recovers_of_opening (world : World σ) (calls : Nat → Call) (moves : List (Move (Drift σ)))
    {event : Event (World σ) Reply}
    (executed : event ∈ ((launch aead world calls).play (machine externals) moves).log)
    (opens : event.stmt.IsOpening) : (calls event.call).recovers = true := by
  have lawful := Run.lawful_play (machine externals) world (fun index => (calls index).program aead)
    (fun index => ((calls index).only_issues aead).follows []) moves
  obtain ⟨later, earlier, split⟩ := List.append_of_mem executed
  have issues := lawful.executed later event earlier split
  cases issuer : calls event.call with
  | fetchTorTicketForVerification id => rfl
  | fetchTorSession id => rfl
  | _ =>
    rw [issuer] at issues
    generalize event.stmt = stmt at issues opens
    cases stmt <;> simp [Call.Issues, Statement.IsSealing, Statement.IsOpening] at issues opens

/-- What two runs of the same calls show of the columns in question: nothing. -/
structure Unobservable (concealed : Concealed) (calls : Nat → Call) (left right : TorRun σ) :
    Prop where
  outcomes : ∀ index, (left.calls index).outcome = (right.calls index).outcome
  requests : left.trace = right.trace
  exchanges : List.Forall₂ (Run.AlikeEvents concealed.AlikeReplies concealed.AlikeWorlds)
    left.log right.log
  counts : ∀ read : CountingRead, read.run left.store = read.run right.store
  stores : concealed.AlikeWorlds left.store right.store
  authority : ∀ event ∈ left.log, event.stmt.IsOpening → (calls event.call).recovers = true

/-- Whatever two databases hold in the protected columns of some tickets and sessions, a schedule
of calls none of which recovers one of these rows shows no difference: every call ends alike, the
same statements and broker requests are issued in the same order and answered alike, every counting
read returns the same, and the databases still agree in everything else. Keys of stored values are
redeemed by recovering calls only.

Proof: a call that recovers none of the rows stays in step with itself, for the replies that show
a difference are to selections which it does not issue, or of which it reads the lifecycle only.
Every statement leaves alike databases alike. -/
theorem protected_columns_unobservable (concealed : Concealed) (calls : Nat → Call)
    (unrecovered : ∀ index, concealed.recoveredBy (calls index) = false) {left right : World σ}
    (alike : concealed.AlikeWorlds left right) (moves : List (Move (Drift σ))) :
    Unobservable concealed calls ((launch aead left calls).play (machine externals) moves)
      ((launch aead right calls).play (machine externals) moves) := by
  have start : Run.Alike concealed.AlikeReplies concealed.AlikeWorlds (launch aead left calls)
      (launch aead right calls) :=
    ⟨alike, fun index => Concealed.inStep_of_unrecovered aead (unrecovered index), .nil⟩
  have reached := start.play (concealed.machine_respects externals) moves
  refine ⟨fun index => (reached.calls index).outcome_eq, reached.trace_eq, reached.logs,
    reached.stores.countingRead, reached.stores, ?_⟩
  intro index executed opens
  exact recovers_of_opening externals aead left calls moves executed opens

end Runs

/-- A database with one ticket, its protected columns filled with a text. -/
def oneTicketWorld (text : String) : World Unit where
  server := ⟨0, none,
    { TorTables.empty with
      tickets := Table.empty.insert (TorTables.ticketRow (sampleTicket text).bound 0) rfl }⟩
  outside := ()

/-- The status of the ticket is asked for, it is redeemed, and expired tickets are collected. -/
def statusCalls : Nat → Call
  | 0 => .getTorTicketStatus (Uuid.last 1)
  | 1 => .markTorTicketRedeemed (Uuid.last 1) "onion"
  | _ => .gcExpiredTickets 0

/-- Two databases with different protected columns are told apart by none of these calls. -/
theorem protected_columns_unobservable_oneTicket :
    (oneTicketWorld "a").tickets.rows ≠ (oneTicketWorld "b").tickets.rows ∧
      Unobservable ⟨fun _ => true, fun _ => true⟩ statusCalls
        ((launch (Aead.framed tagLength) (oneTicketWorld "a") statusCalls).play
          (machine (fixedExternals zeroLease zeroNonce))
          [.call 0, .call 1, .call 1, .call 1, .call 2])
        ((launch (Aead.framed tagLength) (oneTicketWorld "b") statusCalls).play
          (machine (fixedExternals zeroLease zeroNonce))
          [.call 0, .call 1, .call 1, .call 1, .call 2]) := by
  refine ⟨by decide, ?_⟩
  apply protected_columns_unobservable
  · rintro (_ | _ | index) <;> rfl
  · exact ⟨rfl, rfl, ⟨rfl, .nil, .cons ⟨rfl, fun shown => nomatch shown⟩ .nil⟩, rfl⟩

end SecureDatabase.TorAuth
