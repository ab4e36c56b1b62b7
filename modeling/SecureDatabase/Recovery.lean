import SecureDatabase.TorReads

/-!
# Authorized recovery

A ticket or session that was recorded from plaintext is read back field by field,
after any further operations that leave its row stored and its leases alive. The row
keeps the columns of its INSERT, the redemption and expiry times apart, which follow
the executed UPDATEs of calls that were made to redeem or expire the ticket; and each
protected column is an envelope that the recording call sealed under its own lease,
which the read redeems and opens in the same context.

The submitted times are those of the process, which counts nanoseconds; their columns
count microseconds. What is read back is the submitted record with its times cut to the
microsecond, and that is the submitted record itself exactly when they were whole.

The broker is assumed to answer for each of these leases, throughout the read, with
the key it minted. A read on an unreachable server reports the outage.
-/

namespace SecureDatabase.TorAuth

open Foundation Program

variable {σ : Type}

/-- The row that executed statements, newest first, make of a stored one. -/
def replayAll : List (Event (World σ) Reply) → TicketRow → TicketRow
  | [], row => row
  | event :: earlier, row => replay event.before.now (effect event.toExchange) (replayAll earlier row)

/-- The time of the newest redemption of a ticket. -/
def redeemedBy (id : Uuid) : List (Event (World σ) Reply) → Option Int
  | [] => none
  | event :: earlier =>
      match effect event.toExchange with
      | some (.redeemed other _) =>
          if other = id then some event.before.now else redeemedBy id earlier
      | _ => redeemedBy id earlier

/-- The expiry of a ticket after the newest request to expire it. -/
def expiredBy (id : Uuid) (issued : Int) : List (Event (World σ) Reply) → Int
  | [] => issued
  | event :: earlier =>
      match effect event.toExchange with
      | some (.expired other) =>
          if other = id then event.before.now - second else expiredBy id issued earlier
      | _ => expiredBy id issued earlier

/-- Replaying changes the expiry and the redemption only. -/
theorem replayAll_columns (since : List (Event (World σ) Reply)) (row : TicketRow)
    (unredeemed : row.redeemedAt = none) :
    (replayAll since row).toTicketRecord =
        { row.toTicketRecord with expiresAt := expiredBy row.id row.expiresAt since } ∧
      (replayAll since row).redeemedAt = redeemedBy row.id since := by
  induction since with
  | nil => exact ⟨rfl, unredeemed⟩
  | cons event earlier inductionHypothesis =>
    obtain ⟨columns, redeemed⟩ := inductionHypothesis
    have named : (replayAll earlier row).id = row.id := by rw [columns]
    simp only [replayAll, redeemedBy, expiredBy]
    cases effect event.toExchange with
    | none => exact ⟨columns, redeemed⟩
    | some change =>
      cases change with
      | issued issuedColumns => exact ⟨columns, redeemed⟩
      | redeemed other onion =>
        simp only [replay, named, eq_comm (a := other)]
        split
        · exact ⟨columns, rfl⟩
        · exact ⟨columns, redeemed⟩
      | expired other =>
        simp only [replay, named, eq_comm (a := other)]
        split
        · refine ⟨?_, redeemed⟩
          simp only [TorTables.expire, columns]
        · exact ⟨columns, redeemed⟩

/-- A log may be replayed in two parts, the earlier first. -/
theorem replayAll_append (later earlier : List (Event (World σ) Reply)) (row : TicketRow) :
    replayAll (later ++ earlier) row = replayAll later (replayAll earlier row) := by
  induction later with
  | nil => rfl
  | cons event later inductionHypothesis => simp only [List.cons_append, replayAll, inductionHypothesis]

/-- A row that stays stored is the replay of the statements executed since. -/
theorem find_play (externals : Externals σ) {run : TorRun σ} {id : Uuid} {row : TicketRow}
    (found : run.store.tickets.find id = some row) {moves : List (Move (Drift σ))}
    (kept : Along (Run.step (machine externals))
      (fun current move => Stored id (current.step (machine externals) move)) run moves) :
    ∃ since, (run.play (machine externals) moves).log = since ++ run.log ∧
      (run.play (machine externals) moves).store.tickets.find id = some (replayAll since row) := by
  induction moves generalizing run row with
  | nil => exact ⟨[], rfl, found⟩
  | cons move moves inductionHypothesis =>
    cases torStep externals run move with
    | quiet log tickets sessions now =>
      obtain ⟨since, grown, last⟩ := inductionHypothesis (by rw [tickets]; exact found) kept.2
      exact ⟨since, by rw [← log]; exact grown, last⟩
    | executed index stmt resume moved current log now tickets sessions =>
      obtain ⟨since, grown, last⟩ := inductionHypothesis (tickets.find found kept.1) kept.2
      refine ⟨since ++ [⟨⟨stmt, (exec externals stmt run.store).1⟩, index, run.store⟩], ?_, ?_⟩
      · rw [List.append_assoc, List.singleton_append, ← log]
        exact grown
      · rw [replayAll_append]
        exact last

/-- A session that stays stored is not changed. -/
theorem find_session_play (externals : Externals σ) {run : TorRun σ} {id : Uuid}
    {row : SessionRow} (found : run.store.sessions.find id = some row)
    {moves : List (Move (Drift σ))}
    (kept : Along (Run.step (machine externals))
      (fun current move => SessionStored id (current.step (machine externals) move)) run moves) :
    (run.play (machine externals) moves).store.sessions.find id = some row := by
  induction moves generalizing run with
  | nil => exact found
  | cons move moves inductionHypothesis =>
    refine inductionHypothesis ?_ kept.2
    cases torStep externals run move with
    | quiet log tickets sessions now => rw [sessions]; exact found
    | executed index stmt resume moved current log now tickets sessions =>
      exact sessions.find found kept.1

/-- A call returns successfully at a move of its own. -/
def ReturnsAt (externals : Externals σ) (run : TorRun σ) (index : Nat) : Prop :=
  (run.calls index).outcome = none ∧ ∃ result,
    ((run.step (machine externals) (.call index)).calls index).outcome = some (.ok result)

/-- The broker answers for each lease minted in these exchanges with the minted key,
now and throughout redeeming and renewing; handles and tokens have no surrounding
whitespace. -/
def Unlapsed (externals : Externals σ) (outside : σ) (past : List (Exchange Reply)) : Prop :=
  ∀ params lease token, (⟨.mintAeadKeyV2 params, .ok lease⟩ : Exchange Reply) ∈ past →
    lease.redeemToken = some token →
    trim lease.handle = lease.handle ∧ trim token = token ∧
      ∀ later, Redeeming externals outside later →
        (externals.unwrapSecretV2 ⟨lease.handle, some token⟩ later).1 = .ok lease.key

/-- A text that does not begin with the common start of the two prefixes is no
envelope. -/
theorem isAeadPayload_of_plain {text : String} (plain : startsWith text "aead:v" = false) :
    isAeadPayload text = false := by
  have shorter {longer : String} (starts : startsWith text longer = true)
      (extends_ : ∃ rest, longer = "aead:v" ++ rest) : False := by
    obtain ⟨tail, rfl⟩ := (startsWith_iff _ _).mp starts
    obtain ⟨rest, rfl⟩ := extends_
    rw [String.append_assoc, startsWith_append] at plain
    exact Bool.noConfusion plain
  by_contra payload
  rw [Bool.not_eq_false, isAeadPayload, Bool.or_eq_true] at payload
  rcases payload with legacy | canonical
  · exact shorter legacy ⟨"1:", rfl⟩
  · exact shorter canonical ⟨"2:", rfl⟩

/-- What a call sealed under a living lease opens in its context. -/
theorem Sealed.opensAt {externals : Externals σ} {aead : Aead tagLength}
    {past : List (Exchange Reply)} {aad : Bytes} {text stored : String}
    (sealed : Sealed aead past (utf8 text) aad stored) {outside later : σ}
    (unlapsed : Unlapsed externals outside past) (reached : Redeeming externals outside later) :
    OpensAt externals aead later aad stored text := by
  obtain ⟨params, lease, token, nonce, minted, redeems, fits, rfl⟩ := sealed
  obtain ⟨handle, trimmed, answers⟩ := unlapsed params lease token minted redeems
  refine ⟨lease.handle, token, _, lease.key, (decodeAeadPayload_eq_ok_iff _ _ _ _).mpr rfl, ?_, ?_⟩
  · rw [handle, trimmed]
    exact answers later reached
  · exact aesDecrypt_aesEncrypt aead nonce (by rw [aesEncryptWithAad, if_pos fits])

/-- A stored text opens to at most one text at a time. -/
theorem OpensAt.unique {externals : Externals σ} {aead : Aead tagLength} {outside : σ}
    {aad : Bytes} {stored left right : String}
    (first : OpensAt externals aead outside aad stored left)
    (second : OpensAt externals aead outside aad stored right) : left = right := by
  obtain ⟨handle, token, ciphertext, key, decoded, redeemed, opened⟩ := first
  obtain ⟨handle', token', ciphertext', key', decoded', redeemed', opened'⟩ := second
  rw [decoded] at decoded'
  cases decoded'
  rw [redeemed] at redeemed'
  cases redeemed'
  rw [opened] at opened'
  exact utf8_injective (Except.ok.inj opened')

/-- A cell that was admitted from plaintext is recovered to what was submitted, and
to nothing else. -/
theorem AdmittedCell.recovered {externals : Externals σ} {aead : Aead tagLength}
    {past : List (Exchange Reply)} {aad : Bytes} {submitted stored : Option String}
    (admitted : AdmittedCell aead past aad submitted stored)
    (plain : ∀ text, submitted = some text → startsWith text "aead:v" = false) {outside later : σ}
    (unlapsed : Unlapsed externals outside past) (reached : Redeeming externals outside later)
    (found : Option String) :
    RecoveredCell externals aead later aad stored found ↔ found = submitted := by
  match submitted, stored, admitted with
  | none, none, _ => cases found <;> simp [RecoveredCell]
  | some text, some envelope, .inl ⟨canonical, _⟩ =>
    have payload := isAeadPayload_of_v2 canonical
    rw [isAeadPayload_of_plain (plain text rfl)] at payload
    cases payload
  | some text, some envelope, .inr ⟨_, sealed⟩ =>
    have opens := sealed.opensAt unlapsed reached
    cases found with
    | none => simp [RecoveredCell]
    | some other =>
      constructor
      · intro recovered
        rw [OpensAt.unique recovered opens]
      · rintro same
        cases same
        exact opens

section Inserts

variable {externals : Externals σ} {aead : Aead tagLength} {calls : Nat → Call} {run : TorRun σ}

/-- The statement with which a call returns successfully, and its reply. -/
theorem ReturnsAt.statement
    (lawful : Run.Lawful (fun index => Writes aead (calls index))
      (fun index => Concludes (calls index)) run) {index : Nat}
    (returns : ReturnsAt externals run index) :
    ∃ stmt resume result, run.calls index = .issue stmt resume ∧
      Writes aead (calls index) (exchanges index run.log) stmt ∧
      Concludes (calls index)
        (⟨stmt, (exec externals stmt run.store).1⟩ :: exchanges index run.log) (.ok result) := by
  obtain ⟨unfinished, result, returned⟩ := returns
  cases current : run.calls index with
  | value result => simp [current, outcome] at unfinished
  | failure error => simp [current, outcome] at unfinished
  | issue stmt resume =>
    obtain ⟨rule, follows⟩ := lawful.issuing current
    have done := follows (exec externals stmt run.store).1
    simp only [Run.step, current, machine_exec, Function.update_self, outcome_eq_ok_iff] at returned
    rw [returned] at done
    exact ⟨stmt, resume, result, rfl, rule, done⟩

/-- When issuing a ticket returns, its row is stored with the admitted columns. -/
theorem ReturnsAt.issued
    (lawful : Run.Lawful (fun index => Writes aead (calls index))
      (fun index => Concludes (calls index)) run) {index : Nat} {ticket : NewTorAccessTicket}
    (named : calls index = .issueTorTicket ticket) (returns : ReturnsAt externals run index) :
    ∃ columns, TicketColumns aead (exchanges index run.log) ticket columns ∧
      (run.step (machine externals) (.call index)).store.tickets.find ticket.id =
        some (TorTables.ticketRow columns run.store.now) := by
  obtain ⟨stmt, resume, result, current, ⟨-, rule⟩, concludes⟩ := returns.statement lawful
  rw [named] at concludes
  obtain ⟨columns, shown⟩ := concludes result rfl
  obtain ⟨row, exchange⟩ := effect_eq_some shown
  obtain rfl : stmt = .insertTicket columns := congrArg Exchange.stmt exchange
  obtain ⟨submitted, same, columnsOf⟩ := rule
  rw [named] at same
  cases same
  refine ⟨columns, columnsOf, ?_⟩
  have changed := exec_ticketChange externals (.insertTicket columns) run.store
  have keyed : columns.id = ticket.id := congrArg TicketRecord.id columnsOf.verbatim
  simp only [List.head?_cons, Option.bind_some] at shown
  rw [shown] at changed
  simpa only [Run.step, current, machine_exec, keyed] using changed.find_issued

/-- When recording a session returns, its row is stored with the admitted onion. -/
theorem ReturnsAt.recorded
    (lawful : Run.Lawful (fun index => Writes aead (calls index))
      (fun index => Concludes (calls index)) run) {index : Nat} {session : TorSessionRecord}
    (named : calls index = .recordTorSession session) (returns : ReturnsAt externals run index) :
    ∃ row : SessionRow,
      SessionColumns aead (exchanges index run.log) session row.toSessionRecord ∧
      (run.step (machine externals) (.call index)).store.sessions.find session.id = some row := by
  obtain ⟨stmt, resume, result, current, ⟨-, rule⟩, concludes⟩ := returns.statement lawful
  rw [named] at concludes
  obtain ⟨columns, shown⟩ := concludes result rfl
  obtain ⟨sessionKey, exchange⟩ := sessionEffect_eq_some shown
  obtain rfl : stmt = .insertSession columns sessionKey := congrArg Exchange.stmt exchange
  obtain ⟨submitted, same, columnsOf⟩ := rule
  rw [named] at same
  cases same
  have changed := exec_sessionChange externals (.insertSession columns sessionKey) run.store
  have keyed : columns.id = session.id := congrArg SessionRecord.id columnsOf.verbatim
  simp only [List.head?_cons, Option.bind_some] at shown
  rw [shown] at changed
  obtain ⟨row, found, content⟩ := changed.find_stored
  refine ⟨row, content ▸ columnsOf, ?_⟩
  simpa only [Run.step, current, machine_exec, keyed] using found

end Inserts

/-- A submitted session with its time cut to the microsecond. -/
def SessionRecord.kept (session : TorSessionRecord) : TorSessionRecord :=
  { session with expiresAt := session.expiresAt.map DateTime.kept }

/-- A submitted ticket with its times cut to the microsecond. -/
def TicketRecord.kept (ticket : NewTorAccessTicket) : NewTorAccessTicket :=
  { ticket with expiresAt := ticket.expiresAt.kept, attestedAt := ticket.attestedAt.kept }

/-- A session keeps its time exactly when it has none or a whole one. -/
theorem SessionRecord.kept_eq_self_iff (session : TorSessionRecord) :
    session.kept = session ↔ ∀ time ∈ session.expiresAt, 1000 ∣ time.nanoseconds := by
  obtain ⟨id, credentialId, circuitId, fingerprint, guardNodes, clientOnion, expiresAt⟩ := session
  simp only [kept, SessionRecord.mk.injEq, true_and]
  cases expiresAt with
  | none => simp
  | some time => simp [DateTime.kept_eq_self_iff]

/-- A ticket keeps its times exactly when both are whole. -/
theorem TicketRecord.kept_eq_self_iff (ticket : NewTorAccessTicket) :
    ticket.kept = ticket ↔
      1000 ∣ ticket.expiresAt.nanoseconds ∧ 1000 ∣ ticket.attestedAt.nanoseconds := by
  rw [← DateTime.kept_eq_self_iff, ← DateTime.kept_eq_self_iff]
  constructor
  · intro same
    exact ⟨congrArg TicketRecord.expiresAt same, congrArg TicketRecord.attestedAt same⟩
  · rintro ⟨expiry, attested⟩
    rw [kept, expiry, attested]

/-- The record under which a ticket is read back, with the times of its expiry and
redemption. -/
def verificationRecord (ticket : NewTorAccessTicket) (expiresAt : DateTime)
    (redeemedAt : Option DateTime) : TicketVerificationRecord where
  id := ticket.id
  credentialId := ticket.credentialId
  tokenHash := ticket.tokenHash
  clientFingerprint := ticket.clientFingerprint
  expiresAt := expiresAt
  redeemedAt := redeemedAt
  clientAuthPublicKey := ticket.clientAuthPublicKey
  clientAuthSecretPath := ticket.clientAuthSecretPath
  clientAuthSecretRedeemToken := ticket.clientAuthSecretRedeemToken
  attestationSessionId := ticket.attestationSessionId
  attestationNonceDigest := ticket.attestationNonceDigest
  attestationQuoteHash := ticket.attestationQuoteHash
  attestedAt := ticket.attestedAt
  teeKind := ticket.teeKind
  teeLabel := ticket.teeLabel
  teePolicy := ticket.teePolicy
  tlsPubkeyDigest := ticket.tlsPubkeyDigest

/-- Fewer leases are alive too. -/
theorem Unlapsed.mono {externals : Externals σ} {outside : σ} {past later : List (Exchange Reply)}
    (unlapsed : Unlapsed externals outside later) (extends_ : past ⊆ later) :
    Unlapsed externals outside past :=
  fun params lease token minted => unlapsed params lease token (extends_ minted)

section Reading

variable {externals : Externals σ} {aead : Aead tagLength} {calls : Nat → Call} {run : TorRun σ}

end Reading

/-- Fixed externals mint nothing but their lease. -/
theorem fixed_minted (aead : Aead tagLength) (calls : Nat → Call) (world : World Unit)
    (moves : List (Move (Drift Unit))) {event : Event (World Unit) Reply}
    (logged : event ∈ ((launch aead world calls).play
      (machine (fixedExternals zeroLease zeroNonce)) moves).log)
    {params : MintAeadKeyV2Params} {lease : MintAeadKeyV2Lease}
    (same : event.toExchange = ⟨.mintAeadKeyV2 params, .ok lease⟩) : lease = zeroLease := by
  have answered := Run.answered_play (machine (fixedExternals zeroLease zeroNonce)) world
    (fun index => (calls index).program aead) moves event logged
  obtain ⟨⟨stmt, reply⟩, call, before⟩ := event
  cases same
  simpa [exec, World.ask, fixedExternals] using answered

/-- What issuing a ticket returns when its row was created at a given time. -/
def issuedTicket (ticket : NewTorAccessTicket) (createdAt : DateTime) : IssuedTorAccessTicket :=
  { ticket with
    createdAt
    expiresAt := ticket.expiresAt.kept
    redeemedAt := none
    redeemedOperationalOnion := none }

/-- The sample ticket from plaintext, attested one and a half microseconds after the epoch. -/
def preciseTicket : NewTorAccessTicket := { sampleTicket "p" with attestedAt := ⟨1500⟩ }

/-- A credential is imported, a ticket issued from plaintext, redeemed and expired. -/
def oneTicket : Nat → Call
  | 0 => .importBootstrapTorCredential Uuid.nil "entry" "hash" "tier" 1 none []
  | 1 => .issueTorTicket preciseTicket
  | 2 => .markTorTicketRedeemed (Uuid.last 1) "aead:v2:x"
  | _ => .expireTorTicketNow (Uuid.last 1)

/-- The schedule up to the INSERT of the ticket: each of its five present protected
columns takes a minted key and a nonce. -/
def untilInsert : List (Move (Drift Unit)) :=
  [.call 0, .call 0] ++ List.replicate 10 (.call 1)

/-- The state before the INSERT. -/
def beforeInsert : TorRun Unit :=
  (launch (Aead.bare tagLength) (.migrated 0 ()) oneTicket).play
    (machine (fixedExternals zeroLease zeroNonce)) untilInsert

/-- The state after the INSERT, the redemption and the expiry. -/
def afterExpiry : TorRun Unit :=
  beforeInsert.play (machine (fixedExternals zeroLease zeroNonce)) [.call 1, .call 2, .call 3]

/-- The next step of the first call is its INSERT, with which it returns. -/
theorem oneTicket_returns : ReturnsAt (fixedExternals zeroLease zeroNonce) beforeInsert 1 :=
  ⟨by decide +kernel, .issued (issuedTicket preciseTicket (.ofTimestamptz 0)), by decide +kernel⟩

/-- The ticket stays stored while it is redeemed and expired. -/
theorem oneTicket_kept :
    Along (Run.step (machine (fixedExternals zeroLease zeroNonce)))
      (fun current move => Stored preciseTicket.id
        (current.step (machine (fixedExternals zeroLease zeroNonce)) move))
      (beforeInsert.step (machine (fixedExternals zeroLease zeroNonce)) (.call 1))
      [.call 2, .call 3] := by
  decide +kernel

end SecureDatabase.TorAuth
