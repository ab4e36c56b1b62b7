import SecureDatabase.Recovery

/-!
# Acceptance and recoverability

A write admits a submitted text by its canonical prefix alone, and a read demands
more of it: three base64 segments, a handle and token that the broker redeems, a
ciphertext that opens in the context of this record, and UTF-8. With a broker that
keeps every key it minted, a read after an accepted write succeeds exactly when each
submitted text with the canonical prefix meets these demands; texts that the write
sealed itself always do.
-/

namespace SecureDatabase.TorAuth

open Foundation Program

variable {σ : Type}

/-- A broker with a fixed table of keys, in which every minted lease is found under
its handle and token as the crate submits them. -/
structure KeepsKeys (externals : Externals σ) (outside : σ) (log : List (Event (World σ) Reply))
    (keyOf : String → String → Except String Bytes) : Prop where
  answers : ∀ later handle token, Redeeming externals outside later →
    (externals.unwrapSecretV2 ⟨handle, some token⟩ later).1 = keyOf handle token
  minted : ∀ event ∈ log, ∀ params lease token,
    event.toExchange = ⟨.mintAeadKeyV2 params, .ok lease⟩ → lease.redeemToken = some token →
    keyOf (trim lease.handle) (trim token) = .ok lease.key

/-- A text is a well-formed envelope of a context: it decodes, its handle and token
are in the table, and the key opens it there as UTF-8. -/
def WellFormed (aead : Aead tagLength) (keyOf : String → String → Except String Bytes)
    (aad : Bytes) (text : String) : Prop :=
  ∃ handle token ciphertext key plaintext,
    decodeAeadPayload text = .ok (handle, some token, ciphertext) ∧
    keyOf (trim handle) (trim token) = .ok key ∧
    aesDecryptWithAad aead key ciphertext aad = .ok (utf8 plaintext)

section Cells

variable {externals : Externals σ} {aead : Aead tagLength} {outside later : σ}
  {log : List (Event (World σ) Reply)} {keyOf : String → String → Except String Bytes}

/-- With a fixed table a stored text opens at one state exactly when it is well
formed. -/
theorem KeepsKeys.opensAt_iff (keeps : KeepsKeys externals outside log keyOf)
    (reached : Redeeming externals outside later) (aad : Bytes) (stored : String) :
    (∃ text, OpensAt externals aead later aad stored text) ↔ WellFormed aead keyOf aad stored := by
  constructor
  · rintro ⟨text, handle, token, ciphertext, key, decoded, redeemed, opened⟩
    rw [keeps.answers later _ _ reached] at redeemed
    exact ⟨handle, token, ciphertext, key, text, decoded, redeemed, opened⟩
  · rintro ⟨handle, token, ciphertext, key, text, decoded, redeemed, opened⟩
    refine ⟨text, handle, token, ciphertext, key, decoded, ?_, opened⟩
    rw [keeps.answers later _ _ reached]
    exact redeemed

/-- What a call of the schedule sealed is well formed in its context. -/
theorem Sealed.wellFormed (keeps : KeepsKeys externals outside log keyOf) {index : Nat}
    {aad : Bytes} {text stored : String}
    (sealed : Sealed aead (exchanges index log) (utf8 text) aad stored) :
    WellFormed aead keyOf aad stored := by
  obtain ⟨params, lease, token, nonce, minted, redeems, fits, rfl⟩ := sealed
  obtain ⟨event, logged, same⟩ := List.mem_map.mp minted
  have key := keeps.minted event (List.mem_filter.mp logged).1 params lease token same redeems
  exact ⟨lease.handle, token, _, lease.key, text, (decodeAeadPayload_eq_ok_iff _ _ _ _).mpr rfl,
    key, aesDecrypt_aesEncrypt aead nonce (by rw [aesEncryptWithAad, if_pos fits])⟩

/-- An admitted cell is recoverable exactly when a submitted envelope in it is well
formed. -/
theorem AdmittedCell.recoverable_iff (keeps : KeepsKeys externals outside log keyOf)
    (reached : Redeeming externals outside later) {index : Nat} {aad : Bytes}
    {submitted stored : Option String}
    (admitted : AdmittedCell aead (exchanges index log) aad submitted stored) :
    (∃ found, RecoveredCell externals aead later aad stored found) ↔
      ∀ text, submitted = some text → isAeadPayloadV2 text = true →
        WellFormed aead keyOf aad text := by
  match submitted, stored, admitted with
  | none, none, _ =>
    refine iff_of_true ⟨none, trivial⟩ ?_
    rintro _ same -
    cases same
  | some text, some envelope, admitted =>
    have opens : (∃ found, RecoveredCell externals aead later aad (some envelope) found) ↔
        WellFormed aead keyOf aad envelope := by
      rw [← keeps.opensAt_iff reached]
      constructor
      · rintro ⟨found, recovered⟩
        obtain ⟨plain, rfl⟩ := recovered.present externals aead
        exact ⟨plain, recovered⟩
      · exact fun ⟨plain, recovered⟩ => ⟨some plain, recovered⟩
    rw [opens]
    rcases admitted with ⟨canonical, rfl⟩ | ⟨plain, sealed⟩
    · constructor
      · rintro wellFormed _ same -
        cases same
        exact wellFormed
      · exact fun demanded => demanded _ rfl canonical
    · refine iff_of_true (sealed.wellFormed keeps) ?_
      rintro _ same canonical
      cases same
      rw [isAeadPayload_of_v2 canonical] at plain
      exact Bool.noConfusion plain

end Cells

section Reading

variable {externals : Externals σ} {aead : Aead tagLength} {calls : Nat → Call} {run : TorRun σ}
  {keyOf : String → String → Except String Bytes}

/-- A read after an accepted ticket succeeds exactly when its submitted envelopes are
well formed. -/
theorem ticket_recoverable_iff
    (lawful : Run.Lawful (fun index => Writes aead (calls index))
      (fun index => Concludes (calls index)) run)
    {index : Nat} {ticket : NewTorAccessTicket} (named : calls index = .issueTorTicket ticket)
    (returns : ReturnsAt externals run index) {rest : List (Move (Drift σ))}
    (kept : Along (Run.step (machine externals))
      (fun current move => Stored ticket.id (current.step (machine externals) move))
      (run.step (machine externals) (.call index)) rest) {last : TorRun σ}
    (continued : last = run.play (machine externals) (.call index :: rest))
    (keeps : KeepsKeys externals last.store.outside last.log keyOf)
    (reachable : last.store.server.outage = none) :
    (∃ found, ((fetchTorTicketForVerification aead ticket.id).run (exec externals)
        last.store).1 = .ok found) ↔
      ∀ (field : TicketField) text, field.cell ticket = some text →
        isAeadPayloadV2 text = true → WellFormed aead keyOf (field.context ticket.id) text := by
  obtain ⟨columns, columnsOf, inserted⟩ := returns.issued lawful named
  obtain ⟨since, -, found⟩ := find_play externals inserted kept
  have past : exchanges index run.log ⊆ exchanges index last.log := by
    rw [continued]
    exact exchanges_play externals run (.call index :: rest) index
  obtain ⟨content, -⟩ := replayAll_columns since (TorTables.ticketRow columns run.store.now) rfl
  have located : last.store.tickets.find ticket.id =
      some (replayAll since (TorTables.ticketRow columns run.store.now)) := by
    rw [continued]
    exact found
  generalize replayAll since (TorTables.ticketRow columns run.store.now) = row at *
  have keyed : row.id = ticket.id := by
    have key := Table.key_of_find located
    exact key
  have recoverable (field : TicketField) {later : σ}
      (reached : Redeeming externals last.store.outside later) :
      (∃ plain, RecoveredCell externals aead later (field.context row.id)
        (field.cell row.toTicketRecord) plain) ↔
      ∀ text, field.cell ticket = some text → isAeadPayloadV2 text = true →
        WellFormed aead keyOf (field.context ticket.id) text := by
    have cells : field.cell row.toTicketRecord = field.cell columns := by
      rw [content]
      cases field <;> rfl
    rw [cells, keyed]
    exact ((columnsOf.admitted field).mono aead past).recoverable_iff keeps reached
  constructor
  · rintro ⟨answer, returned⟩ field
    have whole := fetchTorTicketForVerification_found externals aead reachable located
    rw [whole] at returned
    obtain ⟨record, between, recovers, -⟩ :=
      (run_bind_eq_ok_iff _ _ _ _ _ _).mp (Prod.ext returned rfl)
    obtain ⟨later, reached, cell⟩ := (recoverTicket_sound externals aead recovers).1.recovered field
    exact (recoverable field reached).mp ⟨_, cell⟩
  · intro demanded
    obtain ⟨record, returned, -⟩ := fetchTorTicketForVerification_complete externals aead reachable
      located (fun field later reached => (recoverable field reached).mpr (demanded field))
    exact ⟨some record, returned⟩

/-- A read after an accepted session succeeds exactly when its submitted envelope is
well formed. -/
theorem session_recoverable_iff
    (lawful : Run.Lawful (fun index => Writes aead (calls index))
      (fun index => Concludes (calls index)) run)
    {index : Nat} {session : TorSessionRecord} (named : calls index = .recordTorSession session)
    (returns : ReturnsAt externals run index) {rest : List (Move (Drift σ))}
    (kept : Along (Run.step (machine externals))
      (fun current move => SessionStored session.id (current.step (machine externals) move))
      (run.step (machine externals) (.call index)) rest) {last : TorRun σ}
    (continued : last = run.play (machine externals) (.call index :: rest))
    (keeps : KeepsKeys externals last.store.outside last.log keyOf)
    (reachable : last.store.server.outage = none) :
    (∃ found, ((fetchTorSession aead session.id).run (exec externals) last.store).1 =
        .ok found) ↔
      ∀ text, session.clientOnion = some text → isAeadPayloadV2 text = true →
        WellFormed aead keyOf (clientOnionContext session.id) text := by
  obtain ⟨row, columnsOf, inserted⟩ := returns.recorded lawful named
  have located : last.store.sessions.find session.id = some row := by
    rw [continued]
    exact find_session_play externals inserted kept
  have past : exchanges index run.log ⊆ exchanges index last.log := by
    rw [continued]
    exact exchanges_play externals run (.call index :: rest) index
  have keyed : row.id = session.id := by
    have key := Table.key_of_find located
    exact key
  rw [← (columnsOf.admitted.mono aead past).recoverable_iff keeps .refl, ← keyed]
  constructor
  · rintro ⟨answer, returned⟩
    have whole := fetchTorSession_found externals aead reachable located
    rw [keyed, whole] at returned
    obtain ⟨record, between, recovers, -⟩ :=
      (run_bind_eq_ok_iff _ _ _ _ _ _).mp (Prod.ext returned rfl)
    exact ⟨_, ((intoRecord_eq_ok_iff externals aead row record last.store).mp ⟨_, recovers⟩).1⟩
  · rintro ⟨plain, recovered⟩
    rw [keyed]
    exact ⟨_, fetchTorSession_complete externals aead reachable located recovered⟩

end Reading

/-- From any state of any schedule over any world: when recording a session or
issuing a ticket returns, a following fetch on a reachable server, after any moves
that leave the row stored and with a broker that keeps every key it minted, succeeds
exactly when each submitted protected text with the canonical prefix is a
well-formed envelope of its row and column.

Proof: a write that returns has stored, in each column, a sealed envelope or the submitted
text with the canonical prefix. The former is recovered because its key is kept; the latter is
decoded and opened as it is, which is what being well formed means. -/
theorem accepted_recoverable_iff (externals : Externals σ) (aead : Aead tagLength)
    (calls : Nat → Call) (world : World σ) (first rest : List (Move (Drift σ))) (index : Nat)
    (run last : TorRun σ) (keyOf : String → String → Except String Bytes)
    (reached : run = (launch aead world calls).play (machine externals) first)
    (continued : last = run.play (machine externals) (.call index :: rest))
    (returns : ReturnsAt externals run index)
    (keeps : KeepsKeys externals last.store.outside last.log keyOf)
    (reachable : last.store.server.outage = none) :
    (∀ session, calls index = .recordTorSession session →
      Along (Run.step (machine externals))
        (fun current move => SessionStored session.id (current.step (machine externals) move))
        (run.step (machine externals) (.call index)) rest →
      ((∃ found, ((fetchTorSession aead session.id).run (exec externals) last.store).1 =
          .ok found) ↔
        ∀ text, session.clientOnion = some text → isAeadPayloadV2 text = true →
          WellFormed aead keyOf (clientOnionContext session.id) text)) ∧
    ∀ ticket, calls index = .issueTorTicket ticket →
      Along (Run.step (machine externals))
        (fun current move => Stored ticket.id (current.step (machine externals) move))
        (run.step (machine externals) (.call index)) rest →
      ((∃ found, ((fetchTorTicketForVerification aead ticket.id).run (exec externals)
          last.store).1 = .ok found) ↔
        ∀ (field : TicketField) text, field.cell ticket = some text →
          isAeadPayloadV2 text = true → WellFormed aead keyOf (field.context ticket.id) text) := by
  subst reached
  have lawful := lawful_calls externals aead world calls first
  refine ⟨?_, ?_⟩
  · intro session named kept
    exact session_recoverable_iff lawful named returns kept continued keeps reachable
  · intro ticket named kept
    exact ticket_recoverable_iff lawful named returns kept continued keeps reachable

/-- Fixed externals keep the key they mint. -/
theorem fixed_keepsKeys (aead : Aead tagLength) (calls : Nat → Call) (world : World Unit)
    (moves : List (Move (Drift Unit))) (outside : Unit) :
    KeepsKeys (fixedExternals zeroLease zeroNonce) outside ((launch aead world calls).play
      (machine (fixedExternals zeroLease zeroNonce)) moves).log
      (fun _ _ => .ok zeroLease.key) where
  answers _ _ _ _ := rfl
  minted event logged params lease token same _ := by
    rw [fixed_minted aead calls world moves logged same]

/-- The sample ticket, issued from plaintext, is accepted and recoverable. -/
theorem accepted_recoverable_oneTicket :
    ∃ found, ((fetchTorTicketForVerification (Aead.bare tagLength) preciseTicket.id).run
      (exec (fixedExternals zeroLease zeroNonce)) afterExpiry.store).1 = .ok found := by
  have keeps : KeepsKeys (fixedExternals zeroLease zeroNonce) afterExpiry.store.outside
      afterExpiry.log (fun _ _ => .ok zeroLease.key) := by
    unfold afterExpiry
    have fixed := fixed_keepsKeys (Aead.bare tagLength) oneTicket (.migrated 0 ())
      (untilInsert ++ [.call 1, .call 2, .call 3])
    rw [Run.play_append] at fixed
    exact fixed _
  refine ((accepted_recoverable_iff (fixedExternals zeroLease zeroNonce) (Aead.bare tagLength)
    oneTicket (.migrated 0 ()) untilInsert [.call 2, .call 3] 1 beforeInsert afterExpiry _ rfl rfl
    oneTicket_returns keeps (by decide +kernel)).2 preciseTicket rfl oneTicket_kept).mpr ?_
  intro field text cell canonical
  exact absurd canonical (by cases field <;> cases cell <;> decide)

/-- A credential is imported and a ticket issued whose protected texts are the bare
canonical prefix. -/
def malformedTicket : Nat → Call
  | 0 => .importBootstrapTorCredential Uuid.nil "entry" "hash" "tier" 1 none []
  | _ => .issueTorTicket (sampleTicket "aead:v2:")

/-- The state before the INSERT of the malformed ticket. -/
def beforeMalformed : TorRun Unit :=
  (launch (Aead.bare tagLength) (.migrated 0 ()) malformedTicket).play
    (machine (fixedExternals zeroLease zeroNonce)) [.call 0, .call 0]

/-- The malformed ticket is accepted, the broker keeps every key, and the following
fetch fails. -/
theorem malformed_accepted :
    ReturnsAt (fixedExternals zeroLease zeroNonce) beforeMalformed 1 ∧
    KeepsKeys (fixedExternals zeroLease zeroNonce) ()
      (beforeMalformed.step (machine (fixedExternals zeroLease zeroNonce)) (.call 1)).log
      (fun _ _ => .ok zeroLease.key) ∧
    ((fetchTorTicketForVerification (Aead.bare tagLength) (Uuid.last 1)).run
      (exec (fixedExternals zeroLease zeroNonce))
      (beforeMalformed.step (machine (fixedExternals zeroLease zeroNonce)) (.call 1)).store).1 =
        .error (.encryption "invalid AEAD v2 payload format") := by
  refine ⟨⟨by decide +kernel, .issued (issuedTicket (sampleTicket "aead:v2:") (.ofTimestamptz 0)),
    by decide +kernel⟩, ?_, by decide +kernel⟩
  exact fixed_keepsKeys (Aead.bare tagLength) malformedTicket (.migrated 0 ())
    [.call 0, .call 0, .call 1] ()

end SecureDatabase.TorAuth
