import SecureDatabase.TorCalls

/-!
# What a read recovers

A protected cell is recovered when it is absent, or when it decodes, the broker
redeems its handle and token, and the redeemed key opens it in the context of its
row and column as UTF-8. A read leaves the server as it is; the broker may change as
it redeems and renews, so the six columns of a ticket are recovered from successive
broker states.
-/

namespace SecureDatabase.TorAuth

open Foundation Program

variable {σ : Type}

/-- The states that redeeming and renewing can lead the outside to. -/
inductive Redeeming (externals : Externals σ) (outside : σ) : σ → Prop where
  | refl : Redeeming externals outside outside
  | unwrap {later : σ} (reached : Redeeming externals outside later)
      (params : UnwrapSecretV2Params) :
      Redeeming externals outside (externals.unwrapSecretV2 params later).2
  | renew {later : σ} (reached : Redeeming externals outside later) (handle : String)
      (seconds : Nat) : Redeeming externals outside (externals.renewLease handle seconds later).2

/-- Redeeming and renewing, and then doing so again, is redeeming and renewing. -/
theorem Redeeming.trans {externals : Externals σ} {first second third : σ}
    (left : Redeeming externals first second) (right : Redeeming externals second third) :
    Redeeming externals first third := by
  induction right with
  | refl => exact left
  | unwrap _ params inductionHypothesis => exact .unwrap inductionHypothesis params
  | renew _ handle seconds inductionHypothesis => exact .renew inductionHypothesis handle seconds

section Reads

variable (externals : Externals σ) (aead : Aead tagLength)

/-- A stored text opens in a context at a state of the outside. -/
def OpensAt (outside : σ) (aad : Bytes) (stored text : String) : Prop :=
  ∃ handle token ciphertext key,
    decodeAeadPayload stored = .ok (handle, some token, ciphertext) ∧
    (externals.unwrapSecretV2 ⟨trim handle, some (trim token)⟩ outside).1 = .ok key ∧
    aesDecryptWithAad aead key ciphertext aad = .ok (utf8 text)

/-- An absent cell stays absent, a present one opens. -/
def RecoveredCell (outside : σ) (aad : Bytes) : Option String → Option String → Prop
  | none, none => True
  | some stored, some text => OpensAt externals aead outside aad stored text
  | _, _ => False

/-- What opening with a redeemed key gives. -/
def openedText (key ciphertext aad : Bytes) : DbResult String := do
  let plaintext ← aesDecryptWithAad aead key ciphertext aad
  okOr (.encryption "decrypted AEAD payload is not valid UTF-8") (fromUtf8 plaintext)

/-- Decryption of a text that does not decode with a token fails at once. -/
theorem decryptWithBroker_run_undecoded (encoded : String) (aad : Bytes) (world : World σ)
    (undecoded : ∀ handle token ciphertext,
      decodeAeadPayload encoded ≠ .ok (handle, some token, ciphertext)) :
    ∃ error, (decryptWithBroker aead encoded aad).run (exec externals) world =
      (.error error, world) := by
  unfold decryptWithBroker
  cases decoded : decodeAeadPayload encoded with
  | error error => exact ⟨error, rfl⟩
  | ok parts =>
    obtain ⟨handle, token | token, ciphertext⟩ := parts
    · exact ⟨_, rfl⟩
    · exact absurd decoded (undecoded handle token ciphertext)

/-- Decryption of a text that decodes redeems, renews and opens. -/
theorem decryptWithBroker_run_decoded {encoded handle token : String} {ciphertext : Bytes}
    (decoded : decodeAeadPayload encoded = .ok (handle, some token, ciphertext)) (aad : Bytes)
    (world : World σ) :
    (decryptWithBroker aead encoded aad).run (exec externals) world =
      match externals.unwrapSecretV2 ⟨trim handle, some (trim token)⟩ world.outside with
      | (.error message, later) => (.error (.encryption message), { world with outside := later })
      | (.ok key, later) => (openedText aead key ciphertext aad,
          { world with outside := (externals.renewLease handle aeadKeyTtlSeconds later).2 }) := by
  unfold decryptWithBroker
  rw [decoded]
  simp only [ofExcept_ok, value_bind, okOr, ask_bind, run_issue, exec, World.ask]
  rcases externals.unwrapSecretV2 ⟨trim handle, some (trim token)⟩ world.outside with
    ⟨message | key, later⟩
  · rfl
  · simp only [encrypted_ok, value_bind, run_issue, ofExcept_bind, run_ofExcept, exec, World.ask]
    rfl

/-- Decryption leaves the server alone and only redeems and renews. -/
theorem decryptWithBroker_frame (encoded : String) (aad : Bytes) (world : World σ) :
    ((decryptWithBroker aead encoded aad).run (exec externals) world).2.server = world.server ∧
      Redeeming externals world.outside
        ((decryptWithBroker aead encoded aad).run (exec externals) world).2.outside := by
  by_cases decodes : ∃ handle token ciphertext,
      decodeAeadPayload encoded = .ok (handle, some token, ciphertext)
  · obtain ⟨handle, token, ciphertext, decoded⟩ := decodes
    rw [decryptWithBroker_run_decoded externals aead decoded]
    have redeemed : Redeeming externals world.outside
        (externals.unwrapSecretV2 ⟨trim handle, some (trim token)⟩ world.outside).2 :=
      .unwrap .refl _
    generalize externals.unwrapSecretV2 ⟨trim handle, some (trim token)⟩ world.outside = answer
      at redeemed
    obtain ⟨message | key, later⟩ := answer
    · exact ⟨rfl, redeemed⟩
    · exact ⟨rfl, .renew redeemed handle aeadKeyTtlSeconds⟩
  · obtain ⟨error, failed⟩ := decryptWithBroker_run_undecoded externals aead encoded aad world
      (fun handle token ciphertext decoded => decodes ⟨handle, token, ciphertext, decoded⟩)
    rw [failed]
    exact ⟨rfl, .refl⟩

/-- A ciphertext is opened to a text exactly when it opens to the octets of that text. -/
theorem openedText_eq_ok_iff (key ciphertext aad : Bytes) (text : String) :
    openedText aead key ciphertext aad = .ok text ↔
      aesDecryptWithAad aead key ciphertext aad = .ok (utf8 text) := by
  simp only [openedText, bind_eq_ok_iff, okOr_eq_ok_iff, fromUtf8_eq_some_iff]
  constructor
  · rintro ⟨_, opened, rfl⟩
    exact opened
  · exact fun opened => ⟨_, opened, rfl⟩

/-- Decryption returns exactly what the stored text opens to. -/
theorem decryptWithBroker_eq_ok_iff (encoded : String) (aad : Bytes) (world : World σ)
    (text : String) :
    ((decryptWithBroker aead encoded aad).run (exec externals) world).1 = .ok text ↔
      OpensAt externals aead world.outside aad encoded text := by
  by_cases decodes : ∃ handle token ciphertext,
      decodeAeadPayload encoded = .ok (handle, some token, ciphertext)
  · obtain ⟨handle, token, ciphertext, decoded⟩ := decodes
    have opens : OpensAt externals aead world.outside aad encoded text ↔ ∃ key,
        (externals.unwrapSecretV2 ⟨trim handle, some (trim token)⟩ world.outside).1 = .ok key ∧
        openedText aead key ciphertext aad = .ok text := by
      constructor
      · rintro ⟨handle', token', ciphertext', key, same, redeemed, opened⟩
        rw [decoded] at same
        cases same
        exact ⟨key, redeemed, (openedText_eq_ok_iff aead _ _ _ _).mpr opened⟩
      · rintro ⟨key, redeemed, opened⟩
        exact ⟨handle, token, ciphertext, key, decoded, redeemed,
          (openedText_eq_ok_iff aead _ _ _ _).mp opened⟩
    rw [decryptWithBroker_run_decoded externals aead decoded, opens]
    generalize externals.unwrapSecretV2 ⟨trim handle, some (trim token)⟩ world.outside = answer
    obtain ⟨message | key, later⟩ := answer
    · simp
    · simp
  · obtain ⟨error, failed⟩ := decryptWithBroker_run_undecoded externals aead encoded aad world
      (fun handle token ciphertext decoded => decodes ⟨handle, token, ciphertext, decoded⟩)
    rw [failed]
    constructor
    · exact fun impossible => by cases impossible
    · rintro ⟨handle, token, ciphertext, -, decoded, -⟩
      exact absurd ⟨handle, token, ciphertext, decoded⟩ decodes

/-- What a read may change: nothing on the server, and outside only by redeeming and
renewing. -/
def Frame (world after : World σ) : Prop :=
  after.server = world.server ∧ Redeeming externals world.outside after.outside

/-- Two parts of a read leave what each of them leaves. -/
theorem Frame.trans {first second third : World σ} (left : Frame externals first second)
    (right : Frame externals second third) : Frame externals first third :=
  ⟨right.1.trans left.1, left.2.trans right.2⟩

/-- A cell that is recovered at the current state is returned. -/
theorem decryptAeadOptional_complete {cell found : Option String} {aad : Bytes}
    {world : World σ} (recovered : RecoveredCell externals aead world.outside aad cell found)
    (label : String) :
    ∃ after, (decryptAeadOptional aead cell aad label).run (exec externals) world =
        (.ok found, after) ∧ Frame externals world after := by
  match cell, found, recovered with
  | none, none, _ => exact ⟨world, rfl, rfl, .refl⟩
  | some stored, some text, opens =>
    have canonical : isAeadPayloadV2 stored = true := by
      obtain ⟨handle, token, ciphertext, -, decoded, -⟩ := opens
      rw [(decodeAeadPayload_eq_ok_iff _ _ _ _).mp decoded]
      exact isAeadPayloadV2_encode _ _ _
    have returned := (decryptWithBroker_eq_ok_iff externals aead stored aad world text).mpr opens
    refine ⟨((decryptWithBroker aead stored aad).run (exec externals) world).2, ?_,
      decryptWithBroker_frame externals aead stored aad world⟩
    rw [decryptAeadOptional, if_pos canonical, run_bind_eq_ok_iff]
    exact ⟨text, _, Prod.ext returned rfl, rfl⟩

/-- What is returned for a cell is recovered at the current state. -/
theorem decryptAeadOptional_sound {cell found : Option String} {aad : Bytes} {label : String}
    {world after : World σ}
    (returned : (decryptAeadOptional aead cell aad label).run (exec externals) world =
      (.ok found, after)) :
    RecoveredCell externals aead world.outside aad cell found ∧ Frame externals world after := by
  cases cell with
  | none =>
    cases returned
    exact ⟨trivial, rfl, .refl⟩
  | some stored =>
    simp only [decryptAeadOptional] at returned
    split at returned
    · obtain ⟨text, between, decrypted, rest⟩ := (run_bind_eq_ok_iff _ _ _ _ _ _).mp returned
      cases rest
      have frame := decryptWithBroker_frame externals aead stored aad world
      rw [decrypted] at frame
      exact ⟨(decryptWithBroker_eq_ok_iff externals aead stored aad world text).mp
        (congrArg Prod.fst decrypted), frame⟩
    · split at returned <;> cases returned

/-- A required column whose envelope the broker can redeem is read as its text. -/
theorem decryptAeadRequired_complete {cell text : String} {aad : Bytes} {world : World σ}
    (recovered : RecoveredCell externals aead world.outside aad (some cell) (some text))
    (label field : String) :
    ∃ after, (decryptAeadRequired aead cell aad label field).run (exec externals) world =
        (.ok text, after) ∧ Frame externals world after := by
  obtain ⟨after, returned, frame⟩ := decryptAeadOptional_complete externals aead recovered label
  refine ⟨after, ?_, frame⟩
  rw [decryptAeadRequired, run_bind_eq_ok_iff]
  exact ⟨_, _, returned, rfl⟩

/-- Conversely, what a required column is read as is the text of its envelope. -/
theorem decryptAeadRequired_sound {cell text : String} {aad : Bytes} {label field : String}
    {world after : World σ}
    (returned : (decryptAeadRequired aead cell aad label field).run (exec externals) world =
      (.ok text, after)) :
    RecoveredCell externals aead world.outside aad (some cell) (some text) ∧
      Frame externals world after := by
  obtain ⟨found, between, decrypted, rest⟩ := (run_bind_eq_ok_iff _ _ _ _ _ _).mp returned
  rw [run_ofExcept] at rest
  cases found with
  | none => cases rest
  | some value_ =>
    cases rest
    exact decryptAeadOptional_sound externals aead decrypted

/-- The columns of a stored ticket as they are read, its times among them. -/
def TicketRecord.read (columns : TicketRecord Int) : NewTorAccessTicket :=
  { columns with
    expiresAt := .ofTimestamptz columns.expiresAt
    attestedAt := .ofTimestamptz columns.attestedAt }

/-- A record is what a row's columns recover to, each at some state of the broker
that redeeming and renewing leads to. -/
structure RecoveredTicket (outside : σ) (row : TicketRow) (record : TicketVerificationRecord) :
    Prop where
  recovered : ∀ field : TicketField, ∃ later, Redeeming externals outside later ∧
    RecoveredCell externals aead later (field.context row.id)
      (field.cell row.toTicketRecord) (field.recovered record)
  verbatim : record = {
    id := row.id
    credentialId := row.credentialId
    tokenHash := row.tokenHash
    clientFingerprint := row.clientFingerprint
    expiresAt := .ofTimestamptz row.expiresAt
    redeemedAt := row.redeemedAt.map .ofTimestamptz
    clientAuthPublicKey := record.clientAuthPublicKey
    clientAuthSecretPath := record.clientAuthSecretPath
    clientAuthSecretRedeemToken := record.clientAuthSecretRedeemToken
    attestationSessionId := row.attestationSessionId
    attestationNonceDigest := record.attestationNonceDigest
    attestationQuoteHash := record.attestationQuoteHash
    attestedAt := .ofTimestamptz row.attestedAt
    teeKind := row.teeKind
    teeLabel := row.teeLabel
    teePolicy := row.teePolicy
    tlsPubkeyDigest := record.tlsPubkeyDigest }

/-- What recovery of a row returns is recovered from its columns. -/
theorem recoverTicket_sound {row : TicketRow} {record : TicketVerificationRecord}
    {world after : World σ}
    (returned : (recoverTicket aead row).run (exec externals) world = (.ok record, after)) :
    RecoveredTicket externals aead world.outside row record ∧ Frame externals world after := by
  simp only [recoverTicket, run_bind_eq_ok_iff] at returned
  obtain ⟨publicKey, world₁, read₁, secretPath, world₂, read₂, redeemToken, world₃, read₃,
    nonceDigest, world₄, read₄, quoteHash, world₅, read₅, tlsDigest, world₆, read₆, done⟩ := returned
  cases done
  obtain ⟨cell₁, frame₁⟩ := decryptAeadRequired_sound externals aead read₁
  obtain ⟨cell₂, frame₂⟩ := decryptAeadRequired_sound externals aead read₂
  obtain ⟨cell₃, frame₃⟩ := decryptAeadOptional_sound externals aead read₃
  obtain ⟨cell₄, frame₄⟩ := decryptAeadRequired_sound externals aead read₄
  obtain ⟨cell₅, frame₅⟩ := decryptAeadRequired_sound externals aead read₅
  obtain ⟨cell₆, frame₆⟩ := decryptAeadRequired_sound externals aead read₆
  have until₂ := frame₁.trans externals frame₂
  have until₃ := until₂.trans externals frame₃
  have until₄ := until₃.trans externals frame₄
  have until₅ := until₄.trans externals frame₅
  refine ⟨⟨?_, rfl⟩, until₅.trans externals frame₆⟩
  intro field
  cases field with
  | clientAuthPublicKey => exact ⟨_, .refl, cell₁⟩
  | clientAuthSecretPath => exact ⟨_, frame₁.2, cell₂⟩
  | clientAuthSecretRedeemToken => exact ⟨_, until₂.2, cell₃⟩
  | attestationNonceDigest => exact ⟨_, until₃.2, cell₄⟩
  | attestationQuoteHash => exact ⟨_, until₄.2, cell₅⟩
  | tlsPubkeyDigest => exact ⟨_, until₅.2, cell₆⟩

/-- A cell that is there is recovered as a text, not as nothing. -/
theorem RecoveredCell.present {outside : σ} {aad : Bytes} {stored : String}
    {found : Option String}
    (recovered : RecoveredCell externals aead outside aad (some stored) found) :
    ∃ text, found = some text := by
  cases found with
  | none => exact recovered.elim
  | some text => exact ⟨text, rfl⟩

/-- A row whose columns are recoverable at every state that redeeming and renewing
leads to is recovered. -/
theorem recoverTicket_complete {row : TicketRow} {world : World σ}
    (recoverable : ∀ (field : TicketField) later, Redeeming externals world.outside later →
      ∃ found, RecoveredCell externals aead later (field.context row.id)
        (field.cell row.toTicketRecord) found) :
    ∃ record after, (recoverTicket aead row).run (exec externals) world = (.ok record, after) := by
  have required (field : TicketField) {stored : String}
      (present : field.cell row.toTicketRecord = some stored) {between : World σ}
      (frame : Frame externals world between) (label name : String) :
      ∃ text after, (decryptAeadRequired aead stored (field.context row.id) label name).run
        (exec externals) between = (.ok text, after) ∧ Frame externals world after := by
    obtain ⟨found, recovered⟩ := recoverable field between.outside frame.2
    rw [present] at recovered
    obtain ⟨text, rfl⟩ := recovered.present externals aead
    obtain ⟨after, returned, next⟩ :=
      decryptAeadRequired_complete externals aead recovered label name
    exact ⟨text, after, returned, frame.trans externals next⟩
  have start : Frame externals world world := ⟨rfl, .refl⟩
  obtain ⟨publicKey, world₁, read₁, frame₁⟩ := required .clientAuthPublicKey rfl start
    "tor-ticket-client-auth-public-key" "client_auth_public_key"
  obtain ⟨secretPath, world₂, read₂, frame₂⟩ := required .clientAuthSecretPath rfl frame₁
    "tor-ticket-client-auth-secret-path" "client_auth_secret_path"
  obtain ⟨redeemToken, recovered⟩ :=
    recoverable .clientAuthSecretRedeemToken world₂.outside frame₂.2
  obtain ⟨world₃, read₃, next⟩ := decryptAeadOptional_complete externals aead recovered
    "tor-ticket-client-auth-secret-redeem-token"
  have frame₃ := frame₂.trans externals next
  obtain ⟨nonceDigest, world₄, read₄, frame₄⟩ := required .attestationNonceDigest rfl frame₃
    "tor-ticket-attestation-nonce" "attestation_nonce_digest"
  obtain ⟨quoteHash, world₅, read₅, frame₅⟩ := required .attestationQuoteHash rfl frame₄
    "tor-ticket-attestation-quote" "attestation_quote_hash"
  obtain ⟨tlsDigest, world₆, read₆, -⟩ := required .tlsPubkeyDigest rfl frame₅
    "tor-ticket-tls-pubkey-digest" "tls_pubkey_digest"
  simp only [recoverTicket, run_bind_eq_ok_iff]
  exact ⟨_, _, publicKey, world₁, read₁, secretPath, world₂, read₂, redeemToken, world₃, read₃,
    nonceDigest, world₄, read₄, quoteHash, world₅, read₅, tlsDigest, world₆, read₆, rfl⟩

/-- A lookup replies with the outage, or with the row under the key. -/
theorem sql_lookup {Result : Type} (lookup : TorTables → Result) (world : World σ) :
    world.sql [] (fun _ tables => .ok (lookup tables, tables)) =
      (match world.server.outage with
        | some error => .error error
        | none => .ok (lookup world.server.tables), world) := by
  obtain ⟨⟨now, outage, tables⟩, outside⟩ := world
  cases outage <;> rfl

/-- On an unreachable server a fetch reports the outage. -/
theorem fetchTorTicketForVerification_outage {world : World σ} {error : String}
    (outage : world.server.outage = some error) (id : Uuid) :
    (fetchTorTicketForVerification aead id).run (exec externals) world =
      (.error (.query error), world) := by
  simp only [fetchTorTicketForVerification, ask_bind, run_issue, exec, sql_lookup, outage]
  rfl

/-- On a reachable server a fetch of a stored ticket recovers its row. -/
theorem fetchTorTicketForVerification_found {world : World σ} {id : Uuid} {row : TicketRow}
    (reachable : world.server.outage = none) (found : world.tickets.find id = some row) :
    (fetchTorTicketForVerification aead id).run (exec externals) world =
      (recoverTicket aead row >>= fun record => .value (some record)).run (exec externals) world := by
  have located : world.server.tables.tickets.find id = some row := found
  simp only [fetchTorTicketForVerification, ask_bind, run_issue, exec, sql_lookup, reachable,
    located, queried_ok, value_bind]
  rfl

/-- A stored ticket whose columns stay recoverable is returned. -/
theorem fetchTorTicketForVerification_complete {world : World σ} {id : Uuid} {row : TicketRow}
    (reachable : world.server.outage = none) (found : world.tickets.find id = some row)
    (recoverable : ∀ (field : TicketField) later, Redeeming externals world.outside later →
      ∃ plain, RecoveredCell externals aead later (field.context row.id)
        (field.cell row.toTicketRecord) plain) :
    ∃ record, ((fetchTorTicketForVerification aead id).run (exec externals) world).1 =
        .ok (some record) ∧
      RecoveredTicket externals aead world.outside row record := by
  obtain ⟨record, after, returned⟩ := recoverTicket_complete externals aead recoverable
  have whole := fetchTorTicketForVerification_found externals aead reachable found
  have result := (run_bind_eq_ok_iff (exec externals) (recoverTicket aead row)
    (fun record => .value (some record)) world after _).mpr ⟨_, _, returned, rfl⟩
  exact ⟨record, congrArg Prod.fst (whole.trans result),
    (recoverTicket_sound externals aead returned).1⟩

/-- A returned record was recovered from the stored row. -/
theorem fetchTorTicketForVerification_sound {world after : World σ} {id : Uuid}
    {record : TicketVerificationRecord}
    (returned : (fetchTorTicketForVerification aead id).run (exec externals) world =
      (.ok (some record), after)) :
    ∃ row, world.tickets.find id = some row ∧
      RecoveredTicket externals aead world.outside row record := by
  cases outage : world.server.outage with
  | some error =>
    rw [fetchTorTicketForVerification_outage externals aead outage] at returned
    cases returned
  | none =>
    cases found : world.tickets.find id with
    | none =>
      have missing : world.server.tables.tickets.find id = none := found
      simp only [fetchTorTicketForVerification, ask_bind, run_issue, exec, sql_lookup, outage,
        missing, queried_ok, value_bind] at returned
      cases returned
    | some row =>
      rw [fetchTorTicketForVerification_found externals aead outage found,
        run_bind_eq_ok_iff] at returned
      obtain ⟨recovered, between, recovers, rest⟩ := returned
      cases rest
      exact ⟨row, rfl, (recoverTicket_sound externals aead recovers).1⟩

/-- On an unreachable server a fetch of a session reports the outage. -/
theorem fetchTorSession_outage {world : World σ} {error : String}
    (outage : world.server.outage = some error) (id : Uuid) :
    (fetchTorSession aead id).run (exec externals) world = (.error (.query error), world) := by
  simp only [fetchTorSession, ask_bind, run_issue, exec, sql_lookup, outage]
  rfl

/-- On a reachable server a fetch of a stored session recovers its row. -/
theorem fetchTorSession_found {world : World σ} {id : Uuid} {row : SessionRow}
    (reachable : world.server.outage = none) (found : world.sessions.find id = some row) :
    (fetchTorSession aead id).run (exec externals) world =
      (intoRecord aead row >>= fun record => .value (some record)).run (exec externals) world := by
  have located : world.server.tables.sessions.find id = some row := found
  simp only [fetchTorSession, ask_bind, run_issue, exec, sql_lookup, reachable, located,
    queried_ok, value_bind]
  rfl

/-- The columns of a stored session as they are read, its time among them. -/
def SessionRecord.read (columns : SessionRecord Int) : TorSessionRecord :=
  { columns with expiresAt := columns.expiresAt.map DateTime.ofTimestamptz }

/-- Recovery of a session row returns its columns with the recovered onion. -/
theorem intoRecord_eq_ok_iff (row : SessionRow) (record : TorSessionRecord) (world : World σ) :
    (∃ after, (intoRecord aead row).run (exec externals) world = (.ok record, after)) ↔
      RecoveredCell externals aead world.outside (clientOnionContext row.id) row.clientOnion
        record.clientOnion ∧
      record = { row.toSessionRecord.read with clientOnion := record.clientOnion } := by
  simp only [intoRecord, run_bind_eq_ok_iff]
  constructor
  · rintro ⟨after, onion, between, decrypted, done⟩
    cases done
    exact ⟨(decryptAeadOptional_sound externals aead decrypted).1, rfl⟩
  · rintro ⟨recovered, verbatim⟩
    obtain ⟨after, returned, -⟩ := decryptAeadOptional_complete externals aead recovered
      "tor-session-client-onion"
    refine ⟨after, record.clientOnion, after, returned, ?_⟩
    rw [verbatim]
    rfl

/-- A stored session whose onion is recoverable is returned. -/
theorem fetchTorSession_complete {world : World σ} {id : Uuid} {row : SessionRow}
    (reachable : world.server.outage = none) (found : world.sessions.find id = some row)
    {onion : Option String}
    (recovered : RecoveredCell externals aead world.outside (clientOnionContext row.id)
      row.clientOnion onion) :
    ((fetchTorSession aead id).run (exec externals) world).1 =
      .ok (some { row.toSessionRecord.read with clientOnion := onion }) := by
  obtain ⟨after, returned⟩ := (intoRecord_eq_ok_iff externals aead row
    { row.toSessionRecord.read with clientOnion := onion } world).mpr ⟨recovered, rfl⟩
  have whole := fetchTorSession_found externals aead reachable found
  have result := (run_bind_eq_ok_iff (exec externals) (intoRecord aead row)
    (fun record => .value (some record)) world after _).mpr ⟨_, _, returned, rfl⟩
  exact congrArg Prod.fst (whole.trans result)

/-- A returned session was recovered from the stored row. -/
theorem fetchTorSession_sound {world after : World σ} {id : Uuid} {record : TorSessionRecord}
    (returned : (fetchTorSession aead id).run (exec externals) world =
      (.ok (some record), after)) :
    ∃ row, world.sessions.find id = some row ∧
      RecoveredCell externals aead world.outside (clientOnionContext row.id) row.clientOnion
        record.clientOnion := by
  cases outage : world.server.outage with
  | some error =>
    rw [fetchTorSession_outage externals aead outage] at returned
    cases returned
  | none =>
    cases found : world.sessions.find id with
    | none =>
      have missing : world.server.tables.sessions.find id = none := found
      simp only [fetchTorSession, ask_bind, run_issue, exec, sql_lookup, outage, missing,
        queried_ok, value_bind] at returned
      cases returned
    | some row =>
      rw [fetchTorSession_found externals aead outage found, run_bind_eq_ok_iff] at returned
      obtain ⟨recovered, between, recovers, rest⟩ := returned
      cases rest
      exact ⟨row, rfl, ((intoRecord_eq_ok_iff externals aead row record world).mp
        ⟨_, recovers⟩).1⟩

end Reads

/-- The sample envelope opens in its own context. -/
theorem sampleEnvelope_opensAt (aead : Aead tagLength) (aad : Bytes) (text : String)
    (outside : Unit) :
    OpensAt (fixedExternals zeroLease zeroNonce) aead outside aad (sampleEnvelope aead aad text)
      text := by
  refine ⟨"h", "t", _, zeroLease.key, (decodeAeadPayload_eq_ok_iff _ _ _ _).mpr rfl, rfl, ?_⟩
  exact aesDecrypt_aesEncrypt aead zeroNonce rfl

end SecureDatabase.TorAuth
