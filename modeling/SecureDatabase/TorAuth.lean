import SecureDatabase.TorTables

/-!
# Tor credential, session and ticket operations

Every operation of the source as a program over the statements of `TorTables`:
the broker and database interactions in the source's order, an error ending the
call at once. The associated data of each protected column is written out where
the source writes it, once at the write and once at the read. Times are bound in
microseconds and read back from them, so a returned time is a stored one; only the
submitted `attested_at` is returned by an issue as it was given.
-/

namespace SecureDatabase.TorAuth

open Foundation Program

/-- An operation that returns a value or a database error. -/
abbrev Operation (α : Type) := Program Statement Reply DatabaseError α

/-- A reply's value, or its message as the given kind of error. -/
def mapErr {α : Type} (kind : String → DatabaseError) : Except String α → Operation α
  | .ok answer => .value answer
  | .error message => .failure (kind message)

/-- `.map_err(DatabaseError::from)?` on the reply of a statement. -/
def queried {α : Type} : Except String α → Operation α := mapErr .query

/-- `.map_err(|err| DatabaseError::Encryption(err.to_string()))?`. -/
def encrypted {α : Type} : Except String α → Operation α := mapErr .encryption

/-- The nonce drawn by `aes_encrypt_with_aad`. -/
def drawn : Except String Nonce → Operation Nonce :=
  mapErr (fun message => .encryption ("rng failure: " ++ message))

/-- An answer of the server goes on. -/
@[simp] theorem queried_ok {α : Type} (answer : α) : queried (.ok answer) = .value answer := rfl

/-- An error of the server is a query error. -/
@[simp] theorem queried_error {α : Type} (message : String) :
    (queried (.error message) : Operation α) = .failure (.query message) := rfl

/-- An answer of the broker goes on. -/
@[simp] theorem encrypted_ok {α : Type} (answer : α) :
    encrypted (.ok answer) = .value answer := rfl

/-- An error of the broker is an encryption error. -/
@[simp] theorem encrypted_error {α : Type} (message : String) :
    (encrypted (.error message) : Operation α) = .failure (.encryption message) := rfl

/-- A nonce that was drawn goes on. -/
@[simp] theorem drawn_ok (nonce : Nonce) : drawn (.ok nonce) = .value nonce := rfl

/-- A generator that fails is an encryption error. -/
@[simp] theorem drawn_error (message : String) :
    drawn (.error message) = .failure (.encryption ("rng failure: " ++ message)) := rfl

/-- A mapped reply returns exactly when it is a success, with its value. -/
theorem run_mapErr_eq_ok_iff {α S : Type} (exec : (stmt : Statement) → S → Reply stmt × S)
    (kind : String → DatabaseError) (reply : Except String α) (answer : α) (store after : S) :
    (mapErr kind reply).run exec store = (.ok answer, after) ↔
      reply = .ok answer ∧ store = after := by
  cases reply with
  | error message => simp [mapErr]
  | ok found => simp [mapErr]

/-- The purpose of each protected column, which its associated data begins with. No two
columns share one. -/
def clientOnionAad : Bytes := utf8 "tor-session-client-onion"

/-- For the onion that a ticket was redeemed with. -/
def redeemedOnionAad : Bytes := utf8 "tor-ticket-redeemed-onion"

/-- For the key by which a client is authorised. -/
def ticketClientPublicKeyAad : Bytes := utf8 "tor-ticket-client-auth-public-key"

/-- For the path under which its secret is kept. -/
def ticketClientSecretPathAad : Bytes := utf8 "tor-ticket-client-auth-secret-path"

/-- For the token that redeems that secret. -/
def ticketClientSecretRedeemTokenAad : Bytes := utf8 "tor-ticket-client-auth-secret-redeem-token"

/-- For the digest of the nonce that was attested. -/
def ticketAttestationNonceAad : Bytes := utf8 "tor-ticket-attestation-nonce"

/-- For the hash of the quote. -/
def ticketAttestationQuoteAad : Bytes := utf8 "tor-ticket-attestation-quote"

/-- For the digest of the TLS key. -/
def ticketTlsPubkeyDigestAad : Bytes := utf8 "tor-ticket-tls-pubkey-digest"

/-- How long the key of an envelope is leased, whatever is sealed with it. -/
def aeadKeyTtlSeconds : Nat := 900

/-- What `issue_tor_ticket` returns, built from the submitted plaintext. -/
structure IssuedTorAccessTicket where
  id : Uuid
  credentialId : Uuid
  entryOnion : String
  clientFingerprint : Option String
  createdAt : DateTime
  expiresAt : DateTime
  redeemedAt : Option DateTime
  redeemedOperationalOnion : Option String
  clientAuthPublicKey : String
  clientAuthSecretPath : String
  clientAuthSecretRedeemToken : Option String
  attestationSessionId : Uuid
  attestationNonceDigest : String
  attestationQuoteHash : String
  attestedAt : DateTime
  teeKind : String
  teeLabel : Option String
  teePolicy : Option String
  tlsPubkeyDigest : String
deriving DecidableEq

/-- A ticket with its protected material recovered. -/
structure TicketVerificationRecord where
  id : Uuid
  credentialId : Uuid
  tokenHash : String
  clientFingerprint : Option String
  expiresAt : DateTime
  redeemedAt : Option DateTime
  clientAuthPublicKey : String
  clientAuthSecretPath : String
  clientAuthSecretRedeemToken : Option String
  attestationSessionId : Uuid
  attestationNonceDigest : String
  attestationQuoteHash : String
  attestedAt : DateTime
  teeKind : String
  teeLabel : Option String
  teePolicy : Option String
  tlsPubkeyDigest : String
deriving DecidableEq

/-- Lifecycle state of a ticket without its protected material. -/
structure TicketStatusRecord where
  id : Uuid
  credentialId : Uuid
  expiresAt : DateTime
  redeemedAt : Option DateTime
deriving DecidableEq

section Protection

variable (aead : Aead tagLength)

/-- Mint a key, encrypt under it and encode the envelope. -/
def encryptWithNewAead (plaintext aad : Bytes) (label : String) : Operation String := do
  let reply ← ask (.mintAeadKeyV2
    { ttlSeconds := some aeadKeyTtlSeconds
      label := some label
      lifecycle := some .renewableLease
      initialLeaseSeconds := some aeadKeyTtlSeconds })
  let lease ← encrypted reply
  let redeemToken ← ofExcept
    (okOr (.encryption "broker v2 AEAD lease missing redeem token") lease.redeemToken)
  let random ← ask .fillNonce
  let nonce ← drawn random
  let ciphertext ← ofExcept (aesEncryptWithAad aead nonce lease.key plaintext aad)
  return encodeAeadPayload lease.handle redeemToken ciphertext

/-- Redeem the envelope's handle, renew its lease without regard to the outcome,
and open the ciphertext. -/
def decryptWithBroker (encoded : String) (aad : Bytes) : Operation String := do
  let (handle, redeemToken, ciphertext) ← ofExcept (decodeAeadPayload encoded)
  let redeemToken ← ofExcept (okOr (.encryption
    "legacy AEAD v1 payload encountered during decrypt; backfill to canonical v2 first")
    redeemToken)
  let reply ← ask (.unwrapSecretV2
    { handle := trim handle, redeemToken := some (trim redeemToken) })
  let key ← encrypted reply
  let _ ← ask (.renewLease handle aeadKeyTtlSeconds)
  let plaintext ← ofExcept (aesDecryptWithAad aead key ciphertext aad)
  ofExcept (okOr (.encryption "decrypted AEAD payload is not valid UTF-8") (fromUtf8 plaintext))

/-- The error of a retired envelope where only the canonical form is admitted. -/
def legacyPayload (label : String) : DatabaseError :=
  .encryption ("legacy AEAD payload in protected field " ++ label ++ "; canonical v2 required")

/-- The error of a required column that is NULL. -/
def missingFromTicket (field : String) : DatabaseError :=
  .encryption (field ++ " missing from tor ticket")

/-- Admission of a protected value: a canonical envelope passes as it is, a legacy
one is refused, anything else is encrypted. -/
def ensureAeadEncrypted (submitted : Option String) (aad : Bytes) (label : String) :
    Operation (Option String) :=
  match submitted with
  | none => return none
  | some existing =>
      if isAeadPayloadV2 existing then return some existing
      else if isAeadPayload existing then .failure (legacyPayload label)
      else do
        let envelope ← encryptWithNewAead aead (utf8 existing) aad label
        return some envelope

/-- Admission of a protected value that must be present. -/
def ensureAeadEncryptedRequired (submitted : String) (aad : Bytes) (label field : String) :
    Operation String := do
  let stored ← ensureAeadEncrypted aead (some submitted) aad label
  ofExcept (okOr (missingFromTicket field) stored)

/-- Recovery of a protected value: absent stays absent, plaintext and legacy
envelopes are corruption. -/
def decryptAeadOptional (cell : Option String) (aad : Bytes) (label : String) :
    Operation (Option String) :=
  match cell with
  | none => return none
  | some stored =>
      if isAeadPayloadV2 stored then do
        let plaintext ← decryptWithBroker aead stored aad
        return some plaintext
      else if isAeadPayload stored then .failure (legacyPayload label)
      else .failure (.encryption ("plaintext in protected field " ++ label))

/-- Recovery of a protected value that must be present. -/
def decryptAeadRequired (cell : String) (aad : Bytes) (label field : String) :
    Operation String := do
  let plaintext ← decryptAeadOptional aead (some cell) aad label
  ofExcept (okOr (missingFromTicket field) plaintext)

/-- Persist a Tor session record. -/
def recordTorSession (session : TorSessionRecord) : Operation Unit := do
  let clientOnionDb ← ensureAeadEncrypted aead session.clientOnion
    (recordBoundAad "gateway_secrets.tor_auth_sessions" "client_onion" session.id clientOnionAad)
    "tor-session-client-onion"
  let sessionKey ← ask .newUuid
  let reply ← ask (.insertSession { session.bound with clientOnion := clientOnionDb } sessionKey)
  queried reply

/-- Issue a ticket: admit the six protected columns, then insert the row. -/
def issueTorTicket (ticket : NewTorAccessTicket) : Operation IssuedTorAccessTicket := do
  let clientAuthPublicKeyDb ← ensureAeadEncryptedRequired aead ticket.clientAuthPublicKey
    (recordBoundAad "gateway_secrets.tor_access_tickets" "client_auth_public_key" ticket.id
      ticketClientPublicKeyAad)
    "tor-ticket-client-auth-public-key" "client_auth_public_key"
  let clientAuthSecretPathDb ← ensureAeadEncryptedRequired aead ticket.clientAuthSecretPath
    (recordBoundAad "gateway_secrets.tor_access_tickets" "client_auth_secret_path" ticket.id
      ticketClientSecretPathAad)
    "tor-ticket-client-auth-secret-path" "client_auth_secret_path"
  let attestationNonceDigestDb ← ensureAeadEncryptedRequired aead ticket.attestationNonceDigest
    (recordBoundAad "gateway_secrets.tor_access_tickets" "attestation_nonce_digest" ticket.id
      ticketAttestationNonceAad)
    "tor-ticket-attestation-nonce" "attestation_nonce_digest"
  let attestationQuoteHashDb ← ensureAeadEncryptedRequired aead ticket.attestationQuoteHash
    (recordBoundAad "gateway_secrets.tor_access_tickets" "attestation_quote_hash" ticket.id
      ticketAttestationQuoteAad)
    "tor-ticket-attestation-quote" "attestation_quote_hash"
  let clientAuthSecretRedeemTokenDb ← ensureAeadEncrypted aead ticket.clientAuthSecretRedeemToken
    (recordBoundAad "gateway_secrets.tor_access_tickets" "client_auth_secret_redeem_token"
      ticket.id ticketClientSecretRedeemTokenAad)
    "tor-ticket-client-auth-secret-redeem-token"
  let tlsPubkeyDigestDb ← ensureAeadEncryptedRequired aead ticket.tlsPubkeyDigest
    (recordBoundAad "gateway_secrets.tor_access_tickets" "tls_pubkey_digest" ticket.id
      ticketTlsPubkeyDigestAad)
    "tor-ticket-tls-pubkey-digest" "tls_pubkey_digest"
  let reply ← ask (.insertTicket { ticket.bound with
    clientAuthPublicKey := clientAuthPublicKeyDb
    clientAuthSecretPath := clientAuthSecretPathDb
    clientAuthSecretRedeemToken := clientAuthSecretRedeemTokenDb
    attestationNonceDigest := attestationNonceDigestDb
    attestationQuoteHash := attestationQuoteHashDb
    tlsPubkeyDigest := tlsPubkeyDigestDb })
  let record ← queried reply
  return {
    id := record.id
    credentialId := ticket.credentialId
    entryOnion := ticket.entryOnion
    clientFingerprint := ticket.clientFingerprint
    createdAt := .ofTimestamptz record.createdAt
    expiresAt := .ofTimestamptz record.expiresAt
    redeemedAt := none
    redeemedOperationalOnion := none
    clientAuthPublicKey := ticket.clientAuthPublicKey
    clientAuthSecretPath := ticket.clientAuthSecretPath
    clientAuthSecretRedeemToken := ticket.clientAuthSecretRedeemToken
    attestationSessionId := ticket.attestationSessionId
    attestationNonceDigest := ticket.attestationNonceDigest
    attestationQuoteHash := ticket.attestationQuoteHash
    attestedAt := ticket.attestedAt
    teeKind := ticket.teeKind
    teeLabel := ticket.teeLabel
    teePolicy := ticket.teePolicy
    tlsPubkeyDigest := ticket.tlsPubkeyDigest }

/-- Recover the protected columns of a selected ticket. -/
def recoverTicket (row : TicketRow) : Operation TicketVerificationRecord := do
  let clientAuthPublicKey ← decryptAeadRequired aead row.clientAuthPublicKey
    (recordBoundAad "gateway_secrets.tor_access_tickets" "client_auth_public_key" row.id
      ticketClientPublicKeyAad)
    "tor-ticket-client-auth-public-key" "client_auth_public_key"
  let clientAuthSecretPath ← decryptAeadRequired aead row.clientAuthSecretPath
    (recordBoundAad "gateway_secrets.tor_access_tickets" "client_auth_secret_path" row.id
      ticketClientSecretPathAad)
    "tor-ticket-client-auth-secret-path" "client_auth_secret_path"
  let clientAuthSecretRedeemToken ← decryptAeadOptional aead row.clientAuthSecretRedeemToken
    (recordBoundAad "gateway_secrets.tor_access_tickets" "client_auth_secret_redeem_token" row.id
      ticketClientSecretRedeemTokenAad)
    "tor-ticket-client-auth-secret-redeem-token"
  let attestationNonceDigest ← decryptAeadRequired aead row.attestationNonceDigest
    (recordBoundAad "gateway_secrets.tor_access_tickets" "attestation_nonce_digest" row.id
      ticketAttestationNonceAad)
    "tor-ticket-attestation-nonce" "attestation_nonce_digest"
  let attestationQuoteHash ← decryptAeadRequired aead row.attestationQuoteHash
    (recordBoundAad "gateway_secrets.tor_access_tickets" "attestation_quote_hash" row.id
      ticketAttestationQuoteAad)
    "tor-ticket-attestation-quote" "attestation_quote_hash"
  let tlsPubkeyDigest ← decryptAeadRequired aead row.tlsPubkeyDigest
    (recordBoundAad "gateway_secrets.tor_access_tickets" "tls_pubkey_digest" row.id
      ticketTlsPubkeyDigestAad)
    "tor-ticket-tls-pubkey-digest" "tls_pubkey_digest"
  return {
    id := row.id
    credentialId := row.credentialId
    tokenHash := row.tokenHash
    clientFingerprint := row.clientFingerprint
    expiresAt := .ofTimestamptz row.expiresAt
    redeemedAt := row.redeemedAt.map .ofTimestamptz
    clientAuthPublicKey
    clientAuthSecretPath
    clientAuthSecretRedeemToken
    attestationSessionId := row.attestationSessionId
    attestationNonceDigest
    attestationQuoteHash
    attestedAt := .ofTimestamptz row.attestedAt
    teeKind := row.teeKind
    teeLabel := row.teeLabel
    teePolicy := row.teePolicy
    tlsPubkeyDigest }

/-- Select a ticket and recover its protected columns. -/
def fetchTorTicketForVerification (ticketId : Uuid) :
    Operation (Option TicketVerificationRecord) := do
  let reply ← ask (.selectTicket ticketId)
  let record ← queried reply
  match record with
  | none => return none
  | some row => do
      let recovered ← recoverTicket aead row
      return some recovered

/-- `TorSessionRow::into_record`. -/
def intoRecord (row : SessionRow) : Operation TorSessionRecord := do
  let decryptedOnion ← decryptAeadOptional aead row.clientOnion
    (recordBoundAad "gateway_secrets.tor_auth_sessions" "client_onion" row.id clientOnionAad)
    "tor-session-client-onion"
  return {
    id := row.id
    credentialId := row.credentialId
    circuitId := row.circuitId
    fingerprint := row.fingerprint
    guardNodes := row.guardNodes
    clientOnion := decryptedOnion
    expiresAt := row.expiresAt.map .ofTimestamptz }

/-- Select a session and recover its client onion. -/
def fetchTorSession (sessionId : Uuid) : Operation (Option TorSessionRecord) := do
  let reply ← ask (.selectSession sessionId)
  let record ← queried reply
  match record with
  | none => return none
  | some row => do
      let recovered ← intoRecord aead row
      return some recovered

/-- The stored form of a redemption's onion. Unlike the other protected columns
this one is admitted by the test for either envelope version. -/
def storedOnion (ticketId : Uuid) (operationalOnion : String) : Operation String :=
  if isAeadPayload operationalOnion then return operationalOnion
  else encryptWithNewAead aead (utf8 operationalOnion)
    (recordBoundAad "gateway_secrets.tor_access_tickets" "redeemed_operational_onion" ticketId
      redeemedOnionAad)
    "tor-ticket-redeemed-onion"

/-- Record a redemption. The UPDATE names the ticket only, and its row count is not
looked at. -/
def markTorTicketRedeemed (ticketId : Uuid) (operationalOnion : String) : Operation Unit := do
  let onion ← storedOnion aead ticketId operationalOnion
  let reply ← ask (.updateRedeemed ticketId onion)
  let _ ← queried reply
  return ()

end Protection

/-- Lifecycle state of a ticket. -/
def getTorTicketStatus (ticketId : Uuid) : Operation (Option TicketStatusRecord) := do
  let reply ← ask (.selectTicket ticketId)
  let record ← queried reply
  return record.map (fun row =>
    { id := row.id
      credentialId := row.credentialId
      expiresAt := .ofTimestamptz row.expiresAt
      redeemedAt := row.redeemedAt.map .ofTimestamptz })

/-- Expire a ticket at once; whether there was one. -/
def expireTorTicketNow (ticketId : Uuid) : Operation Bool := do
  let reply ← ask (.updateExpired ticketId)
  let rowsAffected ← queried reply
  return decide (0 < rowsAffected)

/-- Delete tickets that expired longer ago than the retention. -/
def gcExpiredTickets (retentionDays : Int32) : Operation Nat := do
  let reply ← ask (.deleteExpired retentionDays)
  queried reply

/-- Fetch a credential by its entry onion. -/
def fetchTorCredential (onionEntry : String) : Operation (Option TorCredential) := do
  let reply ← ask (.selectCredentialByEntry onionEntry)
  queried reply

/-- Fetch a credential by its identifier. -/
def fetchTorCredentialById (credentialId : Uuid) : Operation (Option TorCredential) := do
  let reply ← ask (.selectCredential credentialId)
  queried reply

/-- The credential that both import and creation submit and return. -/
def newCredential (id : Uuid) (now : Int) (entryOnion credentialHash tier : String)
    (rateLimitPerMinute : Int32) (expiresAt : Option Int) (guardNodes : List String) :
    TorCredential where
  id := id
  onionEntry := trim entryOnion
  tier := tier
  credentialHash := credentialHash
  operationalOnion := none
  guardNodes := guardNodes
  createdAt := now
  updatedAt := now
  expiresAt := expiresAt
  disabled := false
  rateLimitPerMinute := rateLimitPerMinute
  lastRotatedAt := none

/-- Import or replace the bootstrap credential row. -/
def importBootstrapTorCredential (credentialId : Uuid) (entryOnion credentialHash tier : String)
    (rateLimitPerMinute : Int32) (expiresAt : Option Int) (guardNodes : List String) :
    Operation TorCredential := do
  let now ← ask .utcNow
  let credential := newCredential credentialId now entryOnion credentialHash tier
    rateLimitPerMinute expiresAt guardNodes
  let reply ← ask (.upsertCredential credential)
  queried reply
  return credential

/-- Create a new credential under a random identifier. -/
def createTorCredential (entryOnion credentialHash tier : String)
    (rateLimitPerMinute : Int32) (expiresAt : Option Int) (guardNodes : List String) :
    Operation TorCredential := do
  let id ← ask .newUuid
  let now ← ask .utcNow
  let credential := newCredential id now entryOnion credentialHash tier
    rateLimitPerMinute expiresAt guardNodes
  let reply ← ask (.insertCredential credential)
  queried reply
  return credential

/-- Update the operational onion and guard metadata of a credential. -/
def rotateOperationalOnion (credentialId : Uuid) (newOnion : String)
    (guardNodes : List String) : Operation Unit := do
  let reply ← ask (.rotateOperationalOnion credentialId newOnion guardNodes)
  queried reply

/-- Persist a new entry onion, as given. -/
def setEntryOnion (credentialId : Uuid) (entryOnion : String) (guardNodes : List String) :
    Operation Unit := do
  let reply ← ask (.setEntryOnion credentialId entryOnion guardNodes)
  queried reply

/-- Enable or disable a credential. -/
def updateTorCredentialDisabled (id : Uuid) (disabled : Bool) : Operation Unit := do
  let reply ← ask (.updateDisabled id disabled)
  queried reply

/-- Delete a credential with its sessions and tickets; whether there was one. -/
def deleteTorCredential (id : Uuid) : Operation Bool := do
  let reply ← ask (.deleteCredential id)
  let rowsAffected ← queried reply
  return decide (0 < rowsAffected)

/-- A call of one operation with its arguments. -/
inductive Call where
  | fetchTorCredential (onionEntry : String)
  | fetchTorCredentialById (credentialId : Uuid)
  | recordTorSession (session : TorSessionRecord)
  | fetchTorSession (sessionId : Uuid)
  | rotateOperationalOnion (credentialId : Uuid) (newOnion : String) (guardNodes : List String)
  | setEntryOnion (credentialId : Uuid) (entryOnion : String) (guardNodes : List String)
  | importBootstrapTorCredential (credentialId : Uuid) (entryOnion credentialHash tier : String)
      (rateLimitPerMinute : Int32) (expiresAt : Option Int) (guardNodes : List String)
  | createTorCredential (entryOnion credentialHash tier : String) (rateLimitPerMinute : Int32)
      (expiresAt : Option Int) (guardNodes : List String)
  | updateTorCredentialDisabled (id : Uuid) (disabled : Bool)
  | deleteTorCredential (id : Uuid)
  | issueTorTicket (ticket : NewTorAccessTicket)
  | fetchTorTicketForVerification (ticketId : Uuid)
  | getTorTicketStatus (ticketId : Uuid)
  | markTorTicketRedeemed (ticketId : Uuid) (operationalOnion : String)
  | expireTorTicketNow (ticketId : Uuid)
  | gcExpiredTickets (retentionDays : Int32)
deriving DecidableEq

/-- What a call returns when it succeeds. -/
inductive Returned where
  | unit
  | flag (value : Bool)
  | count (value : Nat)
  | credential (value : TorCredential)
  | maybeCredential (value : Option TorCredential)
  | session (value : Option TorSessionRecord)
  | issued (value : IssuedTorAccessTicket)
  | verification (value : Option TicketVerificationRecord)
  | status (value : Option TicketStatusRecord)
deriving DecidableEq

/-- The program of a call. -/
def Call.program (aead : Aead tagLength) : Call → Operation Returned
  | fetchTorCredential onionEntry =>
      return .maybeCredential (← TorAuth.fetchTorCredential onionEntry)
  | fetchTorCredentialById credentialId =>
      return .maybeCredential (← TorAuth.fetchTorCredentialById credentialId)
  | recordTorSession session => do
      TorAuth.recordTorSession aead session
      return .unit
  | fetchTorSession sessionId =>
      return .session (← TorAuth.fetchTorSession aead sessionId)
  | rotateOperationalOnion credentialId newOnion guardNodes => do
      TorAuth.rotateOperationalOnion credentialId newOnion guardNodes
      return .unit
  | setEntryOnion credentialId entryOnion guardNodes => do
      TorAuth.setEntryOnion credentialId entryOnion guardNodes
      return .unit
  | importBootstrapTorCredential id entry hash tier rate expiresAt guardNodes =>
      return .credential
        (← TorAuth.importBootstrapTorCredential id entry hash tier rate expiresAt guardNodes)
  | createTorCredential entry hash tier rate expiresAt guardNodes =>
      return .credential
        (← TorAuth.createTorCredential entry hash tier rate expiresAt guardNodes)
  | updateTorCredentialDisabled id disabled => do
      TorAuth.updateTorCredentialDisabled id disabled
      return .unit
  | deleteTorCredential id =>
      return .flag (← TorAuth.deleteTorCredential id)
  | issueTorTicket ticket =>
      return .issued (← TorAuth.issueTorTicket aead ticket)
  | fetchTorTicketForVerification ticketId =>
      return .verification (← TorAuth.fetchTorTicketForVerification aead ticketId)
  | getTorTicketStatus ticketId =>
      return .status (← TorAuth.getTorTicketStatus ticketId)
  | markTorTicketRedeemed ticketId operationalOnion => do
      TorAuth.markTorTicketRedeemed aead ticketId operationalOnion
      return .unit
  | expireTorTicketNow ticketId =>
      return .flag (← TorAuth.expireTorTicketNow ticketId)
  | gcExpiredTickets retentionDays =>
      return .count (← TorAuth.gcExpiredTickets retentionDays)

/-- A run of any number of calls over a world. -/
abbrev TorRun (σ : Type) := Run (World σ) Statement Reply DatabaseError Returned

end SecureDatabase.TorAuth
