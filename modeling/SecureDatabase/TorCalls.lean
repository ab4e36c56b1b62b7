import SecureDatabase.TorChanges

/-!
# What a call may write

Whatever replies a call receives, it writes at most once, as its last statement,
and what it writes comes from its arguments: each protected column of a ticket or a
session is the submitted text where that is already a canonical envelope, and
otherwise an envelope the call sealed itself, under a key it minted itself, for
exactly that row and column. The rule is proved on each program alone and holds in
every interleaving.

The protected columns of a ticket's INSERT are enumerated by `TicketField`, so that
one statement covers all of them. The enumeration is a reading aid: the operations
spell out every column with its own context.
-/

namespace SecureDatabase.TorAuth

open Foundation Program

/-- The protected columns that issuing a ticket fills. -/
inductive TicketField where
  | clientAuthPublicKey
  | clientAuthSecretPath
  | clientAuthSecretRedeemToken
  | attestationNonceDigest
  | attestationQuoteHash
  | tlsPubkeyDigest
deriving DecidableEq

namespace TicketField

/-- The column of a field, under its name in the table. -/
def column : TicketField → String
  | clientAuthPublicKey => "client_auth_public_key"
  | clientAuthSecretPath => "client_auth_secret_path"
  | clientAuthSecretRedeemToken => "client_auth_secret_redeem_token"
  | attestationNonceDigest => "attestation_nonce_digest"
  | attestationQuoteHash => "attestation_quote_hash"
  | tlsPubkeyDigest => "tls_pubkey_digest"

/-- The purpose of a field in its associated data. -/
def purpose : TicketField → Bytes
  | clientAuthPublicKey => ticketClientPublicKeyAad
  | clientAuthSecretPath => ticketClientSecretPathAad
  | clientAuthSecretRedeemToken => ticketClientSecretRedeemTokenAad
  | attestationNonceDigest => ticketAttestationNonceAad
  | attestationQuoteHash => ticketAttestationQuoteAad
  | tlsPubkeyDigest => ticketTlsPubkeyDigestAad

/-- The context of a column in the row of an identifier. -/
def context (field : TicketField) (id : Uuid) : Bytes :=
  recordBoundAad "gateway_secrets.tor_access_tickets" field.column id field.purpose

/-- The column of submitted or bound columns; only the redeem token is optional. -/
def cell {Time : Type} (columns : TicketRecord Time) : TicketField → Option String
  | clientAuthPublicKey => some columns.clientAuthPublicKey
  | clientAuthSecretPath => some columns.clientAuthSecretPath
  | clientAuthSecretRedeemToken => columns.clientAuthSecretRedeemToken
  | attestationNonceDigest => some columns.attestationNonceDigest
  | attestationQuoteHash => some columns.attestationQuoteHash
  | tlsPubkeyDigest => some columns.tlsPubkeyDigest

/-- The column of a recovered record. -/
def recovered (record : TicketVerificationRecord) : TicketField → Option String
  | clientAuthPublicKey => some record.clientAuthPublicKey
  | clientAuthSecretPath => some record.clientAuthSecretPath
  | clientAuthSecretRedeemToken => record.clientAuthSecretRedeemToken
  | attestationNonceDigest => some record.attestationNonceDigest
  | attestationQuoteHash => some record.attestationQuoteHash
  | tlsPubkeyDigest => some record.tlsPubkeyDigest

end TicketField

/-- The context of a session's client onion. -/
def clientOnionContext (id : Uuid) : Bytes :=
  recordBoundAad "gateway_secrets.tor_auth_sessions" "client_onion" id clientOnionAad

/-- The context of a ticket's redeemed onion. -/
def redeemedOnionContext (id : Uuid) : Bytes :=
  recordBoundAad "gateway_secrets.tor_access_tickets" "redeemed_operational_onion" id
    redeemedOnionAad

/-- The statements that change a table. -/
def isWrite : Statement → Bool
  | .insertCredential _ | .upsertCredential _ | .rotateOperationalOnion _ _ _
  | .setEntryOnion _ _ _ | .updateDisabled _ _ | .deleteCredential _ | .insertSession _ _
  | .insertTicket _ | .updateRedeemed _ _ | .updateExpired _ | .deleteExpired _ => true
  | _ => false

/-- Exchanges without a write. -/
def Unwritten (past : List (Exchange Reply)) : Prop :=
  ∀ exchange ∈ past, isWrite exchange.stmt = false

section Rules

variable (aead : Aead tagLength)

/-- A text is the envelope of a plaintext that these exchanges sealed in a context:
the key is one that the broker minted for them. -/
def Sealed (past : List (Exchange Reply)) (plaintext aad : Bytes) (stored : String) : Prop :=
  ∃ params lease token, ∃ nonce : Nonce,
    (⟨.mintAeadKeyV2 params, .ok lease⟩ : Exchange Reply) ∈ past ∧
    lease.redeemToken = some token ∧ lease.key.length = keyLength ∧
    stored = encodeAeadPayload lease.handle token
      (nonce.octets ++ aead.encrypt lease.key nonce.octets aad plaintext)

/-- A submitted text is stored as it is when it has the canonical prefix, and
sealed when it has neither prefix. -/
def Admitted (past : List (Exchange Reply)) (aad : Bytes) (submitted stored : String) : Prop :=
  isAeadPayloadV2 submitted = true ∧ stored = submitted ∨
    isAeadPayload submitted = false ∧ Sealed aead past (utf8 submitted) aad stored

/-- An absent value stays absent, a present one is admitted. -/
def AdmittedCell (past : List (Exchange Reply)) (aad : Bytes) :
    Option String → Option String → Prop
  | none, none => True
  | some submitted, some stored => Admitted aead past aad submitted stored
  | _, _ => False

/-- The columns that an INSERT binds for a submitted ticket. -/
structure TicketColumns (past : List (Exchange Reply)) (ticket : NewTorAccessTicket)
    (columns : TicketRecord Int) : Prop where
  admitted : ∀ field : TicketField,
    AdmittedCell aead past (field.context ticket.id) (field.cell ticket) (field.cell columns)
  verbatim : columns = { ticket.bound with
    clientAuthPublicKey := columns.clientAuthPublicKey
    clientAuthSecretPath := columns.clientAuthSecretPath
    clientAuthSecretRedeemToken := columns.clientAuthSecretRedeemToken
    attestationNonceDigest := columns.attestationNonceDigest
    attestationQuoteHash := columns.attestationQuoteHash
    tlsPubkeyDigest := columns.tlsPubkeyDigest }

/-- The columns that an INSERT binds for a submitted session. -/
structure SessionColumns (past : List (Exchange Reply)) (session : TorSessionRecord)
    (columns : SessionRecord Int) : Prop where
  admitted : AdmittedCell aead past (clientOnionContext session.id) session.clientOnion
    columns.clientOnion
  verbatim : columns = { session.bound with clientOnion := columns.clientOnion }

/-- A redeemed onion is stored as it is when it has either prefix, and sealed
otherwise. -/
def AdmittedOnion (past : List (Exchange Reply)) (id : Uuid) (submitted stored : String) : Prop :=
  isAeadPayload submitted = true ∧ stored = submitted ∨
    isAeadPayload submitted = false ∧
      Sealed aead past (utf8 submitted) (redeemedOnionContext id) stored

/-- What a call may issue after its own exchanges: nothing once it has written, and
a write to the tickets or sessions only with what it admitted of its arguments. -/
def Writes (call : Call) (past : List (Exchange Reply)) (stmt : Statement) : Prop :=
  Unwritten past ∧
    match stmt with
    | .insertTicket columns =>
        ∃ ticket, call = .issueTorTicket ticket ∧ TicketColumns aead past ticket columns
    | .insertSession columns _ =>
        ∃ session, call = .recordTorSession session ∧ SessionColumns aead past session columns
    | .updateRedeemed id onion =>
        ∃ submitted, call = .markTorTicketRedeemed id submitted ∧
          AdmittedOnion aead past id submitted onion
    | .updateExpired id => call = .expireTorTicketNow id
    | _ => True

end Rules

/-- What the result of a call says about its last statement. -/
def Concludes (call : Call) (past : List (Exchange Reply)) (result : DbResult Returned) : Prop :=
  match call with
  | .issueTorTicket _ =>
      ∀ returned, result = .ok returned → ∃ columns, past.head?.bind effect = some (.issued columns)
  | .recordTorSession _ =>
      ∀ returned, result = .ok returned → ∃ columns, past.head?.bind sessionEffect = some columns
  | .markTorTicketRedeemed id _ =>
      match result with
      | .ok returned => returned = .unit ∧ ∃ onion, past.head?.bind effect = some (.redeemed id onion)
      | .error _ => ∀ onion, past.head?.bind effect ≠ some (.redeemed id onion)
  | _ => True

section Following

variable (aead : Aead tagLength) {call : Call} {past : List (Exchange Reply)}

/-- A read leaves it so that nothing was written. -/
theorem Unwritten.cons {exchange : Exchange Reply} (unwritten : Unwritten past)
    (read : isWrite exchange.stmt = false) : Unwritten (exchange :: past) := by
  intro other member
  rcases List.mem_cons.mp member with rfl | old
  · exact read
  · exact unwritten other old

/-- Before its write a call may issue anything that is not one. -/
theorem Writes.of_read (unwritten : Unwritten past) {stmt : Statement}
    (read : isWrite stmt = false) : Writes aead call past stmt := by
  refine ⟨unwritten, ?_⟩
  cases stmt <;> trivial

/-- What these exchanges have sealed stays sealed whatever is exchanged after them. -/
theorem Sealed.mono {later : List (Exchange Reply)} {plaintext aad : Bytes} {stored : String}
    (sealed : Sealed aead past plaintext aad stored) (extends_ : past ⊆ later) :
    Sealed aead later plaintext aad stored := by
  obtain ⟨params, lease, token, nonce, minted, rest⟩ := sealed
  exact ⟨params, lease, token, nonce, extends_ minted, rest⟩

/-- What was admitted stays admitted. -/
theorem AdmittedCell.mono {later : List (Exchange Reply)} {aad : Bytes}
    {submitted stored : Option String} (admitted : AdmittedCell aead past aad submitted stored)
    (extends_ : past ⊆ later) : AdmittedCell aead later aad submitted stored := by
  match submitted, stored, admitted with
  | none, none, _ => trivial
  | some _, some _, .inl same => exact .inl same
  | some _, some _, .inr ⟨plain, sealed⟩ => exact .inr ⟨plain, sealed.mono aead extends_⟩

/-- Encrypting writes nothing and, if it returns, returns an envelope it sealed
itself. -/
theorem encryptWithNewAead_follows (unwritten : Unwritten past) (plaintext aad : Bytes)
    (label : String) :
    (encryptWithNewAead aead plaintext aad label).Follows (Writes aead call)
      (fun later result => Unwritten later ∧ past ⊆ later ∧
        ∀ envelope, result = .ok envelope → Sealed aead later plaintext aad envelope) past := by
  simp only [encryptWithNewAead, ask_bind]
  refine ⟨.of_read aead unwritten rfl, ?_⟩
  rintro (message | lease)
  · exact ⟨unwritten.cons rfl, List.subset_cons_self _ _, fun _ returned => by cases returned⟩
  simp only [encrypted_ok, value_bind]
  cases token : lease.redeemToken with
  | none => exact ⟨unwritten.cons rfl, List.subset_cons_self _ _, fun _ returned => by cases returned⟩
  | some redeemToken =>
    refine ⟨.of_read aead (unwritten.cons rfl) rfl, ?_⟩
    rintro (message | nonce)
    · exact ⟨(unwritten.cons rfl).cons rfl, by simp, fun _ returned => by cases returned⟩
    simp only [drawn_ok, value_bind, aesEncryptWithAad]
    split
    · rename_i fits
      refine ⟨(unwritten.cons rfl).cons rfl, by simp, ?_⟩
      intro envelope returned
      cases returned
      exact ⟨_, lease, redeemToken, nonce, List.mem_cons_of_mem _ List.mem_cons_self, token, fits, rfl⟩
    · exact ⟨(unwritten.cons rfl).cons rfl, by simp, fun _ returned => by cases returned⟩

/-- What an intermediate step of a call leaves: nothing written, the earlier
exchanges kept, and on success the fact it establishes. -/
def Reaches {α : Type} (past : List (Exchange Reply))
    (fact : List (Exchange Reply) → α → Prop) (later : List (Exchange Reply))
    (result : DbResult α) : Prop :=
  Unwritten later ∧ past ⊆ later ∧ ∀ found, result = .ok found → fact later found

/-- Sequencing for a call that has not written yet: errors of the first part are
errors of the whole, and the continuation starts from the established fact. -/
theorem follows_bind {α β : Type} {first : Operation α} {next : α → Operation β}
    {fact : List (Exchange Reply) → α → Prop}
    {returns : List (Exchange Reply) → DbResult β → Prop}
    (start : first.Follows (Writes aead call) (Reaches past fact) past)
    (fails : ∀ later error, Unwritten later → past ⊆ later → returns later (.error error))
    (rest : ∀ later found, Unwritten later → past ⊆ later → fact later found →
      (next found).Follows (Writes aead call) returns later) :
    (first >>= next).Follows (Writes aead call) returns past := by
  refine Follows.bind (fun later found => Unwritten later ∧ past ⊆ later ∧ fact later found) ?_ ?_
  · refine start.weaken ?_
    rintro later (error | found) ⟨unwritten, extends_, established⟩
    · exact fails later error unwritten extends_
    · exact ⟨unwritten, extends_, established found rfl⟩
  · rintro later found ⟨unwritten, extends_, established⟩
    exact rest later found unwritten extends_ established

/-- Admission establishes that the cell was admitted. -/
theorem ensureAeadEncrypted_follows (unwritten : Unwritten past) (submitted : Option String)
    (aad : Bytes) (label : String) :
    (ensureAeadEncrypted aead submitted aad label).Follows (Writes aead call)
      (Reaches past (fun later stored => AdmittedCell aead later aad submitted stored)) past := by
  cases submitted with
  | none =>
    refine ⟨unwritten, List.Subset.refl _, ?_⟩
    intro stored returned
    cases returned
    trivial
  | some existing =>
    simp only [ensureAeadEncrypted]
    split
    · rename_i canonical
      refine ⟨unwritten, List.Subset.refl _, ?_⟩
      intro stored returned
      cases returned
      exact .inl ⟨canonical, rfl⟩
    · split
      · exact ⟨unwritten, List.Subset.refl _, fun _ returned => by cases returned⟩
      · rename_i plain
        refine follows_bind aead (encryptWithNewAead_follows aead unwritten _ _ _) ?_ ?_
        · exact fun later error free extends_ => ⟨free, extends_, fun _ returned => by cases returned⟩
        · intro later envelope free extends_ sealed
          refine ⟨free, extends_, ?_⟩
          intro stored returned
          cases returned
          exact .inr ⟨by simpa using plain, sealed⟩

/-- Admission of a required value. -/
theorem ensureAeadEncryptedRequired_follows (unwritten : Unwritten past) (submitted : String)
    (aad : Bytes) (label field : String) :
    (ensureAeadEncryptedRequired aead submitted aad label field).Follows (Writes aead call)
      (Reaches past (fun later stored =>
        AdmittedCell aead later aad (some submitted) (some stored))) past := by
  refine follows_bind aead (ensureAeadEncrypted_follows aead unwritten _ _ _) ?_ ?_
  · exact fun later error free extends_ => ⟨free, extends_, fun _ returned => by cases returned⟩
  · rintro later (_ | stored) free extends_ admitted
    · exact admitted.elim
    · refine ⟨free, extends_, ?_⟩
      intro found returned
      cases returned
      exact admitted

/-- Issuing a ticket follows the rule: the six columns are admitted one after the
other, and what the earlier exchanges sealed stays sealed. -/
theorem issueTorTicket_follows (ticket : NewTorAccessTicket) (unwritten : Unwritten past) :
    ((Call.issueTorTicket ticket).program aead).Follows (Writes aead (.issueTorTicket ticket))
      (Concludes (.issueTorTicket ticket)) past := by
  have failed {later : List (Exchange Reply)} {error : DatabaseError} :
      Concludes (.issueTorTicket ticket) later (.error error) :=
    fun _ returned => by cases returned
  simp only [Call.program, issueTorTicket, bind_assoc]
  refine follows_bind aead (ensureAeadEncryptedRequired_follows aead unwritten _ _ _ _)
    (fun _ _ _ _ => failed) ?_
  intro past₁ clientAuthPublicKey free₁ _ admitted₁
  refine follows_bind aead (ensureAeadEncryptedRequired_follows aead free₁ _ _ _ _)
    (fun _ _ _ _ => failed) ?_
  intro past₂ clientAuthSecretPath free₂ kept₂ admitted₂
  refine follows_bind aead (ensureAeadEncryptedRequired_follows aead free₂ _ _ _ _)
    (fun _ _ _ _ => failed) ?_
  intro past₃ attestationNonceDigest free₃ kept₃ admitted₃
  refine follows_bind aead (ensureAeadEncryptedRequired_follows aead free₃ _ _ _ _)
    (fun _ _ _ _ => failed) ?_
  intro past₄ attestationQuoteHash free₄ kept₄ admitted₄
  refine follows_bind aead (ensureAeadEncrypted_follows aead free₄ _ _ _)
    (fun _ _ _ _ => failed) ?_
  intro past₅ clientAuthSecretRedeemToken free₅ kept₅ admitted₅
  refine follows_bind aead (ensureAeadEncryptedRequired_follows aead free₅ _ _ _ _)
    (fun _ _ _ _ => failed) ?_
  intro past₆ tlsPubkeyDigest free₆ kept₆ admitted₆
  have from₄ : past₄ ⊆ past₆ := List.Subset.trans kept₅ kept₆
  have from₃ : past₃ ⊆ past₆ := List.Subset.trans kept₄ from₄
  have from₂ : past₂ ⊆ past₆ := List.Subset.trans kept₃ from₃
  refine ⟨⟨free₆, ticket, rfl, ?_, rfl⟩, ?_⟩
  · intro field
    cases field with
    | clientAuthPublicKey =>
      exact admitted₁.mono aead (List.Subset.trans kept₂ from₂)
    | clientAuthSecretPath => exact admitted₂.mono aead from₂
    | attestationNonceDigest => exact admitted₃.mono aead from₃
    | attestationQuoteHash => exact admitted₄.mono aead from₄
    | clientAuthSecretRedeemToken => exact admitted₅.mono aead kept₆
    | tlsPubkeyDigest => exact admitted₆
  · rintro (message | row)
    · exact failed
    · exact fun _ _ => ⟨_, rfl⟩

/-- Recording a session follows the rule. -/
theorem recordTorSession_follows (session : TorSessionRecord) (unwritten : Unwritten past) :
    ((Call.recordTorSession session).program aead).Follows
      (Writes aead (.recordTorSession session)) (Concludes (.recordTorSession session)) past := by
  have failed {later : List (Exchange Reply)} {error : DatabaseError} :
      Concludes (.recordTorSession session) later (.error error) :=
    fun _ returned => by cases returned
  simp only [Call.program, recordTorSession, bind_assoc]
  refine follows_bind aead (ensureAeadEncrypted_follows aead unwritten _ _ _)
    (fun _ _ _ _ => failed) ?_
  intro later clientOnion free _ admitted
  refine ⟨.of_read aead free rfl, fun sessionKey => ?_⟩
  refine ⟨⟨free.cons rfl, session, rfl, admitted.mono aead (List.subset_cons_self _ _), rfl⟩, ?_⟩
  rintro (message | stored)
  · exact failed
  · exact fun _ _ => ⟨_, rfl⟩

/-- Nothing was redeemed by exchanges without a write. -/
theorem Unwritten.head_effect (unwritten : Unwritten past) : past.head?.bind effect = none := by
  match past, unwritten with
  | [], _ => rfl
  | exchange :: _, unwritten =>
    have read := unwritten exchange List.mem_cons_self
    simp only [List.head?_cons, Option.bind_some, effect]
    split <;> first | rfl | exact Bool.noConfusion read

/-- Marking a ticket follows the rule: the UPDATE ends the call, and its reply
decides the result. -/
theorem markTorTicketRedeemed_follows (id : Uuid) (operationalOnion : String)
    (unwritten : Unwritten past) :
    ((Call.markTorTicketRedeemed id operationalOnion).program aead).Follows
      (Writes aead (.markTorTicketRedeemed id operationalOnion))
      (Concludes (.markTorTicketRedeemed id operationalOnion)) past := by
  have failed {later : List (Exchange Reply)} {error : DatabaseError} (free : Unwritten later) :
      Concludes (.markTorTicketRedeemed id operationalOnion) later (.error error) := by
    intro onion redeemed
    rw [free.head_effect] at redeemed
    cases redeemed
  simp only [Call.program, markTorTicketRedeemed, bind_assoc]
  have stored : (storedOnion aead id operationalOnion).Follows
      (Writes aead (.markTorTicketRedeemed id operationalOnion))
      (Reaches past (fun later onion => AdmittedOnion aead later id operationalOnion onion))
      past := by
    simp only [storedOnion]
    split
    · rename_i enveloped
      refine ⟨unwritten, List.Subset.refl _, ?_⟩
      intro onion returned
      cases returned
      exact .inl ⟨enveloped, rfl⟩
    · rename_i plain
      refine (encryptWithNewAead_follows aead unwritten _ _ _).weaken ?_
      rintro later result ⟨free, extends_, sealed⟩
      exact ⟨free, extends_, fun onion returned => .inr ⟨by simpa using plain, sealed onion returned⟩⟩
  refine follows_bind aead stored (fun _ _ free _ => failed free) ?_
  intro later onion free _ admitted
  refine ⟨⟨free, operationalOnion, rfl, admitted⟩, ?_⟩
  rintro (message | count)
  · intro onion redeemed
    cases redeemed
  · exact ⟨rfl, onion, rfl⟩

/-- A program that issues no write, whatever replies it receives. -/
def ReadOnly {α : Type} (program : Operation α) : Prop :=
  ∀ past, program.Follows (fun _ stmt => isWrite stmt = false) (fun _ _ => True) past

/-- Parts that write nothing may be put together. -/
theorem ReadOnly.bind {α β : Type} {first : Operation α} {next : α → Operation β}
    (start : ReadOnly first) (rest : ∀ found, ReadOnly (next found)) :
    ReadOnly (first >>= next) := by
  intro past
  refine Follows.bind (fun _ _ => True) ((start past).weaken ?_) (fun later found _ => rest found later)
  rintro later (error | found) _ <;> trivial

/-- A finished call writes nothing. -/
theorem readOnly_value {α : Type} (result : α) : ReadOnly (.value result) := fun _ => trivial

/-- Nor does one that has failed. -/
theorem readOnly_failure {α : Type} (error : DatabaseError) :
    ReadOnly (.failure error : Operation α) := fun _ => trivial

/-- A statement that is no write writes nothing. -/
theorem readOnly_ask {stmt : Statement} (read : isWrite stmt = false) : ReadOnly (ask stmt) :=
  fun _ => ⟨read, fun _ => trivial⟩

/-- What is computed writes nothing. -/
theorem readOnly_ofExcept {α : Type} (result : DbResult α) :
    ReadOnly (Program.ofExcept result) := by
  cases result <;> exact fun _ => trivial

/-- Wrapping an error writes nothing. -/
theorem readOnly_mapErr {α : Type} (kind : String → DatabaseError) (reply : Except String α) :
    ReadOnly (mapErr kind reply) := by
  cases reply <;> exact fun _ => trivial

/-- Opening writes nothing to the database: the lease that it renews is the broker's. -/
theorem readOnly_decryptWithBroker (encoded : String) (aad : Bytes) :
    ReadOnly (decryptWithBroker aead encoded aad) := by
  refine (readOnly_ofExcept _).bind ?_
  rintro ⟨handle, redeemToken, ciphertext⟩
  refine (readOnly_ofExcept _).bind fun token => (readOnly_ask rfl).bind fun reply => ?_
  refine (readOnly_mapErr _ reply).bind fun key => (readOnly_ask rfl).bind fun _ => ?_
  exact (readOnly_ofExcept _).bind fun _ => readOnly_ofExcept _

/-- Nor does opening what may be absent. -/
theorem readOnly_decryptAeadOptional (cell : Option String) (aad : Bytes) (label : String) :
    ReadOnly (decryptAeadOptional aead cell aad label) := by
  cases cell with
  | none => exact readOnly_value none
  | some stored =>
    simp only [decryptAeadOptional]
    split
    · exact (readOnly_decryptWithBroker aead stored aad).bind fun _ => readOnly_value _
    · split <;> exact readOnly_failure _

/-- Nor does opening what has to be there. -/
theorem readOnly_decryptAeadRequired (cell : String) (aad : Bytes) (label field : String) :
    ReadOnly (decryptAeadRequired aead cell aad label field) :=
  (readOnly_decryptAeadOptional aead (some cell) aad label).bind fun _ => readOnly_ofExcept _

/-- The recovery of a ticket writes nothing. -/
theorem readOnly_recoverTicket (row : TicketRow) : ReadOnly (recoverTicket aead row) := by
  refine (readOnly_decryptAeadRequired aead _ _ _ _).bind fun _ => ?_
  refine (readOnly_decryptAeadRequired aead _ _ _ _).bind fun _ => ?_
  refine (readOnly_decryptAeadOptional aead _ _ _).bind fun _ => ?_
  refine (readOnly_decryptAeadRequired aead _ _ _ _).bind fun _ => ?_
  refine (readOnly_decryptAeadRequired aead _ _ _ _).bind fun _ => ?_
  exact (readOnly_decryptAeadRequired aead _ _ _ _).bind fun _ => readOnly_value _

/-- A fetch for verification writes nothing. -/
theorem readOnly_fetchTorTicketForVerification (id : Uuid) :
    ReadOnly (fetchTorTicketForVerification aead id) := by
  refine (readOnly_ask rfl).bind fun reply => (readOnly_mapErr _ reply).bind ?_
  rintro (_ | row)
  · exact readOnly_value none
  · exact (readOnly_recoverTicket aead row).bind fun _ => readOnly_value _

/-- Nor does the fetch of a session. -/
theorem readOnly_fetchTorSession (id : Uuid) : ReadOnly (fetchTorSession aead id) := by
  refine (readOnly_ask rfl).bind fun reply => (readOnly_mapErr _ reply).bind ?_
  rintro (_ | row)
  · exact readOnly_value none
  · refine ReadOnly.bind ?_ fun _ => readOnly_value _
    exact (readOnly_decryptAeadOptional aead _ _ _).bind fun _ => readOnly_value _

/-- A program without writes follows the rule of any call that promises nothing. -/
theorem Follows.of_reads {α : Type} {program : Operation α}
    (reads : program.Follows (fun _ stmt => isWrite stmt = false) (fun _ _ => True) past)
    {returns : List (Exchange Reply) → DbResult α → Prop}
    (free : ∀ later result, returns later result) (unwritten : Unwritten past) :
    program.Follows (Writes aead call) returns past := by
  induction program generalizing past with
  | value result => exact free past _
  | failure error => exact free past _
  | issue stmt resume inductionHypothesis =>
    exact ⟨.of_read aead unwritten reads.1,
      fun reply => inductionHypothesis reply (reads.2 reply) (unwritten.cons reads.1)⟩

/-- Every call follows its rule, whatever replies it receives. -/
theorem Call.follows (call : Call) :
    (call.program aead).Follows (Writes aead call) (Concludes call) [] := by
  have nothing : Unwritten [] := fun _ member => absurd member List.not_mem_nil
  cases call with
  | issueTorTicket ticket => exact issueTorTicket_follows aead ticket nothing
  | recordTorSession session => exact recordTorSession_follows aead session nothing
  | markTorTicketRedeemed id onion => exact markTorTicketRedeemed_follows aead id onion nothing
  | fetchTorTicketForVerification id =>
    refine Follows.of_reads aead (ReadOnly.bind ?_ (fun _ => readOnly_value _) [])
      (fun _ _ => trivial) nothing
    exact readOnly_fetchTorTicketForVerification aead id
  | fetchTorSession id =>
    refine Follows.of_reads aead (ReadOnly.bind ?_ (fun _ => readOnly_value _) [])
      (fun _ _ => trivial) nothing
    exact readOnly_fetchTorSession aead id
  | fetchTorCredential onionEntry =>
    exact ⟨.of_read aead nothing rfl, by rintro (message | found) <;> trivial⟩
  | fetchTorCredentialById id =>
    exact ⟨.of_read aead nothing rfl, by rintro (message | found) <;> trivial⟩
  | getTorTicketStatus id =>
    exact ⟨.of_read aead nothing rfl, by rintro (message | found) <;> trivial⟩
  | rotateOperationalOnion id newOnion guardNodes =>
    exact ⟨⟨nothing, trivial⟩, by rintro (message | done) <;> trivial⟩
  | setEntryOnion id entryOnion guardNodes =>
    exact ⟨⟨nothing, trivial⟩, by rintro (message | done) <;> trivial⟩
  | updateTorCredentialDisabled id disabled =>
    exact ⟨⟨nothing, trivial⟩, by rintro (message | done) <;> trivial⟩
  | deleteTorCredential id =>
    exact ⟨⟨nothing, trivial⟩, by rintro (message | done) <;> trivial⟩
  | expireTorTicketNow id =>
    exact ⟨⟨nothing, rfl⟩, by rintro (message | done) <;> trivial⟩
  | gcExpiredTickets retentionDays =>
    exact ⟨⟨nothing, trivial⟩, by rintro (message | done) <;> trivial⟩
  | importBootstrapTorCredential id entry hash tier rate expiresAt guardNodes =>
    refine ⟨.of_read aead nothing rfl, fun now => ⟨⟨nothing.cons rfl, trivial⟩, ?_⟩⟩
    rintro (message | done) <;> trivial
  | createTorCredential entry hash tier rate expiresAt guardNodes =>
    refine ⟨.of_read aead nothing rfl, fun id => ⟨.of_read aead (nothing.cons rfl) rfl, ?_⟩⟩
    refine fun now => ⟨⟨(nothing.cons rfl).cons rfl, trivial⟩, ?_⟩
    rintro (message | done) <;> trivial

end Following

section Reachability

variable {σ : Type} (externals : Externals σ) (aead : Aead tagLength)

/-- A freshly migrated and reachable database at some clock reading. -/
def World.migrated (now : Int) (outside : σ) : World σ := ⟨⟨now, none, TorTables.empty⟩, outside⟩

/-- Calls that have not started, over an initial world. -/
def launch (world : World σ) (calls : Nat → Call) : TorRun σ :=
  Run.start world (fun index => (calls index).program aead)

/-- In every schedule each call keeps its rule. -/
theorem lawful_calls (world : World σ) (calls : Nat → Call) (moves : List (Move (Drift σ))) :
    Run.Lawful (fun index => Writes aead (calls index)) (fun index => Concludes (calls index))
      ((launch aead world calls).play (machine externals) moves) :=
  Run.lawful_play (machine externals) world _ (fun index => (calls index).follows aead) moves

end Reachability

section Samples

/-- Externals that answer every request with one fixed reply. -/
def fixedExternals (lease : MintAeadKeyV2Lease) (nonce : Nonce) : Externals Unit where
  mintAeadKeyV2 _ outside := (.ok lease, outside)
  unwrapSecretV2 _ outside := (.ok lease.key, outside)
  renewLease _ _ outside := (.ok (), outside)
  fillNonce outside := (.ok nonce, outside)
  newUuid outside := (Uuid.nil, outside)
  utcNow outside := (0, outside)

/-- A lease with an all-zero key. -/
def zeroLease : MintAeadKeyV2Lease where
  handle := "h"
  redeemToken := some "t"
  key := List.replicate 32 0

/-- The nonce of the sample generator. -/
def zeroNonce : Nonce := ⟨List.replicate 12 0, rfl⟩

/-- A ticket for the all-zero credential whose protected values are submitted as
they are given. -/
def sampleTicket (text : String) : NewTorAccessTicket where
  id := Uuid.last 1
  credentialId := Uuid.nil
  entryOnion := "entry"
  tokenHash := "hash"
  expiresAt := .ofTimestamptz (60 * second)
  clientFingerprint := none
  clientAuthPublicKey := text
  clientAuthSecretPath := text
  clientAuthSecretRedeemToken := none
  attestationSessionId := Uuid.nil
  attestationNonceDigest := text
  attestationQuoteHash := text
  attestedAt := .ofTimestamptz 0
  teeKind := "tdx"
  teeLabel := none
  teePolicy := none
  tlsPubkeyDigest := text

/-- A session for the all-zero credential with the given client onion. -/
def sampleSession (text : String) : TorSessionRecord where
  id := Uuid.last 2
  credentialId := Uuid.nil
  circuitId := none
  fingerprint := none
  guardNodes := []
  clientOnion := some text
  expiresAt := none

/-- What encryption under the sample lease and nonce returns. -/
def sampleEnvelope (aead : Aead tagLength) (aad : Bytes) (text : String) : String :=
  encodeAeadPayload "h" "t"
    (zeroNonce.octets ++ aead.encrypt zeroLease.key zeroNonce.octets aad (utf8 text))

end Samples

end SecureDatabase.TorAuth
