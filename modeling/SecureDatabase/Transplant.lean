import SecureDatabase.ProtectedColumns
import SecureDatabase.TorReads

/-!
# Protected values cannot be transplanted

Under an authentic cipher an envelope opens in one context only. A value that a call
sealed for a row and column is therefore of no use anywhere else, and whatever
protected values a store holds, and wherever they are copied to, what a read returns
for a row and column was encrypted for that very row and column.

Two sources of encryption are told apart: the calls of the schedule, which seal
under keys minted for them, and the callers, who may submit a finished envelope.
-/

namespace SecureDatabase.TorAuth

open Foundation Program

variable {σ : Type} {aead : Aead tagLength}

/-- What encryption returns is an envelope of its plaintext in its context. -/
theorem encryptWithNewAead_envelope {externals : Externals σ} {plaintext aad : Bytes}
    {label envelope : String} {world after : World σ}
    (returned : (encryptWithNewAead aead plaintext aad label).run (exec externals) world =
      (.ok envelope, after)) : EnvelopeOf aead aad plaintext envelope := by
  simp only [encryptWithNewAead, run_bind_eq_ok_iff] at returned
  obtain ⟨minted, world₁, -, lease, world₂, -, token, world₃, -, random, world₄, -, nonce, world₅,
    -, ciphertext, world₆, encrypts, done⟩ := returned
  cases done
  rw [run_ofExcept] at encrypts
  have produced := congrArg Prod.fst encrypts
  simp only [aesEncryptWithAad] at produced
  split at produced
  · exact ⟨lease.handle, token, lease.key, nonce, by rw [Except.ok.inj produced]⟩
  · cases produced

/-- What a call has sealed is an envelope in the sense of the format, under the lease that
the call was granted. -/
theorem Sealed.envelopeOf {past : List (Exchange Reply)} {plaintext aad : Bytes}
    {stored : String} (sealed : Sealed aead past plaintext aad stored) :
    EnvelopeOf aead aad plaintext stored := by
  obtain ⟨-, lease, token, nonce, -, -, -, rfl⟩ := sealed
  exact ⟨lease.handle, token, lease.key, nonce, rfl⟩

/-- What opens in a context is an envelope of that context. -/
theorem OpensAt.envelopeOf (authentic : aead.Authentic) {externals : Externals σ} {outside : σ}
    {aad : Bytes} {stored text : String} (opens : OpensAt externals aead outside aad stored text) :
    EnvelopeOf aead aad (utf8 text) stored := by
  obtain ⟨handle, token, ciphertext, key, decoded, -, opened⟩ := opens
  exact envelopeOf_of_opened authentic decoded opened

/-- A held text comes from a call that submitted it, sealed by that call in its
context or as it was submitted. -/
def Origin (aead : Aead tagLength) (calls : Nat → Call) (log : List (Event (World σ) Reply))
    (stored : String) : Prop :=
  ∃ index aad submitted, Submits (calls index) aad submitted ∧
    (Sealed aead (exchanges index log) (utf8 submitted) aad stored ∨ stored = submitted)

/-- A text was encrypted in a context: a call of the schedule submitted it for that
context and sealed it, or a caller submitted the envelope that another party had
sealed in that context. -/
def EncryptedFor (aead : Aead tagLength) (calls : Nat → Call)
    (log : List (Event (World σ) Reply)) (aad : Bytes) (text stored : String) : Prop :=
  (∃ index, Submits (calls index) aad text ∧
    Sealed aead (exchanges index log) (utf8 text) aad stored) ∨
  ∃ index submittedFor, Submits (calls index) submittedFor stored ∧
    EnvelopeOf aead aad (utf8 text) stored

/-- An authentic cipher turns an origin into the context that a read opens in. -/
theorem Origin.encryptedFor (authentic : aead.Authentic) {calls : Nat → Call}
    {log : List (Event (World σ) Reply)} {aad : Bytes} {text stored : String}
    (origin : Origin aead calls log stored) (envelope : EnvelopeOf aead aad (utf8 text) stored) :
    EncryptedFor aead calls log aad text stored := by
  obtain ⟨index, sealedFor, submitted, submits, sealed | rfl⟩ := origin
  · obtain ⟨rfl, plaintexts⟩ := sealed.envelopeOf.unique authentic envelope
    obtain rfl := utf8_injective plaintexts
    exact .inl ⟨index, submits, sealed⟩
  · exact .inr ⟨index, sealedFor, submits, envelope⟩

/-- An origin stays one as the log grows. -/
theorem Origin.step {calls : Nat → Call} {run : TorRun σ} {stored : String}
    (origin : Origin aead calls run.log stored) (externals : Externals σ)
    (move : Move (Drift σ)) :
    Origin aead calls (run.step (machine externals) move).log stored := by
  obtain ⟨index, aad, submitted, submits, sealed | same⟩ := origin
  · exact ⟨index, aad, submitted, submits,
      .inl (sealed.mono aead (exchanges_step externals run move index))⟩
  · exact ⟨index, aad, submitted, submits, .inr same⟩

/-- In every schedule over a migrated database each held text has an origin. -/
theorem origin_play (externals : Externals σ) (aead : Aead tagLength) (calls : Nat → Call)
    (now : Int) (outside : σ) (moves : List (Move (Drift σ))) {text : String}
    (held : Holds ((launch aead (.migrated now outside) calls).play (machine externals)
      moves).store text) :
    Origin aead calls ((launch aead (.migrated now outside) calls).play (machine externals)
      moves).log text := by
  have lawful := lawful_calls externals aead (.migrated now outside) calls
  have empty : ∀ text, ¬ Holds (launch aead (.migrated now outside) calls).store text := by
    intro text held
    cases held with
    | clientOnion row stored cell => exact absurd stored List.not_mem_nil
    | field row stored field cell => exact absurd stored List.not_mem_nil
    | redeemedOnion row stored cell => exact absurd stored List.not_mem_nil
  refine (Run.play_invariant (machine externals)
    (fun current => Run.Lawful (fun index => Writes aead (calls index))
      (fun index => Concludes (calls index)) current ∧
      ∀ text, Holds current.store text → Origin aead calls current.log text)
    ⟨lawful [], fun text held => absurd held (empty text)⟩ ?_ moves).2 text held
  rintro current move ⟨obedient, origins⟩
  refine ⟨obedient.step (machine externals) move, ?_⟩
  intro text held
  rcases holds_step obedient held with before | ⟨index, aad, submitted, -, submits, stored⟩
  · exact (origins text before).step externals move
  · have origin : Origin aead calls current.log text := by
      rcases stored with sealed | ⟨same, -, -⟩
      · exact ⟨index, aad, submitted, submits, .inl sealed⟩
      · exact ⟨index, aad, submitted, submits, .inr same⟩
    exact origin.step externals move

/-- A recovered cell that holds a text opens to it. -/
theorem RecoveredCell.opens {externals : Externals σ} {outside : σ} {aad : Bytes}
    {cell : Option String} {text : String}
    (recovered : RecoveredCell externals aead outside aad cell (some text)) :
    ∃ stored, cell = some stored ∧ OpensAt externals aead outside aad stored text := by
  cases cell with
  | none => exact recovered.elim
  | some stored => exact ⟨stored, rfl, recovered⟩

/-- Protected values cannot be transplanted. An envelope that encryption returned
for one table, field, row and purpose fails to decrypt for any other, whatever the
broker answers. And in every world whose protected columns hold only texts that some
state of some schedule holds, in any arrangement, every protected field that a fetch
returns was encrypted for that very row and column.

Proof: an authentic cipher opens only what was sealed under the same key, nonce and associated
data, so what decrypts was encrypted with the associated data it is read with, and that is
injective in the table, the field, the row and the purpose. For a copied world, every text
that a state holds has its origin in an encryption of the log, and reading it in its new place
names that place. -/
theorem no_transplant (authentic : aead.Authentic) :
    (∀ (σ τ : Type) (writer : Externals σ) (reader : Externals τ) (world : World σ)
      (reading : World τ) (table field table' field' : String) (rowId rowId' : Uuid)
      (plaintext purpose purpose' : Bytes) (label envelope text : String),
      '\x00' ∉ table.toList → '\x00' ∉ field.toList →
      '\x00' ∉ table'.toList → '\x00' ∉ field'.toList →
      (table, field, rowId, purpose) ≠ (table', field', rowId', purpose') →
      ((encryptWithNewAead aead plaintext (recordBoundAad table field rowId purpose) label).run
        (exec writer) world).1 = .ok envelope →
      ((decryptWithBroker aead envelope (recordBoundAad table' field' rowId' purpose')).run
        (exec reader) reading).1 ≠ .ok text) ∧
    ∀ (σ : Type) (externals reader : Externals σ) (calls : Nat → Call) (now : Int) (outside : σ)
      (moves : List (Move (Drift σ))) (transplanted : World σ),
      (∀ text, Holds transplanted text → Holds ((launch aead (.migrated now outside) calls).play
        (machine externals) moves).store text) →
      (∀ id record, ((fetchTorTicketForVerification aead id).run (exec reader) transplanted).1 =
          .ok (some record) →
        ∀ (field : TicketField) text, field.recovered record = some text →
          ∃ row stored, transplanted.tickets.find id = some row ∧
            field.cell row.toTicketRecord = some stored ∧
            EncryptedFor aead calls ((launch aead (.migrated now outside) calls).play
              (machine externals) moves).log (field.context id) text stored) ∧
      ∀ id record, ((fetchTorSession aead id).run (exec reader) transplanted).1 =
          .ok (some record) →
        ∀ text, record.clientOnion = some text →
          ∃ row stored, transplanted.sessions.find id = some row ∧
            row.clientOnion = some stored ∧
            EncryptedFor aead calls ((launch aead (.migrated now outside) calls).play
              (machine externals) moves).log (clientOnionContext id) text stored := by
  refine ⟨?_, ?_⟩
  · intro σ τ writer reader world reading table field table' field' rowId rowId' plaintext purpose
      purpose' label envelope text freshTable freshField freshTable' freshField' differs encrypted_
      decrypted
    have left := encryptWithNewAead_envelope (Prod.ext encrypted_ rfl)
    have right := ((decryptWithBroker_eq_ok_iff reader aead _ _ reading text).mp
      decrypted).envelopeOf authentic
    obtain ⟨same, -⟩ := left.unique authentic right
    obtain ⟨rfl, rfl, rfl, rfl⟩ :=
      recordBoundAad_injective freshTable freshField freshTable' freshField' same
    exact differs rfl
  · intro σ externals reader calls now outside moves transplanted copied
    refine ⟨?_, ?_⟩
    · intro id record returned field text shown
      obtain ⟨row, found, recovered⟩ :=
        fetchTorTicketForVerification_sound reader aead (Prod.ext returned rfl)
      obtain ⟨later, -, cell⟩ := recovered.recovered field
      rw [shown, Table.key_of_find found] at cell
      obtain ⟨stored, present, opens⟩ := cell.opens
      have held := copied stored (.field row (Table.mem_of_find found) field present)
      exact ⟨row, stored, found, present, (origin_play externals aead calls now outside moves
        held).encryptedFor authentic (opens.envelopeOf authentic)⟩
    · intro id record returned text shown
      obtain ⟨row, found, cell⟩ := fetchTorSession_sound reader aead (Prod.ext returned rfl)
      rw [shown, Table.key_of_find found] at cell
      obtain ⟨stored, present, opens⟩ := cell.opens
      have held := copied stored (.clientOnion row (Table.mem_of_find found) present)
      exact ⟨row, stored, found, present, (origin_play externals aead calls now outside moves
        held).encryptedFor authentic (opens.envelopeOf authentic)⟩

/-- A credential is imported and a session recorded for it. -/
def oneSession : Nat → Call
  | 0 => .importBootstrapTorCredential Uuid.nil "entry" "hash" "tier" 1 none []
  | _ => .recordTorSession (sampleSession "o")

/-- The moves of both calls. -/
def oneSessionMoves : List (Move (Drift Unit)) :=
  [.call 0, .call 0, .call 1, .call 1, .call 1, .call 1]

/-- The world in which the session has been recorded. -/
def oneSessionRun : TorRun Unit :=
  (launch (Aead.framed tagLength) (.migrated 0 ()) oneSession).play
    (machine (fixedExternals zeroLease zeroNonce)) oneSessionMoves

/-- The onion as it is stored, sealed under the sample lease. -/
def oneSessionOnion : String :=
  sampleEnvelope (Aead.framed tagLength) (clientOnionContext (Uuid.last 2)) "o"

/-- The stored session row. -/
def oneSessionRow : SessionRow :=
  { (sampleSession oneSessionOnion).bound with
    sessionKey := Uuid.nil
    issuedAt := 0 }

/-- The session is stored: the server receives its columns, of which the only text is an
envelope, in the world in which its credential has been imported. -/
theorem oneSession_stored :
    oneSessionRun.store.server.outage = none ∧
      oneSessionRun.store.sessions.find (Uuid.last 2) = some oneSessionRow := by
  let before := ((launch (Aead.framed tagLength) (.migrated 0 ()) oneSession).play
    (machine (fixedExternals zeroLease zeroNonce)) (oneSessionMoves.take 5)).store
  have executed : oneSessionRun.store = (exec (fixedExternals zeroLease zeroNonce)
    (.insertSession (sampleSession oneSessionOnion).bound Uuid.nil) before).2 := rfl
  have received : Received [.text oneSessionOnion] :=
    (received_text_iff _).mpr (nul_not_mem_encodeAeadPayload "h" "t" _)
  have inserted : exec (fixedExternals zeroLease zeroNonce)
      (.insertSession (sampleSession oneSessionOnion).bound Uuid.nil) before = _ :=
    World.sql_of_received (show before.server.outage = none from rfl) received
      (show before.server.tables.insertSession (sampleSession oneSessionOnion).bound Uuid.nil
        before.now = .ok ((), { before.server.tables with
          sessions := ⟨[oneSessionRow], List.nodup_singleton _⟩ }) from rfl)
  rw [executed, inserted]
  exact ⟨rfl, rfl⟩

/-- A fetch returns the session as it was submitted. -/
theorem oneSession_fetched :
    ((fetchTorSession (Aead.framed tagLength) (Uuid.last 2)).run
      (exec (fixedExternals zeroLease zeroNonce)) oneSessionRun.store).1 =
        .ok (some (sampleSession "o")) :=
  fetchTorSession_complete _ _ oneSession_stored.1 oneSession_stored.2
    (sampleEnvelope_opensAt _ (clientOnionContext (Uuid.last 2)) "o" ())

/-- An envelope sealed for a ticket's TLS key digest does not open as a client onion,
and the recorded client onion was encrypted for its session. -/
theorem no_transplant_oneSession :
    ((decryptWithBroker (Aead.framed tagLength)
      (sampleEnvelope (Aead.framed tagLength)
        (TicketField.tlsPubkeyDigest.context (Uuid.last 1)) "o")
      (clientOnionContext (Uuid.last 2))).run (exec (fixedExternals zeroLease zeroNonce))
        (.migrated 0 ())).1 ≠ .ok "o" ∧
    ∃ row stored, oneSessionRun.store.sessions.find (Uuid.last 2) = some row ∧
      row.clientOnion = some stored ∧
      EncryptedFor (Aead.framed tagLength) oneSession oneSessionRun.log
        (clientOnionContext (Uuid.last 2)) "o" stored := by
  obtain ⟨confined, returned⟩ := no_transplant (Aead.framed_authentic tagLength)
  refine ⟨?_, ?_⟩
  · exact confined Unit Unit (fixedExternals zeroLease zeroNonce)
      (fixedExternals zeroLease zeroNonce) (.migrated 0 ()) (.migrated 0 ())
      "gateway_secrets.tor_access_tickets" "tls_pubkey_digest"
      "gateway_secrets.tor_auth_sessions" "client_onion" (Uuid.last 1) (Uuid.last 2) (utf8 "o")
      ticketTlsPubkeyDigestAad clientOnionAad "label" _ "o" (by decide) (by decide) (by decide)
      (by decide) (by decide) rfl
  · exact (returned Unit (fixedExternals zeroLease zeroNonce) (fixedExternals zeroLease zeroNonce)
      oneSession 0 () oneSessionMoves oneSessionRun.store (fun _ held => held)).2 (Uuid.last 2)
      (sampleSession "o") oneSession_fetched "o" rfl

end SecureDatabase.TorAuth
