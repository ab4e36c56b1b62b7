import Mathlib.Data.Int.Order.Basic
import SecureDatabase.Recovery
import SecureDatabase.Foundation.Lease

/-!
# How long a ticket stays recoverable

Issuing a ticket mints one key for each present protected column, every one leased for
`aeadKeyTtlSeconds` whatever the ticket's expiry, and a fetch renews the leases of the
columns it opens for the same time. Nothing else renews them. A ticket whose fetches
lie further apart loses its columns while it is still unexpired, and a lease that ran
out is not renewed by the fetch that finds it so.

The broker is assumed to keep its leases by a clock. Time passes between calls and while
a ticket is issued, so that its leases end at different times; a fetch is taken at one
instant.
-/

namespace SecureDatabase.TorAuth

open Foundation Program

variable {σ : Type}

/-- What the broker keeps under the handle of a renewable lease. -/
structure HeldLease where
  redeemToken : String
  key : Bytes
  ends : Int
deriving DecidableEq

/-- A broker that keeps renewable leases by a clock. A minted lease is held under a new
handle for the requested time; its key is given out until its end and not from then
on; renewing a live lease moves its end. Minting and drawing randomness may take time. -/
structure LeasingBroker (externals : Externals σ) where
  now : σ → Int
  leases : σ → String → Option HeldLease
  mints : ∀ {params : MintAeadKeyV2Params} {seconds : Nat} {lease : MintAeadKeyV2Lease}
    {token : String} {outside later : σ},
    params.lifecycle = some .renewableLease → params.initialLeaseSeconds = some seconds →
    externals.mintAeadKeyV2 params outside = (.ok lease, later) →
    lease.redeemToken = some token →
    trim lease.handle = lease.handle ∧ trim token = token ∧
      leases outside lease.handle = none ∧
      leases later = Function.update (leases outside) lease.handle
        (some ⟨token, lease.key, now outside + seconds * second⟩) ∧
      now outside ≤ now later
  unwraps : ∀ {handle : String} {lease : HeldLease} {outside : σ},
    leases outside handle = some lease → now outside < lease.ends →
    (externals.unwrapSecretV2 ⟨handle, some lease.redeemToken⟩ outside).1 = .ok lease.key
  lapses : ∀ {handle : String} {lease : HeldLease} {outside : σ},
    leases outside handle = some lease → lease.ends ≤ now outside →
    ∃ message,
      (externals.unwrapSecretV2 ⟨handle, some lease.redeemToken⟩ outside).1 = .error message
  unwraps_leases : ∀ params outside,
    leases (externals.unwrapSecretV2 params outside).2 = leases outside
  unwraps_now : ∀ params outside, now (externals.unwrapSecretV2 params outside).2 = now outside
  renews : ∀ {handle : String} {lease : HeldLease} {outside : σ} (seconds : Nat),
    leases outside handle = some lease → now outside < lease.ends →
    ∃ later, externals.renewLease handle seconds outside = (.ok (), later) ∧
      leases later = Function.update (leases outside) handle
        (some { lease with ends := now outside + seconds * second }) ∧
      now later = now outside
  draws_leases : ∀ outside, leases (externals.fillNonce outside).2 = leases outside
  draws_now : ∀ outside, now outside ≤ now (externals.fillNonce outside).2

/-- When a lease minted or renewed at some time ends. -/
def leaseDue (time : Int) : Int := time + aeadKeyTtlSeconds * second

/-- A lease that begins now ends later. -/
theorem lt_leaseDue (time : Int) : time < leaseDue time := by
  simp only [leaseDue, aeadKeyTtlSeconds, second]
  omega

/-- A lease that begins later does not end earlier. -/
theorem leaseDue_mono {time later : Int} (passed : time ≤ later) :
    leaseDue time ≤ leaseDue later := by
  simp only [leaseDue]
  omega

section Leases

variable {externals : Externals σ} (broker : LeasingBroker externals) (aead : Aead tagLength)

/-- Every lease is held as it was. -/
def Keeps (outside later : σ) : Prop :=
  ∀ handle lease, broker.leases outside handle = some lease →
    broker.leases later handle = some lease

/-- A stored text opens in a context to a text, under a lease with this end. -/
def LeasedUntil (outside : σ) (aad : Bytes) (stored text : String) (ends : Int) : Prop :=
  ∃ handle token ciphertext key,
    decodeAeadPayload stored = .ok (handle, some token, ciphertext) ∧
    trim handle = handle ∧ trim token = token ∧
    broker.leases outside handle = some ⟨token, key, ends⟩ ∧
    aesDecryptWithAad aead key ciphertext aad = .ok (utf8 text)

/-- An absent cell stays absent, a present one is under a lease with this end. -/
def CellUntil (outside : σ) (aad : Bytes) (ends : Int) : Option String → Option String → Prop
  | none, none => True
  | some stored, some text => LeasedUntil broker aead outside aad stored text ends
  | _, _ => False

variable {broker aead}

/-- A cell stays under its lease as long as the leases are held as they were. -/
theorem CellUntil.kept {outside later : σ} {aad : Bytes} {ends : Int}
    {stored text : Option String} (cell : CellUntil broker aead outside aad ends stored text)
    (keeps : Keeps broker outside later) : CellUntil broker aead later aad ends stored text := by
  match stored, text, cell with
  | none, none, _ => trivial
  | some stored, some text, ⟨handle, token, ciphertext, key, decoded, whole, bare, held, opened⟩ =>
    exact ⟨handle, token, ciphertext, key, decoded, whole, bare, keeps handle _ held, opened⟩

/-- Moving the end of some lease leaves a cell under its old end or the moved one. -/
theorem CellUntil.moved {outside later : σ} {aad : Bytes} {ends due : Int}
    {stored text : Option String} (cell : CellUntil broker aead outside aad ends stored text)
    {handle : String} {lease : HeldLease} (held : broker.leases outside handle = some lease)
    (moved : broker.leases later =
      Function.update (broker.leases outside) handle (some { lease with ends := due })) :
    CellUntil broker aead later aad ends stored text ∨
      CellUntil broker aead later aad due stored text := by
  match stored, text, cell with
  | none, none, _ => exact .inl trivial
  | some stored, some text, ⟨other, token, ciphertext, key, decoded, whole, bare, kept, opened⟩ =>
    by_cases same : other = handle
    · subst same
      rw [held, Option.some.injEq] at kept
      refine .inr ⟨other, token, ciphertext, key, decoded, whole, bare, ?_, opened⟩
      rw [moved, Function.update_self, kept]
    · refine .inl ⟨other, token, ciphertext, key, decoded, whole, bare, ?_, opened⟩
      rw [moved, Function.update_of_ne same]
      exact kept

/-- What the broker and the random generator answered when a text was sealed. -/
theorem encryptWithNewAead_eq_ok {plaintext aad : Bytes} {label envelope : String}
    {world after : World σ}
    (returned : (encryptWithNewAead aead plaintext aad label).run (exec externals) world =
      (.ok envelope, after)) :
    ∃ lease token nonce ciphertext later,
      externals.mintAeadKeyV2
        { ttlSeconds := some aeadKeyTtlSeconds
          label := some label
          lifecycle := some .renewableLease
          initialLeaseSeconds := some aeadKeyTtlSeconds } world.outside = (.ok lease, later) ∧
      lease.redeemToken = some token ∧
      aesEncryptWithAad aead nonce lease.key plaintext aad = .ok ciphertext ∧
      envelope = encodeAeadPayload lease.handle token ciphertext ∧
      after = { world with outside := (externals.fillNonce later).2 } := by
  simp only [encryptWithNewAead, run_bind_eq_ok_iff, run_ask_eq_ok_iff, encrypted, drawn,
    run_mapErr_eq_ok_iff, run_ofExcept, Prod.mk.injEq, okOr_eq_ok_iff] at returned
  obtain ⟨_, world₁, minted, lease, _, ⟨rfl, rfl⟩, token, _, ⟨redeems, rfl⟩, _, world₂, random,
    nonce, _, ⟨rfl, rfl⟩, ciphertext, _, ⟨sealed, rfl⟩, done⟩ := returned
  cases done
  obtain ⟨answered, rfl⟩ := Prod.ext_iff.mp minted
  obtain ⟨-, rfl⟩ := Prod.ext_iff.mp random
  exact ⟨lease, token, nonce, ciphertext, _, Prod.ext answered rfl, redeems, sealed, rfl, rfl⟩

/-- At most new keys were minted: the server and every lease are as they were. -/
structure Minting (broker : LeasingBroker externals) (world after : World σ) : Prop where
  server : after.server = world.server
  clock : broker.now world.outside ≤ broker.now after.outside
  keeps : Keeps broker world.outside after.outside

/-- Nothing was minted. -/
theorem Minting.refl (world : World σ) : Minting broker world world :=
  ⟨rfl, le_refl _, fun _ _ held => held⟩

/-- Mintings add up. -/
theorem Minting.trans {first second third : World σ} (left : Minting broker first second)
    (right : Minting broker second third) : Minting broker first third where
  server := right.server.trans left.server
  clock := left.clock.trans right.clock
  keeps := fun handle lease held => right.keeps handle lease (left.keeps handle lease held)

/-- Sealing a text puts it under a new lease from now on. -/
theorem encryptWithNewAead_leased (broker : LeasingBroker externals)
    {text envelope label : String} {aad : Bytes} {world after : World σ}
    (returned : (encryptWithNewAead aead (utf8 text) aad label).run (exec externals) world =
      (.ok envelope, after)) :
    Minting broker world after ∧
      LeasedUntil broker aead after.outside aad envelope text
        (leaseDue (broker.now world.outside)) := by
  obtain ⟨lease, token, nonce, ciphertext, later, answer, redeems, sealed, rfl, rfl⟩ :=
    encryptWithNewAead_eq_ok returned
  obtain ⟨whole, bare, unheld, held, clock⟩ := broker.mints rfl rfl answer redeems
  refine ⟨⟨rfl, clock.trans (broker.draws_now later), ?_⟩, ?_⟩
  · intro handle other kept
    have new : handle ≠ lease.handle := by
      rintro rfl
      rw [unheld] at kept
      cases kept
    rw [broker.draws_leases, held, Function.update_of_ne new]
    exact kept
  · refine ⟨lease.handle, token, ciphertext, lease.key,
      (decodeAeadPayload_eq_ok_iff _ _ _ _).mpr rfl, whole, bare, ?_,
      aesDecrypt_aesEncrypt aead nonce sealed⟩
    rw [broker.draws_leases, held, Function.update_self]
    rfl

/-- A value that is not submitted as an envelope is admitted under a new lease. -/
theorem ensureAeadEncrypted_leased (broker : LeasingBroker externals)
    {submitted stored : Option String} {aad : Bytes} {label : String} {world after : World σ}
    (plain : ∀ text, submitted = some text → isAeadPayloadV2 text = false)
    (returned : (ensureAeadEncrypted aead submitted aad label).run (exec externals) world =
      (.ok stored, after)) :
    Minting broker world after ∧
      CellUntil broker aead after.outside aad (leaseDue (broker.now world.outside)) stored
        submitted := by
  cases submitted with
  | none =>
    cases returned
    exact ⟨.refl world, trivial⟩
  | some text =>
    simp only [ensureAeadEncrypted, plain text rfl, Bool.false_eq_true, if_false] at returned
    split at returned
    · cases returned
    · obtain ⟨envelope, between, sealed, rest⟩ := (run_bind_eq_ok_iff _ _ _ _ _ _).mp returned
      cases rest
      exact encryptWithNewAead_leased broker sealed

/-- A text that is encrypted on its way into a column is there under a lease of the
constant lifetime, from the moment of its minting. -/
theorem ensureAeadEncryptedRequired_leased (broker : LeasingBroker externals)
    {submitted stored : String} {aad : Bytes} {label field : String} {world after : World σ}
    (plain : isAeadPayloadV2 submitted = false)
    (returned : (ensureAeadEncryptedRequired aead submitted aad label field).run
      (exec externals) world = (.ok stored, after)) :
    Minting broker world after ∧
      CellUntil broker aead after.outside aad (leaseDue (broker.now world.outside)) (some stored)
        (some submitted) := by
  obtain ⟨found, between, admitted, rest⟩ := (run_bind_eq_ok_iff _ _ _ _ _ _).mp returned
  rw [run_ofExcept] at rest
  cases found with
  | none => cases rest
  | some value_ =>
    cases rest
    refine ensureAeadEncrypted_leased broker ?_ admitted
    rintro text same
    cases same
    exact plain

variable (broker aead)

/-- The ticket is stored with its present protected columns under leases, of which the
first ends at the given time and no other ends earlier. -/
def TicketUntil (ticket : NewTorAccessTicket) (world : World σ) (due : Int) : Prop :=
  ∃ row, world.tickets.find ticket.id = some row ∧
    CellUntil broker aead world.outside (TicketField.clientAuthPublicKey.context ticket.id) due
      (some row.clientAuthPublicKey) (some ticket.clientAuthPublicKey) ∧
    ∀ field : TicketField, ∃ ends, due ≤ ends ∧
      CellUntil broker aead world.outside (field.context ticket.id) ends
        (field.cell row.toTicketRecord) (field.cell ticket)

variable {broker aead}

/-- An issue that returns has leased each column in turn, the first one at once, and has
inserted them. -/
theorem issueTorTicket_admits (broker : LeasingBroker externals) {ticket : NewTorAccessTicket}
    {issued : IssuedTorAccessTicket} {world after : World σ}
    (plain : ∀ (field : TicketField) text, field.cell ticket = some text →
      isAeadPayloadV2 text = false)
    (returned : (issueTorTicket aead ticket).run (exec externals) world = (.ok issued, after)) :
    ∃ columns row between, columns.id = ticket.id ∧ Minting broker world between ∧
      CellUntil broker aead between.outside (TicketField.clientAuthPublicKey.context ticket.id)
        (leaseDue (broker.now world.outside)) (some columns.clientAuthPublicKey)
        (some ticket.clientAuthPublicKey) ∧
      (∀ field : TicketField, ∃ time, broker.now world.outside ≤ time ∧
        CellUntil broker aead between.outside (field.context ticket.id) (leaseDue time)
          (field.cell columns) (field.cell ticket)) ∧
      exec externals (.insertTicket columns) between = (.ok row, after) := by
  simp only [issueTorTicket, run_bind_eq_ok_iff, run_ask_eq_ok_iff] at returned
  obtain ⟨publicKey, world₁, admitted₁, secretPath, world₂, admitted₂, nonceDigest, world₃,
    admitted₃, quoteHash, world₄, admitted₄, redeemToken, world₅, admitted₅, tlsDigest, world₆,
    admitted₆, reply, world₇, inserted, record, world₈, replied, done⟩ := returned
  cases done
  obtain ⟨rfl, rfl⟩ := (run_mapErr_eq_ok_iff _ _ _ _ _ _).mp replied
  obtain ⟨minting₁, cell₁⟩ := ensureAeadEncryptedRequired_leased broker
    (plain .clientAuthPublicKey _ rfl) admitted₁
  obtain ⟨minting₂, cell₂⟩ := ensureAeadEncryptedRequired_leased broker
    (plain .clientAuthSecretPath _ rfl) admitted₂
  obtain ⟨minting₃, cell₃⟩ := ensureAeadEncryptedRequired_leased broker
    (plain .attestationNonceDigest _ rfl) admitted₃
  obtain ⟨minting₄, cell₄⟩ := ensureAeadEncryptedRequired_leased broker
    (plain .attestationQuoteHash _ rfl) admitted₄
  obtain ⟨minting₅, cell₅⟩ := ensureAeadEncrypted_leased broker
    (plain .clientAuthSecretRedeemToken) admitted₅
  obtain ⟨minting₆, cell₆⟩ := ensureAeadEncryptedRequired_leased broker
    (plain .tlsPubkeyDigest _ rfl) admitted₆
  -- Each column is leased at its own time, and the later columns leave its lease alone.
  have until₂ := minting₁.trans minting₂
  have until₃ := until₂.trans minting₃
  have until₄ := until₃.trans minting₄
  have until₅ := until₄.trans minting₅
  have since₅ := minting₅.trans minting₆
  have since₄ := minting₄.trans since₅
  have since₃ := minting₃.trans since₄
  have since₂ := minting₂.trans since₃
  refine ⟨{ ticket.bound with
    clientAuthPublicKey := publicKey
    clientAuthSecretPath := secretPath
    clientAuthSecretRedeemToken := redeemToken
    attestationNonceDigest := nonceDigest
    attestationQuoteHash := quoteHash
    tlsPubkeyDigest := tlsDigest }, record, world₆, rfl, until₅.trans minting₆,
    cell₁.kept since₂.keeps, ?_, inserted⟩
  intro field
  cases field with
  | clientAuthPublicKey => exact ⟨_, le_refl _, cell₁.kept since₂.keeps⟩
  | clientAuthSecretPath => exact ⟨_, minting₁.clock, cell₂.kept since₃.keeps⟩
  | clientAuthSecretRedeemToken => exact ⟨_, until₄.clock, cell₅.kept minting₆.keeps⟩
  | attestationNonceDigest => exact ⟨_, until₂.clock, cell₃.kept since₄.keeps⟩
  | attestationQuoteHash => exact ⟨_, until₃.clock, cell₄.kept since₅.keeps⟩
  | tlsPubkeyDigest => exact ⟨_, until₅.clock, cell₆⟩

/-- A ticket with no envelope among its values is leased from the beginning of the issue
on. -/
theorem issueTorTicket_leased {ticket : NewTorAccessTicket} {issued : IssuedTorAccessTicket}
    {world after : World σ}
    (plain : ∀ (field : TicketField) text, field.cell ticket = some text →
      isAeadPayloadV2 text = false)
    (returned : (issueTorTicket aead ticket).run (exec externals) world = (.ok issued, after)) :
    broker.now world.outside ≤ broker.now after.outside ∧
      TicketUntil broker aead ticket after (leaseDue (broker.now world.outside)) := by
  obtain ⟨columns, row, between, keyed, minting, first, sealed, inserted⟩ :=
    issueTorTicket_admits broker plain returned
  have changed := exec_ticketChange externals (.insertTicket columns) between
  rw [inserted] at changed
  have found := changed.find_issued
  rw [keyed] at found
  obtain rfl : (exec externals (.insertTicket columns) between).2 = after :=
    congrArg Prod.snd inserted
  refine ⟨minting.clock, _, found, first, ?_⟩
  intro field
  obtain ⟨time, passed, cell⟩ := sealed field
  exact ⟨_, leaseDue_mono passed, cell⟩

/-- The server and the broker's clock are as they were. -/
structure SameInstant (broker : LeasingBroker externals) (world after : World σ) : Prop where
  server : after.server = world.server
  clock : broker.now after.outside = broker.now world.outside

/-- Two parts of one instant are one instant. -/
theorem SameInstant.trans {first second third : World σ}
    (left : SameInstant broker first second) (right : SameInstant broker second third) :
    SameInstant broker first third :=
  ⟨right.server.trans left.server, right.clock.trans left.clock⟩

/-- Opening a text under a live lease moves the end of that lease. -/
theorem decryptWithBroker_renews {stored text : String} {aad : Bytes} {ends : Int}
    {world : World σ} (leased : LeasedUntil broker aead world.outside aad stored text ends)
    (live : broker.now world.outside < ends) :
    ∃ after handle lease,
      (decryptWithBroker aead stored aad).run (exec externals) world = (.ok text, after) ∧
      SameInstant broker world after ∧ broker.leases world.outside handle = some lease ∧
      broker.leases after.outside = Function.update (broker.leases world.outside) handle
        (some { lease with ends := leaseDue (broker.now world.outside) }) ∧
      LeasedUntil broker aead after.outside aad stored text
        (leaseDue (broker.now world.outside)) := by
  obtain ⟨handle, token, ciphertext, key, decoded, whole, bare, held, opened⟩ := leased
  have unwrapped := broker.unwraps held live
  have unmoved := broker.unwraps_leases ⟨handle, some token⟩ world.outside
  have unpassed := broker.unwraps_now ⟨handle, some token⟩ world.outside
  have run := decryptWithBroker_run_decoded externals aead decoded aad world
  rw [whole, bare] at run
  generalize externals.unwrapSecretV2 ⟨handle, some token⟩ world.outside = answer at *
  obtain ⟨reply, between⟩ := answer
  cases unwrapped
  obtain ⟨later, renewed, moved, stood⟩ := broker.renews aeadKeyTtlSeconds
    (unmoved ▸ held) (unpassed ▸ live)
  simp only [renewed, (openedText_eq_ok_iff aead _ _ _ _).mpr opened] at run
  simp only [unmoved, unpassed] at moved stood
  refine ⟨_, handle, ⟨token, key, ends⟩, run, ⟨rfl, stood⟩, held, moved, ?_⟩
  refine ⟨handle, token, ciphertext, key, decoded, whole, bare, ?_, opened⟩
  rw [moved, Function.update_self]
  rfl

/-- Opening a text under a lease that ran out fails and renews nothing. -/
theorem decryptWithBroker_lapsed {stored text : String} {aad : Bytes} {ends : Int}
    {world : World σ} (leased : LeasedUntil broker aead world.outside aad stored text ends)
    (lapsed : ends ≤ broker.now world.outside) :
    ∃ error after,
      (decryptWithBroker aead stored aad).run (exec externals) world = (.error error, after) ∧
      SameInstant broker world after ∧ Keeps broker world.outside after.outside := by
  obtain ⟨handle, token, ciphertext, key, decoded, whole, bare, held, -⟩ := leased
  obtain ⟨message, refused⟩ := broker.lapses held lapsed
  have run := decryptWithBroker_run_decoded externals aead decoded aad world
  rw [whole, bare] at run
  have unmoved := broker.unwraps_leases ⟨handle, some token⟩ world.outside
  have unpassed := broker.unwraps_now ⟨handle, some token⟩ world.outside
  generalize externals.unwrapSecretV2 ⟨handle, some token⟩ world.outside = answer at *
  obtain ⟨reply, between⟩ := answer
  cases refused
  refine ⟨.encryption message, _, run, ⟨rfl, unpassed⟩, ?_⟩
  intro other lease kept
  rw [unmoved]
  exact kept

/-- A text under a lease is a canonical envelope. -/
theorem LeasedUntil.canonical {outside : σ} {aad : Bytes} {stored text : String} {ends : Int}
    (leased : LeasedUntil broker aead outside aad stored text ends) :
    isAeadPayloadV2 stored = true := by
  obtain ⟨handle, token, ciphertext, -, decoded, -⟩ := leased
  rw [(decodeAeadPayload_eq_ok_iff _ _ _ _).mp decoded]
  exact isAeadPayloadV2_encode _ _ _

variable (broker aead)

/-- In the course of a fetch all columns are under live leases, and those of the columns
read so far run from this instant. -/
def Reading (id : Uuid) (columns : TicketRecord Int) (ticket : NewTorAccessTicket)
    (done : List TicketField) (outside : σ) : Prop :=
  ∀ field : TicketField, ∃ ends, broker.now outside < ends ∧
    (field ∈ done → ends = leaseDue (broker.now outside)) ∧
    CellUntil broker aead outside (field.context id) ends (field.cell columns) (field.cell ticket)

variable {broker aead}

section Columns

variable {id : Uuid} {columns : TicketRecord Int} {ticket : NewTorAccessTicket}
  {done : List TicketField}

/-- Reading a column returns what was submitted and renews its lease. -/
theorem Reading.decrypt {world : World σ}
    (reading : Reading broker aead id columns ticket done world.outside) (field : TicketField)
    (label : String) :
    ∃ after, (decryptAeadOptional aead (field.cell columns) (field.context id) label).run
        (exec externals) world = (.ok (field.cell ticket), after) ∧
      SameInstant broker world after ∧
      Reading broker aead id columns ticket (field :: done) after.outside := by
  obtain ⟨ends, live, -, cell⟩ := reading field
  match stored : field.cell columns, submitted : field.cell ticket, cell with
  | none, none, _ =>
    refine ⟨world, rfl, ⟨rfl, rfl⟩, ?_⟩
    intro other
    by_cases same : other = field
    · subst same
      refine ⟨leaseDue (broker.now world.outside), lt_leaseDue _, fun _ => rfl, ?_⟩
      rw [stored, submitted]
      trivial
    · obtain ⟨ends, live, read, cell⟩ := reading other
      exact ⟨ends, live, fun inside => read ((List.mem_cons.mp inside).resolve_left same), cell⟩
  | some envelope, some text, leased =>
    obtain ⟨after, handle, lease, run, instant, held, moved, renewed⟩ :=
      decryptWithBroker_renews leased live
    refine ⟨after, ?_, instant, ?_⟩
    · rw [decryptAeadOptional, if_pos leased.canonical, run_bind, run]
      rfl
    · intro other
      rw [instant.clock]
      by_cases same : other = field
      · subst same
        refine ⟨leaseDue (broker.now world.outside), lt_leaseDue _, fun _ => rfl, ?_⟩
        rw [stored, submitted]
        exact renewed
      · obtain ⟨ends, live, read, cell⟩ := reading other
        rcases cell.moved held moved with kept | due
        · exact ⟨ends, live, fun inside => read ((List.mem_cons.mp inside).resolve_left same),
            kept⟩
        · exact ⟨leaseDue (broker.now world.outside), lt_leaseDue _, fun _ => rfl, due⟩

/-- A required column is opened in the course of a fetch: its text is recovered, and the
column counts as renewed. -/
theorem Reading.decryptRequired {world : World σ}
    (reading : Reading broker aead id columns ticket done world.outside) (field : TicketField)
    {stored text : String} (present : field.cell columns = some stored)
    (submitted : field.cell ticket = some text) (label name : String) :
    ∃ after, (decryptAeadRequired aead stored (field.context id) label name).run
        (exec externals) world = (.ok text, after) ∧
      SameInstant broker world after ∧
      Reading broker aead id columns ticket (field :: done) after.outside := by
  obtain ⟨after, run, instant, next⟩ := reading.decrypt field label
  rw [present, submitted] at run
  refine ⟨after, ?_, instant, next⟩
  rw [decryptAeadRequired, run_bind, run]
  rfl

end Columns

/-- Recovery of a row whose columns are all under live leases returns what was
submitted and renews them all. -/
theorem recoverTicket_renews {row : TicketRow} {ticket : NewTorAccessTicket} {world : World σ}
    (reading : Reading broker aead row.id row.toTicketRecord ticket [] world.outside) :
    ∃ record after, (recoverTicket aead row).run (exec externals) world = (.ok record, after) ∧
      (∀ field : TicketField, field.recovered record = field.cell ticket) ∧
      SameInstant broker world after ∧
      ∀ field : TicketField, CellUntil broker aead after.outside (field.context row.id)
        (leaseDue (broker.now world.outside)) (field.cell row.toTicketRecord)
        (field.cell ticket) := by
  obtain ⟨world₁, read₁, instant₁, reading₁⟩ := reading.decryptRequired .clientAuthPublicKey
    rfl rfl "tor-ticket-client-auth-public-key" "client_auth_public_key"
  obtain ⟨world₂, read₂, instant₂, reading₂⟩ := reading₁.decryptRequired .clientAuthSecretPath
    rfl rfl "tor-ticket-client-auth-secret-path" "client_auth_secret_path"
  obtain ⟨world₃, read₃, instant₃, reading₃⟩ := reading₂.decrypt .clientAuthSecretRedeemToken
    "tor-ticket-client-auth-secret-redeem-token"
  obtain ⟨world₄, read₄, instant₄, reading₄⟩ := reading₃.decryptRequired .attestationNonceDigest
    rfl rfl "tor-ticket-attestation-nonce" "attestation_nonce_digest"
  obtain ⟨world₅, read₅, instant₅, reading₅⟩ := reading₄.decryptRequired .attestationQuoteHash
    rfl rfl "tor-ticket-attestation-quote" "attestation_quote_hash"
  obtain ⟨world₆, read₆, instant₆, reading₆⟩ := reading₅.decryptRequired .tlsPubkeyDigest
    rfl rfl "tor-ticket-tls-pubkey-digest" "tls_pubkey_digest"
  have instant := ((((instant₁.trans instant₂).trans instant₃).trans instant₄).trans
    instant₅).trans instant₆
  refine ⟨verificationRecord { row.toTicketRecord.read with
    clientAuthPublicKey := ticket.clientAuthPublicKey
    clientAuthSecretPath := ticket.clientAuthSecretPath
    clientAuthSecretRedeemToken := ticket.clientAuthSecretRedeemToken
    attestationNonceDigest := ticket.attestationNonceDigest
    attestationQuoteHash := ticket.attestationQuoteHash
    tlsPubkeyDigest := ticket.tlsPubkeyDigest } (.ofTimestamptz row.expiresAt)
    (row.redeemedAt.map .ofTimestamptz), world₆, ?_, ?_, instant, ?_⟩
  · simp only [recoverTicket, run_bind_eq_ok_iff]
    exact ⟨_, _, read₁, _, _, read₂, _, _, read₃, _, _, read₄, _, _, read₅, _, _, read₆, rfl⟩
  · intro field
    cases field <;> rfl
  · intro field
    obtain ⟨ends, -, read, cell⟩ := reading₆ field
    have due : ends = leaseDue (broker.now world₆.outside) := read (by cases field <;> decide)
    rw [← instant.clock, ← due]
    exact cell

/-- Recovery of a row whose first column is under a lease that ran out fails and renews
nothing. -/
theorem recoverTicket_lapsed {row : TicketRow} {ticket : NewTorAccessTicket} {world : World σ}
    {ends : Int}
    (cell : CellUntil broker aead world.outside (TicketField.clientAuthPublicKey.context row.id)
      ends (some row.clientAuthPublicKey) (some ticket.clientAuthPublicKey))
    (lapsed : ends ≤ broker.now world.outside) :
    ∃ error after, (recoverTicket aead row).run (exec externals) world = (.error error, after) ∧
      SameInstant broker world after ∧ Keeps broker world.outside after.outside := by
  have leased : LeasedUntil broker aead world.outside
    (TicketField.clientAuthPublicKey.context row.id) row.clientAuthPublicKey
    ticket.clientAuthPublicKey ends := cell
  obtain ⟨error, after, run, unchanged⟩ := decryptWithBroker_lapsed leased lapsed
  have first : (decryptAeadRequired aead row.clientAuthPublicKey
      (TicketField.clientAuthPublicKey.context row.id) "tor-ticket-client-auth-public-key"
      "client_auth_public_key").run (exec externals) world = (.error error, after) := by
    rw [decryptAeadRequired, decryptAeadOptional, if_pos leased.canonical, run_bind, run_bind, run]
  exact ⟨error, after, run_bind_of_error first _, unchanged⟩

/-- A read recovers the protected columns of a submitted ticket. -/
def Recovers (ticket : NewTorAccessTicket) (result : DbResult (Option TicketVerificationRecord)) :
    Prop :=
  ∃ record, result = .ok (some record) ∧
    ∀ field : TicketField, field.recovered record = field.cell ticket

/-- A fetch recovers a ticket exactly before the first of its leases ends, and then renews
them all; otherwise it leaves them. -/
theorem fetchTorTicketForVerification_leased {ticket : NewTorAccessTicket} {world : World σ}
    {due : Int} (leased : TicketUntil broker aead ticket world due)
    (reachable : world.server.outage = none) :
    ∃ result after, (fetchTorTicketForVerification aead ticket.id).run (exec externals) world =
        (result, after) ∧
      (Recovers ticket result ↔ broker.now world.outside < due) ∧
      SameInstant broker world after ∧
      TicketUntil broker aead ticket after
        (renewedDue leaseDue due (broker.now world.outside)) := by
  obtain ⟨row, found, first, cells⟩ := leased
  have keyed : row.id = ticket.id := by
    have key := Table.key_of_find found
    exact key
  rw [fetchTorTicketForVerification_found externals aead reachable found, renewedDue]
  rw [← keyed] at first cells
  by_cases live : broker.now world.outside < due
  · have reading : Reading broker aead row.id row.toTicketRecord ticket []
        world.outside := by
      intro field
      obtain ⟨ends, later, cell⟩ := cells field
      exact ⟨ends, live.trans_le later, fun inside => absurd inside List.not_mem_nil, cell⟩
    obtain ⟨record, after, run, recovered, instant, renewed⟩ := recoverTicket_renews reading
    have whole := (run_bind_eq_ok_iff (exec externals) (recoverTicket aead row)
      (fun record => .value (some record)) world after _).mpr ⟨_, _, run, rfl⟩
    refine ⟨_, _, whole, iff_of_true ⟨record, rfl, recovered⟩ live, instant, ?_⟩
    rw [if_pos live]
    rw [keyed] at renewed
    refine ⟨row, ?_, renewed .clientAuthPublicKey, fun field => ⟨_, le_refl _, renewed field⟩⟩
    rw [World.tickets, instant.server]
    exact found
  · obtain ⟨error, after, run, instant, keeps⟩ := recoverTicket_lapsed first (not_lt.mp live)
    refine ⟨_, _, run_bind_of_error run _, iff_of_false ?_ live, instant, ?_⟩
    · rintro ⟨record, same, -⟩
      cases same
    · rw [if_neg live]
      rw [keyed] at first cells
      refine ⟨row, ?_, first.kept keeps, ?_⟩
      · rw [World.tickets, instant.server]
        exact found
      · intro field
        obtain ⟨ends, later, cell⟩ := cells field
        exact ⟨ends, later, cell.kept keeps⟩

variable (broker aead)

/-- What may happen between two fetches of a ticket: time passes, the leases and the
protected columns stay as they are, and the server can be reached. -/
structure Meanwhile (id : Uuid) (world later : World σ) : Prop where
  clock : broker.now world.outside ≤ broker.now later.outside
  keeps : Keeps broker world.outside later.outside
  stored : ∀ row, world.tickets.find id = some row →
    ∃ next, later.tickets.find id = some next ∧ ∀ field : TicketField,
      field.cell next.toTicketRecord = field.cell row.toTicketRecord
  reachable : later.server.outage = none

/-- From a world on, a ticket is fetched in each of these worlds in turn. -/
inductive Fetched (id : Uuid) : World σ → List (World σ) → Prop where
  | none (world : World σ) : Fetched id world []
  | fetch {world start : World σ} {later : List (World σ)}
      (meanwhile : Meanwhile broker id world start)
      (rest : Fetched id
        ((fetchTorTicketForVerification aead id).run (exec externals) start).2 later) :
      Fetched id world (start :: later)

/-- Each of these fetches that is made before the expiry of the ticket recovers it. -/
def StaysRecoverable (ticket : NewTorAccessTicket) (starts : List (World σ)) : Prop :=
  ∀ start ∈ starts, DateTime.ofTimestamptz (broker.now start.outside) < ticket.expiresAt →
    Recovers ticket
      ((fetchTorTicketForVerification aead ticket.id).run (exec externals) start).1

variable {broker aead}

/-- Between two fetches the leases of a ticket are as they were, so the first of them ends
when it did. -/
theorem TicketUntil.meanwhile {ticket : NewTorAccessTicket} {world later : World σ} {due : Int}
    (leased : TicketUntil broker aead ticket world due)
    (meanwhile : Meanwhile broker ticket.id world later) :
    TicketUntil broker aead ticket later due := by
  obtain ⟨row, found, first, cells⟩ := leased
  obtain ⟨next, located, same⟩ := meanwhile.stored row found
  have sameFirst : next.clientAuthPublicKey = row.clientAuthPublicKey :=
    Option.some.inj (same .clientAuthPublicKey)
  refine ⟨next, located, ?_, ?_⟩
  · rw [sameFirst]
    exact first.kept meanwhile.keeps
  · intro field
    obtain ⟨ends, later, cell⟩ := cells field
    rw [same]
    exact ⟨ends, later, cell.kept meanwhile.keeps⟩

/-- The fetches of a leased ticket are uses of one lease that is renewed on use, in the
order of time. -/
theorem staysRecoverable_iff_allGranted {ticket : NewTorAccessTicket} {world : World σ}
    {starts : List (World σ)} (fetched : Fetched broker aead ticket.id world starts) {due : Int}
    (leased : TicketUntil broker aead ticket world due) :
    (StaysRecoverable broker aead ticket starts ↔
      AllGranted leaseDue ticket.expiresAt.ceiling due
        (starts.map (fun start => broker.now start.outside))) ∧
      (broker.now world.outside ::
        starts.map (fun start => broker.now start.outside)).IsChain (· ≤ ·) := by
  induction fetched generalizing due with
  | none world => exact ⟨by simp [StaysRecoverable, AllGranted], .singleton _⟩
  | fetch meanwhile rest inductionHypothesis =>
    obtain ⟨result, after, run, recovers, instant, next⟩ := fetchTorTicketForVerification_leased
      (leased.meanwhile meanwhile) meanwhile.reachable
    rw [run] at inductionHypothesis
    obtain ⟨later, ordered⟩ := inductionHypothesis next
    rw [instant.clock] at ordered
    refine ⟨?_, List.isChain_cons_cons.mpr ⟨meanwhile.clock, ordered⟩⟩
    rw [StaysRecoverable, List.forall_mem_cons, run, List.map_cons, AllGranted, recovers,
      DateTime.ofTimestamptz_lt_iff]
    exact and_congr_right (fun _ => later)

/-- A ticket that was issued with no envelope among its values stays recoverable until its
expiry exactly when each fetch before the expiry follows the one before it, or the
beginning of the issue, within the lease time.

Proof: the lease of the ticket begins within the issue and every fetch is a use of it, which
renews it when it succeeds. Since the clock does not run backwards, that all uses before the
expiry succeed is that no gap between them, or before the first, is longer than the lease. -/
theorem staysRecoverable_iff_spaced (broker : LeasingBroker externals) (aead : Aead tagLength)
    {ticket : NewTorAccessTicket} {issued : IssuedTorAccessTicket} {world after : World σ}
    {starts : List (World σ)}
    (plain : ∀ (field : TicketField) text, field.cell ticket = some text →
      isAeadPayloadV2 text = false)
    (returned : (issueTorTicket aead ticket).run (exec externals) world = (.ok issued, after))
    (fetched : Fetched broker aead ticket.id after starts) :
    StaysRecoverable broker aead ticket starts ↔
      Spaced leaseDue ticket.expiresAt.ceiling (broker.now world.outside ::
        starts.map (fun start => broker.now start.outside)) := by
  obtain ⟨passed, leased⟩ := issueTorTicket_leased plain returned
  obtain ⟨granted, ordered⟩ := staysRecoverable_iff_allGranted fetched leased
  have whole : (broker.now world.outside ::
      starts.map (fun start => broker.now start.outside)).IsChain (· ≤ ·) :=
    ordered.tail.cons (fun time first => passed.trans
      (ordered.rel_cons (List.mem_of_mem_head? first)))
  exact granted.trans (allGranted_iff_spaced whole)

end Leases

/-- A broker that numbers its handles by their length: only handles shorter than the
next one are in use. -/
structure LeaseDesk where
  clock : Int
  next : Nat
  held : String → Option HeldLease
  unused : ∀ handle : String, next ≤ handle.length → held handle = none

namespace LeaseDesk

/-- A desk that has granted nothing yet. Its numbers start with one, so no handle is
empty. -/
def opened : LeaseDesk := ⟨0, 1, fun _ => none, fun _ _ => rfl⟩

/-- The handle of a number is as long as the number says, so handles differ. -/
def handle (number : Nat) : String := String.ofList (List.replicate number 'h')

/-- A handle is as long as its number says. -/
@[simp] theorem length_handle (number : Nat) : (handle number).length = number := by
  simp [handle]

/-- A handle has no whitespace that reading could trim. -/
theorem trim_handle (number : Nat) : trim (handle number) = handle number := by
  have solid (count : Nat) : (List.replicate count 'h').dropWhile isWhitespace =
      List.replicate count 'h' := by
    cases count with
    | zero => rfl
    | succ count => rw [List.replicate_succ, List.dropWhile_cons_of_neg (by decide)]
  simp only [trim, handle, String.toList_ofList, solid, List.reverse_replicate]

/-- Hold a lease under the next handle. -/
def hold (desk : LeaseDesk) (lease : HeldLease) : LeaseDesk where
  clock := desk.clock
  next := desk.next + 1
  held := Function.update desk.held (handle desk.next) (some lease)
  unused := by
    intro other free
    have apart : other ≠ handle desk.next := by
      rintro rfl
      rw [length_handle] at free
      omega
    rw [Function.update_of_ne apart]
    exact desk.unused other (by omega)

/-- Move the end of a held lease. -/
def move (desk : LeaseDesk) (handle : String) (lease : HeldLease)
    (held : desk.held handle = some lease) (ends : Int) : LeaseDesk where
  clock := desk.clock
  next := desk.next
  held := Function.update desk.held handle (some { lease with ends })
  unused := by
    intro other free
    have apart : other ≠ handle := by
      rintro rfl
      rw [desk.unused other free] at held
      cases held
    rw [Function.update_of_ne apart]
    exact desk.unused other free

/-- Let time pass. -/
def wait (desk : LeaseDesk) (seconds : Nat) : LeaseDesk :=
  { desk with clock := desk.clock + seconds * second }

/-- Redeem a handle with its token. -/
def redeem (desk : LeaseDesk) (params : UnwrapSecretV2Params) : Except String Bytes :=
  match desk.held params.handle with
  | none => .error "unknown handle"
  | some lease =>
      if params.redeemToken ≠ some lease.redeemToken then .error "redeem token mismatch"
      else if desk.clock < lease.ends then .ok lease.key
      else .error "lease expired"

/-- Renew a lease that has not ended. -/
def renew (desk : LeaseDesk) (handle : String) (seconds : Nat) : Except String Unit × LeaseDesk :=
  match held : desk.held handle with
  | none => (.error "unknown handle", desk)
  | some lease =>
      if desk.clock < lease.ends then
        (.ok (), desk.move handle lease held (desk.clock + seconds * second))
      else (.error "lease expired", desk)

/-- The outside with this broker, a fixed nonce and identifier. -/
def externals : Externals LeaseDesk where
  mintAeadKeyV2 params desk :=
    (.ok { handle := handle desk.next, redeemToken := some "t", key := zeroLease.key },
      desk.hold ⟨"t", zeroLease.key,
        desk.clock + params.initialLeaseSeconds.getD 0 * second⟩)
  unwrapSecretV2 params desk := (desk.redeem params, desk)
  renewLease handle seconds desk := desk.renew handle seconds
  fillNonce desk := (.ok zeroNonce, desk)
  newUuid desk := (Uuid.nil, desk)
  utcNow desk := (desk.clock, desk)

/-- The desk keeps its leases by its clock. -/
def leasing : LeasingBroker externals where
  now := clock
  leases := held
  mints := by
    intro params seconds lease token desk later _ initial minted redeems
    cases minted
    cases redeems
    refine ⟨trim_handle _, by decide, desk.unused _ (by simp), ?_, le_refl _⟩
    rw [initial]
    rfl
  unwraps := by
    intro handle lease desk held live
    simp only [externals, redeem, held, ne_eq, not_true_eq_false, if_false, if_pos live]
  lapses := by
    intro handle lease desk held lapsed
    refine ⟨"lease expired", ?_⟩
    simp only [externals, redeem, held, ne_eq, not_true_eq_false, if_false,
      if_neg (not_lt.mpr lapsed)]
  unwraps_leases := fun _ _ => rfl
  unwraps_now := fun _ _ => rfl
  renews := by
    intro handle lease desk seconds held live
    refine ⟨desk.move handle lease held (desk.clock + seconds * second), ?_, rfl, rfl⟩
    simp only [externals, renew]
    split
    · rename_i missing
      rw [held] at missing
      cases missing
    · rename_i found same
      rw [held] at same
      cases same
      rw [if_pos live]
  draws_leases := fun _ => rfl
  draws_now := fun _ => le_refl _

end LeaseDesk

/-- A ticket for one hour. -/
def hourTicket : NewTorAccessTicket :=
  { sampleTicket "p" with expiresAt := .ofTimestamptz (3600 * second) }

/-- The database with the credential of the ticket. -/
def beforeIssue : World LeaseDesk :=
  ((importBootstrapTorCredential Uuid.nil "entry" "hash" "tier" 1 none []).run
    (exec LeaseDesk.externals) (.migrated 0 .opened)).2

/-- The database after the ticket was issued. -/
def afterIssue : World LeaseDesk :=
  ((issueTorTicket (Aead.bare tagLength) hourTicket).run (exec LeaseDesk.externals)
    beforeIssue).2

/-- The world after some time. -/
def waited (world : World LeaseDesk) (seconds : Nat) : World LeaseDesk :=
  { world with outside := world.outside.wait seconds }

/-- The world after a fetch of the ticket. -/
def afterFetch (world : World LeaseDesk) : World LeaseDesk :=
  ((fetchTorTicketForVerification (Aead.bare tagLength) hourTicket.id).run
    (exec LeaseDesk.externals) world).2

/-- Waiting is one of the things that may happen between two fetches. -/
theorem meanwhile_waited {world : World LeaseDesk} (reachable : world.server.outage = none)
    (seconds : Nat) (id : Uuid) :
    Meanwhile LeaseDesk.leasing id world (waited world seconds) where
  clock := by
    change world.outside.clock ≤ world.outside.clock + seconds * second
    simp only [second]
    omega
  keeps := fun _ _ held => held
  stored := fun row found => ⟨row, found, fun _ => rfl⟩
  reachable := reachable

/-- Waiting leaves the server reachable. -/
theorem waited_reachable {world : World LeaseDesk} (reachable : world.server.outage = none)
    (seconds : Nat) : (waited world seconds).server.outage = none :=
  reachable

/-- Waiting moves the clock by the seconds waited. -/
theorem waited_now (world : World LeaseDesk) (seconds : Nat) :
    LeaseDesk.leasing.now (waited world seconds).outside =
      LeaseDesk.leasing.now world.outside + seconds * second :=
  rfl

/-- The ticket of one hour is issued at time zero. -/
theorem hourTicket_issued :
    (issueTorTicket (Aead.bare tagLength) hourTicket).run (exec LeaseDesk.externals)
      beforeIssue = (.ok (issuedTicket hourTicket (.ofTimestamptz 0)), afterIssue) :=
  Prod.ext (by decide +kernel) rfl

/-- None of its fields was submitted sealed. -/
theorem hourTicket_plain (field : TicketField) (text : String)
    (cell : field.cell hourTicket = some text) : isAeadPayloadV2 text = false := by
  cases field <;> cases cell <;> decide

/-- The server stays reachable. -/
theorem afterIssue_reachable : afterIssue.server.outage = none := by
  decide +kernel

/-- Some time after the issue the ticket is under the leases of the issue. -/
theorem hourTicket_leased (seconds : Nat) :
    TicketUntil LeaseDesk.leasing (Aead.bare tagLength) hourTicket (waited afterIssue seconds)
      (900 * second) :=
  (issueTorTicket_leased hourTicket_plain hourTicket_issued).2.meanwhile
    (meanwhile_waited afterIssue_reachable seconds hourTicket.id)

/-- The clock of the desk shows the seconds waited since. -/
theorem clock_waited_afterIssue (seconds : Nat) :
    LeaseDesk.leasing.now (waited afterIssue seconds).outside = seconds * second := by
  have clock : LeaseDesk.leasing.now afterIssue.outside = 0 := by decide +kernel
  rw [waited_now, clock, Int.zero_add]

/-- Ten minutes after the issue. -/
def firstVisit : World LeaseDesk := waited afterIssue 600

/-- Ten minutes after the first visit, longer after the issue than a lease. -/
def secondVisit : World LeaseDesk := waited (afterFetch firstVisit) 600

/-- The first visit takes no time. -/
theorem afterFetch_firstVisit :
    SameInstant LeaseDesk.leasing firstVisit (afterFetch firstVisit) := by
  have leased : TicketUntil LeaseDesk.leasing (Aead.bare tagLength) hourTicket firstVisit
      (900 * second) := hourTicket_leased 600
  obtain ⟨result, after, run, -, instant, -⟩ := fetchTorTicketForVerification_leased leased
    (waited_reachable afterIssue_reachable 600)
  rw [afterFetch, run]
  exact instant

/-- Fetched every ten minutes, the ticket is still recovered after twenty. -/
theorem staysRecoverable_everyTenMinutes :
    StaysRecoverable LeaseDesk.leasing (Aead.bare tagLength) hourTicket
      [firstVisit, secondVisit] := by
  have reachable : (afterFetch firstVisit).server.outage = none := by
    rw [afterFetch_firstVisit.server]
    exact waited_reachable afterIssue_reachable 600
  have later : Fetched LeaseDesk.leasing (Aead.bare tagLength) hourTicket.id
      (afterFetch firstVisit) [secondVisit] :=
    .fetch (meanwhile_waited reachable 600 _) (.none _)
  rw [afterFetch] at later
  have first : Meanwhile LeaseDesk.leasing hourTicket.id afterIssue firstVisit :=
    meanwhile_waited afterIssue_reachable 600 hourTicket.id
  have tenMinutes : LeaseDesk.leasing.now firstVisit.outside = 600 * second :=
    clock_waited_afterIssue 600
  have twentyMinutes : LeaseDesk.leasing.now secondVisit.outside = 1200 * second := by
    rw [secondVisit, waited_now, afterFetch_firstVisit.clock, tenMinutes]
    rfl
  have issued : LeaseDesk.leasing.now beforeIssue.outside = 0 := rfl
  apply (staysRecoverable_iff_spaced LeaseDesk.leasing (Aead.bare tagLength) hourTicket_plain
    hourTicket_issued (.fetch first later)).mpr
  rw [List.map_cons, List.map_cons, List.map_nil, tenMinutes, twentyMinutes, issued, Spaced]
  decide

/-- The instant at which the leases of the issue run out, with the ticket unexpired. -/
def lateVisit : World LeaseDesk := waited afterIssue 900

/-- First fetched when its leases have run out, the ticket is not recovered, though it
expires only after an hour. -/
theorem not_staysRecoverable_lateVisit :
    (issueTorTicket (Aead.bare tagLength) hourTicket).run (exec LeaseDesk.externals)
        beforeIssue = (.ok (issuedTicket hourTicket (.ofTimestamptz 0)), afterIssue) ∧
      Fetched LeaseDesk.leasing (Aead.bare tagLength) hourTicket.id afterIssue [lateVisit] ∧
      ¬ StaysRecoverable LeaseDesk.leasing (Aead.bare tagLength) hourTicket [lateVisit] := by
  have clock : LeaseDesk.leasing.now lateVisit.outside = 900 * second :=
    clock_waited_afterIssue 900
  refine ⟨hourTicket_issued, .fetch (meanwhile_waited afterIssue_reachable 900 _) (.none _), ?_⟩
  intro stays
  have recovers := stays lateVisit List.mem_cons_self (by rw [clock]; decide)
  have leased : TicketUntil LeaseDesk.leasing (Aead.bare tagLength) hourTicket lateVisit
      (900 * second) := hourTicket_leased 900
  obtain ⟨result, after, run, served, -⟩ := fetchTorTicketForVerification_leased leased
    (waited_reachable afterIssue_reachable 900)
  rw [run, served, clock] at recovers
  exact absurd recovers (lt_irrefl _)

end SecureDatabase.TorAuth
