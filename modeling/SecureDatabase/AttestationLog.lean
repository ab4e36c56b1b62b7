import SecureDatabase.Foundation.Columns
import SecureDatabase.Foundation.Program
import SecureDatabase.Basic

/-!
# Attestation nonces and cached decisions

The nonce log remembers which attestation nonces have been seen and when; the cache
keeps attestation decisions until they expire. Registering a nonce is two statements,
a DELETE of the entries older than the caller's lifetime and an INSERT that does
nothing on a conflict. They are not one transaction, and the DELETE concerns the
entries of every nonce.

Times are counted in microseconds from the server's epoch, so that the range check of
its timestamps can be stated. A lifetime is a number of seconds; one that takes the
cutoff out of range makes the DELETE fail. A submitted expiry is cut to microseconds,
and a decision is stored in the form that the server keeps of JSON.
-/

namespace SecureDatabase.Attestation

open Foundation Program

/-- A row of `gateway_secrets.ra_nonce_log`. -/
structure NonceRow where
  nonceDigest : Bytes
  enclaveId : String
  seenAt : Int
deriving DecidableEq

/-- A row of `gateway_secrets.ra_attestation_cache`. -/
structure DecisionRow where
  quoteHash : Bytes
  tee : String
  decision : Json
  expiresAt : Int

/-- Seen nonces, keyed by their digest. -/
abbrev NonceLog := Table NonceRow.nonceDigest

/-- Cached decisions, keyed by the hash of the quote. -/
abbrev DecisionCache := Table DecisionRow.quoteHash

/-- The two tables. -/
structure Tables where
  nonceLog : NonceLog
  cache : DecisionCache

namespace Tables

/-- The entries that a DELETE with a lifetime in seconds removes. -/
def stale (ttl : Int64) (now : Int) (row : NonceRow) : Bool :=
  row.seenAt < now - ttl.toInt * second

/-- DELETE of `register_attestation_nonce`. -/
def pruneNonces (ttl : Int64) (now : Int) (tables : Tables) : Except String (Unit × Tables) :=
  if 0x8000000000000000 ≤ ttl.toInt * second then .error "interval out of range"
  else if now - ttl.toInt * second < minTimestamp then .error "timestamp out of range"
  else .ok ((), { tables with nonceLog := tables.nonceLog.deleteWhere (stale ttl now) })

/-- INSERT of `register_attestation_nonce`, returning the affected rows. -/
def insertNonce (nonceDigest : Bytes) (enclaveId : String) (now : Int) (tables : Tables) :
    Nat × Tables :=
  match tables.nonceLog.insert? ⟨nonceDigest, enclaveId, now⟩ with
  | some nonceLog => (1, { tables with nonceLog })
  | none => (0, tables)

/-- First DELETE of `cache_attestation_decision`. -/
def pruneDecisions (now : Int) (tables : Tables) : Tables :=
  { tables with cache := tables.cache.deleteWhere (fun row => row.expiresAt < now) }

/-- INSERT of `cache_attestation_decision`, with the decision in the form that its column
keeps; a conflict replaces the decision. -/
def upsertDecision (row : DecisionRow) (tables : Tables) : Tables :=
  match tables.cache.insert? row with
  | some cache => { tables with cache }
  | none =>
      { tables with
        cache := tables.cache.updateWhere (fun old => old.quoteHash = row.quoteHash)
          (fun old => { old with
            tee := row.tee
            decision := row.decision
            expiresAt := row.expiresAt }) (fun _ => rfl) }

/-- First DELETE of `invalidate_attestation_artifacts`. -/
def deleteDecision (quoteHash : Bytes) (tables : Tables) : Tables :=
  { tables with cache := tables.cache.deleteWhere (fun row => row.quoteHash = quoteHash) }

/-- Second DELETE of `invalidate_attestation_artifacts`. -/
def deleteNonce (nonceDigest : Bytes) (tables : Tables) : Tables :=
  { tables with nonceLog := tables.nonceLog.deleteWhere (fun row => row.nonceDigest = nonceDigest) }

/-- A decision is stored without touching the nonce log. -/
theorem upsertDecision_nonceLog (row : DecisionRow) (tables : Tables) :
    (tables.upsertDecision row).nonceLog = tables.nonceLog := by
  unfold upsertDecision
  split <;> rfl

/-- What the INSERT of `cache_attestation_decision` does once its parameters are read: the
decision is stored in the form that the server keeps of it, unless it is refused. -/
def storeDecision (jsonb : Jsonb) (row : DecisionRow) (tables : Tables) :
    Except String (Unit × Tables) := do
  let decision ← jsonb row.decision
  return ((), tables.upsertDecision { row with decision })

end Tables

/-- The statements of the attestation operations. An INSERT of a decision carries what it
binds: the decision as it was submitted, its expiry in microseconds. -/
inductive Statement where
  | pruneNonces (ttl : Int64)
  | insertNonce (nonceDigest : Bytes) (enclaveId : String)
  | pruneDecisions
  | upsertDecision (row : DecisionRow)
  | deleteDecision (quoteHash : Bytes)
  | deleteNonce (nonceDigest : Bytes)

/-- What a successful statement answers. -/
abbrev Answer : Statement → Type
  | .insertNonce _ _ => Nat
  | .pruneNonces _ => Unit
  | .pruneDecisions => Unit
  | .upsertDecision _ => Unit
  | .deleteDecision _ => Unit
  | .deleteNonce _ => Unit

/-- The type of each statement's reply. -/
abbrev Reply (stmt : Statement) : Type := Except String (Answer stmt)

/-- What each statement does at a clock reading. -/
def body (jsonb : Jsonb) : (stmt : Statement) → Int → Tables → Except String (Answer stmt × Tables)
  | .pruneNonces ttl, now, tables => tables.pruneNonces ttl now
  | .insertNonce nonceDigest enclaveId, now, tables =>
      receive [.text enclaveId] (.ok (tables.insertNonce nonceDigest enclaveId now))
  | .pruneDecisions, now, tables => .ok ((), tables.pruneDecisions now)
  | .upsertDecision row, _, tables =>
      receive [.text row.tee, .timestamptz row.expiresAt] (tables.storeDecision jsonb row)
  | .deleteDecision quoteHash, _, tables => .ok ((), tables.deleteDecision quoteHash)
  | .deleteNonce nonceDigest, _, tables => .ok ((), tables.deleteNonce nonceDigest)

/-- A decision that was stored was kept in some form, and replaced or joined the cache. -/
theorem upsertDecision_eq_ok {jsonb : Jsonb} {row : DecisionRow} {now : Int}
    {tables after : Tables} {result : Unit}
    (computed : body jsonb (.upsertDecision row) now tables = .ok (result, after)) :
    ∃ decision, jsonb row.decision = .ok decision ∧
      after = tables.upsertDecision { row with decision } := by
  obtain ⟨-, stored⟩ := (receive_eq_ok_iff _ _ _).mp computed
  unfold Tables.storeDecision at stored
  cases form : jsonb row.decision with
  | error refused =>
    rw [form] at stored
    cases stored
  | ok decision =>
    rw [form] at stored
    cases stored
    exact ⟨decision, rfl, rfl⟩

/-- The server and its environment. -/
def machine (jsonb : Jsonb) : Machine (Server Tables) ServerDrift Statement Reply where
  exec stmt server := server.execute (body jsonb stmt)
  drift := Server.drift

/-- Each statement is executed by the server as a whole, or not at all. -/
@[simp] theorem machine_exec (jsonb : Jsonb) (stmt : Statement) (server : Server Tables) :
    (machine jsonb).exec stmt server = server.execute (body jsonb stmt) := rfl

/-- A database operation of the crate. -/
abbrev Operation (α : Type) := Program Statement Reply DatabaseError α

/-- Execute a statement, with `map_err(DatabaseError::from)` on the reply. -/
def sql (stmt : Statement) : Operation (Answer stmt) := do
  let reply ← ask stmt
  ofExcept (Except.mapError DatabaseError.query reply)

/-- Register a freshly observed attestation nonce. Returns `true` if the nonce was new and
inserted, or `false` if it had already been seen. -/
def registerAttestationNonce (nonceDigest : Bytes) (enclaveId : String) (ttlSeconds : Int64) :
    Operation Bool := do
  let ttl := max ttlSeconds 0
  sql (.pruneNonces ttl)
  let rowsAffected ← sql (.insertNonce nonceDigest enclaveId)
  return 0 < rowsAffected

/-- Persist the attestation decision for a recently verified quote. -/
def cacheAttestationDecision (quoteHash : Bytes) (tee : String) (expiresAt : DateTime)
    (decision : Json) : Operation Unit := do
  sql .pruneDecisions
  sql (.upsertDecision ⟨quoteHash, tee, decision, expiresAt.timestamptz⟩)

/-- Remove the cached decision of a quote and, when one is given, a seen nonce. -/
def invalidateAttestationArtifacts (quoteHashHex : String) (nonceDigestHex : Option String) :
    Operation Unit := do
  let quoteHashBytes ← ofExcept (okOr
    (.integrity "invalid quote hash provided for attestation invalidation")
    (hexDecode (trim quoteHashHex)))
  sql (.deleteDecision quoteHashBytes)
  match nonceDigestHex with
  | none => return ()
  | some nonceHex =>
      if (trim nonceHex).isEmpty then return ()
      let nonceBytes ← ofExcept (okOr
        (.integrity "invalid nonce digest provided for attestation invalidation")
        (hexDecode (trim nonceHex)))
      sql (.deleteNonce nonceBytes)

/-- What is asked for when a nonce is registered. -/
structure Registration where
  nonceDigest : Bytes
  enclaveId : String
  ttlSeconds : Int64
deriving DecidableEq

/-- The calls a client can make. -/
inductive Call where
  | register (registration : Registration)
  | cache (quoteHash : Bytes) (tee : String) (expiresAt : DateTime) (decision : Json)
  | invalidate (quoteHashHex : String) (nonceDigestHex : Option String)

/-- What a call returns. -/
inductive Returned where
  | unit
  | bool (truth : Bool)
deriving DecidableEq

namespace Call

/-- The program of a call. -/
def program : Call → Operation Returned
  | register ⟨nonceDigest, enclaveId, ttlSeconds⟩ => do
      let new ← registerAttestationNonce nonceDigest enclaveId ttlSeconds
      return .bool new
  | cache quoteHash tee expiresAt decision => do
      cacheAttestationDecision quoteHash tee expiresAt decision
      return .unit
  | invalidate quoteHashHex nonceDigestHex => do
      invalidateAttestationArtifacts quoteHashHex nonceDigestHex
      return .unit

/-- What a registering call registers. -/
def registration : Call → Option Registration
  | register registration => some registration
  | _ => none

/-- Whether an invalidation names a nonce. -/
def invalidates (nonceDigest : Bytes) : Call → Bool
  | invalidate _ (some nonceHex) => hexDecode (trim nonceHex) = some nonceDigest
  | _ => false

end Call

/-- Calls over one server, with what they have executed. -/
abbrev AttestationRun := Run (Server Tables) Statement Reply DatabaseError Returned

/-- Calls that have not started, over an initial server. -/
def launch (server : Server Tables) (calls : Nat → Call) : AttestationRun :=
  Run.start server (fun index => (calls index).program)

end SecureDatabase.Attestation
