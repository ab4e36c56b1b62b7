import SecureDatabase.Foundation.Program
import SecureDatabase.Foundation.Table
import SecureDatabase.Basic

/-!
# Health of the guards

One row for each guard fingerprint counts failures, keeps the telemetry that successes report
and says whether the guard runs in a trusted environment. Three upserts write it; whichever
runs first creates the row. Every operation is one statement, so an interleaving of operations
is an order of their statements.

Floating-point columns are kept as the bits they are sent as. A failure counter is a 32-bit
integer; counting past its range is an error of the statement.
-/

namespace SecureDatabase.Guard

open Foundation Program

/-- The telemetry of one success; a column that was not measured is absent. -/
structure GuardSuccessUpdate where
  uptimeRatio : Option UInt64
  asn : Option Int64
  rpkiValid : Option Bool
  powScore : Option UInt64
  rttP50Ms : Option UInt64
  rttP95Ms : Option UInt64
deriving DecidableEq

/-- COALESCE of each column with the stored one. -/
def GuardSuccessUpdate.coalesce (update stored : GuardSuccessUpdate) : GuardSuccessUpdate where
  uptimeRatio := update.uptimeRatio.or stored.uptimeRatio
  asn := update.asn.or stored.asn
  rpkiValid := update.rpkiValid.or stored.rpkiValid
  powScore := update.powScore.or stored.powScore
  rttP50Ms := update.rttP50Ms.or stored.rttP50Ms
  rttP95Ms := update.rttP95Ms.or stored.rttP95Ms

/-- Telemetry columns that nothing was written to. -/
def GuardSuccessUpdate.unset : GuardSuccessUpdate := ⟨none, none, none, none, none, none⟩

/-- The columns about the trusted environment. -/
structure TeeStatus where
  teeCapable : Bool
  teeLabel : Option String
  teePolicy : Option String
  teeVerifiedAt : Option Int
deriving DecidableEq

/-- Their defaults. -/
def TeeStatus.unset : TeeStatus := ⟨false, none, none, none⟩

/-- A row of `gateway_data.guard_health`. -/
structure GuardHealthRow where
  guardFpr : String
  firstSeen : Int
  lastOk : Int
  failCount : Int
  telemetry : GuardSuccessUpdate
  tee : TeeStatus
deriving DecidableEq

/-- The guards, each under its fingerprint. -/
abbrev GuardHealth := Table GuardHealthRow.guardFpr

/-- The statements of the three operations. -/
inductive Statement where
  | success (guardFpr : String) (update : GuardSuccessUpdate)
  | failure (guardFpr : String)
  | teeStatus (guardFpr : String) (teeCapable : Bool) (teeLabel teePolicy : Option String)
deriving DecidableEq

namespace Statement

/-- The guard whose row a statement writes. -/
def guardFpr : Statement → String
  | success guardFpr _ => guardFpr
  | failure guardFpr => guardFpr
  | teeStatus guardFpr _ _ _ => guardFpr

/-- The texts that a statement sends. -/
def texts : Statement → List String
  | success guardFpr _ => [guardFpr]
  | failure guardFpr => [guardFpr]
  | teeStatus guardFpr _ teeLabel teePolicy => guardFpr :: teeLabel.toList ++ teePolicy.toList

/-- The row to INSERT; columns that are not listed have their defaults. -/
def fresh (now : Int) : Statement → GuardHealthRow
  | success guardFpr update => ⟨guardFpr, now, now, 0, update, .unset⟩
  | failure guardFpr => ⟨guardFpr, now, now, 1, .unset, .unset⟩
  | teeStatus guardFpr teeCapable teeLabel teePolicy =>
      ⟨guardFpr, now, now, 0, .unset, ⟨teeCapable, teeLabel, teePolicy, some now⟩⟩

/-- ON CONFLICT DO UPDATE. -/
def update (now : Int) (row : GuardHealthRow) : Statement → GuardHealthRow
  | success _ update => { row with lastOk := now, telemetry := update.coalesce row.telemetry }
  | failure _ => { row with failCount := row.failCount + 1 }
  | teeStatus _ teeCapable teeLabel teePolicy =>
      { row with tee := ⟨teeCapable, teeLabel, teePolicy, some now⟩ }

/-- The counter of a row would leave the range of its column. -/
def overflows (row : GuardHealthRow) : Statement → Bool
  | failure _ => 2147483647 < row.failCount + 1
  | _ => false

/-- A new row has the fingerprint that its statement names. -/
@[simp] theorem fresh_guardFpr (now : Int) (stmt : Statement) :
    (stmt.fresh now).guardFpr = stmt.guardFpr := by
  cases stmt <;> rfl

/-- An update leaves the fingerprint, so a guard keeps its row. -/
@[simp] theorem update_guardFpr (now : Int) (row : GuardHealthRow) (stmt : Statement) :
    (stmt.update now row).guardFpr = row.guardFpr := by
  cases stmt <;> rfl

end Statement

/-- INSERT, or UPDATE the row that is there; the resulting row is returned. -/
def upsert (stmt : Statement) (now : Int) (guards : GuardHealth) :
    Except String (GuardHealthRow × GuardHealth) :=
  if stmt.texts.any (fun text => '\x00' ∈ text.toList) then
    .error "invalid byte sequence for encoding \"UTF8\": 0x00"
  else
    match guards.find stmt.guardFpr with
    | some row =>
        if stmt.overflows row then .error "integer out of range"
        else .ok (stmt.update now row,
          guards.updateWhere (fun other => other.guardFpr = stmt.guardFpr) (stmt.update now ·)
            (fun other => stmt.update_guardFpr now other))
    | none =>
        match guards.insert? (stmt.fresh now) with
        | some inserted => .ok (stmt.fresh now, inserted)
        | none => .error "duplicate key value violates unique constraint \"guard_health_pkey\""

/-- A statement replies with the row it wrote. -/
abbrev Reply (_ : Statement) : Type := Except String GuardHealthRow

/-- The server and its environment. -/
def machine : Machine (Server GuardHealth) ServerDrift Statement Reply where
  exec stmt server := server.execute (upsert stmt)
  drift := Server.drift

/-- A database operation of the crate. -/
abbrev Operation (α : Type) := Program Statement Reply DatabaseError α

/-- Execute a statement, with `map_err(DatabaseError::from)` on the reply. -/
def sql (stmt : Statement) : Operation GuardHealthRow := do
  let reply ← ask stmt
  ofExcept (Except.mapError DatabaseError.query reply)

/-- Record a successful guard observation and refresh the associated telemetry. -/
def noteGuardSuccess (guardFpr : String) (update : GuardSuccessUpdate) : Operation Unit := do
  let _ ← sql (.success guardFpr update)

/-- Increment the failure counter for a guard fingerprint. -/
def noteGuardFailure (guardFpr : String) : Operation Int := do
  let record ← sql (.failure guardFpr)
  return record.failCount

/-- Set the TEE capability metadata for a guard relay. -/
def setGuardTeeStatus (guardFpr : String) (teeCapable : Bool)
    (teeLabel teePolicy : Option String) : Operation Unit := do
  let _ ← sql (.teeStatus guardFpr teeCapable teeLabel teePolicy)

/-- What a call returns: the new count, for a failure. -/
inductive Returned where
  | unit
  | failCount (count : Int)
deriving DecidableEq

/-- The calls a client can make. -/
inductive Call where
  | noteGuardSuccess (guardFpr : String) (update : GuardSuccessUpdate)
  | noteGuardFailure (guardFpr : String)
  | setGuardTeeStatus (guardFpr : String) (teeCapable : Bool) (teeLabel teePolicy : Option String)
deriving DecidableEq

/-- The program of a call. -/
def Call.program : Call → Operation Returned
  | noteGuardSuccess guardFpr update => do
      Guard.noteGuardSuccess guardFpr update
      return .unit
  | noteGuardFailure guardFpr => do
      let count ← Guard.noteGuardFailure guardFpr
      return .failCount count
  | setGuardTeeStatus guardFpr teeCapable teeLabel teePolicy => do
      Guard.setGuardTeeStatus guardFpr teeCapable teeLabel teePolicy
      return .unit

/-- Calls over one server, with what they have executed. -/
abbrev GuardRun := Run (Server GuardHealth) Statement Reply DatabaseError Returned

/-- Calls that have not started, over a migrated database that holds no guards. -/
def launch (now : Int) (outage : Option String) (calls : Nat → Call) : GuardRun :=
  Run.start ⟨now, outage, Table.empty⟩ (fun index => (calls index).program)

end SecureDatabase.Guard
