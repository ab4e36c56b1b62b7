import Mathlib.Data.List.Sort
import SecureDatabase.GuardHistory

/-!
# When a guard last succeeded

The guards are listed by the column `last_ok`, most recent first. Each of the three operations
can create the row of a guard, and each writes the current time to the column when it does. On a
row that is there only a success writes to it. So the column is the time of the last success for
the guards that were first seen in a success, and for every other guard once it has succeeded.

Rows with equal times are listed in the order in which the server reads them, which is up to
the server.
-/

namespace SecureDatabase.Guard

open Foundation Program

/-- What a listing shows of a guard. -/
structure GuardHealthSnapshot where
  guardFpr : String
  firstSeen : Int
  lastOk : Int
  failCount : Int
  telemetry : GuardSuccessUpdate
  tee : TeeStatus
deriving DecidableEq

/-- `From<GuardHealthRow>`. -/
def GuardHealthRow.snapshot (row : GuardHealthRow) : GuardHealthSnapshot where
  guardFpr := row.guardFpr
  firstSeen := row.firstSeen
  lastOk := row.lastOk
  failCount := row.failCount
  telemetry := row.telemetry
  tee := row.tee

/-- An order in which the server reads the rows of the table. -/
structure ScanOrder where
  rows : GuardHealth → List GuardHealthRow
  all : ∀ guards, (rows guards).Perm guards.rows

/-- ORDER BY last_ok DESC. -/
abbrev LatestFirst (left right : GuardHealthRow) : Prop := right.lastOk ≤ left.lastOk

/-- SELECT the latest rows, up to a limit. -/
def selectLatest (order : ScanOrder) (limit : Int64) (guards : GuardHealth) :
    Except String (List GuardHealthRow) :=
  if limit < 0 then .error "LIMIT must not be negative"
  else .ok (((order.rows guards).insertionSort LatestFirst).take limit.toInt.toNat)

/-- Retrieve the most recent guard health rows, ordered by last success time. -/
def listGuardHealth (order : ScanOrder) (limit : Int64) (server : Server GuardHealth) :
    DbResult (List GuardHealthSnapshot) := do
  let records ← (server.execute fun _ guards => do
    let rows ← selectLatest order limit guards
    return (rows, guards)).1.mapError .query
  return records.map GuardHealthRow.snapshot

namespace Applied

/-- Whether a report was one of a success, with its telemetry. -/
def isSuccess (applied : Applied) : Bool := applied.reported.isSome

end Applied

/-- When the last success on a guard took effect. -/
def lastSuccess (guardFpr : String) (log : List (Event (Server GuardHealth) Reply)) : Option Int :=
  ((history guardFpr log).filter Applied.isSuccess).getLast?.map Applied.time

/-- The column holds the time of the last success, and the guards are listed by that time: a
guard that has succeeded stands behind such guards only that have succeeded, and no earlier. -/
structure RecordsSuccesses (run : GuardRun) : Prop where
  lastOk : ∀ guardFpr row, run.store.tables.find guardFpr = some row →
    lastSuccess guardFpr run.log = some row.lastOk
  listed : ∀ order limit snapshots, listGuardHealth order limit run.store = .ok snapshots →
    snapshots.Pairwise fun ahead behind =>
      ∀ time, lastSuccess behind.guardFpr run.log = some time →
        ∃ later, lastSuccess ahead.guardFpr run.log = some later ∧ time ≤ later

/-- The column holds the time of the last success. -/
def LastOkRecorded (run : GuardRun) : Prop :=
  ∀ guardFpr row, run.store.tables.find guardFpr = some row →
    lastSuccess guardFpr run.log = some row.lastOk

/-- The next step creates the row of a guard: a call is about to send its statement, the server
can be reached and takes the texts, and the guard has no row. -/
def Creates (run : GuardRun) (move : Move ServerDrift) (stmt : Statement) : Prop :=
  ∃ index resume, move = .call index ∧ run.calls index = .issue stmt resume ∧
    run.store.outage = none ∧ (∀ text ∈ stmt.texts, '\x00' ∉ text.toList) ∧
    run.store.tables.find stmt.guardFpr = none

/-- The rows that a step creates are those of guards that have succeeded. -/
def CreatesBySuccess (run : GuardRun) (move : Move ServerDrift) : Prop :=
  ∀ stmt, Creates run move stmt → ∃ guardFpr update, stmt = .success guardFpr update

section Listing

variable {order : ScanOrder} {limit : Int64}

/-- What is selected is ordered, and is in the table. -/
theorem selectLatest_eq_ok {guards : GuardHealth} {rows : List GuardHealthRow}
    (selected : selectLatest order limit guards = .ok rows) :
    rows.Pairwise LatestFirst ∧ ∀ row ∈ rows, row ∈ guards.rows := by
  unfold selectLatest at selected
  split at selected
  case isTrue _ => cases selected
  case isFalse _ =>
    cases selected
    constructor
    · exact (List.pairwise_insertionSort LatestFirst _).sublist (List.take_sublist _ _)
    · intro row listed
      have sorted := List.mem_of_mem_take listed
      rw [List.mem_insertionSort] at sorted
      exact (order.all guards).mem_iff.mp sorted

/-- What is listed are snapshots of rows of the table, in that order. -/
theorem listGuardHealth_eq_ok {server : Server GuardHealth} {snapshots : List GuardHealthSnapshot}
    (listed : listGuardHealth order limit server = .ok snapshots) :
    ∃ rows : List GuardHealthRow, rows.Pairwise LatestFirst ∧
      (∀ row ∈ rows, row ∈ server.tables.rows) ∧ snapshots = rows.map GuardHealthRow.snapshot := by
  obtain ⟨records, read, listed⟩ := (bind_eq_ok_iff _ _ _).mp listed
  cases listed
  rw [mapError_eq_ok_iff] at read
  obtain ⟨error, failed⟩ | ⟨rows, tables, -, body, done⟩ := Server.execute_cases
    (fun _ guards => do
      let rows ← selectLatest order limit guards
      return (rows, guards)) server
  · rw [failed] at read
    cases read
  · rw [done] at read
    cases read
    obtain ⟨rows, selected, body⟩ := (bind_eq_ok_iff _ _ _).mp body
    cases body
    obtain ⟨ordered, stored⟩ := selectLatest_eq_ok selected
    exact ⟨records, ordered, stored, rfl⟩

/-- Where the column holds the time of the last success, the guards are listed by that time. -/
theorem LastOkRecorded.recordsSuccesses {run : GuardRun} (recorded : LastOkRecorded run) :
    RecordsSuccesses run := by
  refine ⟨recorded, ?_⟩
  intro order limit snapshots listed
  obtain ⟨rows, ordered, stored, rfl⟩ := listGuardHealth_eq_ok listed
  have succeeded (row : GuardHealthRow) (inside : row ∈ rows) :
      lastSuccess row.guardFpr run.log = some row.lastOk :=
    recorded _ row (Table.find_of_mem (stored row inside))
  rw [List.pairwise_map]
  refine ordered.imp_of_mem ?_
  intro ahead behind aheadListed behindListed later time succeededAt
  rw [show behind.snapshot.guardFpr = behind.guardFpr from rfl, succeeded behind behindListed]
    at succeededAt
  cases succeededAt
  exact ⟨ahead.lastOk, succeeded ahead aheadListed, later⟩

end Listing

section Steps

/-- One more operation on a guard is its last success, or leaves that as it was. -/
theorem lastSuccess_concat (past : List Applied) (applied : Applied) :
    ((past ++ [applied]).filter Applied.isSuccess).getLast?.map Applied.time =
      if applied.isSuccess then some applied.time
      else (past.filter Applied.isSuccess).getLast?.map Applied.time := by
  rw [List.filter_append]
  cases kind : applied.isSuccess with
  | true => rw [List.filter_cons_of_pos kind, List.filter_nil, List.getLast?_concat]; rfl
  | false =>
    rw [List.filter_cons_of_neg (by simp [kind]), List.filter_nil, List.append_nil]
    rfl

/-- A statement takes effect when the server can be reached and takes its texts, if the guard
has no row. -/
theorem exec_absent {stmt : Statement} {server : Server GuardHealth}
    (absent : server.tables.find stmt.guardFpr = none) :
    (∃ row, (machine.exec stmt server).1 = .ok row) ↔
      server.outage = none ∧ ∀ text ∈ stmt.texts, '\x00' ∉ text.toList := by
  have inserted : (server.tables.find (stmt.fresh server.now).guardFpr) = none := by
    rw [Statement.fresh_guardFpr]
    exact absent
  simp only [machine, Server.execute]
  cases server.outage with
  | some error => simp
  | none =>
    by_cases refused : stmt.texts.any (fun text => '\x00' ∈ text.toList)
    · simp only [upsert, if_pos refused]
      simpa using refused
    · simp only [upsert, if_neg refused, absent, Table.insert?, dif_pos inserted]
      simpa using refused

/-- What is written to a row keeps that, unless it is not a success and the row is new. -/
theorem lastSuccess_written {past : List Applied} {old : Option GuardHealthRow} {stmt : Statement}
    (recorded : ∀ row, old = some row →
      (past.filter Applied.isSuccess).getLast?.map Applied.time = some row.lastOk)
    (created : old = none → ∃ guardFpr update, stmt = .success guardFpr update)
    (index : Nat) (now : Int) :
    ((past ++ [(⟨index, now, stmt⟩ : Applied)]).filter Applied.isSuccess).getLast?.map
      Applied.time = some (written stmt now old).lastOk := by
  rw [lastSuccess_concat]
  cases old with
  | none =>
    obtain ⟨guardFpr, update, rfl⟩ := created rfl
    rfl
  | some row =>
    cases stmt with
    | success guardFpr update => rfl
    | failure guardFpr => exact recorded row rfl
    | teeStatus guardFpr teeCapable teeLabel teePolicy => exact recorded row rfl

/-- A move keeps the times of the last success right, when it does not make a row by a
report that is none of a success. -/
theorem LastOkRecorded.step {run : GuardRun} {move : Move ServerDrift}
    (recorded : LastOkRecorded run) (created : CreatesBySuccess run move) :
    LastOkRecorded (run.step machine move) := by
  obtain same | ⟨act, -, moved⟩ | ⟨index, stmt, resume, called, current, moved⟩ :=
    Run.step_cases machine run move
  · rw [same]
    exact recorded
  · rw [moved]
    intro guardFpr row found
    have tables : (machine.drift act run.store).tables = run.store.tables :=
      Server.drift_tables act run.store
    rw [tables] at found
    exact recorded guardFpr row found
  · rw [moved]
    intro guardFpr row found
    rcases exec_cases stmt run.store with ⟨error, failed⟩ | ⟨after, wrote, rows⟩
    · rw [failed] at found ⊢
      rw [lastSuccess, history_of_error]
      exact recorded guardFpr row found
    · rw [wrote] at found ⊢
      rw [lastSuccess, history_of_ok]
      by_cases same : stmt.guardFpr = guardFpr
      · subst guardFpr
        rw [rows, if_pos rfl] at found
        cases found
        rw [if_pos rfl]
        apply lastSuccess_written (recorded _)
        intro absent
        obtain ⟨reachable, texts⟩ := (exec_absent absent).mp ⟨_, congrArg Prod.fst wrote⟩
        exact created stmt ⟨index, resume, called, current, reachable, texts, absent⟩
      · rw [rows, if_neg same] at found
        rw [if_neg same]
        exact recorded guardFpr row found

/-- A step that creates a row by anything but a success writes the current time to the column of
a guard that has never succeeded. -/
theorem Creates.succeeded {run : GuardRun} {move : Move ServerDrift} {stmt : Statement}
    (creates : Creates run move stmt)
    (unseen : history stmt.guardFpr run.log = [])
    (recorded : LastOkRecorded (run.step machine move)) :
    ∃ guardFpr update, stmt = .success guardFpr update := by
  obtain ⟨index, resume, rfl, current, reachable, texts, absent⟩ := creates
  obtain ⟨row, replied⟩ := (exec_absent absent).mpr ⟨reachable, texts⟩
  obtain ⟨error, failed⟩ | ⟨after, wrote, rows⟩ := exec_cases stmt run.store
  · rw [failed] at replied
    cases replied
  · have last := recorded stmt.guardFpr (stmt.fresh run.store.now)
    simp only [Run.step, current, wrote] at last
    rw [lastSuccess, history_of_ok, if_pos rfl, unseen, rows, if_pos rfl, absent] at last
    cases stmt with
    | success guardFpr update => exact ⟨guardFpr, update, rfl⟩
    | failure guardFpr => cases last rfl
    | teeStatus guardFpr teeCapable teeLabel teePolicy => cases last rfl

end Steps

section Runs

/-- In every state of a run the column holds the time of the last success, and the guards are
listed by that time, exactly when every row that the run creates is created by a success.

Proof: a row that a failure creates has the time of that failure in the column, which no
success wrote. If every row is created by a success, the first write of the column and each
later one is by a success, so the column is the time of the last; this is kept by every
move. -/
theorem lastOk_records_successes_iff (now : Int) (outage : Option String) (calls : Nat → Call)
    (moves : List (Move ServerDrift)) :
    (∀ earlier later, moves = earlier ++ later →
        RecordsSuccesses ((launch now outage calls).play machine earlier)) ↔
      Along (Run.step machine) CreatesBySuccess (launch now outage calls) moves := by
  constructor
  · intro records
    rw [Along.iff_splits]
    rintro earlier move later rfl stmt creates
    have kept := Run.play_invariant machine (Kept calls) (kept_launch now outage calls)
      (fun _ move kept => kept.step move) earlier
    have unseen := kept.folded stmt.guardFpr
    obtain ⟨-, -, -, -, -, -, absent⟩ := id creates
    rw [Run.play, absent] at unseen
    have next := records (earlier ++ [move]) later (by simp)
    rw [Run.play_append] at next
    exact creates.succeeded unseen next.lastOk
  · rintro along earlier later rfl
    have before := ((Along.append_iff _ earlier later).mp along).1
    apply LastOkRecorded.recordsSuccesses
    apply before.invariant LastOkRecorded
    · intro guardFpr row found
      cases found
    · intro current move recorded created
      exact recorded.step created

/-- The calls of a client that sees one guard succeed, and after that another one fail. -/
def succeedThenFail : Nat → Call
  | 0 => .noteGuardSuccess "steady" .unset
  | _ => .noteGuardFailure "broken"

/-- The server reads the rows as they are stored. -/
def storedOrder : ScanOrder := ⟨Table.rows, fun _ => .refl _⟩

/-- A guard that has only failed is listed ahead of one that has succeeded: its row says that it
succeeded when it failed. -/
theorem failed_guard_listed_first :
    ∃ run, run = (launch 0 none succeedThenFail).play machine
        [.call 0, .drift (.tick 5), .call 1] ∧
      lastSuccess "broken" run.log = none ∧ lastSuccess "steady" run.log = some 0 ∧
      (run.store.tables.find "broken").map GuardHealthRow.lastOk = some 5 ∧
      ((listGuardHealth storedOrder 10 run.store).toOption.map fun snapshots =>
        snapshots.map GuardHealthSnapshot.guardFpr) = some ["broken", "steady"] ∧
      ¬ RecordsSuccesses run := by
  refine ⟨_, rfl, by decide +kernel, by decide +kernel, by decide +kernel, by decide +kernel, ?_⟩
  intro records
  have last := records.lastOk "broken" ⟨"broken", 5, 5, 1, .unset, .unset⟩ (by decide +kernel)
  exact absurd last (by decide +kernel)

end Runs

end SecureDatabase.Guard
