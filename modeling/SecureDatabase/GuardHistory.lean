import SecureDatabase.GuardHealth

/-!
# A guard's row is the fold of its history

The history of a guard is what took effect on it, in order. Its row is a function of that
history and of nothing else: no increment is lost, no telemetry is erased by a column that was
not measured, and the columns of one operation are not touched by the others.
-/

namespace SecureDatabase.Guard

open Foundation Program

/-- An operation that took effect: its call, when, and what it wrote. -/
structure Applied where
  call : Nat
  time : Int
  stmt : Statement

namespace Applied

/-- The telemetry that a success reports. -/
def reported (applied : Applied) : Option GuardSuccessUpdate :=
  match applied.stmt with
  | .success _ update => some update
  | _ => none

/-- The status that an operation sets, verified when it ran. -/
def teeSet (applied : Applied) : Option TeeStatus :=
  match applied.stmt with
  | .teeStatus _ teeCapable teeLabel teePolicy =>
      some ⟨teeCapable, teeLabel, teePolicy, some applied.time⟩
  | _ => none

/-- Whether a report was one of a failure. -/
def isFailure (applied : Applied) : Bool :=
  match applied.stmt with
  | .failure _ => true
  | _ => false

/-- What an executed statement did to a guard. -/
def ofEvent (guardFpr : String) (event : Event (Server GuardHealth) Reply) : Option Applied :=
  match event.reply with
  | .ok _ =>
      if event.stmt.guardFpr = guardFpr then some ⟨event.call, event.before.now, event.stmt⟩
      else none
  | .error _ => none

end Applied

/-- What took effect on a guard, oldest first. -/
def history (guardFpr : String) (log : List (Event (Server GuardHealth) Reply)) : List Applied :=
  log.reverse.filterMap (Applied.ofEvent guardFpr)

/-- The failures that took effect on a guard, oldest first. -/
def failures (guardFpr : String) (log : List (Event (Server GuardHealth) Reply)) : List Applied :=
  (history guardFpr log).filter Applied.isFailure

/-- Each telemetry column is the last value that was reported for it, or absent. -/
structure LastReported (reports : List GuardSuccessUpdate) (telemetry : GuardSuccessUpdate) :
    Prop where
  uptimeRatio : telemetry.uptimeRatio =
    (reports.filterMap GuardSuccessUpdate.uptimeRatio).getLast?
  asn : telemetry.asn = (reports.filterMap GuardSuccessUpdate.asn).getLast?
  rpkiValid : telemetry.rpkiValid = (reports.filterMap GuardSuccessUpdate.rpkiValid).getLast?
  powScore : telemetry.powScore = (reports.filterMap GuardSuccessUpdate.powScore).getLast?
  rttP50Ms : telemetry.rttP50Ms = (reports.filterMap GuardSuccessUpdate.rttP50Ms).getLast?
  rttP95Ms : telemetry.rttP95Ms = (reports.filterMap GuardSuccessUpdate.rttP95Ms).getLast?

/-- A row is the fold of a history. -/
structure FoldOf (past : List Applied) (row : GuardHealthRow) : Prop where
  firstSeen : past.head?.map Applied.time = some row.firstSeen
  failCount : row.failCount = (past.filter Applied.isFailure).length
  telemetry : LastReported (past.filterMap Applied.reported) row.telemetry
  tee : row.tee = ((past.filterMap Applied.teeSet).getLast?).getD .unset

/-- There is a row exactly when something took effect, and it is the fold. -/
def Folded (past : List Applied) : Option GuardHealthRow → Prop
  | none => past = []
  | some row => FoldOf past row

section Fold

/-- The last present value after one more report. -/
theorem getLast?_filterMap_concat {α β : Type} (column : α → Option β) (reports : List α)
    (report : α) :
    ((reports ++ [report]).filterMap column).getLast? =
      (column report).or ((reports.filterMap column).getLast?) := by
  rw [List.filterMap_append, List.getLast?_append]
  cases reported : column report <;> simp [reported]

/-- Before any report nothing is set. -/
theorem lastReported_nil : LastReported [] .unset := by
  constructor <;> rfl

/-- A column that is set by an update takes its value, and another keeps the last one that
was set; so the columns are the last values reported. -/
theorem LastReported.coalesce {reports : List GuardSuccessUpdate} {telemetry : GuardSuccessUpdate}
    (last : LastReported reports telemetry) (update : GuardSuccessUpdate) :
    LastReported (reports ++ [update]) (update.coalesce telemetry) := by
  constructor <;> rw [getLast?_filterMap_concat]
  case uptimeRatio => rw [← last.uptimeRatio]; rfl
  case asn => rw [← last.asn]; rfl
  case rpkiValid => rw [← last.rpkiValid]; rfl
  case powScore => rw [← last.powScore]; rfl
  case rttP50Ms => rw [← last.rttP50Ms]; rfl
  case rttP95Ms => rw [← last.rttP95Ms]; rfl

/-- The row after a statement that took effect. -/
def written (stmt : Statement) (now : Int) : Option GuardHealthRow → GuardHealthRow
  | none => stmt.fresh now
  | some row => stmt.update now row

/-- The first statement creates a row that is the fold of itself. -/
theorem foldOf_fresh (stmt : Statement) (now : Int) (call : Nat) :
    FoldOf [⟨call, now, stmt⟩] (stmt.fresh now) := by
  cases stmt with
  | success guardFpr update =>
    refine ⟨rfl, rfl, ?_, rfl⟩
    have reported := lastReported_nil.coalesce update
    have whole : update.coalesce .unset = update := by
      simp [GuardSuccessUpdate.coalesce, GuardSuccessUpdate.unset]
    rwa [whole] at reported
  | failure guardFpr => exact ⟨rfl, rfl, lastReported_nil, rfl⟩
  | teeStatus guardFpr teeCapable teeLabel teePolicy => exact ⟨rfl, rfl, lastReported_nil, rfl⟩

/-- A later statement updates the row to the fold with the statement at the end. -/
theorem FoldOf.update {past : List Applied} {row : GuardHealthRow} (fold : FoldOf past row)
    (stmt : Statement) (now : Int) (call : Nat) :
    FoldOf (past ++ [⟨call, now, stmt⟩]) (stmt.update now row) := by
  have first : (past ++ [(⟨call, now, stmt⟩ : Applied)]).head?.map Applied.time =
      some row.firstSeen := by
    have known := fold.firstSeen
    cases past with
    | nil => cases known
    | cons applied rest => exact known
  have tail (applied : Applied) (row : GuardHealthRow) (unreported : applied.reported = none)
      (reported : LastReported (past.filterMap Applied.reported) row.telemetry) :
      LastReported ((past ++ [applied]).filterMap Applied.reported) row.telemetry := by
    simpa [List.filterMap_append, List.filterMap_cons, unreported] using reported
  cases stmt with
  | success guardFpr update =>
    refine ⟨first, ?_, ?_, ?_⟩
    · simp [Applied.isFailure, Statement.update, fold.failCount]
    · rw [List.filterMap_append]
      exact fold.telemetry.coalesce update
    · simp [List.filterMap_append, List.filterMap_cons, Applied.teeSet, Statement.update, fold.tee]
  | failure guardFpr =>
    refine ⟨first, ?_, tail _ _ rfl fold.telemetry, ?_⟩
    · simp [List.filter_cons, Applied.isFailure, Statement.update, fold.failCount]
    · simp [List.filterMap_append, List.filterMap_cons, Applied.teeSet, Statement.update, fold.tee]
  | teeStatus guardFpr teeCapable teeLabel teePolicy =>
    refine ⟨first, ?_, tail _ _ rfl fold.telemetry, ?_⟩
    · simp [Applied.isFailure, Statement.update, fold.failCount]
    · simp [List.filterMap_append, Applied.teeSet, Statement.update]

/-- What a statement writes is the fold with the statement at the end. -/
theorem Folded.written {past : List Applied} {old : Option GuardHealthRow}
    (folded : Folded past old) (stmt : Statement) (now : Int) (call : Nat) :
    Folded (past ++ [⟨call, now, stmt⟩]) (some (written stmt now old)) := by
  cases old with
  | none =>
    obtain rfl : past = [] := folded
    exact foldOf_fresh stmt now call
  | some row => exact FoldOf.update folded stmt now call

end Fold

section Statements

/-- A statement either fails, or writes one row and leaves the others. -/
theorem upsert_cases (stmt : Statement) (now : Int) (guards : GuardHealth) :
    (∃ error, upsert stmt now guards = .error error) ∨
      ∃ after, upsert stmt now guards =
          .ok (written stmt now (guards.find stmt.guardFpr), after) ∧
        ∀ wanted, after.find wanted =
          if stmt.guardFpr = wanted then some (written stmt now (guards.find stmt.guardFpr))
          else guards.find wanted := by
  unfold upsert
  split
  case isTrue _ => exact .inl ⟨_, rfl⟩
  case isFalse _ =>
    split
    case h_1 row found =>
      split
      case isTrue _ => exact .inl ⟨_, rfl⟩
      case isFalse _ =>
        refine .inr ⟨_, by rw [found]; rfl, ?_⟩
        intro wanted
        rw [Table.find_updateWhere]
        by_cases same : stmt.guardFpr = wanted
        · subst wanted
          simp [found, written, Table.key_of_find found]
        · cases other : guards.find wanted with
          | none => simp [same]
          | some kept =>
            have named := Table.key_of_find other
            have differs : ¬ kept.guardFpr = stmt.guardFpr := by
              rw [named]
              exact fun equal => same equal.symm
            simp [same, differs]
    case h_2 missing =>
      have absent : guards.find (stmt.fresh now).guardFpr = none := by
        rw [Statement.fresh_guardFpr]
        exact missing
      rw [Table.insert?, dif_pos absent]
      refine .inr ⟨_, by rw [missing]; rfl, ?_⟩
      intro wanted
      rw [Table.find_insert, Statement.fresh_guardFpr, missing]
      rfl

/-- An executed statement fails and changes nothing, or writes one row. -/
theorem exec_cases (stmt : Statement) (server : Server GuardHealth) :
    (∃ error, machine.exec stmt server = (.error error, server)) ∨
      ∃ after, machine.exec stmt server =
          (.ok (written stmt server.now (server.tables.find stmt.guardFpr)),
            { server with tables := after }) ∧
        ∀ wanted, after.find wanted =
          if stmt.guardFpr = wanted then
            some (written stmt server.now (server.tables.find stmt.guardFpr))
          else server.tables.find wanted := by
  rcases Server.execute_cases (upsert stmt) server with failed | ⟨row, after, -, body, done⟩
  · exact .inl failed
  · rcases upsert_cases stmt server.now server.tables with ⟨error, refused⟩ | ⟨_, wrote, found⟩
    · rw [refused] at body
      cases body
    · rw [wrote] at body
      cases body
      exact .inr ⟨_, done, found⟩

/-- A failure that would take the counter out of its range is refused. -/
theorem upsert_overflow {guardFpr : String} (now : Int) {guards : GuardHealth}
    {row : GuardHealthRow} (found : guards.find guardFpr = some row)
    (full : row.failCount = 2147483647) :
    ∃ error, upsert (.failure guardFpr) now guards = .error error := by
  unfold upsert
  split
  case isTrue _ => exact ⟨_, rfl⟩
  case isFalse _ =>
    have key : (Statement.failure guardFpr).guardFpr = guardFpr := rfl
    rw [key, found]
    exact ⟨_, if_pos (by simp [Statement.overflows, full])⟩

end Statements

section Calls

namespace Call

/-- The one statement of a call. -/
def statement : Call → Statement
  | noteGuardSuccess guardFpr update => .success guardFpr update
  | noteGuardFailure guardFpr => .failure guardFpr
  | setGuardTeeStatus guardFpr teeCapable teeLabel teePolicy =>
      .teeStatus guardFpr teeCapable teeLabel teePolicy

/-- What a call returns when its statement wrote a row. -/
def returned (row : GuardHealthRow) : Call → Returned
  | noteGuardFailure _ => .failCount row.failCount
  | _ => .unit

/-- How a call ends with the reply to its statement. -/
def finish (call : Call) : Except String GuardHealthRow → Operation Returned
  | .ok row => .value (call.returned row)
  | .error error => .failure (.query error)

/-- Each call makes one statement and finishes with its reply. -/
theorem program_eq (call : Call) : call.program = .issue call.statement call.finish := by
  cases call <;>
  · refine congrArg (Program.issue _) (funext fun reply => ?_)
    cases reply <;> rfl

/-- A call returns a value exactly when its statement took effect. -/
theorem outcome_finish (call : Call) (reply : Except String GuardHealthRow) (result : Returned) :
    (call.finish reply).outcome = some (.ok result) ↔
      ∃ row, reply = .ok row ∧ call.returned row = result := by
  cases reply <;> simp [finish, outcome]

end Call

/-- Every call is unstarted, or has executed its statement once and has ended. -/
structure Settled (calls : Nat → Call) (run : GuardRun) : Prop where
  once : (run.log.map Event.call).Nodup
  waiting : ∀ index, index ∉ run.log.map Event.call → run.calls index = (calls index).program
  finished : ∀ event ∈ run.log, event.stmt = (calls event.call).statement ∧
    run.calls event.call = (calls event.call).finish event.reply

/-- The next statement of a call that waits is its only one. -/
theorem Settled.issuing {calls : Nat → Call} {run : GuardRun} (settled : Settled calls run)
    {index : Nat} {stmt : Statement} {resume : Reply stmt → Operation Returned}
    (current : run.calls index = .issue stmt resume) :
    index ∉ run.log.map Event.call ∧ stmt = (calls index).statement ∧
      resume = (calls index).finish := by
  have fresh : index ∉ run.log.map Event.call := by
    intro logged
    obtain ⟨event, member, rfl⟩ := List.mem_map.mp logged
    have ended := (settled.finished event member).2
    rw [current] at ended
    cases found : event.reply <;> rw [found] at ended <;> cases ended
  have program := settled.waiting index fresh
  rw [current, Call.program_eq] at program
  cases program
  exact ⟨fresh, rfl, rfl⟩

/-- A move keeps the books of the calls: each is before its statement, or has finished
with the reply to it. -/
theorem Settled.step {calls : Nat → Call} {run : GuardRun} (settled : Settled calls run)
    (move : Move ServerDrift) : Settled calls (run.step machine move) := by
  obtain same | ⟨act, -, moved⟩ | ⟨index, stmt, resume, -, current, moved⟩ :=
    Run.step_cases machine run move
  · rw [same]
    exact settled
  · rw [moved]
    exact ⟨settled.once, settled.waiting, settled.finished⟩
  · obtain ⟨fresh, rfl, rfl⟩ := settled.issuing current
    rw [moved]
    refine ⟨List.nodup_cons.mpr ⟨fresh, settled.once⟩, ?_, ?_⟩
    · intro other absent
      simp only [List.map_cons, List.mem_cons, not_or] at absent
      exact (Function.update_of_ne absent.1 _ _).trans (settled.waiting other absent.2)
    · intro event member
      rcases List.mem_cons.mp member with rfl | old
      · exact ⟨rfl, Function.update_self _ _ _⟩
      · have other : event.call ≠ index := by
          rintro rfl
          exact fresh (List.mem_map_of_mem old)
        obtain ⟨named, ended⟩ := settled.finished event old
        exact ⟨named, (Function.update_of_ne other _ _).trans ended⟩

end Calls

section Runs

/-- The history grows at its end, by the event when it is one of this guard. -/
theorem history_cons (guardFpr : String) (event : Event (Server GuardHealth) Reply)
    (log : List (Event (Server GuardHealth) Reply)) :
    history guardFpr (event :: log) =
      history guardFpr log ++ (Applied.ofEvent guardFpr event).toList := by
  rw [history, List.reverse_cons, List.filterMap_append, ← history]
  cases found : Applied.ofEvent guardFpr event <;> simp [found]

/-- An event belongs to the history of a guard when its statement names the guard and was
executed. -/
theorem ofEvent_eq_some_iff (guardFpr : String) (event : Event (Server GuardHealth) Reply)
    (applied : Applied) :
    Applied.ofEvent guardFpr event = some applied ↔
      (∃ row, event.reply = .ok row) ∧ event.stmt.guardFpr = guardFpr ∧
        applied = ⟨event.call, event.before.now, event.stmt⟩ := by
  unfold Applied.ofEvent
  cases event.reply with
  | error error => simp
  | ok row =>
    by_cases same : event.stmt.guardFpr = guardFpr
    · simp [same, eq_comm]
    · simp [same]

/-- The history of a guard has the executed statements that name it and no others. -/
theorem mem_history_iff (guardFpr : String) (log : List (Event (Server GuardHealth) Reply))
    (applied : Applied) :
    applied ∈ history guardFpr log ↔
      ∃ event ∈ log, (∃ row, event.reply = .ok row) ∧ event.stmt.guardFpr = guardFpr ∧
        applied = ⟨event.call, event.before.now, event.stmt⟩ := by
  simp only [history, List.mem_filterMap, List.mem_reverse, ofEvent_eq_some_iff]

/-- The calls of a history are distinct, since each call executes once. -/
theorem Settled.distinct {calls : Nat → Call} {run : GuardRun} (settled : Settled calls run)
    (guardFpr : String) : ((history guardFpr run.log).map Applied.call).Nodup := by
  have once : (run.log.reverse.map Event.call).Nodup := by
    rw [List.map_reverse]
    exact List.nodup_reverse.mpr settled.once
  have calls_sublist (events : List (Event (Server GuardHealth) Reply)) :
      ((events.filterMap (Applied.ofEvent guardFpr)).map Applied.call).Sublist
        (events.map Event.call) := by
    induction events with
    | nil => exact List.Sublist.refl _
    | cons event rest ih =>
      cases found : Applied.ofEvent guardFpr event with
      | none =>
        rw [List.filterMap_cons_none found, List.map_cons]
        exact ih.cons _
      | some applied =>
        obtain ⟨-, -, rfl⟩ := (ofEvent_eq_some_iff _ _ _).mp found
        rw [List.filterMap_cons_some found, List.map_cons, List.map_cons]
        exact ih.cons_cons _
  exact once.sublist (calls_sublist _)

/-- What took effect is the statement of its call. -/
theorem Settled.named {calls : Nat → Call} {run : GuardRun} (settled : Settled calls run)
    {guardFpr : String} {applied : Applied} (member : applied ∈ history guardFpr run.log) :
    applied.stmt = (calls applied.call).statement := by
  obtain ⟨event, logged, -, -, rfl⟩ := (mem_history_iff _ _ _).mp member
  exact (settled.finished event logged).1

/-- What took effect on a guard is what the calls on it that returned a value wrote. -/
theorem Settled.effective {calls : Nat → Call} {run : GuardRun} (settled : Settled calls run)
    (guardFpr : String) (index : Nat) :
    (∃ applied ∈ history guardFpr run.log, applied.call = index ∧
        applied.stmt = (calls index).statement) ↔
      (calls index).statement.guardFpr = guardFpr ∧
        ∃ result, (run.calls index).outcome = some (.ok result) := by
  constructor
  · rintro ⟨applied, member, rfl, named⟩
    obtain ⟨event, logged, ⟨row, replied⟩, guard, rfl⟩ := (mem_history_iff _ _ _).mp member
    obtain ⟨stmt, ended⟩ := settled.finished event logged
    refine ⟨stmt ▸ guard, (calls event.call).returned row, ?_⟩
    rw [ended, Call.outcome_finish]
    exact ⟨row, replied, rfl⟩
  · rintro ⟨guard, result, returned⟩
    have logged : index ∈ run.log.map Event.call := by
      by_contra absent
      rw [settled.waiting index absent, Call.program_eq] at returned
      cases returned
    obtain ⟨event, member, rfl⟩ := List.mem_map.mp logged
    obtain ⟨stmt, ended⟩ := settled.finished event member
    rw [ended, Call.outcome_finish] at returned
    obtain ⟨row, replied, -⟩ := returned
    exact ⟨_, (mem_history_iff _ _ _).mpr ⟨event, member, ⟨row, replied⟩, stmt ▸ guard, rfl⟩, rfl,
      stmt⟩

/-- The row of every guard is the fold of its history, and its failures returned one, two and
so on, in the order in which they took effect. -/
structure Kept (calls : Nat → Call) (run : GuardRun) : Prop where
  settled : Settled calls run
  folded : ∀ guardFpr, Folded (history guardFpr run.log) (run.store.tables.find guardFpr)
  counted : ∀ guardFpr (place : Nat) (applied : Applied),
    (failures guardFpr run.log)[place]? = some applied →
      (run.calls applied.call).outcome = some (.ok (.failCount ((place : Int) + 1)))

/-- Before any call there are no guards and no histories. -/
theorem kept_launch (now : Int) (outage : Option String) (calls : Nat → Call) :
    Kept calls (launch now outage calls) where
  settled := ⟨List.nodup_nil, fun _ _ => rfl, fun _ member => absurd member List.not_mem_nil⟩
  folded _ := rfl
  counted _ _ _ found := by cases found

/-- A statement that failed leaves every history as it was. -/
theorem history_of_error (guardFpr : String) (log : List (Event (Server GuardHealth) Reply))
    (stmt : Statement) (error : String) (index : Nat) (before : Server GuardHealth) :
    history guardFpr (⟨⟨stmt, .error error⟩, index, before⟩ :: log) = history guardFpr log := by
  rw [history_cons]
  exact List.append_nil _

/-- A statement that took effect is the last of the history of its guard. -/
theorem history_of_ok (guardFpr : String) (log : List (Event (Server GuardHealth) Reply))
    (stmt : Statement) (row : GuardHealthRow) (index : Nat) (before : Server GuardHealth) :
    history guardFpr (⟨⟨stmt, .ok row⟩, index, before⟩ :: log) =
      if stmt.guardFpr = guardFpr then history guardFpr log ++ [⟨index, before.now, stmt⟩]
      else history guardFpr log := by
  rw [history_cons]
  by_cases same : stmt.guardFpr = guardFpr <;> simp [Applied.ofEvent, same]

/-- The row that a failure writes counts the failures before it and itself. -/
theorem failCount_written {past : List Applied} {old : Option GuardHealthRow}
    (folded : Folded past old) (guardFpr : String) (now : Int) :
    (written (.failure guardFpr) now old).failCount =
      ((past.filter Applied.isFailure).length : Int) + 1 := by
  cases old with
  | none =>
    obtain rfl : past = [] := folded
    rfl
  | some row =>
    have fold : FoldOf past row := folded
    exact congrArg (· + 1) fold.failCount

/-- A failure of the longer history counted before, or is the call that now returns its place. -/
theorem counted_concat {past : List Applied} {old : Option GuardHealthRow}
    (folded : Folded past old) {call : Call} {index : Nat} {now : Int} {place : Nat}
    {applied : Applied}
    (found : ((past ++ [(⟨index, now, call.statement⟩ : Applied)]).filter
      Applied.isFailure)[place]? = some applied) :
    (past.filter Applied.isFailure)[place]? = some applied ∨
      applied.call = index ∧
        call.returned (written call.statement now old) = .failCount ((place : Int) + 1) := by
  rw [List.filter_append] at found
  rcases Nat.lt_or_ge place (past.filter Applied.isFailure).length with before | after
  · rw [List.getElem?_append_left before] at found
    exact .inl found
  · rw [List.getElem?_append_right after] at found
    cases call with
    | noteGuardSuccess guardFpr update => cases found
    | setGuardTeeStatus guardFpr teeCapable teeLabel teePolicy => cases found
    | noteGuardFailure guardFpr =>
      have only : [(⟨index, now, Statement.failure guardFpr⟩ : Applied)][
          place - (past.filter Applied.isFailure).length]? = some applied := found
      rw [List.getElem?_singleton] at only
      split at only
      case isFalse _ => cases only
      case isTrue last =>
        cases only
        refine .inr ⟨rfl, congrArg Returned.failCount ?_⟩
        exact (failCount_written folded guardFpr now).trans (by omega)

/-- A move keeps the rows folds of their histories: each executed statement does to its
row what it adds to the history. -/
theorem Kept.step {calls : Nat → Call} {run : GuardRun} (kept : Kept calls run)
    (move : Move ServerDrift) : Kept calls (run.step machine move) := by
  have settled := kept.settled.step move
  obtain same | ⟨act, -, moved⟩ | ⟨index, stmt, resume, -, current, moved⟩ :=
    Run.step_cases machine run move
  · rw [same]
    exact kept
  · rw [moved] at settled ⊢
    refine ⟨settled, ?_, kept.counted⟩
    intro guardFpr
    have tables : (machine.drift act run.store).tables = run.store.tables :=
      Server.drift_tables act run.store
    rw [tables]
    exact kept.folded guardFpr
  · obtain ⟨fresh, rfl, rfl⟩ := kept.settled.issuing current
    -- The calls that counted before have ended, so they are not the one that moves.
    have earlier (guardFpr : String) (place : Nat) (applied : Applied) (reply)
        (found : (failures guardFpr run.log)[place]? = some applied) :
        (Function.update run.calls index ((calls index).finish reply) applied.call).outcome =
          some (.ok (.failCount ((place : Int) + 1))) := by
      have other : applied.call ≠ index := by
        have member := (List.mem_filter.mp (List.mem_of_getElem? found)).1
        obtain ⟨event, logged, -, -, rfl⟩ := (mem_history_iff _ _ _).mp member
        rintro rfl
        exact fresh (List.mem_map_of_mem logged)
      rw [Function.update_of_ne other]
      exact kept.counted guardFpr place applied found
    rw [moved] at settled ⊢
    rcases exec_cases (calls index).statement run.store with ⟨error, failed⟩ | ⟨after, wrote, found⟩
    · rw [failed] at settled ⊢
      refine ⟨settled, ?_, ?_⟩
      · intro guardFpr
        rw [history_of_error]
        exact kept.folded guardFpr
      · intro guardFpr place applied counted
        rw [failures, history_of_error] at counted
        exact earlier guardFpr place applied _ counted
    · rw [wrote] at settled ⊢
      refine ⟨settled, ?_, ?_⟩
      · intro guardFpr
        rw [history_of_ok, found guardFpr]
        by_cases same : (calls index).statement.guardFpr = guardFpr
        · subst guardFpr
          rw [if_pos rfl, if_pos rfl]
          exact (kept.folded _).written _ _ _
        · rw [if_neg same, if_neg same]
          exact kept.folded guardFpr
      · intro guardFpr place applied counted
        rw [failures, history_of_ok] at counted
        by_cases same : (calls index).statement.guardFpr = guardFpr
        · subst guardFpr
          rw [if_pos rfl] at counted
          rcases counted_concat (kept.folded _) counted with old | ⟨rfl, last⟩
          · exact earlier _ place applied _ old
          · dsimp only
            rw [Function.update_self, Call.outcome_finish]
            exact ⟨_, rfl, last⟩
        · rw [if_neg same] at counted
          exact earlier guardFpr place applied _ counted

/-- Only the calls on a guard change its row. -/
theorem Settled.untouched {calls : Nat → Call} {run : GuardRun} (settled : Settled calls run)
    (move : Move ServerDrift) (guardFpr : String)
    (others : ∀ index, move = .call index → (calls index).statement.guardFpr ≠ guardFpr) :
    (run.step machine move).store.tables.find guardFpr = run.store.tables.find guardFpr := by
  obtain same | ⟨act, -, moved⟩ | ⟨index, stmt, resume, called, current, moved⟩ :=
    Run.step_cases machine run move
  · rw [same]
  · rw [moved]
    exact congrArg (Table.find · guardFpr) (Server.drift_tables act run.store)
  · obtain ⟨-, rfl, rfl⟩ := settled.issuing current
    rw [moved]
    rcases exec_cases (calls index).statement run.store with ⟨error, failed⟩ | ⟨after, wrote, found⟩
    · rw [failed]
    · rw [wrote]
      exact (found guardFpr).trans (if_neg (others index called))

/-- A failure on a full counter errors and changes nothing. -/
theorem Settled.full {calls : Nat → Call} {run : GuardRun} (settled : Settled calls run)
    {guardFpr : String} {row : GuardHealthRow} {index : Nat}
    (found : run.store.tables.find guardFpr = some row) (full : row.failCount = 2147483647)
    (made : calls index = .noteGuardFailure guardFpr)
    (pending : (run.calls index).outcome = none) :
    (run.step machine (.call index)).store = run.store ∧
      ∃ error, ((run.step machine (.call index)).calls index).outcome = some (.error error) := by
  cases current : run.calls index with
  | value result => simp [current, outcome] at pending
  | failure error => simp [current, outcome] at pending
  | issue stmt resume =>
    obtain ⟨-, rfl, rfl⟩ := settled.issuing current
    have refused : ∃ error, machine.exec (calls index).statement run.store =
        (.error error, run.store) := by
      rcases Server.execute_cases (upsert (calls index).statement) run.store with
        failed | ⟨_, _, -, body, -⟩
      · exact failed
      · obtain ⟨error, overflow⟩ := upsert_overflow run.store.now found full
        rw [made] at body
        cases overflow.symm.trans body
    obtain ⟨error, failed⟩ := refused
    simp only [Run.step, current, failed, Function.update_self]
    exact ⟨trivial, .query error, rfl⟩

/-- The failures of a guard are its failure calls that returned a value. -/
theorem Settled.failed {calls : Nat → Call} {run : GuardRun} (settled : Settled calls run)
    (guardFpr : String) (index : Nat) :
    index ∈ (failures guardFpr run.log).map Applied.call ↔
      calls index = .noteGuardFailure guardFpr ∧
        ∃ result, (run.calls index).outcome = some (.ok result) := by
  constructor
  · intro member
    obtain ⟨applied, counted, rfl⟩ := List.mem_map.mp member
    obtain ⟨member, failure⟩ := List.mem_filter.mp counted
    have named := settled.named member
    have returned := (settled.effective guardFpr applied.call).mp ⟨applied, member, rfl, named⟩
    refine ⟨?_, returned.2⟩
    obtain ⟨guard, -⟩ := returned
    rw [Applied.isFailure, named] at failure
    cases made : calls applied.call with
    | noteGuardFailure other => rw [← guard, made]; rfl
    | noteGuardSuccess other update => rw [made] at failure; cases failure
    | setGuardTeeStatus other teeCapable teeLabel teePolicy => rw [made] at failure; cases failure
  · rintro ⟨made, returned⟩
    obtain ⟨applied, member, rfl, named⟩ :=
      (settled.effective guardFpr index).mpr ⟨by rw [made]; rfl, returned⟩
    refine List.mem_map_of_mem (List.mem_filter.mpr ⟨member, ?_⟩)
    rw [Applied.isFailure, named, made]
    rfl

/-- The tables are the fold of what the calls did. -/
structure FoldsHistory (calls : Nat → Call) (run : GuardRun) : Prop where
  /-- The row of a guard is the fold of its history. -/
  row : ∀ guardFpr, Folded (history guardFpr run.log) (run.store.tables.find guardFpr)
  /-- The history of a guard holds each call on it that returned a value, once. -/
  once : ∀ guardFpr, ((history guardFpr run.log).map Applied.call).Nodup
  effective : ∀ guardFpr index,
    (∃ applied ∈ history guardFpr run.log, applied.call = index ∧
        applied.stmt = (calls index).statement) ↔
      (calls index).statement.guardFpr = guardFpr ∧
        ∃ result, (run.calls index).outcome = some (.ok result)
  /-- Its failures are the failure calls that returned a value; they returned 1, 2, 3, … -/
  failed : ∀ guardFpr index,
    index ∈ (failures guardFpr run.log).map Applied.call ↔
      calls index = .noteGuardFailure guardFpr ∧
        ∃ result, (run.calls index).outcome = some (.ok result)
  counted : ∀ guardFpr (place : Nat) (applied : Applied),
    (failures guardFpr run.log)[place]? = some applied →
      (run.calls applied.call).outcome = some (.ok (.failCount ((place : Int) + 1)))
  /-- A failure on a full counter errors and changes nothing. -/
  full : ∀ guardFpr row index, run.store.tables.find guardFpr = some row →
    row.failCount = 2147483647 → calls index = .noteGuardFailure guardFpr →
    (run.calls index).outcome = none →
      (run.step machine (.call index)).store = run.store ∧
        ∃ error, ((run.step machine (.call index)).calls index).outcome = some (.error error)
  /-- Only the calls on a guard change its row. -/
  untouched : ∀ move guardFpr,
    (∀ index, move = .call index → (calls index).statement.guardFpr ≠ guardFpr) →
      (run.step machine move).store.tables.find guardFpr = run.store.tables.find guardFpr

/-- Whatever the interleaving of the calls, every row is the fold of its history.

Proof: the fold and the numbers that failures returned are one invariant. An upsert appends
one event to the history of its guard and is itself one more step of the fold; every other
move leaves both as they were. -/
theorem guard_rows_fold_history (now : Int) (outage : Option String) (calls : Nat → Call)
    (moves : List (Move ServerDrift)) :
    FoldsHistory calls ((launch now outage calls).play machine moves) := by
  have kept := Run.play_invariant machine (Kept calls) (kept_launch now outage calls)
    (fun _ move kept => kept.step move) moves
  exact {
    row := kept.folded
    once := kept.settled.distinct
    effective := kept.settled.effective
    failed := kept.settled.failed
    counted := kept.counted
    full := fun _ _ _ found full made pending => kept.settled.full found full made pending
    untouched := kept.settled.untouched }

/-- A status between two failures neither resets the count nor the first sighting. -/
example :
    (((launch 7 none (fun index =>
        if index = 1 then .setGuardTeeStatus "guard" true none none
        else .noteGuardFailure "guard")).play machine
      [.call 0, .drift (.tick 5), .call 1, .call 2]).store.tables.find "guard") =
      some ⟨"guard", 7, 7, 2, .unset, ⟨true, none, none, some 12⟩⟩ := by
  decide +kernel

end Runs

end SecureDatabase.Guard
