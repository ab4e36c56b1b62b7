import SecureDatabase.CredentialRevocation
import SecureDatabase.Foundation.Double

/-!
# Counting recent sessions and tickets

Rate limits rest on how many sessions and tickets a credential was given in a window of time.
The counts are of stored rows. Sessions go with their credential only, so that in every schedule
their count is the number of sessions recorded in the window since the credential was last
deleted. Tickets also go when they are collected. Their count is never more than the number of
tickets issued in the window, and it is that number as long as no ticket is issued expired and
collection keeps tickets for longer than the window.

The window is converted to a double before the server multiplies it by one second, so a window of
centuries is rounded.
-/

namespace SecureDatabase.TorAuth

open Foundation Program

variable {σ : Type}

/-- A window in microseconds, by way of doubles. -/
def windowMicroseconds (windowSeconds : Int64) : Except String Int :=
  let product := nearestDouble (nearestDouble windowSeconds.toInt * second)
  if -0x8000000000000000 ≤ product ∧ product < 0x8000000000000000 then .ok product
  else .error "interval out of range"

/-- The start of a window that ends now. -/
def recentCutoff (windowSeconds : Int64) (now : Int) : Except String Int := do
  let microseconds ← windowMicroseconds windowSeconds
  if isTimestamp (now - microseconds) then .ok (now - microseconds)
  else .error "timestamp out of range"

/-- A window of up to 285 years is exact. -/
theorem windowMicroseconds_of_small {windowSeconds : Int64}
    (small : (windowSeconds.toInt * second).natAbs < 2 ^ 53) :
    windowMicroseconds windowSeconds = .ok (windowSeconds.toInt * second) := by
  have exact_ : nearestDouble windowSeconds.toInt = windowSeconds.toInt := by
    apply nearestDouble_of_lt
    unfold second at small
    omega
  unfold windowMicroseconds
  rw [exact_, nearestDouble_of_lt small, if_pos]
  omega

namespace World

/-- A SELECT of one number. -/
def count (body : Int → TorTables → Except String Nat) (world : World σ) : DbResult Nat :=
  (world.sql [] fun now tables =>
    (body now tables).map fun total => (total, tables)).1.mapError .query

/-- A count that the server answers is computed from the tables, at the time of its
clock. -/
theorem count_of_reachable (body : Int → TorTables → Except String Nat) {world : World σ}
    (reachable : world.server.outage = none) :
    world.count body = (body world.now world.server.tables).mapError .query := by
  have received : Received [] := by simp [Received]
  cases computed : body world.server.now world.server.tables with
  | error error =>
    simp [count, World.sql, Server.execute, reachable, World.now, receive_of_received received,
      computed, Except.map]
  | ok total =>
    simp [count, World.sql, Server.execute, reachable, World.now, receive_of_received received,
      computed, Except.map]

end World

/-- Sessions of a credential issued since a time. -/
def sessionSince (credentialId : Uuid) (cutoff : Int) (row : SessionRow) : Bool :=
  row.credentialId = credentialId && cutoff ≤ row.issuedAt

/-- Tickets of a credential created after a time. -/
def ticketAfter (credentialId : Uuid) (cutoff : Int) (row : TicketRow) : Bool :=
  row.credentialId = credentialId && cutoff < row.createdAt

/-- Count the sessions issued within the window. -/
def countRecentSessions (credentialId : Uuid) (windowSeconds : Int64) (world : World σ) :
    DbResult Nat :=
  world.count fun now tables => do
    let cutoff ← recentCutoff windowSeconds now
    return tables.sessions.countWhere (sessionSince credentialId cutoff)

/-- Count the tickets issued for a credential in the window. -/
def countRecentTickets (credentialId : Uuid) (windowSeconds : Int64) (world : World σ) :
    DbResult Nat :=
  world.count fun now tables => do
    let cutoff ← recentCutoff windowSeconds now
    return tables.tickets.countWhere (ticketAfter credentialId cutoff)

/-- Count the sessions that have no expiry or expire later. -/
def countActiveSessions (world : World σ) : DbResult Nat :=
  world.count fun now tables =>
    .ok (tables.sessions.countWhere (fun row => row.expiresAt.all (fun expiry => now < expiry)))

/-- Count all persisted sessions. -/
def countTotalSessions (world : World σ) : DbResult Nat :=
  world.count fun _ tables => .ok (tables.sessions.countWhere (fun _ => true))

/-- Count the credentials that are not disabled. -/
def countActiveCredentials (world : World σ) : DbResult Nat :=
  world.count fun _ tables => .ok (tables.credentials.countWhere (fun row => row.disabled = false))

/-- The reads that return a count of stored rows. -/
inductive CountingRead where
  | recentSessions (credentialId : Uuid) (windowSeconds : Int64)
  | recentTickets (credentialId : Uuid) (windowSeconds : Int64)
  | activeSessions
  | totalSessions
  | activeCredentials

/-- What a counting read returns in a world, which it leaves as it is. -/
def CountingRead.run : CountingRead → World σ → DbResult Nat
  | recentSessions credentialId windowSeconds => countRecentSessions credentialId windowSeconds
  | recentTickets credentialId windowSeconds => countRecentTickets credentialId windowSeconds
  | activeSessions => countActiveSessions
  | totalSessions => countTotalSessions
  | activeCredentials => countActiveCredentials

section Histories

variable (credentialId : Uuid) (cutoff : Int)

/-- What was logged since a credential was last deleted. -/
def sinceDeletion (log : List (Event (World σ) Reply)) : List (Event (World σ) Reply) :=
  log.takeWhile (fun event => credentialDeleted event.toExchange ≠ some credentialId)

/-- Whether an event recorded a session of a credential since a time. -/
def recordedSince (event : Event (World σ) Reply) : Bool :=
  (sessionEffect event.toExchange).any (fun columns => columns.credentialId = credentialId) &&
    cutoff ≤ event.before.now

/-- Whether an event issued a ticket for a credential after a time. -/
def issuedAfter (event : Event (World σ) Reply) : Bool :=
  match effect event.toExchange with
  | some (.issued columns) => columns.credentialId = credentialId && cutoff < event.before.now
  | _ => false

/-- How a count changes with an event: a deletion of the credential ends it, and what counts adds
one. -/
def tally (counts : Event (World σ) Reply → Bool) (event : Event (World σ) Reply) (total : Nat) :
    Nat :=
  if credentialDeleted event.toExchange = some credentialId then 0
  else total + (counts event).toNat

/-- The final tally is the number of events that count since the last deletion. -/
theorem foldr_tally (counts : Event (World σ) Reply → Bool) (log : List (Event (World σ) Reply)) :
    log.foldr (tally credentialId counts) 0 = (sinceDeletion credentialId log).countP counts := by
  induction log with
  | nil => rfl
  | cons event log inductionHypothesis =>
    rw [List.foldr_cons, inductionHypothesis, tally]
    by_cases deleted : credentialDeleted event.toExchange = some credentialId
    · simp [sinceDeletion, deleted]
    · rw [if_neg deleted]
      simp only [sinceDeletion, List.takeWhile_cons, deleted, ne_eq, not_false_eq_true, decide_true,
        if_true, List.countP_cons]
      cases counts event <;> rfl

end Histories

section Steps

variable {credentialId : Uuid} {cutoff : Int}

/-- Deleting a credential ends the count of what refers to it and leaves the other counts. -/
theorem countWhere_deleteCredential {Row Key : Type} {key : Row → Key} (table : Table key)
    (refers : Row → Uuid) {counts : Row → Bool} {deleted credentialId : Uuid} {present : Bool}
    (counted : ∀ row, counts row = true → refers row = credentialId)
    (referenced : ∀ row ∈ table.rows, refers row = deleted → present = true) :
    (table.deleteWhere (fun row => refers row = deleted && present)).countWhere counts =
      if deleted = credentialId then 0 else table.countWhere counts := by
  split
  · rename_i same
    apply Table.countWhere_deleteWhere_eq_zero
    intro row stored counts
    have names : refers row = deleted := (counted row counts).trans same.symm
    simp [names, referenced row stored names]
  · rename_i differs
    apply Table.countWhere_deleteWhere
    intro row _ counts
    have names : ¬ refers row = deleted := fun same => differs (same.symm.trans (counted row counts))
    simp [names]

/-- A statement that failed left a number as it was; one that is done changed it as its body
did. -/
theorem World.sql_tally {Result : Type} {parameters : List Parameter}
    (body : Int → TorTables → Except String (Result × TorTables)) (world : World σ)
    (number : TorTables → Nat) (change : Except String Result → Nat → Nat)
    (failed : ∀ error total, change (.error error) total = total)
    (done : ∀ result after, body world.now world.server.tables = .ok (result, after) →
      number after = change (.ok result) (number world.server.tables)) :
    number (world.sql parameters body).2.server.tables =
      change (world.sql parameters body).1 (number world.server.tables) := by
  obtain ⟨error, stopped⟩ | ⟨result, tables, -, -, computed, executed⟩ :=
    world.sql_cases parameters body
  · rw [stopped, failed]
  · rw [executed]
    exact done result tables computed

/-- A statement that neither deletes the credential nor counts leaves a tally. -/
theorem tally_of_not {counts : Event (World σ) Reply → Bool} {event : Event (World σ) Reply}
    (undeleted : credentialDeleted event.toExchange ≠ some credentialId)
    (uncounted : counts event = false) (total : Nat) : tally credentialId counts event total = total := by
  rw [tally, if_neg undeleted, uncounted]
  rfl

/-- A deletion of another credential leaves a tally. -/
theorem tally_deletion {counts : Event (World σ) Reply → Bool} {id : Uuid} {count : Nat}
    (index : Nat) (world : World σ)
    (uncounted : counts ⟨⟨.deleteCredential id, .ok count⟩, index, world⟩ = false) (total : Nat) :
    tally credentialId counts ⟨⟨.deleteCredential id, .ok count⟩, index, world⟩ total =
      if id = credentialId then 0 else total := by
  simp [tally, credentialDeleted, uncounted]

/-- No other statement deletes a credential. -/
theorem credentialDeleted_eq_none {stmt : Statement} (reply : Reply stmt)
    (noDelete : ∀ id, stmt ≠ .deleteCredential id) : credentialDeleted ⟨stmt, reply⟩ = none := by
  unfold credentialDeleted
  split
  · rename_i id _ same
    cases same
    exact absurd rfl (noDelete id)
  · rfl

/-- How a statement changes the number of recent sessions. -/
theorem exec_sessions_tally (externals : Externals σ) (index : Nat) (stmt : Statement)
    (world : World σ) (references : Referenced world.server.tables) :
    (exec externals stmt world).2.sessions.countWhere (sessionSince credentialId cutoff) =
      tally credentialId (recordedSince credentialId cutoff)
        (Run.event (machine externals) index stmt world)
        (world.sessions.countWhere (sessionSince credentialId cutoff)) := by
  let number (tables : TorTables) : Nat :=
    tables.sessions.countWhere (sessionSince credentialId cutoff)
  by_cases inserts : ∃ columns sessionKey, stmt = .insertSession columns sessionKey
  · obtain ⟨columns, sessionKey, rfl⟩ := inserts
    refine world.sql_tally _ number (fun reply => tally credentialId
      (recordedSince credentialId cutoff) ⟨⟨.insertSession columns sessionKey, reply⟩, index, world⟩)
      (fun _ _ => rfl) fun result after computed => ?_
    obtain ⟨-, absent, rfl⟩ := TorTables.insertSession_done computed
    exact Table.countWhere_insert world.sessions { columns with sessionKey, issuedAt := world.now } absent _
  · have noInsert : ∀ columns sessionKey, stmt ≠ .insertSession columns sessionKey :=
      fun columns sessionKey same => inserts ⟨columns, sessionKey, same⟩
    by_cases deletes : ∃ id, stmt = .deleteCredential id
    · obtain ⟨id, rfl⟩ := deletes
      refine world.sql_tally _ number (fun reply => tally credentialId
        (recordedSince credentialId cutoff) ⟨⟨.deleteCredential id, reply⟩, index, world⟩)
        (fun _ _ => rfl) fun result after computed => ?_
      cases computed
      have counted (row : SessionRow) (since : sessionSince credentialId cutoff row = true) :
          row.credentialId = credentialId := by
        simp only [sessionSince, Bool.and_eq_true, decide_eq_true_eq] at since
        exact since.1
      refine (countWhere_deleteCredential world.sessions (fun row => row.credentialId) counted
        ?_).trans ?_
      · rintro row stored rfl
        exact references.sessions row stored
      · exact (tally_deletion index world rfl _).symm
    · have noDelete : ∀ id, stmt ≠ .deleteCredential id := fun id same => deletes ⟨id, same⟩
      rw [exec_sessions_kept externals stmt world noInsert noDelete, tally_of_not]
      · rw [Run.event, credentialDeleted_eq_none _ noDelete]
        exact (Option.some_ne_none _).symm
      · rw [recordedSince, Run.event, sessionEffect_eq_none _ noInsert]
        rfl

/-- The statements that change the tickets. -/
def writesTickets : Statement → Bool
  | .insertTicket _ | .updateRedeemed _ _ | .updateExpired _ | .deleteExpired _
  | .deleteCredential _ => true
  | _ => false

/-- Every other statement keeps them. -/
theorem exec_tickets_kept (externals : Externals σ) (stmt : Statement) (world : World σ)
    (unwritten : writesTickets stmt = false) :
    (exec externals stmt world).2.tickets = world.tickets := by
  cases stmt
  case insertCredential row =>
    exact World.sql_tickets _ (fun _ _ _ _ done => (TorTables.insertCredential_rest done).2) world
  case upsertCredential row =>
    exact World.sql_tickets _ (fun _ _ _ _ done => (TorTables.upsertCredential_rest done).2) world
  case setEntryOnion id entryOnion guardNodes =>
    exact World.sql_tickets _ (fun _ _ _ _ done => (TorTables.setEntryOnion_rest done).2) world
  case insertSession columns sessionKey =>
    exact World.sql_tickets _ (fun _ _ _ _ done => (TorTables.insertSession_eq_ok done).1) world
  all_goals first
    | rfl
    | refine World.sql_tickets _ ?_ world
      intro now tables result after done
      cases done
      rfl
    | cases unwritten

/-- How a statement that collects nothing changes the number of recent tickets. -/
theorem exec_tickets_tally (externals : Externals σ) (index : Nat) (stmt : Statement)
    (world : World σ) (references : Referenced world.server.tables)
    (collectsNone : ∀ retentionDays, stmt ≠ .deleteExpired retentionDays) :
    (exec externals stmt world).2.tickets.countWhere (ticketAfter credentialId cutoff) =
      tally credentialId (issuedAfter credentialId cutoff)
        (Run.event (machine externals) index stmt world)
        (world.tickets.countWhere (ticketAfter credentialId cutoff)) := by
  let number (tables : TorTables) : Nat :=
    tables.tickets.countWhere (ticketAfter credentialId cutoff)
  cases stmt with
  | insertTicket columns =>
    refine world.sql_tally _ number (fun reply => tally credentialId
      (issuedAfter credentialId cutoff) ⟨⟨.insertTicket columns, reply⟩, index, world⟩)
      (fun _ _ => rfl) fun result after computed => ?_
    obtain ⟨-, -, absent, rfl⟩ := TorTables.insertTicket_done computed
    exact Table.countWhere_insert world.tickets (TorTables.ticketRow columns world.now) absent _
  | updateRedeemed id onion =>
    refine world.sql_tally _ number (fun reply => tally credentialId
      (issuedAfter credentialId cutoff) ⟨⟨.updateRedeemed id onion, reply⟩, index, world⟩)
      (fun _ _ => rfl) fun result after computed => ?_
    cases computed
    exact Table.countWhere_updateWhere world.tickets (TorTables.redeem_id onion world.now) (fun _ => rfl)
  | updateExpired id =>
    refine world.sql_tally _ number (fun reply => tally credentialId
      (issuedAfter credentialId cutoff) ⟨⟨.updateExpired id, reply⟩, index, world⟩)
      (fun _ _ => rfl) fun result after computed => ?_
    cases computed
    exact Table.countWhere_updateWhere world.tickets (TorTables.expire_id world.now) (fun _ => rfl)
  | deleteExpired retentionDays => exact absurd rfl (collectsNone retentionDays)
  | deleteCredential id =>
    refine world.sql_tally _ number (fun reply => tally credentialId
      (issuedAfter credentialId cutoff) ⟨⟨.deleteCredential id, reply⟩, index, world⟩)
      (fun _ _ => rfl) fun result after computed => ?_
    cases computed
    have counted (row : TicketRow) (after : ticketAfter credentialId cutoff row = true) :
        row.credentialId = credentialId := by
      simp only [ticketAfter, Bool.and_eq_true, decide_eq_true_eq] at after
      exact after.1
    refine (countWhere_deleteCredential world.tickets (fun row => row.credentialId) counted
      ?_).trans ?_
    · rintro row stored rfl
      exact references.tickets row stored
    · exact (tally_deletion index world rfl _).symm
  | _ =>
    rw [exec_tickets_kept externals _ world rfl]
    rfl

/-- A collection leaves a number of tickets, deleting those that are collectible. -/
theorem exec_collect (externals : Externals σ) (retentionDays : Int32) (world : World σ) :
    (exec externals (.deleteExpired retentionDays) world).2.tickets = world.tickets ∨
      (exec externals (.deleteExpired retentionDays) world).2.tickets =
        world.tickets.deleteWhere (TorTables.collectible retentionDays world.now) := by
  simp only [exec]
  obtain ⟨error, failed⟩ | ⟨count, tables, -, -, computed, executed⟩ :=
    world.sql_cases [] (fun now tables => tables.deleteExpired retentionDays now)
  · rw [failed]
    exact .inl rfl
  · rw [executed]
    exact .inr (congrArg TorTables.tickets (TorTables.deleteExpired_eq_ok computed))

/-- No statement raises the number of recent tickets by more than it issues. -/
theorem exec_tickets_le (externals : Externals σ) (index : Nat) (stmt : Statement)
    (world : World σ) (references : Referenced world.server.tables) :
    (exec externals stmt world).2.tickets.countWhere (ticketAfter credentialId cutoff) ≤
      tally credentialId (issuedAfter credentialId cutoff)
        (Run.event (machine externals) index stmt world)
        (world.tickets.countWhere (ticketAfter credentialId cutoff)) := by
  by_cases collects : ∃ retentionDays, stmt = .deleteExpired retentionDays
  · obtain ⟨retentionDays, rfl⟩ := collects
    have same : tally credentialId (issuedAfter credentialId cutoff)
        (Run.event (machine externals) index (.deleteExpired retentionDays) world)
        (world.tickets.countWhere (ticketAfter credentialId cutoff)) =
          world.tickets.countWhere (ticketAfter credentialId cutoff) := rfl
    rw [same]
    obtain kept | collected := exec_collect externals retentionDays world
    · rw [kept]
    · rw [collected]
      exact Table.countWhere_deleteWhere_le _ _ _
  · exact (exec_tickets_tally externals index stmt world references
      fun retentionDays same => collects ⟨retentionDays, same⟩).le

/-- What is asked of an event for tickets to stay for a window: a ticket of the credential is not
issued expired, and a collection keeps tickets for longer than the window. -/
structure Retains (credentialId : Uuid) (window : Int) (event : Event (World σ) Reply) : Prop where
  issues : ∀ columns, effect event.toExchange = some (.issued columns) →
    columns.credentialId = credentialId → event.before.now ≤ columns.expiresAt
  collects : ∀ retentionDays, event.stmt = .deleteExpired retentionDays →
    window + second ≤ retentionDays.toInt * day

/-- References hold, and no ticket of the credential expires more than a second before its
issue. -/
structure Retaining (credentialId : Uuid) (world : World σ) : Prop where
  references : Referenced world.server.tables
  expiries : ∀ row ∈ world.tickets.rows, row.credentialId = credentialId →
    row.createdAt ≤ row.expiresAt + second ∧ row.createdAt ≤ world.now

variable {window : Int}

/-- A statement keeps the tickets of the window. -/
theorem Retaining.exec {world : World σ} (retaining : Retaining credentialId world)
    (externals : Externals σ) (index : Nat) (stmt : Statement)
    (retains : Retains credentialId window (Run.event (machine externals) index stmt world)) :
    Retaining credentialId ((machine externals).exec stmt world).2 := by
  refine ⟨exec_referenced externals stmt world retaining.references, ?_⟩
  simp only [machine_exec, exec_now]
  have change := exec_ticketChange externals stmt world
  have issues := retains.issues
  simp only [Run.event, machine_exec] at issues
  generalize effect ⟨stmt, (TorAuth.exec externals stmt world).1⟩ = shown at change issues
  generalize (TorAuth.exec externals stmt world).2.tickets = after at change
  cases change with
  | kept => exact retaining.expiries
  | deleted condition =>
    intro row stored
    exact retaining.expiries row ((Table.mem_deleteWhere _ _ _).mp stored).1
  | issued columns absent =>
    intro row stored named
    obtain present | rfl := (Table.mem_insert _ _ _ absent).mp stored
    · exact retaining.expiries row present named
    · have fresh : world.now ≤ columns.expiresAt := issues columns rfl named
      simp only [TorTables.ticketRow, second]
      omega
  | redeemed id onion =>
    intro row stored named
    obtain ⟨old, present, -, rfl⟩ | ⟨present, -⟩ := (Table.mem_updateWhere _ _ _ _ _).mp stored
    · exact retaining.expiries old present named
    · exact retaining.expiries row present named
  | expired id =>
    intro row stored named
    obtain ⟨old, present, -, rfl⟩ | ⟨present, -⟩ := (Table.mem_updateWhere _ _ _ _ _).mp stored
    · have created := (retaining.expiries old present named).2
      simp only [TorTables.expire]
      omega
    · exact retaining.expiries row present named

/-- A statement that retains tickets changes their number by what it issues. -/
theorem Retaining.exec_tally {world : World σ} (retaining : Retaining credentialId world)
    (externals : Externals σ) (index : Nat) (stmt : Statement)
    (retains : Retains credentialId window (Run.event (machine externals) index stmt world))
    (inside : world.now - window ≤ cutoff) :
    (TorAuth.exec externals stmt world).2.tickets.countWhere (ticketAfter credentialId cutoff) =
      tally credentialId (issuedAfter credentialId cutoff)
        (Run.event (machine externals) index stmt world)
        (world.tickets.countWhere (ticketAfter credentialId cutoff)) := by
  by_cases collects : ∃ retentionDays, stmt = .deleteExpired retentionDays
  · obtain ⟨retentionDays, rfl⟩ := collects
    obtain kept | collected := exec_collect externals retentionDays world
    · rw [kept]
      rfl
    · rw [collected]
      refine Table.countWhere_deleteWhere world.tickets ?_
      -- a ticket of the window has not expired long enough ago
      intro row stored recent
      simp only [ticketAfter, Bool.and_eq_true, decide_eq_true_eq] at recent
      have expiry := (retaining.expiries row stored recent.1).1
      have kept := retains.collects retentionDays rfl
      have unexpired : ¬ row.expiresAt < TorTables.retentionCutoff retentionDays world.now := by
        unfold TorTables.retentionCutoff
        omega
      simp [TorTables.collectible, unexpired]
  · exact exec_tickets_tally externals index stmt world retaining.references
      fun retentionDays same => collects ⟨retentionDays, same⟩

end Steps

section Runs

variable (externals : Externals σ) (aead : Aead tagLength) (now : Int) (outside : σ)
  (calls : Nat → Call) (moves : List (Move (Drift σ)))

/-- The clock does not run backwards. -/
theorem drift_now_le (act : Drift σ) (world : World σ) :
    world.now ≤ ((machine externals).drift act world).now := by
  cases act with
  | server act => exact Server.drift_now act world.server
  | outside next => exact Int.le_refl _

/-- What a schedule of calls reaches from a migrated database. -/
def reached : TorRun σ :=
  (launch aead (World.migrated now outside) calls).play (machine externals) moves

/-- Everything logged happened by now. -/
theorem before_le_now : ∀ event ∈ (reached externals aead now outside calls moves).log,
    event.before.now ≤ (reached externals aead now outside calls moves).store.now := by
  refine Run.play_invariant (machine externals)
    (fun run => ∀ event ∈ run.log, event.before.now ≤ run.store.now)
    (fun _ member => absurd member List.not_mem_nil) ?_ moves
  intro run move past
  obtain same | ⟨act, -, moved⟩ | ⟨index, stmt, resume, -, -, moved⟩ :=
    Run.step_cases (machine externals) run move
  · rw [same]
    exact past
  · rw [moved]
    exact fun event member => (past event member).trans (drift_now_le externals act run.store)
  · rw [moved]
    simp only [machine_exec, exec_now]
    intro event member
    obtain rfl | old := List.mem_cons.mp member
    · exact Int.le_refl _
    · exact past event old

/-- In every schedule the number of recent sessions of a credential is the number of sessions
that were recorded for it in the window, since it was last deleted.

Proof: the number of rows that pass the filter is a fold over the log: recording a session
adds one, deleting the credential starts again at zero, and nothing else changes it. For
sessions, which nothing collects, this fold is the count of the events. -/
theorem recent_sessions_exact (credentialId : Uuid) (windowSeconds : Int64)
    (reachable : (reached externals aead now outside calls moves).store.server.outage = none) :
    countRecentSessions credentialId windowSeconds
        (reached externals aead now outside calls moves).store =
      ((recentCutoff windowSeconds (reached externals aead now outside calls moves).store.now).map
        fun cutoff => (sinceDeletion credentialId
          (reached externals aead now outside calls moves).log).countP
            (recordedSince credentialId cutoff)).mapError .query := by
  have folds (cutoff : Int) : Run.Folds
      (fun world : World σ => world.sessions.countWhere (sessionSince credentialId cutoff))
      (tally credentialId (recordedSince credentialId cutoff))
      (fun world => Referenced world.server.tables) (fun _ => True) (machine externals) :=
    { invariant_exec := fun _ stmt world references _ =>
        exec_referenced externals stmt world references
      invariant_drift := drift_referenced externals
      executes := fun index stmt world references _ =>
        exec_sessions_tally externals index stmt world references
      drifts := fun act world => by
        simp only [World.sessions, drift_tables] }
  have counted (cutoff : Int) :
      (reached externals aead now outside calls moves).store.sessions.countWhere
          (sessionSince credentialId cutoff) =
        (reached externals aead now outside calls moves).log.foldr
          (tally credentialId (recordedSince credentialId cutoff)) 0 :=
    Run.view_play (folds cutoff) referenced_empty _ moves (fun _ _ => trivial)
  rw [countRecentSessions, World.count_of_reachable _ reachable]
  cases recentCutoff windowSeconds (reached externals aead now outside calls moves).store.now with
  | error error => rfl
  | ok cutoff =>
    have exact_ := (counted cutoff).trans (foldr_tally credentialId _ _)
    exact congrArg Except.ok exact_

/-- A tally does not fall behind a larger one. -/
theorem tally_mono (credentialId : Uuid) (counts : Event (World σ) Reply → Bool)
    (event : Event (World σ) Reply) {less more : Nat} (le : less ≤ more) :
    tally credentialId counts event less ≤ tally credentialId counts event more := by
  unfold tally
  split
  · exact Nat.le_refl _
  · exact Nat.add_le_add_right le _

/-- Never are there more recent tickets than were issued. -/
theorem recent_tickets_le (credentialId : Uuid) (cutoff : Int) :
    (reached externals aead now outside calls moves).store.tickets.countWhere
        (ticketAfter credentialId cutoff) ≤
      (sinceDeletion credentialId (reached externals aead now outside calls moves).log).countP
        (issuedAfter credentialId cutoff) := by
  rw [← foldr_tally]
  refine (Run.play_invariant (machine externals) (fun run => Referenced run.store.server.tables ∧
    run.store.tickets.countWhere (ticketAfter credentialId cutoff) ≤
      run.log.foldr (tally credentialId (issuedAfter credentialId cutoff)) 0)
    ⟨referenced_empty, Nat.le_refl _⟩ ?_ moves).2
  rintro run move ⟨references, bounded⟩
  obtain same | ⟨act, -, moved⟩ | ⟨index, stmt, resume, -, -, moved⟩ :=
    Run.step_cases (machine externals) run move
  · rw [same]
    exact ⟨references, bounded⟩
  · rw [moved]
    simp only [World.tickets, drift_tables]
    exact ⟨references, bounded⟩
  · rw [moved]
    exact ⟨exec_referenced externals stmt run.store references,
      (exec_tickets_le externals index stmt run.store references).trans
        (tally_mono credentialId _ _ bounded)⟩

/-- If tickets are retained for the window, the recent ones are those that were issued. -/
theorem recent_tickets_eq (credentialId : Uuid) {window : Int}
    (retains : ∀ event ∈ (reached externals aead now outside calls moves).log,
      Retains credentialId window event) {cutoff : Int}
    (inside : (reached externals aead now outside calls moves).store.now - window ≤ cutoff) :
    (reached externals aead now outside calls moves).store.tickets.countWhere
        (ticketAfter credentialId cutoff) =
      (sinceDeletion credentialId (reached externals aead now outside calls moves).log).countP
        (issuedAfter credentialId cutoff) := by
  rw [← foldr_tally]
  have folds : Run.Folds
      (fun world : World σ => world.tickets.countWhere (ticketAfter credentialId cutoff))
      (tally credentialId (issuedAfter credentialId cutoff)) (Retaining credentialId)
      (fun event => Retains credentialId window event ∧ event.before.now - window ≤ cutoff)
      (machine externals) :=
    { invariant_exec := fun index stmt world retaining met =>
        retaining.exec externals index stmt met.1
      invariant_drift := fun act world retaining => by
        refine ⟨drift_referenced externals act world retaining.references, ?_⟩
        simp only [World.tickets, drift_tables]
        intro row stored named
        obtain ⟨expiry, created⟩ := retaining.expiries row stored named
        exact ⟨expiry, created.trans (drift_now_le externals act world)⟩
      executes := fun index stmt world retaining met =>
        retaining.exec_tally externals index stmt met.1 met.2
      drifts := fun act world => by
        simp only [World.tickets, drift_tables] }
  refine Run.view_play folds ⟨referenced_empty, fun _ member => absurd member List.not_mem_nil⟩
    _ moves fun event logged => ⟨retains event logged, ?_⟩
  have past := before_le_now externals aead now outside calls moves event logged
  omega

/-- In every schedule the number of recent tickets of a credential is at most the number of
tickets that were issued for it in the window, since it was last deleted. It is that number if no
ticket was issued expired and every collection kept tickets for longer than the window.

Proof: an issue adds one to the filtered rows and a deletion of the credential takes all. A
collection can only make the number smaller, and it takes no ticket of the window if none was
issued expired and what has expired is kept for longer than that. -/
theorem recent_tickets_counted (credentialId : Uuid) {windowSeconds : Int64} {window : Int}
    (reachable : (reached externals aead now outside calls moves).store.server.outage = none)
    (converted : windowMicroseconds windowSeconds = .ok window)
    (inRange : isTimestamp
      ((reached externals aead now outside calls moves).store.now - window) = true) :
    ∃ total, countRecentTickets credentialId windowSeconds
        (reached externals aead now outside calls moves).store = .ok total ∧
      total ≤ (sinceDeletion credentialId
        (reached externals aead now outside calls moves).log).countP (issuedAfter credentialId
          ((reached externals aead now outside calls moves).store.now - window)) ∧
      ((∀ event ∈ (reached externals aead now outside calls moves).log,
          Retains credentialId window event) →
        total = (sinceDeletion credentialId
          (reached externals aead now outside calls moves).log).countP (issuedAfter credentialId
            ((reached externals aead now outside calls moves).store.now - window))) := by
  refine ⟨_, ?_, recent_tickets_le externals aead now outside calls moves credentialId _,
    fun retains => recent_tickets_eq externals aead now outside calls moves credentialId retains
      (Int.le_refl _)⟩
  have start : recentCutoff windowSeconds (reached externals aead now outside calls moves).store.now =
      .ok ((reached externals aead now outside calls moves).store.now - window) := by
    rw [recentCutoff, converted]
    exact if_pos inRange
  rw [countRecentTickets, World.count_of_reachable _ reachable, start]
  rfl

end Runs

/-- A credential is imported, a ticket and a session of it are stored, the ticket is expired and
old tickets are collected. -/
def countedCalls : Nat → Call
  | 0 => .importBootstrapTorCredential Uuid.nil "entry" "hash" "tier" 30 none []
  | 1 => .issueTorTicket (sampleTicket aeadPrefixV2)
  | 2 => .recordTorSession { sampleSession "" with clientOnion := none }
  | 3 => .expireTorTicketNow (Uuid.last 1)
  | _ => .gcExpiredTickets 1

/-- Half a minute passes after the ticket is issued. -/
def countedMoves : List (Move (Drift Unit)) :=
  [.call 0, .call 0, .call 1, .drift (.server (.tick 30000000)), .call 2, .call 2, .call 3, .call 4]

/-- The run of these calls. -/
def countedRun : TorRun Unit :=
  reached (fixedExternals zeroLease zeroNonce) (Aead.framed tagLength) 0 () countedCalls countedMoves

/-- The session counts in a window of a minute. -/
theorem recent_sessions_exact_countedRun :
    countRecentSessions Uuid.nil 60 countedRun.store = .ok 1 := by
  unfold countedRun
  rw [recent_sessions_exact (fixedExternals zeroLease zeroNonce) (Aead.framed tagLength) 0 ()
    countedCalls countedMoves Uuid.nil 60 (by decide +kernel)]
  decide +kernel

/-- Whether an event meets the condition for a window of a minute. -/
def retainsMinute (event : Event (World Unit) Reply) : Bool :=
  (match effect event.toExchange with
    | some (.issued columns) => event.before.now ≤ columns.expiresAt
    | _ => true) &&
  match event.stmt with
  | .deleteExpired retentionDays => 60 * second + second ≤ retentionDays.toInt * day
  | _ => true

/-- The test of the sample run finds what it looks for. -/
theorem retains_of_retainsMinute {event : Event (World Unit) Reply}
    (checked : retainsMinute event = true) : Retains Uuid.nil (60 * second) event := by
  simp only [retainsMinute, Bool.and_eq_true] at checked
  refine ⟨?_, ?_⟩
  · intro columns shown _
    simpa [shown] using checked.1
  · intro retentionDays named
    simpa [named] using checked.2

/-- So does the ticket, although it is expired and tickets were collected. -/
theorem recent_tickets_counted_countedRun :
    countRecentTickets Uuid.nil 60 countedRun.store = .ok 1 := by
  have converted : windowMicroseconds 60 = .ok (60 * second) :=
    windowMicroseconds_of_small (by decide)
  have checked : countedRun.log.all retainsMinute = true := by decide +kernel
  have issued : (sinceDeletion Uuid.nil countedRun.log).countP
      (issuedAfter Uuid.nil (countedRun.store.now - 60 * second)) = 1 := by
    decide +kernel
  unfold countedRun at checked issued ⊢
  obtain ⟨total, counted, -, complete⟩ := recent_tickets_counted
    (fixedExternals zeroLease zeroNonce) (Aead.framed tagLength) 0 () countedCalls countedMoves
    Uuid.nil (by decide +kernel) converted (by decide +kernel)
  have exact_ := complete fun event logged =>
    retains_of_retainsMinute (List.all_eq_true.mp checked event logged)
  rw [counted, exact_, issued]

end SecureDatabase.TorAuth
