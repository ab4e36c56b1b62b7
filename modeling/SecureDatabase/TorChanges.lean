import SecureDatabase.TorAuth

/-!
# What a statement can do to the stored tickets and sessions

Every statement leaves the tickets alone, inserts one row, redeems or expires the
rows of one identifier, or deletes rows. `TicketChange` says this once, with the
effect that the statement and its reply make visible in the log; every invariant of
the ticket table is proved by its five cases. Sessions are only inserted and
deleted.

A deletion has no effect in this sense: whether a row was collected or cascaded
away depends on the row, not on the statement's reply.
-/

namespace SecureDatabase.TorAuth

open Foundation Program

variable {σ : Type}

namespace World

/-- The tickets of the database. -/
def tickets (world : World σ) : Tickets := world.server.tables.tickets

/-- The sessions of the database. -/
def sessions (world : World σ) : Sessions := world.server.tables.sessions

/-- The server's clock, `NOW()`. -/
def now (world : World σ) : Int := world.server.now

end World

/-- What a successful statement did to the ticket table, deletions apart. -/
inductive Effect where
  | issued (columns : TicketRecord Int)
  | redeemed (id : Uuid) (onion : String)
  | expired (id : Uuid)
deriving DecidableEq

/-- The effect that a statement with its reply shows. -/
def effect : Exchange Reply → Option Effect
  | ⟨.insertTicket columns, Except.ok _⟩ => some (.issued columns)
  | ⟨.updateRedeemed id onion, Except.ok _⟩ => some (.redeemed id onion)
  | ⟨.updateExpired id, Except.ok _⟩ => some (.expired id)
  | _ => none

/-- The session that a statement with its reply shows to be stored. -/
def sessionEffect : Exchange Reply → Option (SessionRecord Int)
  | ⟨.insertSession columns _, Except.ok _⟩ => some columns
  | _ => none

/-- Each effect comes from its own statement, answered without an error. -/
theorem effect_eq_some {exchange : Exchange Reply} {shown : Effect}
    (visible : effect exchange = some shown) :
    match shown with
    | .issued columns => ∃ row, exchange = ⟨.insertTicket columns, .ok row⟩
    | .redeemed id onion => ∃ count, exchange = ⟨.updateRedeemed id onion, .ok count⟩
    | .expired id => ∃ count, exchange = ⟨.updateExpired id, .ok count⟩ := by
  unfold effect at visible
  split at visible
  · cases visible
    exact ⟨_, rfl⟩
  · cases visible
    exact ⟨_, rfl⟩
  · cases visible
    exact ⟨_, rfl⟩
  · cases visible

/-- A stored session comes from its INSERT, answered without an error. -/
theorem sessionEffect_eq_some {exchange : Exchange Reply} {columns : SessionRecord Int}
    (visible : sessionEffect exchange = some columns) :
    ∃ sessionKey, exchange = ⟨.insertSession columns sessionKey, .ok ()⟩ := by
  unfold sessionEffect at visible
  split at visible
  · cases visible
    exact ⟨_, rfl⟩
  · cases visible

/-- What one statement at a clock reading can do to the tickets. -/
inductive TicketChange (now : Int) (tickets : Tickets) : Option Effect → Tickets → Prop where
  | kept : TicketChange now tickets none tickets
  | deleted (condition : TicketRow → Bool) :
      TicketChange now tickets none (tickets.deleteWhere condition)
  | issued (columns : TicketRecord Int)
      (absent : tickets.find (TorTables.ticketRow columns now).id = none) :
      TicketChange now tickets (some (.issued columns))
        (tickets.insert (TorTables.ticketRow columns now) absent)
  | redeemed (id : Uuid) (onion : String) :
      TicketChange now tickets (some (.redeemed id onion))
        (tickets.updateWhere (fun row => row.id = id) (TorTables.redeem onion now)
          (TorTables.redeem_id onion now))
  | expired (id : Uuid) :
      TicketChange now tickets (some (.expired id))
        (tickets.updateWhere (fun row => row.id = id) (TorTables.expire now)
          (TorTables.expire_id now))

/-- An issued ticket is found under its identifier. -/
theorem TicketChange.find_issued {now : Int} {tickets after : Tickets}
    {columns : TicketRecord Int}
    (changed : TicketChange now tickets (some (.issued columns)) after) :
    after.find columns.id = some (TorTables.ticketRow columns now) := by
  cases changed with
  | issued _ absent =>
    rw [Table.find_insert]
    exact if_pos rfl

/-- What an effect does to a stored row that stays stored. -/
def replay (now : Int) : Option Effect → TicketRow → TicketRow
  | some (.redeemed id onion), row => if row.id = id then TorTables.redeem onion now row else row
  | some (.expired id), row => if row.id = id then TorTables.expire now row else row
  | _, row => row

/-- A row that stays stored is changed by redemption and expiry alone. -/
theorem TicketChange.find {now : Int} {tickets after : Tickets} {change : Option Effect}
    (changed : TicketChange now tickets change after) {id : Uuid} {row : TicketRow}
    (found : tickets.find id = some row) (present : (after.find id).isSome = true) :
    after.find id = some (replay now change row) := by
  cases changed with
  | kept => exact found
  | deleted condition =>
    rw [Table.find_deleteWhere, found] at present ⊢
    cases kept : condition row with
    | true => simp [kept] at present
    | false => simp [kept, replay]
  | issued columns absent =>
    have differs : ¬ (TorTables.ticketRow columns now).id = id := by
      rintro rfl
      rw [absent] at found
      cases found
    rw [Table.find_insert, if_neg differs, found]
    rfl
  | redeemed other onion =>
    rw [Table.find_updateWhere, found]
    simp [replay]
  | expired other =>
    rw [Table.find_updateWhere, found]
    simp [replay]

/-- What one statement at a clock reading can do to the sessions. -/
inductive SessionChange (now : Int) (sessions : Sessions) :
    Option (SessionRecord Int) → Sessions → Prop where
  | kept : SessionChange now sessions none sessions
  | deleted (condition : SessionRow → Bool) :
      SessionChange now sessions none (sessions.deleteWhere condition)
  | stored (columns : SessionRecord Int) (sessionKey : Uuid)
      (absent : sessions.find columns.id = none) :
      SessionChange now sessions (some columns)
        (sessions.insert { columns with sessionKey, issuedAt := now } absent)

namespace World

variable {Result : Type}

/-- A statement failed and changed nothing, or the server was reachable, read the
parameters, and the statement's body gave the reply and the new tables. -/
theorem sql_cases (parameters : List Parameter)
    (body : Int → TorTables → Except String (Result × TorTables)) (world : World σ) :
    (∃ error, world.sql parameters body = (.error error, world)) ∨
      ∃ result tables, world.server.outage = none ∧ Received parameters ∧
        body world.now world.server.tables = .ok (result, tables) ∧
        world.sql parameters body =
          (.ok result, { world with server := { world.server with tables } }) := by
  obtain ⟨error, failed⟩ | ⟨result, tables, reachable, computed, executed⟩ :=
    world.server.execute_cases (fun now tables => receive parameters (body now tables))
  · exact .inl ⟨error, by simp only [sql, failed]⟩
  · obtain ⟨received, done⟩ := (receive_eq_ok_iff _ _ _).mp computed
    exact .inr ⟨result, tables, reachable, received, done, by simp only [sql, executed]⟩

/-- On a reachable server a statement whose parameters are received does what its body
does. -/
theorem sql_of_received {parameters : List Parameter}
    {body : Int → TorTables → Except String (Result × TorTables)} {world : World σ}
    (reachable : world.server.outage = none) (received : Received parameters) {result : Result}
    {tables : TorTables} (computed : body world.now world.server.tables = .ok (result, tables)) :
    world.sql parameters body =
      (.ok result, { world with server := { world.server with tables } }) := by
  have done : body world.server.now world.server.tables = .ok (result, tables) := computed
  simp only [sql, Server.execute, reachable, receive_of_received received, done]

/-- A statement whose body never touches the tickets keeps them. -/
theorem sql_tickets {parameters : List Parameter}
    (body : Int → TorTables → Except String (Result × TorTables))
    (untouched : ∀ now tables result after, body now tables = .ok (result, after) →
      after.tickets = tables.tickets) (world : World σ) :
    (world.sql parameters body).2.tickets = world.tickets := by
  obtain ⟨error, failed⟩ | ⟨result, tables, -, -, computed, executed⟩ :=
    world.sql_cases parameters body
  · rw [failed]
  · rw [executed]
    exact untouched _ _ _ _ computed

/-- A statement whose body never touches the sessions keeps them. -/
theorem sql_sessions {parameters : List Parameter}
    (body : Int → TorTables → Except String (Result × TorTables))
    (untouched : ∀ now tables result after, body now tables = .ok (result, after) →
      after.sessions = tables.sessions) (world : World σ) :
    (world.sql parameters body).2.sessions = world.sessions := by
  obtain ⟨error, failed⟩ | ⟨result, tables, -, -, computed, executed⟩ :=
    world.sql_cases parameters body
  · rw [failed]
  · rw [executed]
    exact untouched _ _ _ _ computed

/-- A statement takes no time, whether or not it is refused. -/
@[simp] theorem sql_now (parameters : List Parameter)
    (body : Int → TorTables → Except String (Result × TorTables)) (world : World σ) :
    (world.sql parameters body).2.now = world.now :=
  Server.execute_now _ world.server

end World

namespace TorTables

/-- The credential statements change no other table. -/
theorem insertCredential_rest {row : TorCredential} {tables after : TorTables} {result : Unit}
    (done : tables.insertCredential row = .ok (result, after)) :
    after.sessions = tables.sessions ∧ after.tickets = tables.tickets := by
  unfold insertCredential at done
  split at done
  · exact absurd done (by simp)
  · split at done
    · exact absurd done (by simp)
    · simp only [Except.ok.injEq, Prod.mk.injEq] at done
      rw [← done.2]
      exact ⟨rfl, rfl⟩

/-- An import leaves sessions and tickets. -/
theorem upsertCredential_rest {row : TorCredential} {now : Int} {tables after : TorTables}
    {result : Unit} (done : tables.upsertCredential row now = .ok (result, after)) :
    after.sessions = tables.sessions ∧ after.tickets = tables.tickets := by
  unfold upsertCredential at done
  split at done
  · exact absurd done (by simp)
  · split at done <;>
    · simp only [Except.ok.injEq, Prod.mk.injEq] at done
      rw [← done.2]
      exact ⟨rfl, rfl⟩

/-- A new entry onion leaves sessions and tickets. -/
theorem setEntryOnion_rest {id : Uuid} {entryOnion : String} {guardNodes : List String}
    {now : Int} {tables after : TorTables} {result : Unit}
    (done : tables.setEntryOnion id entryOnion guardNodes now = .ok (result, after)) :
    after.sessions = tables.sessions ∧ after.tickets = tables.tickets := by
  unfold setEntryOnion at done
  split at done
  · exact absurd done (by simp)
  · simp only [Except.ok.injEq, Prod.mk.injEq] at done
    rw [← done.2]
    exact ⟨rfl, rfl⟩

/-- A session is stored under a fresh identifier and changes no ticket. -/
theorem insertSession_eq_ok {columns : SessionRecord Int} {sessionKey : Uuid} {now : Int}
    {tables after : TorTables} {result : Unit}
    (done : tables.insertSession columns sessionKey now = .ok (result, after)) :
    after.tickets = tables.tickets ∧ ∃ absent : tables.sessions.find columns.id = none,
      after.sessions = tables.sessions.insert { columns with sessionKey, issuedAt := now } absent := by
  unfold insertSession at done
  split at done
  · exact absurd done (by simp)
  · rename_i sessions inserted
    split at done
    · simp only [Except.ok.injEq, Prod.mk.injEq] at done
      obtain ⟨absent, content⟩ := (Table.insert?_eq_some_iff _ _ _).mp inserted
      rw [← done.2]
      exact ⟨rfl, absent, content⟩
    · exact absurd done (by simp)

/-- A ticket is stored under a fresh identifier, and the reply is its row. -/
theorem insertTicket_eq_ok {columns : TicketRecord Int} {now : Int}
    {tables after : TorTables} {result : TicketRow}
    (done : tables.insertTicket columns now = .ok (result, after)) :
    result = ticketRow columns now ∧ after.sessions = tables.sessions ∧
      ∃ absent : tables.tickets.find (ticketRow columns now).id = none,
        after.tickets = tables.tickets.insert (ticketRow columns now) absent := by
  unfold insertTicket at done
  split at done
  · exact absurd done (by simp)
  · rename_i tickets inserted
    split at done
    · exact absurd done (by simp)
    · split at done
      · simp only [Except.ok.injEq, Prod.mk.injEq] at done
        obtain ⟨absent, content⟩ := (Table.insert?_eq_some_iff _ _ _).mp inserted
        rw [← done.2]
        exact ⟨done.1.symm, rfl, absent, content⟩
      · exact absurd done (by simp)

/-- A collection whose cutoff is a timestamp deletes what it selects. -/
theorem deleteExpired_eq_ok {retentionDays : Int32} {now : Int} {tables after : TorTables}
    {result : Nat} (done : tables.deleteExpired retentionDays now = .ok (result, after)) :
    after = { tables with
      tickets := tables.tickets.deleteWhere (collectible retentionDays now) } := by
  unfold deleteExpired at done
  split at done
  · cases done
    rfl
  · cases done

end TorTables

/-- No statement moves the server's clock. -/
theorem exec_now (externals : Externals σ) (stmt : Statement) (world : World σ) :
    (exec externals stmt world).2.now = world.now := by
  cases stmt <;> first | rfl | exact World.sql_now _ _ world

/-- Every statement changes the tickets in one of the five ways, and its effect
says which. -/
theorem exec_ticketChange (externals : Externals σ) (stmt : Statement) (world : World σ) :
    TicketChange world.now world.tickets (effect ⟨stmt, (exec externals stmt world).1⟩)
      (exec externals stmt world).2.tickets := by
  have unchanged {effects : Option Effect} {after : Tickets} (none_ : effects = none)
      (same : after = world.tickets) : TicketChange world.now world.tickets effects after := by
    rw [none_, same]
    exact .kept
  cases stmt with
  | mintAeadKeyV2 params => exact .kept
  | unwrapSecretV2 params => exact .kept
  | renewLease handle seconds => exact .kept
  | fillNonce => exact .kept
  | newUuid => exact .kept
  | utcNow => exact .kept
  | selectCredential id =>
    refine unchanged rfl (World.sql_tickets _ ?_ world)
    intro now tables result after done
    cases done
    rfl
  | selectCredentialByEntry onionEntry =>
    refine unchanged rfl (World.sql_tickets _ ?_ world)
    intro now tables result after done
    cases done
    rfl
  | insertCredential row =>
    exact unchanged rfl (World.sql_tickets _
      (fun _ _ _ _ done => (TorTables.insertCredential_rest done).2) world)
  | upsertCredential row =>
    exact unchanged rfl (World.sql_tickets _
      (fun _ _ _ _ done => (TorTables.upsertCredential_rest done).2) world)
  | rotateOperationalOnion id newOnion guardNodes =>
    refine unchanged rfl (World.sql_tickets _ ?_ world)
    intro now tables result after done
    cases done
    rfl
  | setEntryOnion id entryOnion guardNodes =>
    exact unchanged rfl (World.sql_tickets _
      (fun _ _ _ _ done => (TorTables.setEntryOnion_rest done).2) world)
  | updateDisabled id disabled =>
    refine unchanged rfl (World.sql_tickets _ ?_ world)
    intro now tables result after done
    cases done
    rfl
  | deleteCredential id =>
    obtain ⟨error, failed⟩ | ⟨result, tables, -, -, computed, executed⟩ :=
      world.sql_cases [] (fun _ tables => tables.deleteCredential id)
    · exact unchanged rfl (by simp only [exec, failed])
    · cases computed
      simp only [exec, executed]
      exact .deleted _
  | selectSession id =>
    refine unchanged rfl (World.sql_tickets _ ?_ world)
    intro now tables result after done
    cases done
    rfl
  | insertSession columns sessionKey =>
    exact unchanged rfl (World.sql_tickets _
      (fun _ _ _ _ done => (TorTables.insertSession_eq_ok done).1) world)
  | selectTicket id =>
    refine unchanged rfl (World.sql_tickets _ ?_ world)
    intro now tables result after done
    cases done
    rfl
  | insertTicket columns =>
    obtain ⟨error, failed⟩ | ⟨result, tables, -, -, computed, executed⟩ :=
      world.sql_cases columns.parameters (fun now tables => tables.insertTicket columns now)
    · simp only [exec, failed]
      exact .kept
    · obtain ⟨-, -, absent, content⟩ := TorTables.insertTicket_eq_ok computed
      simp only [exec, executed, effect, World.tickets, content]
      exact .issued columns absent
  | updateRedeemed id onion =>
    obtain ⟨error, failed⟩ | ⟨result, tables, -, -, computed, executed⟩ :=
      world.sql_cases [.text onion] (fun now tables => tables.updateRedeemed id onion now)
    · simp only [exec, failed]
      exact .kept
    · cases computed
      simp only [exec, executed]
      exact .redeemed id onion
  | updateExpired id =>
    obtain ⟨error, failed⟩ | ⟨result, tables, -, -, computed, executed⟩ :=
      world.sql_cases [] (fun now tables => tables.updateExpired id now)
    · simp only [exec, failed]
      exact .kept
    · cases computed
      simp only [exec, executed]
      exact .expired id
  | deleteExpired retentionDays =>
    obtain ⟨error, failed⟩ | ⟨result, tables, -, -, computed, executed⟩ :=
      world.sql_cases [] (fun now tables => tables.deleteExpired retentionDays now)
    · exact unchanged rfl (by simp only [exec, failed])
    · cases TorTables.deleteExpired_eq_ok computed
      simp only [exec, executed]
      exact .deleted _

/-- On a reachable server that receives its onion a redeeming UPDATE redeems the rows of
its identifier. -/
theorem exec_updateRedeemed (externals : Externals σ) {world : World σ}
    (reachable : world.server.outage = none) (id : Uuid) {onion : String}
    (received : Received [.text onion]) :
    exec externals (.updateRedeemed id onion) world =
      (.ok (world.tickets.countWhere (fun row => row.id = id)),
        { world with
          server := { world.server with
            tables := { world.server.tables with
              tickets := world.tickets.updateWhere (fun row => row.id = id)
                (TorTables.redeem onion world.now) (TorTables.redeem_id onion world.now) } } }) :=
  World.sql_of_received reachable received
    (show TorTables.updateRedeemed id onion world.now world.server.tables = _ from rfl)

/-- A redeeming UPDATE succeeds exactly on a reachable server that receives its onion. -/
theorem exec_redeemed_iff (externals : Externals σ) (stmt : Statement) (world : World σ)
    (id : Uuid) (onion : String) :
    effect ⟨stmt, (exec externals stmt world).1⟩ = some (.redeemed id onion) ↔
      stmt = .updateRedeemed id onion ∧ world.server.outage = none ∧
        Received [.text onion] := by
  constructor
  · intro visible
    obtain ⟨count, same⟩ := effect_eq_some visible
    obtain rfl : stmt = .updateRedeemed id onion := congrArg Exchange.stmt same
    refine ⟨rfl, ?_⟩
    obtain ⟨error, failed⟩ | ⟨result, tables, reachable, received, -, -⟩ :=
      world.sql_cases [.text onion] (fun now tables => tables.updateRedeemed id onion now)
    · simp [exec, failed, effect] at visible
    · exact ⟨reachable, received⟩
  · rintro ⟨rfl, reachable, received⟩
    rw [exec_updateRedeemed externals reachable id received]
    rfl

/-- On a reachable server that receives its onion a redeeming UPDATE redeems the named
row. -/
theorem exec_redeemed_find (externals : Externals σ) {world : World σ}
    (reachable : world.server.outage = none) (id : Uuid) {onion : String}
    (received : Received [.text onion]) {row : TicketRow}
    (found : world.tickets.find id = some row) :
    (exec externals (.updateRedeemed id onion) world).2.tickets.find id =
      some (TorTables.redeem onion world.now row) := by
  rw [exec_updateRedeemed externals reachable id received]
  simp only [World.tickets] at found ⊢
  rw [Table.find_updateWhere, found]
  simp [Table.key_of_find found]

/-- A statement other than the two that write sessions keeps them. -/
theorem exec_sessions_kept (externals : Externals σ) (stmt : Statement) (world : World σ)
    (noInsert : ∀ columns sessionKey, stmt ≠ .insertSession columns sessionKey)
    (noDelete : ∀ id, stmt ≠ .deleteCredential id) :
    (exec externals stmt world).2.sessions = world.sessions := by
  cases stmt
  case insertSession columns sessionKey => exact absurd rfl (noInsert columns sessionKey)
  case deleteCredential id => exact absurd rfl (noDelete id)
  case insertCredential row =>
    exact World.sql_sessions _ (fun _ _ _ _ done => (TorTables.insertCredential_rest done).1) world
  case upsertCredential row =>
    exact World.sql_sessions _ (fun _ _ _ _ done => (TorTables.upsertCredential_rest done).1) world
  case setEntryOnion id entryOnion guardNodes =>
    exact World.sql_sessions _ (fun _ _ _ _ done => (TorTables.setEntryOnion_rest done).1) world
  case insertTicket columns =>
    exact World.sql_sessions _
      (fun _ _ _ _ done => (TorTables.insertTicket_eq_ok done).2.1) world
  case deleteExpired retentionDays =>
    refine World.sql_sessions _ ?_ world
    intro now tables result after done
    rw [TorTables.deleteExpired_eq_ok done]
  all_goals first
    | rfl
    | refine World.sql_sessions _ ?_ world
      intro now tables result after done
      cases done
      rfl

/-- Only a successful INSERT of a session shows a stored session. -/
theorem sessionEffect_eq_none {stmt : Statement} (reply : Reply stmt)
    (noInsert : ∀ columns sessionKey, stmt ≠ .insertSession columns sessionKey) :
    sessionEffect ⟨stmt, reply⟩ = none := by
  unfold sessionEffect
  split
  · rename_i columns sessionKey _ same
    cases same
    exact absurd rfl (noInsert columns sessionKey)
  · rfl

/-- A recorded session is found under its identifier. -/
theorem SessionChange.find_stored {now : Int} {sessions after : Sessions}
    {columns : SessionRecord Int} (changed : SessionChange now sessions (some columns) after) :
    ∃ row, after.find columns.id = some row ∧ row.toSessionRecord = columns := by
  cases changed with
  | stored _ sessionKey absent =>
    refine ⟨{ columns with sessionKey, issuedAt := now }, ?_, rfl⟩
    rw [Table.find_insert]
    exact if_pos rfl

/-- A session that stays stored is not changed. -/
theorem SessionChange.find {now : Int} {sessions after : Sessions}
    {change : Option (SessionRecord Int)} (changed : SessionChange now sessions change after)
    {id : Uuid} {row : SessionRow} (found : sessions.find id = some row)
    (present : (after.find id).isSome = true) : after.find id = some row := by
  cases changed with
  | kept => exact found
  | deleted condition =>
    rw [Table.find_deleteWhere, found] at present ⊢
    cases kept : condition row with
    | true => simp [kept] at present
    | false => simp [kept]
  | stored columns sessionKey absent =>
    have differs : ¬ columns.id = id := by
      rintro rfl
      rw [absent] at found
      cases found
    rw [Table.find_insert, if_neg differs, found]

/-- Every statement changes the sessions in one of the three ways. -/
theorem exec_sessionChange (externals : Externals σ) (stmt : Statement) (world : World σ) :
    SessionChange world.now world.sessions (sessionEffect ⟨stmt, (exec externals stmt world).1⟩)
      (exec externals stmt world).2.sessions := by
  by_cases insert : ∃ columns sessionKey, stmt = .insertSession columns sessionKey
  · obtain ⟨columns, sessionKey, rfl⟩ := insert
    obtain ⟨error, failed⟩ | ⟨result, tables, -, -, computed, executed⟩ :=
      world.sql_cases columns.parameters
        (fun now tables => tables.insertSession columns sessionKey now)
    · simp only [exec, failed]
      exact .kept
    · obtain ⟨-, absent, content⟩ := TorTables.insertSession_eq_ok computed
      simp only [exec, executed, sessionEffect, World.sessions, content]
      exact .stored columns sessionKey absent
  · have noInsert : ∀ columns sessionKey, stmt ≠ .insertSession columns sessionKey :=
      fun columns sessionKey same => insert ⟨columns, sessionKey, same⟩
    rw [sessionEffect_eq_none _ noInsert]
    by_cases delete : ∃ id, stmt = .deleteCredential id
    · obtain ⟨id, rfl⟩ := delete
      obtain ⟨error, failed⟩ | ⟨result, tables, -, -, computed, executed⟩ :=
        world.sql_cases [] (fun _ tables => tables.deleteCredential id)
      · simp only [exec, failed]
        exact .kept
      · cases computed
        simp only [exec, executed]
        exact .deleted _
    · rw [exec_sessions_kept externals stmt world noInsert (fun id same => delete ⟨id, same⟩)]
      exact .kept

/-- What one move can do to the tickets, the sessions, the clock and the log: the
environment lets time pass and executes nothing, or one call executes its next
statement. -/
inductive TorStep (externals : Externals σ) (run : TorRun σ) (move : Move (Drift σ))
    (after : TorRun σ) : Prop where
  | quiet (log : after.log = run.log) (tickets : after.store.tickets = run.store.tickets)
      (sessions : after.store.sessions = run.store.sessions)
      (now : run.store.now ≤ after.store.now)
  | executed (index : Nat) (stmt : Statement) (resume : Reply stmt → Operation Returned)
      (moved : move = .call index) (current : run.calls index = .issue stmt resume)
      (log : after.log = ⟨⟨stmt, (exec externals stmt run.store).1⟩, index, run.store⟩ :: run.log)
      (now : after.store.now = run.store.now)
      (tickets : TicketChange run.store.now run.store.tickets
        (effect ⟨stmt, (exec externals stmt run.store).1⟩) after.store.tickets)
      (sessions : SessionChange run.store.now run.store.sessions
        (sessionEffect ⟨stmt, (exec externals stmt run.store).1⟩) after.store.sessions)

/-- Every move is such a step. -/
theorem torStep (externals : Externals σ) (run : TorRun σ) (move : Move (Drift σ)) :
    TorStep externals run move (run.step (machine externals) move) := by
  obtain same | ⟨act, -, moved⟩ | ⟨index, stmt, resume, called, current, moved⟩ :=
    Run.step_cases (machine externals) run move
  · rw [same]
    exact .quiet rfl rfl rfl (Int.le_refl _)
  · rw [moved]
    cases act with
    | server act =>
      exact .quiet rfl (congrArg TorTables.tickets (Server.drift_tables act run.store.server))
        (congrArg TorTables.sessions (Server.drift_tables act run.store.server))
        (Server.drift_now act run.store.server)
    | outside next => exact .quiet rfl rfl rfl (Int.le_refl _)
  · rw [moved]
    exact .executed index stmt resume called current rfl
      (exec_now externals stmt run.store) (exec_ticketChange externals stmt run.store)
      (exec_sessionChange externals stmt run.store)

/-- A move only adds to the own exchanges of each call. -/
theorem exchanges_step (externals : Externals σ) (run : TorRun σ) (move : Move (Drift σ))
    (index : Nat) :
    exchanges index run.log ⊆ exchanges index (run.step (machine externals) move).log := by
  cases torStep externals run move with
  | quiet log tickets sessions now => rw [log]; exact List.Subset.refl _
  | executed own stmt resume moved current log now tickets sessions =>
    rw [log, exchanges_cons]
    split
    · exact List.subset_cons_self _ _
    · exact List.Subset.refl _

/-- The exchanges a call had made stay among its exchanges. -/
theorem exchanges_play (externals : Externals σ) (run : TorRun σ) (moves : List (Move (Drift σ)))
    (index : Nat) :
    exchanges index run.log ⊆ exchanges index (run.play (machine externals) moves).log := by
  refine Run.play_invariant (machine externals)
    (fun current => exchanges index run.log ⊆ exchanges index current.log) (List.Subset.refl _) ?_
    moves
  intro current move kept
  exact List.Subset.trans kept (exchanges_step externals current move index)

/-- The row under an identifier exists. -/
def Stored (id : Uuid) (run : TorRun σ) : Prop := (run.store.tickets.find id).isSome = true

/-- The session under an identifier exists. -/
def SessionStored (id : Uuid) (run : TorRun σ) : Prop :=
  (run.store.sessions.find id).isSome = true

/-- Whether a ticket is stored can be computed. -/
instance (id : Uuid) (run : TorRun σ) : Decidable (Stored id run) :=
  inferInstanceAs (Decidable (_ = true))

end SecureDatabase.TorAuth
