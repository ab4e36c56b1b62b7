import SecureDatabase.TorCalls

/-!
# The lifecycle of a ticket

A ticket is meant to be redeemed once, before it expires. The UPDATE that records a
redemption names the ticket only and its row count is not looked at, so whether
redemptions are single-use depends on when that UPDATE meets the row. `unspent`
reads from the executed statements whether a ticket is still open, and the stored
row always agrees with it. Single use then holds in a schedule exactly when every
redeeming UPDATE meets a stored, open ticket before the expiry it was issued with.

Calls are interleaved at statement granularity, with the clock advancing and the
server failing at any point in between.
-/

namespace SecureDatabase.TorAuth

open Foundation Program

variable {σ : Type}

/-- How one effect changes the expiry under which a ticket is open. -/
def spend (id : Uuid) : Option Effect → Option Int → Option Int
  | some (.issued columns), left => if columns.id = id then some columns.expiresAt else left
  | some (.redeemed other _), left => if other = id then none else left
  | some (.expired other), left => if other = id then none else left
  | none, left => left

/-- The expiry a ticket was issued with, as long as no UPDATE has redeemed or
expired it since; read from the executed statements, newest first. -/
def unspent (id : Uuid) : List (Event (World σ) Reply) → Option Int
  | [] => none
  | event :: earlier => spend id (effect event.toExchange) (unspent id earlier)

/-- A row agrees with what is left: an open ticket is unredeemed and has its issued
expiry, any other is redeemed or expired. -/
def Agrees (now : Int) (row : TicketRow) : Option Int → Prop
  | some expiry => row.redeemedAt = none ∧ row.expiresAt = expiry
  | none => row.redeemedAt.isSome = true ∨ row.expiresAt < now

/-- A row goes on agreeing with its history as time passes, for a ticket that was open
then may only expire. -/
theorem Agrees.later {now later : Int} {row : TicketRow} {left : Option Int}
    (agrees : Agrees now row left) (passed : now ≤ later) : Agrees later row left := by
  cases left with
  | some expiry => exact agrees
  | none => exact Or.imp_right (fun expired => Int.lt_of_lt_of_le expired passed) agrees

/-- Every change of the tickets keeps the agreement. -/
theorem TicketChange.agrees {now : Int} {tickets after : Tickets} {change : Option Effect}
    (changed : TicketChange now tickets change after) (left : Uuid → Option Int)
    (agrees : ∀ row ∈ tickets.rows, Agrees now row (left row.id)) :
    ∀ row ∈ after.rows, Agrees now row (spend row.id change (left row.id)) := by
  intro row stored
  cases changed with
  | kept => exact agrees row stored
  | deleted condition => exact agrees row ((Table.mem_deleteWhere _ _ _).mp stored).1
  | issued columns absent =>
    rcases (Table.mem_insert _ _ _ _).mp stored with old | rfl
    · have differs : ¬ columns.id = row.id := fun same =>
        (Table.find_eq_none_iff _ _).mp absent row old same.symm
      simpa only [spend, differs, ↓reduceIte] using agrees row old
    · simp only [spend, TorTables.ticketRow, ↓reduceIte]
      exact ⟨rfl, rfl⟩
  | redeemed id onion =>
    rcases (Table.mem_updateWhere _ _ _ _ _).mp stored with ⟨old, -, named, rfl⟩ | ⟨old, other⟩
    · have same : id = (TorTables.redeem onion now old).id := (of_decide_eq_true named).symm
      rw [spend, if_pos same]
      exact Or.inl rfl
    · have differs : ¬ id = row.id := fun same => of_decide_eq_false other same.symm
      simpa only [spend, differs, ↓reduceIte] using agrees row old
  | expired id =>
    rcases (Table.mem_updateWhere _ _ _ _ _).mp stored with ⟨old, -, named, rfl⟩ | ⟨old, other⟩
    · have same : id = (TorTables.expire now old).id := (of_decide_eq_true named).symm
      have past : now - second < now := by
        rw [second]
        omega
      rw [spend, if_pos same]
      exact Or.inr past
    · have differs : ¬ id = row.id := fun same => of_decide_eq_false other same.symm
      simpa only [spend, differs, ↓reduceIte] using agrees row old

/-- Each stored ticket agrees with the executed statements. -/
def Spending (run : TorRun σ) : Prop :=
  ∀ row ∈ run.store.tickets.rows, Agrees run.store.now row (unspent row.id run.log)

/-- The agreement is kept by every move. -/
theorem Spending.step {run : TorRun σ} (spending : Spending run) (externals : Externals σ)
    (move : Move (Drift σ)) : Spending (run.step (machine externals) move) := by
  intro row stored
  cases torStep externals run move with
  | quiet log tickets sessions now =>
    rw [tickets] at stored
    rw [log]
    exact (spending row stored).later now
  | executed index stmt resume moved current log now tickets sessions =>
    rw [log, now]
    exact tickets.agrees (fun id => unspent id run.log) spending row stored

/-- A move at which a call of `mark_tor_ticket_redeemed` on this ticket returns
successfully. -/
def Confirms (externals : Externals σ) (calls : Nat → Call) (id : Uuid) (run : TorRun σ)
    (move : Move (Drift σ)) : Prop :=
  ∃ index operationalOnion, move = .call index ∧
    calls index = .markTorTicketRedeemed id operationalOnion ∧
    (run.calls index).outcome = none ∧
    ((run.step (machine externals) move).calls index).outcome = some (.ok .unit)

/-- A move at which the server executes a redeeming UPDATE of this ticket: it is reachable
and does not refuse the onion. -/
def Redeems (id : Uuid) (run : TorRun σ) (move : Move (Drift σ)) : Prop :=
  ∃ index onion resume, move = .call index ∧
    run.calls index = .issue (.updateRedeemed id onion) resume ∧
    run.store.server.outage = none ∧ Received [.text onion]

/-- A redeeming UPDATE meets a stored ticket that is still open, before the expiry
it was issued with. -/
def Timely (run : TorRun σ) (move : Move (Drift σ)) : Prop :=
  ∀ id, Redeems id run move →
    Stored id run ∧ ∃ expiry, unspent id run.log = some expiry ∧ run.store.now < expiry

/-- Redemptions are single-use in a schedule: within one lifetime of a row at most
one call confirms it, a call confirms only a stored, unredeemed and unexpired
ticket, and while the row exists what a redemption set does not change. -/
structure SingleUse (externals : Externals σ) (calls : Nat → Call) (run : TorRun σ)
    (moves : List (Move (Drift σ))) : Prop where
  once : ∀ first move middle next last id, moves = first ++ move :: (middle ++ next :: last) →
    Confirms externals calls id (run.play (machine externals) first) move →
    Confirms externals calls id (run.play (machine externals) (first ++ move :: middle)) next →
    ¬ Along (Run.step (machine externals)) (fun current _ => Stored id current)
        (run.play (machine externals) first) (move :: (middle ++ [next]))
  guarded : ∀ first move last id, moves = first ++ move :: last →
    Confirms externals calls id (run.play (machine externals) first) move →
    ∃ row, (run.play (machine externals) first).store.tickets.find id = some row ∧
      row.redeemedAt = none ∧ (run.play (machine externals) first).store.now < row.expiresAt
  lasting : ∀ first middle last id row, moves = first ++ (middle ++ last) →
    (run.play (machine externals) first).store.tickets.find id = some row →
    row.redeemedAt.isSome = true →
    Along (Run.step (machine externals))
      (fun current move => Stored id (current.step (machine externals) move))
      (run.play (machine externals) first) middle →
    ∃ later, (run.play (machine externals) (first ++ middle)).store.tickets.find id = some later ∧
      later.redeemedAt = row.redeemedAt ∧
      later.redeemedOperationalOnion = row.redeemedOperationalOnion

section Schedules

variable {externals : Externals σ} {aead : Aead tagLength} {calls : Nat → Call} {run : TorRun σ}

/-- A successful return of a redemption is the execution of its UPDATE: the UPDATE
is the call's last statement, and nothing but its reply decides the result. -/
theorem confirms_iff_redeems
    (lawful : Run.Lawful (fun index => Writes aead (calls index))
      (fun index => Concludes (calls index)) run) (id : Uuid) (move : Move (Drift σ)) :
    Confirms externals calls id run move ↔ Redeems id run move := by
  constructor
  · rintro ⟨index, operationalOnion, rfl, named, unfinished, returned⟩
    cases current : run.calls index with
    | value result => simp [current, outcome] at unfinished
    | failure error => simp [current, outcome] at unfinished
    | issue stmt resume =>
      obtain ⟨-, follows⟩ := lawful.issuing current
      have done := follows (exec externals stmt run.store).1
      simp only [Run.step, current, machine_exec, Function.update_self,
        outcome_eq_ok_iff] at returned
      rw [returned, named] at done
      obtain ⟨-, onion, shown⟩ := done
      obtain ⟨rfl, executed⟩ := (exec_redeemed_iff externals stmt run.store id onion).mp shown
      exact ⟨index, onion, resume, rfl, current, executed⟩
  · rintro ⟨index, onion, resume, rfl, current, executed⟩
    obtain ⟨⟨-, operationalOnion, named, -⟩, follows⟩ := lawful.issuing current
    refine ⟨index, operationalOnion, rfl, named, by rw [current]; rfl, ?_⟩
    have shown := (exec_redeemed_iff externals _ run.store id onion).mpr ⟨rfl, executed⟩
    have done := follows (exec externals (.updateRedeemed id onion) run.store).1
    simp only [Run.step, current, machine_exec, Function.update_self]
    cases rest : resume (exec externals (.updateRedeemed id onion) run.store).1 with
    | value result =>
      rw [rest, named] at done
      rw [done.1]
      rfl
    | failure error =>
      rw [rest, named] at done
      exact absurd shown (done onion)
    | issue stmt resume =>
      rw [rest] at done
      exact absurd (done.1.1 _ List.mem_cons_self) (by simp [isWrite])

/-- A redeeming UPDATE that is timely meets an unredeemed and unexpired row. -/
theorem Timely.row (spending : Spending run) {move : Move (Drift σ)} (timely : Timely run move)
    {id : Uuid} (redeems : Redeems id run move) :
    ∃ row, run.store.tickets.find id = some row ∧ row.redeemedAt = none ∧
      run.store.now < row.expiresAt := by
  obtain ⟨stored, expiry, left, early⟩ := timely id redeems
  obtain ⟨row, found⟩ := Option.isSome_iff_exists.mp stored
  have agrees := spending row (Table.mem_of_find found)
  rw [Table.key_of_find found, left] at agrees
  obtain ⟨unredeemed, expires⟩ := agrees
  exact ⟨row, found, unredeemed, expires ▸ early⟩

/-- A row that is unredeemed and unexpired makes its redeeming UPDATE timely. -/
theorem timely_of_rows (spending : Spending run) {move : Move (Drift σ)}
    (rows : ∀ id, Redeems id run move → ∃ row, run.store.tickets.find id = some row ∧
      row.redeemedAt = none ∧ run.store.now < row.expiresAt) : Timely run move := by
  intro id redeems
  obtain ⟨row, found, unredeemed, early⟩ := rows id redeems
  refine ⟨Option.isSome_iff_exists.mpr ⟨row, found⟩, ?_⟩
  have agrees := spending row (Table.mem_of_find found)
  rw [Table.key_of_find found] at agrees
  cases left : unspent id run.log with
  | some expiry =>
    rw [left] at agrees
    exact ⟨expiry, rfl, agrees.2 ▸ early⟩
  | none =>
    rw [left] at agrees
    rcases agrees with redeemed | expired
    · simp [unredeemed] at redeemed
    · omega

/-- A timely move leaves what an earlier redemption set. -/
theorem Timely.kept (spending : Spending run) {move : Move (Drift σ)} (timely : Timely run move)
    {id : Uuid} {row : TicketRow} (found : run.store.tickets.find id = some row)
    (redeemed : row.redeemedAt.isSome = true)
    (present : Stored id (run.step (machine externals) move)) :
    ∃ later, (run.step (machine externals) move).store.tickets.find id = some later ∧
      later.redeemedAt = row.redeemedAt ∧
      later.redeemedOperationalOnion = row.redeemedOperationalOnion := by
  cases torStep externals run move with
  | quiet log tickets sessions now => exact ⟨row, by rw [tickets, found], rfl, rfl⟩
  | executed index stmt resume moved current log now tickets sessions =>
    refine ⟨_, tickets.find found present, ?_⟩
    cases shown : effect ⟨stmt, (exec externals stmt run.store).1⟩ with
    | none => exact ⟨rfl, rfl⟩
    | some change =>
      cases change with
      | issued columns => exact ⟨rfl, rfl⟩
      | expired other =>
        simp only [replay]
        split <;> exact ⟨rfl, rfl⟩
      | redeemed other onion =>
        have differs : ¬ row.id = other := by
          intro same
          rw [← same, Table.key_of_find found] at shown
          obtain ⟨rfl, executed⟩ := (exec_redeemed_iff externals stmt run.store id onion).mp shown
          obtain ⟨met, stored, unredeemed, -⟩ :=
            timely.row spending ⟨index, onion, resume, moved, current, executed⟩
          rw [found] at stored
          cases stored
          simp [unredeemed] at redeemed
        simp only [replay, differs, ↓reduceIte]
        exact ⟨trivial, trivial⟩

/-- Timely moves leave what a redemption set for as long as the row stays. -/
theorem redeemed_lasts (spending : Spending run) {moves : List (Move (Drift σ))}
    (timely : Along (Run.step (machine externals)) Timely run moves) {id : Uuid} {row : TicketRow}
    (found : run.store.tickets.find id = some row) (redeemed : row.redeemedAt.isSome = true)
    (present : Along (Run.step (machine externals))
      (fun current move => Stored id (current.step (machine externals) move)) run moves) :
    ∃ later, (run.play (machine externals) moves).store.tickets.find id = some later ∧
      later.redeemedAt = row.redeemedAt ∧
      later.redeemedOperationalOnion = row.redeemedOperationalOnion := by
  induction moves generalizing run row with
  | nil => exact ⟨row, found, rfl, rfl⟩
  | cons move moves inductionHypothesis =>
    obtain ⟨next, located, sameTime, sameOnion⟩ :=
      timely.1.kept spending found redeemed present.1
    obtain ⟨later, last, lastTime, lastOnion⟩ := inductionHypothesis (spending.step externals move)
      timely.2 located (sameTime ▸ redeemed) present.2
    exact ⟨later, last, lastTime.trans sameTime, lastOnion.trans sameOnion⟩

/-- A redeeming UPDATE of a stored ticket leaves it redeemed. -/
theorem Redeems.row (externals : Externals σ) {move : Move (Drift σ)} {id : Uuid}
    (redeems : Redeems id run move) (stored : Stored id run) :
    ∃ row, (run.step (machine externals) move).store.tickets.find id = some row ∧
      row.redeemedAt.isSome = true := by
  obtain ⟨index, onion, resume, rfl, current, reachable, received⟩ := redeems
  obtain ⟨row, found⟩ := Option.isSome_iff_exists.mp stored
  have redeemed := exec_redeemed_find externals reachable id received found
  refine ⟨TorTables.redeem onion run.store.now row, ?_, rfl⟩
  simpa only [Run.step, current, machine_exec] using redeemed

/-- The executed statements and the stored tickets agree in every schedule. -/
theorem spending_play (externals : Externals σ) (aead : Aead tagLength) (calls : Nat → Call)
    (now : Int) (outside : σ) (moves : List (Move (Drift σ))) :
    Spending ((launch aead (.migrated now outside) calls).play (machine externals) moves) := by
  have first : Spending (launch aead (.migrated now outside) calls) :=
    fun _ stored => absurd stored List.not_mem_nil
  exact Run.play_invariant (machine externals) Spending first
    (fun _ move spending => spending.step externals move) moves

end Schedules

/-- In every schedule of any calls over a migrated database, redemptions are
single-use exactly when each redeeming UPDATE meets a stored ticket that no UPDATE
has redeemed or expired since it was issued, before its issued expiry.

Proof: a confirmation is the execution of a redeeming UPDATE. If each is timely, the
row it meets is unredeemed and unexpired because the rows agree with the executed
statements; what it sets stays for as long as the row does, so a second confirmation
in the same lifetime would meet a redeemed row. Conversely the guard alone makes
each UPDATE timely, by the same agreement. -/
theorem singleUse_iff_timely (externals : Externals σ) (aead : Aead tagLength)
    (calls : Nat → Call) (now : Int) (outside : σ) (moves : List (Move (Drift σ))) :
    SingleUse externals calls (launch aead (.migrated now outside) calls) moves ↔
      Along (Run.step (machine externals)) Timely (launch aead (.migrated now outside) calls)
        moves := by
  have spending := spending_play externals aead calls now outside
  have lawful := lawful_calls externals aead (.migrated now outside) calls
  generalize launch aead (.migrated now outside) calls = run at *
  constructor
  · intro singleUse
    refine (Along.iff_splits run moves).mpr ?_
    intro first move last split
    refine timely_of_rows (spending first) ?_
    intro id redeems
    exact singleUse.guarded first move last id split
      ((confirms_iff_redeems (lawful first) id move).mpr redeems)
  · intro timely
    have guarded : ∀ first move last id, moves = first ++ move :: last →
        Confirms externals calls id (run.play (machine externals) first) move →
        ∃ row, (run.play (machine externals) first).store.tickets.find id = some row ∧
          row.redeemedAt = none ∧
          (run.play (machine externals) first).store.now < row.expiresAt := by
      intro first move last id split confirms
      have here := (Along.iff_splits run moves).mp timely first move last split
      exact here.row (spending first) ((confirms_iff_redeems (lawful first) id move).mp confirms)
    have lasting : ∀ first middle last id row, moves = first ++ (middle ++ last) →
        (run.play (machine externals) first).store.tickets.find id = some row →
        row.redeemedAt.isSome = true →
        Along (Run.step (machine externals))
          (fun current move => Stored id (current.step (machine externals) move))
          (run.play (machine externals) first) middle →
        ∃ later, (run.play (machine externals) (first ++ middle)).store.tickets.find id =
            some later ∧
          later.redeemedAt = row.redeemedAt ∧
          later.redeemedOperationalOnion = row.redeemedOperationalOnion := by
      rintro first middle last id row rfl found redeemed present
      have rest := ((Along.append_iff run first (middle ++ last)).mp timely).2
      have within := ((Along.append_iff _ middle last).mp rest).1
      have last := redeemed_lasts (spending first) within found redeemed present
      rwa [Run.play_append]
    refine ⟨?_, guarded, lasting⟩
    rintro first move middle next last id split firstConfirms nextConfirms stored
    have redeems := (confirms_iff_redeems (lawful first) id move).mp firstConfirms
    obtain ⟨row, found, redeemed⟩ := redeems.row externals stored.1
    have after : run.play (machine externals) (first ++ [move]) =
        (run.play (machine externals) first).step (machine externals) move := by
      rw [Run.play_append, Run.play_cons, Run.play_nil]
    rw [← after] at found
    obtain ⟨later, reached, time, -⟩ := lasting (first ++ [move]) middle (next :: last) id row
      (by simp [split]) found redeemed (by rw [after]; exact stored.2.shift)
    obtain ⟨met, located, unredeemed, -⟩ := guarded (first ++ move :: middle) next last id
      (by simp [split]) nextConfirms
    rw [List.append_assoc, List.singleton_append, located] at reached
    cases reached
    rw [← time, unredeemed] at redeemed
    exact Bool.noConfusion redeemed

/-- A credential is imported, a ticket issued, and two clients redeem it. -/
def twoRedeemers : Nat → Call
  | 0 => .importBootstrapTorCredential Uuid.nil "entry" "hash" "tier" 1 none []
  | 1 => .issueTorTicket (sampleTicket "aead:v2:")
  | 2 => .markTorTicketRedeemed (Uuid.last 1) "aead:v2:a"
  | _ => .markTorTicketRedeemed (Uuid.last 1) "aead:v2:b"

/-- Both redeemers of one ticket are told that they succeeded. -/
theorem not_singleUse_twoRedeemers :
    ¬ SingleUse (fixedExternals zeroLease zeroNonce) twoRedeemers
      (launch (Aead.framed tagLength) (.migrated 0 ()) twoRedeemers)
      [.call 0, .call 0, .call 1, .call 2, .call 3] := by
  intro singleUse
  refine singleUse.once [.call 0, .call 0, .call 1] (.call 2) [] (.call 3) [] (Uuid.last 1) rfl
    ⟨2, "aead:v2:a", rfl, rfl, by decide, by decide⟩
    ⟨3, "aead:v2:b", rfl, rfl, by decide, by decide⟩ ⟨?_, ?_, trivial⟩
  · change Stored _ _
    decide
  · change Stored _ _
    decide

end SecureDatabase.TorAuth
