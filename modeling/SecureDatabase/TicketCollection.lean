import SecureDatabase.TorCalls

/-!
# Collection of expired tickets

`gc_expired_tickets` deletes the tickets that expired before a cutoff, a number of days before
now, and that are redeemed or expired. For a retention of zero or more days the cutoff is not
after now and the second condition says nothing: the tickets deleted are those that expired
before the cutoff. The retention is a signed number that nobody checks. A negative one moves the
cutoff into the future, and then a redeemed ticket goes although it has not expired.

A cutoff outside the range of timestamps makes the statement fail, whatever the tickets are.
-/

namespace SecureDatabase.TorAuth

open Foundation Program

variable {σ : Type}

/-- Run a collection alone against a reachable database. -/
def collect (externals : Externals σ) (retentionDays : Int32) (now : Int) (tables : TorTables)
    (outside : σ) : DbResult Nat × World σ :=
  (gcExpiredTickets retentionDays).run (exec externals) ⟨⟨now, none, tables⟩, outside⟩

section Outcomes

variable (externals : Externals σ) {retentionDays : Int32} {now : Int} (tables : TorTables)
  (outside : σ)

/-- With a cutoff in range the selected tickets go and are counted. -/
theorem collect_of_isTimestamp
    (inRange : isTimestamp (TorTables.retentionCutoff retentionDays now) = true) :
    collect externals retentionDays now tables outside =
      (.ok (tables.tickets.countWhere (TorTables.collectible retentionDays now)),
        ⟨⟨now, none, { tables with
          tickets := tables.tickets.deleteWhere (TorTables.collectible retentionDays now) }⟩,
          outside⟩) := by
  simp only [collect, gcExpiredTickets, ask_bind, run_issue, exec, World.sql, Server.execute,
    TorTables.deleteExpired, inRange, ↓reduceIte]
  rfl

/-- Otherwise the call fails and deletes nothing. -/
theorem collect_of_not_isTimestamp
    (outOfRange : isTimestamp (TorTables.retentionCutoff retentionDays now) = false) :
    collect externals retentionDays now tables outside =
      (.error (.query "timestamp out of range"), ⟨⟨now, none, tables⟩, outside⟩) := by
  simp only [collect, gcExpiredTickets, ask_bind, run_issue, exec, World.sql, Server.execute,
    TorTables.deleteExpired, outOfRange, Bool.false_eq_true, ↓reduceIte]
  rfl

end Outcomes

/-- No live ticket goes; and for a retention of zero or more days exactly the tickets go that
expired more than so many days ago, and their number is returned. -/
structure CollectsExpired (retentionDays : Int32) (now : Int) (before : Tickets)
    (result : DbResult Nat) (after : Tickets) : Prop where
  live : ∀ row ∈ before.rows, now ≤ row.expiresAt → row ∈ after.rows
  counted : 0 ≤ retentionDays.toInt → result = .ok (before.countWhere
    (fun row => row.expiresAt < now - retentionDays.toInt * day))
  deleted : 0 ≤ retentionDays.toInt → ∀ row, row ∈ after.rows ↔
    row ∈ before.rows ∧ now - retentionDays.toInt * day ≤ row.expiresAt

/-- What is required of a retention. One of zero or more days needs a cutoff in range. A negative
one must select no ticket that is redeemed and live, if its cutoff is in range at all. -/
def SafeRetention (retentionDays : Int32) (now : Int) (tickets : Tickets) : Prop :=
  if 0 ≤ retentionDays.toInt then
    isTimestamp (TorTables.retentionCutoff retentionDays now) = true
  else
    isTimestamp (TorTables.retentionCutoff retentionDays now) = true →
      ∀ row ∈ tickets.rows, row.redeemedAt.isSome = true → now ≤ row.expiresAt →
        TorTables.retentionCutoff retentionDays now ≤ row.expiresAt

/-- For a retention of zero or more days what expired before the cutoff has expired. -/
theorem collectible_of_nonneg {retentionDays : Int32} (nonneg : 0 ≤ retentionDays.toInt)
    (now : Int) (row : TicketRow) :
    TorTables.collectible retentionDays now row =
      decide (row.expiresAt < now - retentionDays.toInt * day) := by
  have past : row.expiresAt < now - retentionDays.toInt * day → row.expiresAt < now := by
    have nonnegative : 0 ≤ retentionDays.toInt * day := Int.mul_nonneg nonneg (by decide)
    omega
  rw [TorTables.collectible, TorTables.retentionCutoff]
  by_cases early : row.expiresAt < now - retentionDays.toInt * day
  · simp [early, past early]
  · simp [early]

/-- A live ticket is selected exactly when it is redeemed and expires before the cutoff. -/
theorem collectible_of_live {retentionDays : Int32} {now : Int} {row : TicketRow}
    (live : now ≤ row.expiresAt) :
    TorTables.collectible retentionDays now row = true ↔
      row.redeemedAt.isSome = true ∧
        row.expiresAt < TorTables.retentionCutoff retentionDays now := by
  have unexpired : ¬ row.expiresAt < now := by omega
  simp only [TorTables.collectible, unexpired, decide_false, Bool.or_false, Bool.and_eq_true,
    decide_eq_true_eq]
  exact and_comm

/-- A retention of zero or more days with a cutoff in range collects what it should. -/
theorem collectsExpired_of_nonneg {retentionDays : Int32} (nonneg : 0 ≤ retentionDays.toInt)
    (now : Int) (tickets : Tickets) :
    CollectsExpired retentionDays now tickets
      (.ok (tickets.countWhere (TorTables.collectible retentionDays now)))
      (tickets.deleteWhere (TorTables.collectible retentionDays now)) := by
  have selected : TorTables.collectible retentionDays now =
      fun row => decide (row.expiresAt < now - retentionDays.toInt * day) :=
    funext (collectible_of_nonneg nonneg now)
  rw [selected]
  refine ⟨?_, fun _ => rfl, fun _ row => ?_⟩
  · intro row stored live
    have nonnegative : 0 ≤ retentionDays.toInt * day := Int.mul_nonneg nonneg (by decide)
    rw [Table.mem_deleteWhere]
    refine ⟨stored, decide_eq_false ?_⟩
    omega
  · rw [Table.mem_deleteWhere, decide_eq_false_iff_not, Int.not_lt]

/-- A collection deletes no live ticket, and for a retention of zero or more days exactly the
expired ones it should, if and only if the retention is safe for the table and the time.

Proof: the statement deletes by one comparison with a time that is the retention before now,
or fails where that is out of range. For days that are not negative this time has passed, so
no live ticket is before it; for negative ones it is yet to come, and the redeemed tickets
before it are what has to be excluded. -/
theorem collect_collectsExpired_iff (externals : Externals σ) (retentionDays : Int32) (now : Int)
    (tables : TorTables) (outside : σ) :
    CollectsExpired retentionDays now tables.tickets
        (collect externals retentionDays now tables outside).1
        (collect externals retentionDays now tables outside).2.tickets ↔
      SafeRetention retentionDays now tables.tickets := by
  unfold SafeRetention
  split
  · rename_i nonneg
    cases inRange : isTimestamp (TorTables.retentionCutoff retentionDays now) with
    | true =>
      rw [collect_of_isTimestamp externals tables outside inRange]
      exact iff_of_true (collectsExpired_of_nonneg nonneg now tables.tickets) rfl
    | false =>
      rw [collect_of_not_isTimestamp externals tables outside inRange]
      refine iff_of_false (fun collects => ?_) Bool.false_ne_true
      cases collects.counted nonneg
  · rename_i negative
    have vacuous {P : Prop} : 0 ≤ retentionDays.toInt → P := fun nonneg => absurd nonneg negative
    cases inRange : isTimestamp (TorTables.retentionCutoff retentionDays now) with
    | true =>
      rw [collect_of_isTimestamp externals tables outside inRange]
      constructor
      · rintro collects - row stored redeemed live
        rw [← Int.not_lt]
        intro early
        have kept := ((Table.mem_deleteWhere _ _ _).mp (collects.live row stored live)).2
        rw [(collectible_of_live live).mpr ⟨redeemed, early⟩] at kept
        cases kept
      · intro safe
        refine ⟨?_, vacuous, vacuous⟩
        intro row stored live
        rw [World.tickets, Table.mem_deleteWhere]
        refine ⟨stored, ?_⟩
        rw [← Bool.not_eq_true, collectible_of_live live]
        rintro ⟨redeemed, early⟩
        have late := safe rfl row stored redeemed live
        omega
    | false =>
      rw [collect_of_not_isTimestamp externals tables outside inRange]
      exact iff_of_true ⟨fun _ stored _ => stored, vacuous, vacuous⟩
        fun inRange => absurd inRange Bool.false_ne_true

/-- A credential with one ticket, redeemed when it was issued and valid for a minute. -/
def redeemedTables : TorTables where
  credentials := ⟨[newCredential .nil 0 "entry" "hash" "tier" 30 none []], by simp⟩
  sessions := .empty
  tickets := ⟨[TorTables.redeem "onion" 0 (TorTables.ticketRow (sampleTicket "aead:v2:").bound 0)],
    by simp⟩

/-- A retention of minus one day deletes the redeemed ticket half a minute before it expires. -/
theorem collect_deletes_live_ticket :
    ¬ CollectsExpired (-1) (30 * second) redeemedTables.tickets
      (collect (fixedExternals zeroLease zeroNonce) (-1) (30 * second) redeemedTables ()).1
      (collect (fixedExternals zeroLease zeroNonce) (-1) (30 * second) redeemedTables
        ()).2.tickets := by
  intro collects
  have gone : (collect (fixedExternals zeroLease zeroNonce) (-1) (30 * second) redeemedTables
      ()).2.tickets.rows = [] := by
    decide +kernel
  have kept := collects.live
    (TorTables.redeem "onion" 0 (TorTables.ticketRow (sampleTicket "aead:v2:").bound 0))
    List.mem_cons_self (by decide)
  rw [gone] at kept
  cases kept

end SecureDatabase.TorAuth
