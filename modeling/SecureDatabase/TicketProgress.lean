import SecureDatabase.TorCalls

/-!
# Ticket rows only move forward

While a ticket row is stored, three of its columns may change: the two redemption
columns and the expiry. A redemption is never undone, an expired ticket is never
unexpired while the clock does not run backwards, and every other column keeps the
value with which the INSERT stored it. What one statement does to a row is read from
`TicketChange`, and whole schedules follow by composing such changes.

Issuing a ticket touches the table in its last statement only, so a call that fails,
at the broker or at the INSERT, has left the tickets as they were.
-/

namespace SecureDatabase.TorAuth

open Foundation Program

variable {σ : Type}

/-- A row at a later clock reading is ahead of an earlier one: what was redeemed is
redeemed, what was expired is expired, and the other columns are the same. -/
structure Ahead (now : Int) (row : TicketRow) (later : Int) (next : TicketRow) : Prop where
  redeemed : row.redeemedAt.isSome = true → next.redeemedAt.isSome = true
  expired : row.expiresAt < now → next.expiresAt < later
  columns : next = { row with
    expiresAt := next.expiresAt
    redeemedAt := next.redeemedAt
    redeemedOperationalOnion := next.redeemedOperationalOnion }

namespace Ahead

variable {now later last : Int} {row next final : TicketRow}

/-- Time alone keeps a row ahead of itself. -/
theorem of_le (row : TicketRow) (passed : now ≤ later) : Ahead now row later row where
  redeemed := id
  expired := fun expired => Int.lt_of_lt_of_le expired passed
  columns := rfl

/-- Two steps forward are one. -/
theorem trans (first : Ahead now row later next) (second : Ahead later next last final) :
    Ahead now row last final where
  redeemed := fun redeemed => second.redeemed (first.redeemed redeemed)
  expired := fun expired => second.expired (first.expired expired)
  columns := by
    rw [second.columns, first.columns]

/-- What a statement leaves of a row is ahead of it. -/
theorem replay (now : Int) (change : Option Effect) (row : TicketRow) :
    Ahead now row now (replay now change row) := by
  have same : Ahead now row now row := of_le row (Int.le_refl now)
  cases change with
  | none => exact same
  | some change =>
    cases change with
    | issued columns => exact same
    | redeemed id onion =>
      simp only [TorAuth.replay]
      split
      · exact ⟨fun _ => rfl, fun expired => expired, rfl⟩
      · exact same
    | expired id =>
      simp only [TorAuth.replay]
      split
      · refine ⟨fun redeemed => redeemed, fun _ => ?_, rfl⟩
        change now - second < now
        rw [second]
        omega
      · exact same

end Ahead

/-- A move leaves of a row that stays stored one that is ahead of it. -/
theorem ahead_step (externals : Externals σ) (run : TorRun σ) (move : Move (Drift σ)) {id : Uuid}
    {row : TicketRow} (found : run.store.tickets.find id = some row)
    (present : Stored id (run.step (machine externals) move)) :
    ∃ next, (run.step (machine externals) move).store.tickets.find id = some next ∧
      Ahead run.store.now row (run.step (machine externals) move).store.now next := by
  cases torStep externals run move with
  | quiet log tickets sessions now =>
    exact ⟨row, by rw [tickets, found], .of_le row now⟩
  | executed index stmt resume moved current log now tickets sessions =>
    refine ⟨_, tickets.find found present, ?_⟩
    rw [now]
    exact .replay run.store.now _ row

/-- A schedule during which a row stays stored leaves one that is ahead of it. -/
theorem ahead_play (externals : Externals σ) (run : TorRun σ) (moves : List (Move (Drift σ)))
    {id : Uuid} {row : TicketRow} (found : run.store.tickets.find id = some row)
    (kept : Along (Run.step (machine externals))
      (fun current move => Stored id (current.step (machine externals) move)) run moves) :
    ∃ next, (run.play (machine externals) moves).store.tickets.find id = some next ∧
      Ahead run.store.now row (run.play (machine externals) moves).store.now next := by
  induction moves generalizing run row with
  | nil => exact ⟨row, found, .of_le row (Int.le_refl _)⟩
  | cons move moves inductionHypothesis =>
    obtain ⟨next, located, ahead⟩ := ahead_step externals run move found kept.1
    obtain ⟨last, reached, further⟩ := inductionHypothesis _ located kept.2
    exact ⟨last, reached, ahead.trans further⟩

section FailedIssue

variable {past : List (Exchange Reply)}

/-- A program without writes leaves exchanges without a write unwritten. -/
theorem ReadOnly.unwritten {α : Type} {program : Operation α} (reads : ReadOnly program)
    (unwritten : Unwritten past) :
    program.Follows (fun _ stmt => isWrite stmt = false) (fun later _ => Unwritten later) past := by
  have follows := reads past
  clear reads
  induction program generalizing past with
  | value result => exact unwritten
  | failure error => exact unwritten
  | issue stmt resume inductionHypothesis =>
    refine ⟨follows.1, fun reply => ?_⟩
    apply inductionHypothesis reply
    · exact unwritten.cons follows.1
    · exact follows.2 reply

variable (aead : Aead tagLength)

/-- Sealing writes nothing. -/
theorem readOnly_encryptWithNewAead (plaintext aad : Bytes) (label : String) :
    ReadOnly (encryptWithNewAead aead plaintext aad label) := by
  refine (readOnly_ask rfl).bind fun _ => ?_
  refine (readOnly_mapErr _ _).bind fun _ => ?_
  refine (readOnly_ofExcept _).bind fun _ => ?_
  refine (readOnly_ask rfl).bind fun _ => ?_
  refine (readOnly_mapErr _ _).bind fun _ => ?_
  exact (readOnly_ofExcept _).bind fun _ => readOnly_value _

/-- Nor does sealing what may be absent or sealed already. -/
theorem readOnly_ensureAeadEncrypted (submitted : Option String) (aad : Bytes) (label : String) :
    ReadOnly (ensureAeadEncrypted aead submitted aad label) := by
  cases submitted with
  | none => exact readOnly_value _
  | some existing =>
    simp only [ensureAeadEncrypted]
    split
    · exact readOnly_value _
    · split
      · exact readOnly_failure _
      · exact (readOnly_encryptWithNewAead aead _ _ _).bind fun _ => readOnly_value _

/-- Nor does sealing what has to be there. -/
theorem readOnly_ensureAeadEncryptedRequired (submitted : String) (aad : Bytes)
    (label field : String) : ReadOnly (ensureAeadEncryptedRequired aead submitted aad label field) :=
  (readOnly_ensureAeadEncrypted aead _ _ _).bind fun _ => readOnly_ofExcept _

/-- What issuing a ticket may issue: reads, and the INSERT of a ticket. -/
def InsertsOnly (_ : List (Exchange Reply)) (stmt : Statement) : Prop :=
  isWrite stmt = false ∨ ∃ columns, stmt = .insertTicket columns

/-- A call that has failed shows no effect on the tickets. -/
def FailsUnseen {α : Type} (past : List (Exchange Reply)) (result : DbResult α) : Prop :=
  ∀ error, result = .error error → ∀ exchange ∈ past, effect exchange = none

/-- Exchanges that wrote nothing leave no effect in the log. -/
theorem Unwritten.unseen (unwritten : Unwritten past) :
    ∀ exchange ∈ past, effect exchange = none := by
  intro exchange member
  have single : Unwritten [exchange] := by
    intro other same
    rw [List.mem_singleton.mp same]
    exact unwritten exchange member
  exact single.head_effect

/-- A first part without writes leads to the rest of an issuing call. -/
theorem insertsOnly_bind {α β : Type} {first : Operation α} {next : α → Operation β}
    (reads : ReadOnly first) (unwritten : Unwritten past)
    (rest : ∀ later found, Unwritten later → (next found).Follows InsertsOnly FailsUnseen later) :
    (first >>= next).Follows InsertsOnly FailsUnseen past := by
  refine Follows.bind (fun later _ => Unwritten later) ?_ rest
  have follows := reads.unwritten unwritten
  clear reads rest unwritten
  induction first generalizing past with
  | value result => exact follows
  | failure error =>
    intro failure same exchange member
    exact Unwritten.unseen follows exchange member
  | issue stmt resume inductionHypothesis =>
    exact ⟨.inl follows.1, fun reply => inductionHypothesis reply (follows.2 reply)⟩

/-- Issuing a ticket issues reads and one INSERT, and fails without an effect. -/
theorem issueTorTicket_insertsOnly (ticket : NewTorAccessTicket) :
    ((Call.issueTorTicket ticket).program aead).Follows InsertsOnly FailsUnseen [] := by
  have nothing : Unwritten [] := fun _ member => absurd member List.not_mem_nil
  simp only [Call.program, issueTorTicket, bind_assoc]
  refine insertsOnly_bind (readOnly_ensureAeadEncryptedRequired aead _ _ _ _) nothing ?_
  intro past₁ clientAuthPublicKey free₁
  refine insertsOnly_bind (readOnly_ensureAeadEncryptedRequired aead _ _ _ _) free₁ ?_
  intro past₂ clientAuthSecretPath free₂
  refine insertsOnly_bind (readOnly_ensureAeadEncryptedRequired aead _ _ _ _) free₂ ?_
  intro past₃ attestationNonceDigest free₃
  refine insertsOnly_bind (readOnly_ensureAeadEncryptedRequired aead _ _ _ _) free₃ ?_
  intro past₄ attestationQuoteHash free₄
  refine insertsOnly_bind (readOnly_ensureAeadEncrypted aead _ _ _) free₄ ?_
  intro past₅ clientAuthSecretRedeemToken free₅
  refine insertsOnly_bind (readOnly_ensureAeadEncryptedRequired aead _ _ _ _) free₅ ?_
  intro past₆ tlsPubkeyDigest free₆
  refine ⟨.inr ⟨_, rfl⟩, ?_⟩
  rintro (message | row)
  · rintro error same exchange member
    rcases List.mem_cons.mp member with rfl | old
    · rfl
    · exact free₆.unseen exchange old
  · rintro error ⟨⟩

end FailedIssue

/-- A read, or an INSERT of a ticket without an effect, leaves the tickets alone. -/
theorem exec_tickets_unseen (externals : Externals σ) {stmt : Statement} {world : World σ}
    (inserts : InsertsOnly [] stmt)
    (unseen : effect ⟨stmt, (exec externals stmt world).1⟩ = none) :
    (exec externals stmt world).2.tickets = world.tickets := by
  rcases inserts with read | ⟨columns, rfl⟩
  · cases stmt <;> first
      | exact Bool.noConfusion read
      | rfl
      | refine World.sql_tickets _ ?_ world
        intro now tables result after done
        cases done
        rfl
  · obtain ⟨error, failed⟩ | ⟨result, tables, -, -, computed, executed⟩ :=
      world.sql_cases columns.parameters (fun now tables => tables.insertTicket columns now)
    · simp only [exec, failed]
    · simp [exec, executed, effect] at unseen

/-- The rule of issuing calls; other calls are not looked at. -/
theorem insertsOnly_calls (externals : Externals σ) (aead : Aead tagLength) (world : World σ)
    (calls : Nat → Call) (moves : List (Move (Drift σ))) :
    Run.Lawful
      (fun index past stmt =>
        (∃ ticket, calls index = .issueTorTicket ticket) → InsertsOnly past stmt)
      (fun index past result =>
        (∃ ticket, calls index = .issueTorTicket ticket) → FailsUnseen past result)
      ((launch aead world calls).play (machine externals) moves) := by
  refine Run.lawful_play (machine externals) world _ (fun index => ?_) moves
  by_cases issuing : ∃ ticket, calls index = .issueTorTicket ticket
  · obtain ⟨ticket, named⟩ := issuing
    have follows := issueTorTicket_insertsOnly aead ticket
    simpa only [named, Call.issueTorTicket.injEq, exists_eq', forall_const] using follows
  · exact Follows.of_forall (fun _ _ issues => absurd issues issuing)
      (fun _ _ issues => absurd issues issuing) _ _

/-- No move of a call that issues a ticket and fails has changed the tickets. -/
theorem failed_issue_unseen (externals : Externals σ) (aead : Aead tagLength) (world : World σ)
    (calls : Nat → Call) (first last : List (Move (Drift σ))) (index : Nat)
    {ticket : NewTorAccessTicket} {error : DatabaseError}
    (named : calls index = .issueTorTicket ticket)
    (failed : (((launch aead world calls).play (machine externals)
      (first ++ .call index :: last)).calls index).outcome = some (.error error)) :
    ((launch aead world calls).play (machine externals) (first ++ [.call index])).store.tickets =
      ((launch aead world calls).play (machine externals) first).store.tickets := by
  have before := insertsOnly_calls externals aead world calls first
  have after := insertsOnly_calls externals aead world calls (first ++ .call index :: last)
  rw [Run.play_append, Run.play_cons] at after failed
  rw [Run.play_append, Run.play_cons, Run.play_nil]
  generalize (launch aead world calls).play (machine externals) first = run at *
  -- the failed call shows no effect among its exchanges, and these include this move's
  have unseen : ∀ exchange ∈ exchanges index (run.step (machine externals) (.call index)).log,
      effect exchange = none := by
    intro exchange member
    have final := after.remaining index
    have grown := exchanges_play externals (run.step (machine externals) (.call index)) last index
    rw [(outcome_eq_error_iff _ _).mp failed] at final
    exact final ⟨ticket, named⟩ error rfl exchange (grown member)
  cases torStep externals run (.call index) with
  | quiet log tickets sessions now => exact tickets
  | executed mover stmt resume moved current log now tickets sessions =>
    obtain rfl : index = mover := by simpa using moved
    have inserts := (before.issuing current).1 ⟨ticket, named⟩
    rw [log, exchanges_cons, if_pos rfl] at unseen
    have quiet := exec_tickets_unseen externals inserts (unseen _ List.mem_cons_self)
    simpa only [Run.step, current, machine_exec] using quiet

/-- Tickets only move forward in a schedule: a row that stays stored gets ahead of itself,
and a call that issues a ticket and fails changes no ticket. -/
structure MovesForward (externals : Externals σ) (calls : Nat → Call) (run : TorRun σ)
    (moves : List (Move (Drift σ))) : Prop where
  rows : ∀ first middle last id row, moves = first ++ (middle ++ last) →
    (run.play (machine externals) first).store.tickets.find id = some row →
    Along (Run.step (machine externals))
      (fun current move => Stored id (current.step (machine externals) move))
      (run.play (machine externals) first) middle →
    ∃ next, (run.play (machine externals) (first ++ middle)).store.tickets.find id = some next ∧
      Ahead (run.play (machine externals) first).store.now row
        (run.play (machine externals) (first ++ middle)).store.now next
  failures : ∀ first index last ticket error, moves = first ++ .call index :: last →
    calls index = .issueTorTicket ticket →
    ((run.play (machine externals) moves).calls index).outcome = some (.error error) →
    (run.play (machine externals) (first ++ [.call index])).store.tickets =
      (run.play (machine externals) first).store.tickets

/-- Every schedule of any calls over any world moves its tickets forward.

Proof: one move replaces a row by one that is ahead of it, and being ahead composes along the
schedule. A call that issues a ticket writes by one INSERT only and returns once that is done,
so a call that fails has stored nothing. -/
theorem tickets_moveForward (externals : Externals σ) (aead : Aead tagLength) (world : World σ)
    (calls : Nat → Call) (moves : List (Move (Drift σ))) :
    MovesForward externals calls (launch aead world calls) moves where
  rows := by
    rintro first middle last id row - found kept
    rw [Run.play_append]
    exact ahead_play externals _ middle found kept
  failures := by
    rintro first index last ticket error rfl named failed
    exact failed_issue_unseen externals aead world calls first last index named failed

end SecureDatabase.TorAuth
