import SecureDatabase.TorCalls

/-!
# Protected columns at rest

Eight columns of two tables are protected. `Holds` says which texts they hold,
`Submits` which texts a call submits for them and in which context, and `holds_step`
how a text can come to be held: a call stored it, either sealed in the context it
was submitted for or as it was submitted.

Seven of the columns admit a submitted envelope by its canonical prefix, and the
eighth, the redeemed onion, by either prefix. Every held text carries the canonical
prefix in every state of a schedule exactly when no redemption with a legacy
envelope reaches a stored row.
-/

namespace SecureDatabase.TorAuth

open Foundation Program

variable {σ : Type}

/-- A protected column of a session or a ticket holds a text. -/
inductive Holds (world : World σ) (text : String) : Prop where
  | clientOnion (row : SessionRow) (stored : row ∈ world.sessions.rows)
      (cell : row.clientOnion = some text)
  | field (row : TicketRow) (stored : row ∈ world.tickets.rows) (field : TicketField)
      (cell : field.cell row.toTicketRecord = some text)
  | redeemedOnion (row : TicketRow) (stored : row ∈ world.tickets.rows)
      (cell : row.redeemedOperationalOnion = some text)

/-- A call submits a text for a protected column, whose context is given. -/
inductive Submits : Call → Bytes → String → Prop where
  | clientOnion (session : TorSessionRecord) (text : String)
      (cell : session.clientOnion = some text) :
      Submits (.recordTorSession session) (clientOnionContext session.id) text
  | field (ticket : NewTorAccessTicket) (field : TicketField) (text : String)
      (cell : field.cell ticket = some text) :
      Submits (.issueTorTicket ticket) (field.context ticket.id) text
  | redeemedOnion (id : Uuid) (text : String) :
      Submits (.markTorTicketRedeemed id text) (redeemedOnionContext id) text

/-- A redemption called with a legacy envelope updates a stored ticket: the server is
reachable and does not refuse the envelope. -/
def LegacyRedemption (calls : Nat → Call) (run : TorRun σ) (move : Move (Drift σ)) : Prop :=
  ∃ index id operationalOnion onion resume, move = .call index ∧
    calls index = .markTorTicketRedeemed id operationalOnion ∧
    startsWith operationalOnion aeadPrefixV1 = true ∧
    run.calls index = .issue (.updateRedeemed id onion) resume ∧
    run.store.server.outage = none ∧ Received [.text onion] ∧ Stored id run

/-- How a submitted text is stored: sealed in its context, or as it is. Only a
legacy redemption stores a text without the canonical prefix. -/
def StoredAs (aead : Aead tagLength) (calls : Nat → Call) (run : TorRun σ)
    (move : Move (Drift σ)) (past : List (Exchange Reply)) (aad : Bytes)
    (submitted text : String) : Prop :=
  Sealed aead past (utf8 submitted) aad text ∨
    text = submitted ∧ isAeadPayload submitted = true ∧
      (isAeadPayloadV2 submitted = true ∨ LegacyRedemption calls run move)

/-- An admitted cell that holds a text was submitted. -/
theorem AdmittedCell.submitted {aead : Aead tagLength} {past : List (Exchange Reply)}
    {aad : Bytes} {cell : Option String} {text : String}
    (admitted : AdmittedCell aead past aad cell (some text)) :
    ∃ submitted, cell = some submitted ∧ Admitted aead past aad submitted text := by
  cases cell with
  | none => exact admitted.elim
  | some submitted => exact ⟨submitted, rfl, admitted⟩

/-- What the rule of a column admits is stored in one of the two ways, for a legacy
redemption is the only exception. -/
theorem Admitted.storedAs {aead : Aead tagLength} {past : List (Exchange Reply)} {aad : Bytes}
    {submitted text : String} (admitted : Admitted aead past aad submitted text)
    (calls : Nat → Call) (run : TorRun σ) (move : Move (Drift σ)) :
    StoredAs aead calls run move past aad submitted text := by
  rcases admitted with ⟨canonical, same⟩ | ⟨-, sealed⟩
  · exact .inr ⟨same, isAeadPayload_of_v2 canonical, .inl canonical⟩
  · exact .inl sealed

/-- A client onion held after a change was held before it or is the stored one. -/
theorem SessionChange.held {now : Int} {sessions after : Sessions}
    {change : Option (SessionRecord Int)} (changed : SessionChange now sessions change after)
    {row : SessionRow} (stored : row ∈ after.rows) :
    row ∈ sessions.rows ∨
      ∃ columns, change = some columns ∧ row.clientOnion = columns.clientOnion := by
  cases changed with
  | kept => exact .inl stored
  | deleted condition => exact .inl ((Table.mem_deleteWhere _ _ _).mp stored).1
  | stored columns sessionKey absent =>
    rcases (Table.mem_insert _ _ _ _).mp stored with old | rfl
    · exact .inl old
    · exact .inr ⟨columns, rfl, rfl⟩

/-- The protected columns of a row after a change are those of an earlier row, with
the onion set where the change is a redemption, or those of an issued ticket. -/
theorem TicketChange.held {now : Int} {tickets after : Tickets} {change : Option Effect}
    (changed : TicketChange now tickets change after) {row : TicketRow}
    (stored : row ∈ after.rows) :
    (∃ old ∈ tickets.rows,
      (∀ field : TicketField, field.cell row.toTicketRecord =
        field.cell old.toTicketRecord) ∧
      (row.redeemedOperationalOnion = old.redeemedOperationalOnion ∨
        ∃ onion, change = some (.redeemed old.id onion) ∧
          row.redeemedOperationalOnion = some onion)) ∨
      ∃ columns, change = some (.issued columns) ∧ row.toTicketRecord = columns ∧
        row.redeemedOperationalOnion = none := by
  cases changed with
  | kept => exact .inl ⟨row, stored, fun _ => rfl, .inl rfl⟩
  | deleted condition =>
    exact .inl ⟨row, ((Table.mem_deleteWhere _ _ _).mp stored).1, fun _ => rfl, .inl rfl⟩
  | issued columns absent =>
    rcases (Table.mem_insert _ _ _ _).mp stored with old | rfl
    · exact .inl ⟨row, old, fun _ => rfl, .inl rfl⟩
    · exact .inr ⟨columns, rfl, rfl, rfl⟩
  | redeemed id onion =>
    rcases (Table.mem_updateWhere _ _ _ _ _).mp stored with ⟨old, present, named, rfl⟩ | ⟨old, -⟩
    · refine .inl ⟨old, present, fun field => by cases field <;> rfl, .inr ⟨onion, ?_, rfl⟩⟩
      rw [of_decide_eq_true named]
    · exact .inl ⟨row, old, fun _ => rfl, .inl rfl⟩
  | expired id =>
    rcases (Table.mem_updateWhere _ _ _ _ _).mp stored with ⟨old, present, -, rfl⟩ | ⟨old, -⟩
    · exact .inl ⟨old, present, fun field => by cases field <;> rfl, .inl rfl⟩
    · exact .inl ⟨row, old, fun _ => rfl, .inl rfl⟩

section Schedules

variable {externals : Externals σ} {aead : Aead tagLength} {calls : Nat → Call} {run : TorRun σ}

/-- A text held after a move was held before it, or the move is a call's write of a
text it submitted. -/
theorem holds_step
    (lawful : Run.Lawful (fun index => Writes aead (calls index))
      (fun index => Concludes (calls index)) run) {move : Move (Drift σ)} {text : String}
    (held : Holds (run.step (machine externals) move).store text) :
    Holds run.store text ∨ ∃ index aad submitted, move = .call index ∧
      Submits (calls index) aad submitted ∧
      StoredAs aead calls run move (exchanges index run.log) aad submitted text := by
  cases torStep externals run move with
  | quiet log tickets sessions now =>
    left
    cases held with
    | clientOnion row stored cell => exact .clientOnion row (sessions ▸ stored) cell
    | field row stored field cell => exact .field row (tickets ▸ stored) field cell
    | redeemedOnion row stored cell => exact .redeemedOnion row (tickets ▸ stored) cell
  | executed index stmt resume moved current log now tickets sessions =>
    obtain ⟨⟨-, rule⟩, -⟩ := lawful.issuing current
    cases held with
    | clientOnion row stored cell =>
      rcases sessions.held stored with old | ⟨columns, shown, same⟩
      · exact .inl (.clientOnion row old cell)
      · obtain ⟨sessionKey, exchange⟩ := sessionEffect_eq_some shown
        obtain rfl : stmt = .insertSession columns sessionKey := congrArg Exchange.stmt exchange
        obtain ⟨session, named, columnsOf⟩ := rule
        have admitted := columnsOf.admitted
        rw [← same, cell] at admitted
        obtain ⟨submitted, source, admitted⟩ := admitted.submitted
        exact .inr ⟨index, _, submitted, moved, named ▸ .clientOnion session submitted source,
          admitted.storedAs calls run move⟩
    | field row stored field cell =>
      rcases tickets.held stored with ⟨old, present, cells, -⟩ | ⟨columns, shown, same, -⟩
      · exact .inl (.field old present field (cells field ▸ cell))
      · obtain ⟨reply, exchange⟩ := effect_eq_some shown
        obtain rfl : stmt = .insertTicket columns := congrArg Exchange.stmt exchange
        obtain ⟨ticket, named, columnsOf⟩ := rule
        have admitted := columnsOf.admitted field
        rw [← same, cell] at admitted
        obtain ⟨submitted, source, admitted⟩ := admitted.submitted
        exact .inr ⟨index, _, submitted, moved, named ▸ .field ticket field submitted source,
          admitted.storedAs calls run move⟩
    | redeemedOnion row stored cell =>
      rcases tickets.held stored with ⟨old, present, -, onions⟩ | ⟨columns, -, -, empty⟩
      · rcases onions with kept | ⟨onion, shown, set⟩
        · exact .inl (.redeemedOnion old present (kept ▸ cell))
        · obtain ⟨rfl, reachable, received⟩ := (exec_redeemed_iff externals stmt run.store _ onion).mp shown
          obtain ⟨submitted, named, admitted⟩ := rule
          obtain rfl : onion = text := Option.some.inj (set.symm.trans cell)
          refine .inr ⟨index, redeemedOnionContext old.id, submitted, moved,
            named ▸ .redeemedOnion old.id submitted, ?_⟩
          rcases admitted with ⟨enveloped, same⟩ | ⟨-, sealed⟩
          · refine .inr ⟨same, enveloped, ?_⟩
            have located : Stored old.id run := by
              rw [Stored, Table.find_of_mem present]
              rfl
            rcases (Bool.or_eq_true _ _).mp enveloped with legacy | canonical
            · exact .inr ⟨index, old.id, submitted, onion, resume, moved, named, legacy, current,
                reachable, received, located⟩
            · exact .inl canonical
          · exact .inl sealed
      · rw [empty] at cell
        cases cell

/-- A legacy redemption makes the row hold a text without the canonical prefix. -/
theorem LegacyRedemption.held (externals : Externals σ)
    (lawful : Run.Lawful (fun index => Writes aead (calls index))
      (fun index => Concludes (calls index)) run) {move : Move (Drift σ)}
    (redemption : LegacyRedemption calls run move) :
    ∃ text, Holds (run.step (machine externals) move).store text ∧
      isAeadPayloadV2 text = false := by
  obtain ⟨index, id, operationalOnion, onion, resume, rfl, named, legacy, issuing, reachable,
    received, stored⟩ := redemption
  obtain ⟨⟨-, submitted, same, admitted⟩, -⟩ := lawful.issuing issuing
  rw [named] at same
  cases same
  obtain ⟨row, found⟩ := Option.isSome_iff_exists.mp stored
  have redeemed := exec_redeemed_find externals reachable id received found
  refine ⟨onion, ?_, ?_⟩
  · simp only [Run.step, issuing, machine_exec]
    exact .redeemedOnion _ (Table.mem_of_find redeemed) rfl
  · rcases admitted with ⟨-, rfl⟩ | ⟨plain, -⟩
    · by_contra canonical
      rw [Bool.not_eq_false] at canonical
      rw [not_both_prefixes canonical] at legacy
      exact Bool.noConfusion legacy
    · simp [isAeadPayload, legacy] at plain

end Schedules

/-- Every text held in a protected column carries the canonical prefix. -/
def ProtectedAtRest (world : World σ) : Prop :=
  ∀ text, Holds world text → isAeadPayloadV2 text = true

/-- In every schedule of any calls over a migrated database, all eight protected
columns are at rest in every state reached exactly when no redemption called with a
legacy envelope updates a stored ticket.

Proof: a legacy redemption puts its text into the column, and the state after it is a
counterexample. Without one, a text that a move adds was sealed by the call or carried the
canonical prefix at its check, so the property is an invariant of the move. -/
theorem protectedAtRest_iff (externals : Externals σ) (aead : Aead tagLength)
    (calls : Nat → Call) (now : Int) (outside : σ) (moves : List (Move (Drift σ))) :
    (∀ first last, moves = first ++ last → ProtectedAtRest
        ((launch aead (.migrated now outside) calls).play (machine externals) first).store) ↔
      Along (Run.step (machine externals)) (fun run move => ¬ LegacyRedemption calls run move)
        (launch aead (.migrated now outside) calls) moves := by
  have lawful := lawful_calls externals aead (.migrated now outside) calls
  have empty : ProtectedAtRest (launch aead (.migrated now outside) calls).store := by
    intro text held
    cases held with
    | clientOnion row stored cell => exact absurd stored List.not_mem_nil
    | field row stored field cell => exact absurd stored List.not_mem_nil
    | redeemedOnion row stored cell => exact absurd stored List.not_mem_nil
  generalize launch aead (.migrated now outside) calls = run at *
  constructor
  · intro safe
    refine (Along.iff_splits run moves).mpr ?_
    intro first move last split redemption
    have reached := safe (first ++ [move]) last (by simp [split])
    rw [Run.play_append] at reached
    obtain ⟨text, held, legacy⟩ := redemption.held externals (lawful first)
    rw [reached text held] at legacy
    exact Bool.noConfusion legacy
  · rintro along first last rfl
    have within := ((Along.append_iff run first last).mp along).1
    refine (within.invariant (fun current => Run.Lawful (fun index => Writes aead (calls index))
      (fun index => Concludes (calls index)) current ∧ ProtectedAtRest current.store)
      ⟨lawful [], empty⟩ ?_).2
    rintro current move ⟨obedient, safe⟩ notLegacy
    refine ⟨obedient.step (machine externals) move, ?_⟩
    intro text held
    rcases holds_step obedient held with before | ⟨index, aad, submitted, -, -, stored⟩
    · exact safe text before
    · rcases stored with sealed | ⟨rfl, -, canonical | legacy⟩
      · obtain ⟨-, lease, token, nonce, -, -, -, rfl⟩ := sealed
        exact isAeadPayloadV2_encode _ _ _
      · exact canonical
      · exact absurd legacy notLegacy

/-- A credential is imported, a ticket issued, and redeemed with a legacy text. -/
def legacyRedeemer : Nat → Call
  | 0 => .importBootstrapTorCredential Uuid.nil "entry" "hash" "tier" 1 none []
  | 1 => .issueTorTicket (sampleTicket "aead:v2:")
  | _ => .markTorTicketRedeemed (Uuid.last 1) "aead:v1:x"

/-- The redeemed onion of a ticket is stored in the legacy form. -/
theorem not_protectedAtRest_legacyRedeemer :
    ¬ ProtectedAtRest ((launch (Aead.framed tagLength) (.migrated 0 ()) legacyRedeemer).play
      (machine (fixedExternals zeroLease zeroNonce)) [.call 0, .call 0, .call 1, .call 2]).store := by
  intro safe
  have stored : (((launch (Aead.framed tagLength) (.migrated 0 ()) legacyRedeemer).play
      (machine (fixedExternals zeroLease zeroNonce))
      [.call 0, .call 0, .call 1, .call 2]).store.tickets.find (Uuid.last 1)).map
        TicketRow.redeemedOperationalOnion = some (some "aead:v1:x") := by decide
  obtain ⟨row, found, onion⟩ := Option.map_eq_some_iff.mp stored
  have canonical := safe "aead:v1:x" (.redeemedOnion row (Table.mem_of_find found) onion)
  exact absurd canonical (by decide)

end SecureDatabase.TorAuth
