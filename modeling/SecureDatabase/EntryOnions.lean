import SecureDatabase.CredentialRecords

/-!
# Stored entry onions

The entry onion of a credential is unique as a text. Three statements store one: the INSERT of a
creation and the upsert of an import, both with a trimmed text, and the UPDATE of
`set_entry_onion`, with the text that the caller gave. What a statement does to the credentials
is read from `CredentialChange`. Entry onions stay distinct in every schedule, and they stay
trimmed in a schedule exactly as long as every UPDATE that takes effect has a trimmed text.
-/

namespace SecureDatabase.TorAuth

open Foundation Program

variable {σ : Type}

/-- The credentials. -/
abbrev Credentials := Table TorCredential.id

/-- The entry onion that a statement would store. -/
def submittedEntry : Statement → Option String
  | .insertCredential row => some row.onionEntry
  | .upsertCredential row => some row.onionEntry
  | .setEntryOnion _ entryOnion _ => some entryOnion
  | _ => none

/-- No credential but the named one has the entry onion. -/
def EntryFree (credentials : Credentials) (id : Uuid) (entryOnion : String) : Prop :=
  ∀ row ∈ credentials.rows, row.onionEntry = entryOnion → row.id = id

/-- The test of the server is what it says: no other credential has the entry onion. -/
theorem entryFree_of_not_taken {tables : TorTables} {id : Uuid} {entryOnion : String}
    (free : tables.entryTaken id entryOnion = false) :
    EntryFree tables.credentials id entryOnion := by
  intro row stored same
  have other := List.any_eq_false.mp free row stored
  simpa [same] using other

/-- What one statement can do to the credentials, given the entry onion it would store. -/
inductive CredentialChange (credentials : Credentials) : Option String → Credentials → Prop where
  | kept (entry : Option String) : CredentialChange credentials entry credentials
  | deleted (condition : TorCredential → Bool) :
      CredentialChange credentials none (credentials.deleteWhere condition)
  | revised (id : Uuid) (change : TorCredential → TorCredential)
      (keeps : ∀ row, (change row).id = row.id)
      (same : ∀ row, (change row).onionEntry = row.onionEntry) :
      CredentialChange credentials none
        (credentials.updateWhere (fun row => row.id = id) change keeps)
  | inserted (row : TorCredential) (absent : credentials.find row.id = none)
      (free : EntryFree credentials row.id row.onionEntry) :
      CredentialChange credentials (some row.onionEntry) (credentials.insert row absent)
  | renamed (id : Uuid) (entryOnion : String) (change : TorCredential → TorCredential)
      (keeps : ∀ row, (change row).id = row.id)
      (renames : ∀ row, (change row).onionEntry = entryOnion)
      (free : EntryFree credentials id entryOnion) :
      CredentialChange credentials (some entryOnion)
        (credentials.updateWhere (fun row => row.id = id) change keeps)

/-- Different credentials have different entry onions. -/
def DistinctEntries (credentials : Credentials) : Prop :=
  ∀ left ∈ credentials.rows, ∀ right ∈ credentials.rows,
    left.onionEntry = right.onionEntry → left.id = right.id

/-- Every entry onion is trimmed. -/
def TrimmedEntries (credentials : Credentials) : Prop :=
  ∀ row ∈ credentials.rows, Trimmed row.onionEntry

namespace CredentialChange

variable {credentials after : Credentials} {entry : Option String}

/-- An entry onion after a statement is one from before, under the same identifier, or the
submitted one. -/
theorem origin (changed : CredentialChange credentials entry after) {row : TorCredential}
    (stored : row ∈ after.rows) :
    (∃ old ∈ credentials.rows, old.id = row.id ∧ old.onionEntry = row.onionEntry) ∨
      entry = some row.onionEntry ∧ EntryFree credentials row.id row.onionEntry ∧
        ∀ other ∈ after.rows, other.id ≠ row.id →
          ∃ old ∈ credentials.rows, old.id = other.id ∧ old.onionEntry = other.onionEntry := by
  cases changed with
  | kept => exact .inl ⟨row, stored, rfl, rfl⟩
  | deleted condition =>
    rw [Table.mem_deleteWhere] at stored
    exact .inl ⟨row, stored.1, rfl, rfl⟩
  | revised id change keeps same =>
    rw [Table.mem_updateWhere] at stored
    obtain ⟨old, present, -, rfl⟩ | ⟨present, -⟩ := stored
    · exact .inl ⟨old, present, (keeps old).symm, (same old).symm⟩
    · exact .inl ⟨row, present, rfl, rfl⟩
  | inserted new absent free =>
    rw [Table.mem_insert] at stored
    obtain present | rfl := stored
    · exact .inl ⟨row, present, rfl, rfl⟩
    · refine .inr ⟨rfl, free, ?_⟩
      intro other present differs
      rw [Table.mem_insert] at present
      exact ⟨other, present.resolve_right (fun same => differs (congrArg _ same)), rfl, rfl⟩
  | renamed id entryOnion change keeps renames free =>
    rw [Table.mem_updateWhere] at stored
    obtain ⟨old, present, selected, rfl⟩ | ⟨present, -⟩ := stored
    · have named : (change old).id = id := (keeps old).trans (by simpa using selected)
      refine .inr ⟨by rw [renames], by rwa [named, renames], ?_⟩
      intro other member differs
      rw [Table.mem_updateWhere] at member
      obtain ⟨replaced, -, chosen, rfl⟩ | ⟨unchanged, -⟩ := member
      · refine absurd ?_ differs
        rw [named, keeps]
        simpa using chosen
      · exact ⟨other, unchanged, rfl, rfl⟩
    · exact .inl ⟨row, present, rfl, rfl⟩

/-- A statement keeps the entry onions distinct. -/
theorem distinctEntries (changed : CredentialChange credentials entry after)
    (distinct : DistinctEntries credentials) : DistinctEntries after := by
  intro left leftStored right rightStored same
  by_contra differs
  obtain ⟨oldLeft, leftPresent, leftNamed, leftSame⟩ | ⟨-, free, others⟩ :=
    changed.origin leftStored
  · obtain ⟨oldRight, rightPresent, rightNamed, rightSame⟩ | ⟨-, free, -⟩ :=
      changed.origin rightStored
    · apply differs
      rw [← leftNamed, ← rightNamed]
      apply distinct oldLeft leftPresent oldRight rightPresent
      rw [leftSame, rightSame, same]
    · apply differs
      rw [← leftNamed]
      exact free oldLeft leftPresent (leftSame.trans same)
  · obtain ⟨oldRight, rightPresent, rightNamed, rightSame⟩ :=
      others right rightStored (Ne.symm differs)
    apply differs
    rw [← rightNamed]
    exact (free oldRight rightPresent (rightSame.trans same.symm)).symm

/-- A statement with a trimmed entry onion, or none, keeps the entry onions trimmed. -/
theorem trimmedEntries (changed : CredentialChange credentials entry after)
    (trimmed : TrimmedEntries credentials) (submits : ∀ text, entry = some text → Trimmed text) :
    TrimmedEntries after := by
  intro row stored
  obtain ⟨old, present, -, same⟩ | ⟨submitted, -, -⟩ := changed.origin stored
  · rw [← same]
    exact trimmed old present
  · exact submits _ submitted

end CredentialChange

namespace World

variable {Result : Type}

/-- A statement that failed kept the credentials; one that is done left those of its body. -/
theorem sql_credentials {parameters : List Parameter}
    (body : Int → TorTables → Except String (Result × TorTables))
    (world : World σ) {entry : Option String}
    (changes : ∀ result after, body world.now world.server.tables = .ok (result, after) →
      CredentialChange world.credentials entry after.credentials) :
    CredentialChange world.credentials entry (world.sql parameters body).2.credentials := by
  obtain ⟨error, failed⟩ | ⟨result, tables, -, -, computed, executed⟩ :=
    world.sql_cases parameters body
  · rw [failed]
    exact .kept entry
  · rw [executed]
    exact changes result tables computed

end World

/-- Sessions and tickets are stored without touching the credentials. -/
theorem TorTables.insertSession_credentials {columns : SessionRecord Int} {sessionKey : Uuid}
    {now : Int} {tables after : TorTables} {result : Unit}
    (done : tables.insertSession columns sessionKey now = .ok (result, after)) :
    after.credentials = tables.credentials := by
  unfold TorTables.insertSession at done
  split at done
  · cases done
  · split at done
    · cases done
      rfl
    · cases done

/-- Issuing a ticket leaves the credentials. -/
theorem TorTables.insertTicket_credentials {columns : TicketRecord Int} {now : Int}
    {tables after : TorTables} {result : TicketRow}
    (done : tables.insertTicket columns now = .ok (result, after)) :
    after.credentials = tables.credentials := by
  unfold TorTables.insertTicket at done
  split at done
  · cases done
  · split at done
    · cases done
    · split at done
      · cases done
        rfl
      · cases done

namespace TorTables

/-- The SET clause of `set_entry_onion`. -/
def rename (entryOnion : String) (guardNodes : List String) (now : Int) (row : TorCredential) :
    TorCredential :=
  { row with onionEntry := entryOnion, guardNodes := guardNodes, updatedAt := now }

/-- A new entry onion leaves the identifier of its credential. -/
@[simp] theorem rename_id (entryOnion : String) (guardNodes : List String) (now : Int)
    (row : TorCredential) : (rename entryOnion guardNodes now row).id = row.id := rfl

variable {id : Uuid} {entryOnion : String} {guardNodes : List String} {now : Int}
  {tables after : TorTables} {result : Unit}

/-- An UPDATE of an entry onion that is done found no other credential with it, unless it found no
credential to update. -/
theorem setEntryOnion_eq_ok
    (done : tables.setEntryOnion id entryOnion guardNodes now = .ok (result, after)) :
    after.credentials = tables.credentials.updateWhere (fun row => row.id = id)
        (rename entryOnion guardNodes now) (rename_id entryOnion guardNodes now) ∧
      (tables.credentials.find id = none ∨ tables.entryTaken id entryOnion = false) := by
  unfold setEntryOnion at done
  split at done
  · cases done
  · rename_i allowed
    cases done
    refine ⟨rfl, ?_⟩
    simpa [or_iff_not_imp_left, Option.isSome_iff_ne_none] using allowed

/-- A new entry onion is stored only where it is free and there is a credential to have it. -/
theorem setEntryOnion_change
    (done : tables.setEntryOnion id entryOnion guardNodes now = .ok (result, after)) :
    CredentialChange tables.credentials (some entryOnion) after.credentials := by
  obtain ⟨content, absent | free⟩ := setEntryOnion_eq_ok done
  · have unnamed := (Table.find_eq_none_iff _ _).mp absent
    rw [content, Table.updateWhere_eq_self (by simpa using unnamed)]
    exact .kept _
  · rw [content]
    exact .renamed id entryOnion _ _ (fun _ => rfl) (entryFree_of_not_taken free)

end TorTables

/-- Every statement changes the credentials in one of the five ways. -/
theorem exec_credentialChange (externals : Externals σ) (stmt : Statement) (world : World σ) :
    CredentialChange world.credentials (submittedEntry stmt)
      (exec externals stmt world).2.credentials := by
  have kept {Result : Type} {parameters : List Parameter}
      (body : Int → TorTables → Except String (Result × TorTables))
      (untouched : ∀ result after, body world.now world.server.tables = .ok (result, after) →
        after.credentials = world.credentials) :
      CredentialChange world.credentials none (world.sql parameters body).2.credentials := by
    refine world.sql_credentials body (fun result after done => ?_)
    rw [untouched result after done]
    exact .kept none
  cases stmt with
  | mintAeadKeyV2 params => exact .kept none
  | unwrapSecretV2 params => exact .kept none
  | renewLease handle seconds => exact .kept none
  | fillNonce => exact .kept none
  | newUuid => exact .kept none
  | utcNow => exact .kept none
  | selectCredential id => exact kept _ (fun _ _ done => by cases done; rfl)
  | selectCredentialByEntry onionEntry => exact kept _ (fun _ _ done => by cases done; rfl)
  | insertCredential row =>
    refine world.sql_credentials _ (fun result after done => ?_)
    obtain ⟨free, absent, content⟩ := TorTables.insertCredential_eq_ok done
    rw [content]
    exact .inserted row absent (entryFree_of_not_taken free)
  | upsertCredential row =>
    refine world.sql_credentials _ (fun result after done => ?_)
    obtain ⟨free, ⟨absent, content⟩ | ⟨-, content⟩⟩ := TorTables.upsertCredential_eq_ok done
    · rw [content]
      exact .inserted row absent (entryFree_of_not_taken free)
    · rw [content]
      exact .renamed row.id row.onionEntry _ _ (fun _ => rfl) (entryFree_of_not_taken free)
  | rotateOperationalOnion id newOnion guardNodes =>
    refine world.sql_credentials _ (fun result after done => ?_)
    cases done
    apply CredentialChange.revised id
    · exact fun _ => rfl
    · exact fun _ => rfl
  | setEntryOnion id entryOnion guardNodes =>
    exact world.sql_credentials _ (fun result after done => TorTables.setEntryOnion_change done)
  | updateDisabled id disabled =>
    refine world.sql_credentials _ (fun result after done => ?_)
    cases done
    apply CredentialChange.revised id
    · exact fun _ => rfl
    · exact fun _ => rfl
  | deleteCredential id =>
    refine world.sql_credentials _ (fun result after done => ?_)
    cases done
    exact .deleted _
  | selectSession id => exact kept _ (fun _ _ done => by cases done; rfl)
  | insertSession columns sessionKey =>
    exact kept _ (fun _ _ done => TorTables.insertSession_credentials done)
  | selectTicket id => exact kept _ (fun _ _ done => by cases done; rfl)
  | insertTicket columns =>
    exact kept _ (fun _ _ done => TorTables.insertTicket_credentials done)
  | updateRedeemed id onion => exact kept _ (fun _ _ done => by cases done; rfl)
  | updateExpired id => exact kept _ (fun _ _ done => by cases done; rfl)
  | deleteExpired retentionDays =>
    exact kept _ (fun _ _ done => by rw [TorTables.deleteExpired_eq_ok done]; rfl)

section Renaming

variable (externals : Externals σ) (world : World σ) (id : Uuid) (entryOnion : String)
  (guardNodes : List String)

/-- An UPDATE of an entry onion takes effect: the server is reachable and receives the texts, there
is a credential under the identifier, and no other has the entry onion. -/
def Renames : Prop :=
  world.server.outage = none ∧ Received (.text entryOnion :: guardNodes.map .text) ∧
    (world.credentials.find id).isSome = true ∧
    world.server.tables.entryTaken id entryOnion = false

variable {world id entryOnion guardNodes}

/-- An UPDATE that takes effect stores the text as it is. -/
theorem exec_setEntryOnion_of_renames (renames : Renames world id entryOnion guardNodes) :
    ∃ row ∈ (exec externals (.setEntryOnion id entryOnion guardNodes) world).2.credentials.rows,
      row.onionEntry = entryOnion := by
  obtain ⟨reachable, received, present, free⟩ := renames
  obtain ⟨stored, found⟩ := Option.isSome_iff_exists.mp present
  have content : (exec externals (.setEntryOnion id entryOnion guardNodes) world).2.credentials =
      world.credentials.updateWhere (fun row => row.id = id)
        (TorTables.rename entryOnion guardNodes world.now)
        (TorTables.rename_id entryOnion guardNodes world.now) := by
    have computed : TorTables.setEntryOnion id entryOnion guardNodes world.now
        world.server.tables = .ok ((), world.server.tables.updateCredential id
          (TorTables.rename entryOnion guardNodes world.now)
          (TorTables.rename_id entryOnion guardNodes world.now)) := by
      rw [TorTables.setEntryOnion, free, Bool.and_false]
      rfl
    simp only [exec, World.sql_of_received reachable received computed]
    rfl
  rw [content]
  refine ⟨TorTables.rename entryOnion guardNodes world.now stored, ?_, rfl⟩
  rw [Table.mem_updateWhere]
  refine .inl ⟨stored, Table.mem_of_find found, ?_, rfl⟩
  simpa using Table.key_of_find found

/-- An UPDATE that takes no effect keeps the credentials. -/
theorem exec_setEntryOnion_of_not_renames (ineffective : ¬ Renames world id entryOnion guardNodes) :
    (exec externals (.setEntryOnion id entryOnion guardNodes) world).2.credentials =
      world.credentials := by
  obtain ⟨error, failed⟩ | ⟨result, tables, reachable, received, computed, executed⟩ :=
    world.sql_cases (.text entryOnion :: guardNodes.map .text)
      (fun now tables => tables.setEntryOnion id entryOnion guardNodes now)
  · simp only [exec, failed]
  · simp only [exec, executed]
    obtain ⟨content, possible⟩ := TorTables.setEntryOnion_eq_ok computed
    have absent : world.server.tables.credentials.find id = none := by
      by_contra present
      exact ineffective
        ⟨reachable, received, Option.isSome_iff_ne_none.mpr present, possible.resolve_left present⟩
    have unnamed := (Table.find_eq_none_iff _ _).mp absent
    exact content.trans (Table.updateWhere_eq_self (by simpa using unnamed))

end Renaming

/-- The calls that manage credentials. -/
def Call.managesCredentials : Call → Bool
  | .rotateOperationalOnion _ _ _ | .setEntryOnion _ _ _
  | .importBootstrapTorCredential _ _ _ _ _ _ _ | .createTorCredential _ _ _ _ _ _
  | .updateTorCredentialDisabled _ _ | .deleteTorCredential _ => true
  | _ => false

/-- A call that manages credentials. -/
abbrev CredentialCall := { call : Call // call.managesCredentials = true }

/-- What a call may store as an entry onion by an INSERT or an upsert. -/
def SubmitsTrimmed (_ : List (Exchange Reply)) : Statement → Prop
  | .insertCredential row => Trimmed row.onionEntry
  | .upsertCredential row => Trimmed row.onionEntry
  | _ => True

/-- Creations and imports submit trimmed entry onions. -/
theorem CredentialCall.follows (aead : Aead tagLength) (call : CredentialCall) :
    (call.1.program aead).Follows SubmitsTrimmed (fun _ _ => True) [] := by
  obtain ⟨call, manages⟩ := call
  cases call with
  | rotateOperationalOnion id newOnion guardNodes =>
    exact ⟨trivial, by rintro (message | done) <;> trivial⟩
  | setEntryOnion id entryOnion guardNodes =>
    exact ⟨trivial, by rintro (message | done) <;> trivial⟩
  | importBootstrapTorCredential id entry hash tier rate expiresAt guardNodes =>
    refine ⟨trivial, fun now => ⟨trimmed_trim entry, ?_⟩⟩
    rintro (message | done) <;> trivial
  | createTorCredential entry hash tier rate expiresAt guardNodes =>
    refine ⟨trivial, fun id => ⟨trivial, fun now => ⟨trimmed_trim entry, ?_⟩⟩⟩
    rintro (message | done) <;> trivial
  | updateTorCredentialDisabled id disabled =>
    exact ⟨trivial, by rintro (message | done) <;> trivial⟩
  | deleteTorCredential id =>
    exact ⟨trivial, by rintro (message | done) <;> trivial⟩
  | fetchTorCredential onionEntry => cases manages
  | fetchTorCredentialById id => cases manages
  | recordTorSession session => cases manages
  | fetchTorSession id => cases manages
  | issueTorTicket ticket => cases manages
  | fetchTorTicketForVerification id => cases manages
  | getTorTicketStatus id => cases manages
  | markTorTicketRedeemed id onion => cases manages
  | expireTorTicketNow id => cases manages
  | gcExpiredTickets retentionDays => cases manages

/-- Entry onions are normalised: none has leading or trailing whitespace, and no two credentials
have entry onions that differ in surrounding whitespace only. -/
structure Normalised (credentials : Credentials) : Prop where
  trimmed : TrimmedEntries credentials
  separate : ∀ left ∈ credentials.rows, ∀ right ∈ credentials.rows,
    trim left.onionEntry = trim right.onionEntry → left = right

/-- Trimmed and distinct entry onions are normalised. -/
theorem normalised_of_distinct {credentials : Credentials} (distinct : DistinctEntries credentials)
    (trimmed : TrimmedEntries credentials) : Normalised credentials := by
  refine ⟨trimmed, ?_⟩
  intro left leftStored right rightStored same
  rw [trim_eq_self (trimmed left leftStored), trim_eq_self (trimmed right rightStored)] at same
  have named := distinct left leftStored right rightStored same
  exact List.inj_on_of_nodup_map credentials.distinct leftStored rightStored named

/-- A move that issues an UPDATE of an entry onion which takes effect has a trimmed text. -/
def RenamesTrimmed (run : TorRun σ) (move : Move (Drift σ)) : Prop :=
  ∀ index id entryOnion guardNodes resume, move = .call index →
    run.calls index = .issue (.setEntryOnion id entryOnion guardNodes) resume →
      Renames run.store id entryOnion guardNodes → Trimmed entryOnion

section Runs

variable (externals : Externals σ) (aead : Aead tagLength)

/-- What holds along a schedule: the calls keep their rule and the entry onions are distinct and
trimmed. -/
structure EntriesInvariant (run : TorRun σ) : Prop where
  lawful : Run.Lawful (fun _ => SubmitsTrimmed) (fun _ _ _ => True) run
  distinct : DistinctEntries run.store.credentials
  trimmed : TrimmedEntries run.store.credentials

/-- The surroundings leave the credentials alone. -/
theorem drift_credentials (act : Drift σ) (world : World σ) :
    ((machine externals).drift act world).credentials = world.credentials := by
  cases act with
  | server act =>
    cases act <;> rfl
  | outside next => rfl

/-- A move keeps the invariant if what it renames is trimmed. -/
theorem EntriesInvariant.step {run : TorRun σ} (invariant : EntriesInvariant run)
    {move : Move (Drift σ)} (renamesTrimmed : RenamesTrimmed run move) :
    EntriesInvariant (run.step (machine externals) move) := by
  refine ⟨invariant.lawful.step (machine externals) move, ?_, ?_⟩
  all_goals
    obtain same | ⟨act, -, moved⟩ | ⟨index, stmt, resume, called, current, moved⟩ :=
      Run.step_cases (machine externals) run move
  · rw [same]
    exact invariant.distinct
  · rw [moved, drift_credentials]
    exact invariant.distinct
  · rw [moved]
    exact (exec_credentialChange externals stmt run.store).distinctEntries invariant.distinct
  · rw [same]
    exact invariant.trimmed
  · rw [moved, drift_credentials]
    exact invariant.trimmed
  · rw [moved]
    have changed := exec_credentialChange externals stmt run.store
    have allowed := (invariant.lawful.issuing current).1
    -- Only an UPDATE can submit a text that is not trimmed, and then it takes no effect.
    cases stmt with
    | setEntryOnion id entryOnion guardNodes =>
      by_cases renames : Renames run.store id entryOnion guardNodes
      · apply changed.trimmedEntries invariant.trimmed
        rintro text ⟨⟩
        exact renamesTrimmed index id entryOnion guardNodes resume called current renames
      · simp only [machine_exec]
        rw [exec_setEntryOnion_of_not_renames externals renames]
        exact invariant.trimmed
    | insertCredential row =>
      apply changed.trimmedEntries invariant.trimmed
      rintro text ⟨⟩
      exact allowed
    | upsertCredential row =>
      apply changed.trimmedEntries invariant.trimmed
      rintro text ⟨⟩
      exact allowed
    | _ => exact changed.trimmedEntries invariant.trimmed (fun _ submitted => nomatch submitted)

/-- In every schedule of calls that manage credentials from an empty database, the entry onions
are normalised in every state reached if and only if every UPDATE of an entry onion that takes
effect has a trimmed text.

Proof: a text with blanks around it that an UPDATE stores is there in the state that follows.
If there is no such UPDATE, every statement stores trimmed entry onions, and trimmed ones that
are distinct are normalised: distinctness is the unique index of the column. -/
theorem entryOnions_normalised_iff (now : Int) (outside : σ) (calls : Nat → CredentialCall)
    (moves : List (Move (Drift σ))) :
    (∀ first last, moves = first ++ last → Normalised
        ((launch aead (World.migrated now outside) (fun index => (calls index).1)).play
          (machine externals) first).store.credentials) ↔
      Along (Run.step (machine externals)) RenamesTrimmed
        (launch aead (World.migrated now outside) (fun index => (calls index).1)) moves := by
  constructor
  · intro normalised
    rw [Along.iff_splits]
    rintro first move last rfl index id entryOnion guardNodes resume rfl current renames
    have reached := normalised (first ++ [.call index]) last (by simp)
    rw [Run.play_append, Run.play_cons, Run.play_nil] at reached
    obtain ⟨row, stored, same⟩ := exec_setEntryOnion_of_renames externals renames
    rw [← same]
    apply reached.trimmed
    simp only [Run.step, Run.play, current, machine_exec]
    exact stored
  · rintro along first last rfl
    have start : EntriesInvariant
        (launch aead (World.migrated now outside) (fun index => (calls index).1)) := by
      refine ⟨Run.lawful_play (machine externals) _ _ (fun index => (calls index).follows aead) [],
        ?_, ?_⟩
      · exact fun _ stored => absurd stored List.not_mem_nil
      · exact fun _ stored => absurd stored List.not_mem_nil
    have reached := ((Along.append_iff _ first last).mp along).1.invariant EntriesInvariant start
      (fun current move invariant renames => invariant.step externals renames)
    exact normalised_of_distinct reached.distinct reached.trimmed

end Runs

/-- Two imports with different entry onions, and an UPDATE that puts a blank before the first. -/
def padding : Nat → CredentialCall
  | 0 => ⟨.importBootstrapTorCredential (.last 1) "a" "hash" "tier" 30 none [], rfl⟩
  | 1 => ⟨.importBootstrapTorCredential (.last 2) "b" "hash" "tier" 30 none [], rfl⟩
  | _ => ⟨.setEntryOnion (.last 2) " a" [], rfl⟩

/-- The run of the two imports and the UPDATE, one after the other. -/
def padded : TorRun Unit :=
  (launch (Aead.framed tagLength) (World.migrated 0 ()) (fun index => (padding index).1)).play
    (machine (fixedExternals zeroLease zeroNonce))
    [.call 0, .call 0, .call 1, .call 1, .call 2]

/-- Afterwards one entry onion has a leading blank, and without it would be the other's. -/
theorem padded_not_normalised : ¬ Normalised padded.store.credentials := by
  intro normalised
  have entries : padded.store.credentials.rows.map TorCredential.onionEntry = ["a", " a"] := by
    decide +kernel
  obtain ⟨row, stored, blank⟩ : ∃ row ∈ padded.store.credentials.rows, row.onionEntry = " a" := by
    rw [← List.mem_map, entries]
    decide
  have solid := (normalised.trimmed row stored).1 ' ' (by rw [blank]; rfl)
  cases solid

end SecureDatabase.TorAuth
