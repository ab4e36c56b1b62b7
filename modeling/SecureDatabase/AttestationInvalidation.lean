import SecureDatabase.AttestationLog

/-!
# Invalidation of attestation artifacts

An invalidation takes two hexadecimal texts, the hash of a quote and an optional nonce. The
quote hash is read before any statement, and a text that is not hexadecimal ends the call with
nothing done. The nonce is read only after the cached decision has been deleted, and the two
DELETEs are not one transaction. A nonce that cannot be read therefore ends the call as an
integrity error with the decision already gone, if there was one.
-/

namespace SecureDatabase.Attestation

open Foundation Program

/-- A nonce argument that names no nonce: it is absent, or blank once trimmed. -/
def BlankNonce (nonceDigestHex : Option String) : Prop :=
  ∀ nonceHex, nonceDigestHex = some nonceHex → trim nonceHex = ""

/-- A nonce argument that is meant to name a nonce but cannot be read. -/
def UnreadableNonce (nonceDigestHex : Option String) : Prop :=
  ∃ nonceHex, nonceDigestHex = some nonceHex ∧ trim nonceHex ≠ "" ∧
    hexDecode (trim nonceHex) = none

/-- The nonce that an argument names. -/
def NamesNonce (nonceDigestHex : Option String) (nonceDigest : Bytes) : Prop :=
  ∃ nonceHex, nonceDigestHex = some nonceHex ∧ trim nonceHex ≠ "" ∧
    hexDecode (trim nonceHex) = some nonceDigest

/-- A nonce argument is blank, unreadable, or names one nonce. -/
theorem nonceArgument_cases (nonceDigestHex : Option String) :
    BlankNonce nonceDigestHex ∨ UnreadableNonce nonceDigestHex ∨
      ∃ nonceDigest, NamesNonce nonceDigestHex nonceDigest := by
  cases nonceDigestHex with
  | none => exact .inl (fun _ absent => nomatch absent)
  | some nonceHex =>
    by_cases blank : trim nonceHex = ""
    · refine .inl ?_
      rintro _ ⟨⟩
      exact blank
    · cases read : hexDecode (trim nonceHex) with
      | none => exact .inr (.inl ⟨nonceHex, rfl, blank, read⟩)
      | some nonceDigest => exact .inr (.inr ⟨nonceDigest, nonceHex, rfl, blank, read⟩)

/-- A server that answers every statement. -/
def reachable (now : Int) (tables : Tables) : Server Tables := ⟨now, none, tables⟩

variable (jsonb : Jsonb)

/-- Run an invalidation alone against a server that answers every statement. -/
def invalidate (quoteHashHex : String) (nonceDigestHex : Option String) (now : Int)
    (tables : Tables) : DbResult Unit × Server Tables :=
  (invalidateAttestationArtifacts quoteHashHex nonceDigestHex).run (machine jsonb).exec
    (reachable now tables)

section Outcomes

variable {quoteHashHex : String} {nonceDigestHex : Option String} {quoteHash nonceDigest : Bytes}
  (now : Int) (tables : Tables)

/-- An unreadable quote hash ends the call before its first statement. -/
theorem invalidate_of_unreadable (unreadable : hexDecode (trim quoteHashHex) = none) :
    invalidate jsonb quoteHashHex nonceDigestHex now tables =
      (.error (.integrity "invalid quote hash provided for attestation invalidation"),
        reachable now tables) := by
  simp only [invalidate, invalidateAttestationArtifacts, unreadable, okOr, ofExcept_error,
    failure_bind, run_failure]

/-- Without a nonce only the cached decision goes. -/
theorem invalidate_of_blank (read : hexDecode (trim quoteHashHex) = some quoteHash)
    (blank : BlankNonce nonceDigestHex) :
    invalidate jsonb quoteHashHex nonceDigestHex now tables =
      (.ok (), reachable now (tables.deleteDecision quoteHash)) := by
  cases nonceDigestHex with
  | none =>
    simp only [invalidate, invalidateAttestationArtifacts, read]
    rfl
  | some nonceHex =>
    have empty : (trim nonceHex).isEmpty = true := by
      rw [blank nonceHex rfl]
      rfl
    simp only [invalidate, invalidateAttestationArtifacts, read, empty, ↓reduceIte]
    rfl

/-- A text that is not empty does not pass for a missing one. -/
theorem isEmpty_eq_false {text : String} (inhabited : text ≠ "") : text.isEmpty = false := by
  simpa using inhabited

/-- An unreadable nonce ends the call after the cached decision is gone. -/
theorem invalidate_of_unreadableNonce (read : hexDecode (trim quoteHashHex) = some quoteHash)
    (unreadable : UnreadableNonce nonceDigestHex) :
    invalidate jsonb quoteHashHex nonceDigestHex now tables =
      (.error (.integrity "invalid nonce digest provided for attestation invalidation"),
        reachable now (tables.deleteDecision quoteHash)) := by
  obtain ⟨nonceHex, rfl, inhabited, undecoded⟩ := unreadable
  simp only [invalidate, invalidateAttestationArtifacts, read, isEmpty_eq_false inhabited,
    undecoded, Bool.false_eq_true, ↓reduceIte]
  rfl

/-- With a nonce both rows go. -/
theorem invalidate_of_namesNonce (read : hexDecode (trim quoteHashHex) = some quoteHash)
    (names : NamesNonce nonceDigestHex nonceDigest) :
    invalidate jsonb quoteHashHex nonceDigestHex now tables =
      (.ok (), reachable now ((tables.deleteDecision quoteHash).deleteNonce nonceDigest)) := by
  obtain ⟨nonceHex, rfl, inhabited, decoded⟩ := names
  simp only [invalidate, invalidateAttestationArtifacts, read, isEmpty_eq_false inhabited,
    decoded, Bool.false_eq_true, ↓reduceIte]
  rfl

end Outcomes

/-- All or nothing on bad input: an integrity error leaves both tables as they were, and a
success removes the named rows and no others. -/
structure AllOrNothing (quoteHashHex : String) (nonceDigestHex : Option String) (before : Tables)
    (result : DbResult Unit) (after : Tables) : Prop where
  refused : ∀ message, result = .error (.integrity message) → after = before
  cleared : result = .ok () → ∃ quoteHash, hexDecode (trim quoteHashHex) = some quoteHash ∧
    ∀ row, row ∈ after.cache.rows ↔ row ∈ before.cache.rows ∧ row.quoteHash ≠ quoteHash
  unnamed : result = .ok () → BlankNonce nonceDigestHex → after.nonceLog = before.nonceLog
  named : result = .ok () → ¬ BlankNonce nonceDigestHex →
    ∃ nonceDigest, NamesNonce nonceDigestHex nonceDigest ∧
      ∀ row, row ∈ after.nonceLog.rows ↔
        row ∈ before.nonceLog.rows ∧ row.nonceDigest ≠ nonceDigest

namespace Tables

/-- The deletion of a decision takes the rows of that quote and no others. -/
theorem mem_deleteDecision (quoteHash : Bytes) (tables : Tables) (row : DecisionRow) :
    row ∈ (tables.deleteDecision quoteHash).cache.rows ↔
      row ∈ tables.cache.rows ∧ row.quoteHash ≠ quoteHash := by
  simp [deleteDecision]

/-- The deletion of a nonce takes the entries of that digest and no others. -/
theorem mem_deleteNonce (nonceDigest : Bytes) (tables : Tables) (row : NonceRow) :
    row ∈ (tables.deleteNonce nonceDigest).nonceLog.rows ↔
      row ∈ tables.nonceLog.rows ∧ row.nonceDigest ≠ nonceDigest := by
  simp [deleteNonce]

/-- Deleting a decision changes nothing exactly when there is none for the quote. -/
theorem deleteDecision_eq_self_iff (quoteHash : Bytes) (tables : Tables) :
    tables.deleteDecision quoteHash = tables ↔ tables.cache.find quoteHash = none := by
  constructor
  · intro same
    rw [Table.find_eq_none_iff]
    intro row stored
    rw [← same, mem_deleteDecision] at stored
    exact stored.2
  · intro absent
    have kept : tables.cache.rows.filter (fun row => !decide (row.quoteHash = quoteHash)) =
        tables.cache.rows := by
      rw [List.filter_eq_self]
      intro row stored
      simpa using (Table.find_eq_none_iff _ _).mp absent row stored
    obtain ⟨nonceLog, rows, distinct⟩ := tables
    simp only [deleteDecision, Table.deleteWhere, Tables.mk.injEq, Table.mk.injEq, true_and]
    exact kept

end Tables

/-- A nonce that names a digest is not blank, so the call gets to its second deletion. -/
theorem NamesNonce.not_blank {nonceDigestHex : Option String} {nonceDigest : Bytes}
    (names : NamesNonce nonceDigestHex nonceDigest) : ¬ BlankNonce nonceDigestHex := by
  obtain ⟨nonceHex, rfl, inhabited, -⟩ := names
  exact fun blank => inhabited (blank nonceHex rfl)

/-- The arguments and tables at which an invalidation stops halfway: the quote hash names a
cached decision and the nonce cannot be read. -/
def StopsHalfway (quoteHashHex : String) (nonceDigestHex : Option String) (tables : Tables) :
    Prop :=
  UnreadableNonce nonceDigestHex ∧ ∃ quoteHash, hexDecode (trim quoteHashHex) = some quoteHash ∧
    (tables.cache.find quoteHash).isSome = true

/-- An invalidation is all or nothing unless it deletes a decision before it finds that it
cannot read the nonce.

Proof: what a call does is decided by the quote hash and the nonce: unreadable hash, no nonce,
unreadable nonce, or both read. Only in the third case has a statement been executed before
the error, and it has changed nothing exactly when no decision was stored. -/
theorem invalidate_allOrNothing_iff (quoteHashHex : String) (nonceDigestHex : Option String)
    (now : Int) (tables : Tables) :
    AllOrNothing quoteHashHex nonceDigestHex tables
        (invalidate jsonb quoteHashHex nonceDigestHex now tables).1
        (invalidate jsonb quoteHashHex nonceDigestHex now tables).2.tables ↔
      ¬ StopsHalfway quoteHashHex nonceDigestHex tables := by
  cases read : hexDecode (trim quoteHashHex) with
  | none =>
    rw [invalidate_of_unreadable jsonb now tables read]
    refine iff_of_true ⟨fun _ _ => rfl, nofun, nofun, nofun⟩ ?_
    rintro ⟨-, quoteHash, decoded, -⟩
    rw [read] at decoded
    cases decoded
  | some quoteHash =>
    rcases nonceArgument_cases nonceDigestHex with blank | unreadable | ⟨nonceDigest, names⟩
    · rw [invalidate_of_blank jsonb now tables read blank]
      refine iff_of_true ⟨nofun, ?_, fun _ _ => rfl, fun _ inhabited => absurd blank inhabited⟩ ?_
      · exact fun _ => ⟨quoteHash, read, Tables.mem_deleteDecision quoteHash tables⟩
      · rintro ⟨⟨nonceHex, rfl, inhabited, -⟩, -⟩
        exact inhabited (blank nonceHex rfl)
    · rw [invalidate_of_unreadableNonce jsonb now tables read unreadable]
      constructor
      · rintro whole ⟨-, other, decoded, cached⟩
        rw [read] at decoded
        cases decoded
        have absent := (Tables.deleteDecision_eq_self_iff quoteHash tables).mp
          (whole.refused _ rfl)
        rw [absent] at cached
        cases cached
      · intro complete
        refine ⟨fun _ _ => ?_, nofun, nofun, nofun⟩
        apply (Tables.deleteDecision_eq_self_iff quoteHash tables).mpr
        rw [← Option.not_isSome_iff_eq_none]
        exact fun cached => complete ⟨unreadable, quoteHash, read, cached⟩
    · rw [invalidate_of_namesNonce jsonb now tables read names]
      refine iff_of_true ⟨nofun, ?_, fun _ blank => absurd blank names.not_blank, ?_⟩ ?_
      · exact fun _ => ⟨quoteHash, read, Tables.mem_deleteDecision quoteHash tables⟩
      · exact fun _ _ => ⟨nonceDigest, names, Tables.mem_deleteNonce nonceDigest _⟩
      · rintro ⟨⟨nonceHex, rfl, -, undecoded⟩, -⟩
        obtain ⟨_, ⟨⟩, -, decoded⟩ := names
        rw [undecoded] at decoded
        cases decoded

/-- A cache with one decision, for the quote hash `ab`. -/
def oneDecision : Tables where
  nonceLog := .empty
  cache := ⟨[⟨[0xab], "sgx", .null, 0⟩], by simp⟩

/-- The quote hash `ab` with the nonce `zz` is an integrity error, and the decision is gone. -/
theorem invalidate_stops_halfway :
    ¬ AllOrNothing "ab" (some "zz") oneDecision (invalidate .ok "ab" (some "zz") 0 oneDecision).1
      (invalidate .ok "ab" (some "zz") 0 oneDecision).2.tables := by
  intro whole
  have unchanged : (invalidate .ok "ab" (some "zz") 0 oneDecision).2.tables = oneDecision := by
    apply whole.refused "invalid nonce digest provided for attestation invalidation"
    decide +kernel
  have rows : (invalidate .ok "ab" (some "zz") 0 oneDecision).2.tables.cache.rows.length = 0 := by
    decide +kernel
  rw [unchanged] at rows
  cases rows

end SecureDatabase.Attestation
