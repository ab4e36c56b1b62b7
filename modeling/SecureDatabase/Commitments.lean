import SecureDatabase.CircuitCompleteness
import SecureDatabase.PallasField

/-!
# What the commitments bind

A commitment is one scalar, computed from the scalars of digests and from counts. Here is what
it determines: when the equality of two scalars is the equality of two digests, when a change
to one part of a log chain changes its commitment, and which parts of a relay audit or of an
execution share one.
-/

namespace SecureDatabase.Zk

open Foundation Plonkish

/-- The scalar of octets of any length. -/
def scalarOf (digest : Bytes) : Fp := digestToScalar (normaliseDigest digest)

/-- A digest of the right length is not hashed. -/
theorem normaliseDigest_of_size {digest : Bytes} (size : digest.length = 32) :
    normaliseDigest digest = ⟨digest, size⟩ := dif_pos size

/-- Every scalar is the scalar of some octets. -/
theorem scalarOf_scalarToBytes (scalar : Fp) : scalarOf (scalarToBytes scalar) = scalar := by
  have size : (scalarToBytes scalar).length = 32 := length_leBytes 32 _
  rw [scalarOf, normaliseDigest_of_size size]
  exact digestToScalar_ofScalar scalar

/-- Different scalars have different encodings, so commitments are compared as scalars. -/
theorem scalarToBytes_injective {left right : Fp} (same : scalarToBytes left = scalarToBytes right) :
    left = right := by
  have read := congrArg scalarFromBytes same
  rw [scalarFromBytes_scalarToBytes, scalarFromBytes_scalarToBytes] at read
  exact Except.ok.inj read

section Equality

/-- The gate and the copy of the equality circuit hold of the row that the prover assigns. -/
def EqualityConstraint (privateDigest expectedDigest : Bytes) : Prop :=
  ∃ task, digestEqualityTask privateDigest expectedDigest = .ok task ∧
    ∀ rows usable blinding, 0 < usable → usable ≤ rows →
      let table := proverTable usable task.circuit.layout task.instanceColumns blinding
      GatesHold task.circuit.constraints rows table 0 ∧
        ∀ copied ∈ task.circuit.layout.copies, CopyHolds task.circuit.constraints table copied

/-- The equality circuit compares scalars, and nothing else of the digests. -/
theorem equalityConstraint_iff (privateDigest expectedDigest : Bytes) :
    EqualityConstraint privateDigest expectedDigest ↔
      scalarOf privateDigest = scalarOf expectedDigest := by
  have value (usable : Nat) (blinding : Nat → Nat → Fp) (first : 0 < usable) :
      proverTable usable (AssignedCircuit.scalarEquality ⟨scalarOf privateDigest⟩).layout
        [[scalarOf expectedDigest]] blinding (.advice 0) 0 = scalarOf privateDigest :=
    proverTable_top first rfl
  constructor
  · rintro ⟨task, derived, holds⟩
    cases derived
    have gate := (gatesHold_iff Nat.one_pos _).mp (holds 1 1 (fun _ _ => 0) Nat.one_pos le_rfl).1
    exact (value 1 (fun _ _ => 0) Nat.one_pos).symm.trans gate
  · intro same
    refine ⟨_, rfl, ?_⟩
    intro rows usable blinding first within
    have gate := (value usable blinding first).trans same
    refine ⟨(gatesHold_iff (first.trans_le within) _).mpr gate, ?_⟩
    intro copied member
    obtain rfl := List.mem_singleton.mp member
    exact ⟨List.mem_cons_self, List.mem_cons_of_mem _ List.mem_cons_self, gate⟩

/-- For all digests: the constraint on the values that the prover assigns holds exactly when
the normalised digests are equal, if and only if the numbers that the digests denote do not
differ by one, two or three times the modulus.

Proof: the constraint compares scalars, and two digests have one scalar when their numbers are
equal or differ by a multiple of the modulus that fits in the octets. The second case is what
the constraint admits beyond equality, and it excludes the first. -/
theorem equalityConstraint_iff_equal_iff (privateDigest expectedDigest : Bytes) :
    (EqualityConstraint privateDigest expectedDigest ↔
        normaliseDigest privateDigest = normaliseDigest expectedDigest) ↔
      ¬ Wrapped (normaliseDigest privateDigest).number (normaliseDigest expectedDigest).number := by
  rw [equalityConstraint_iff, scalarOf, scalarOf, digestToScalar_eq_iff]
  constructor
  · intro exact wrapped
    have equal := exact.mp (.inr wrapped)
    rw [equal] at wrapped
    exact not_wrapped_self _ wrapped
  · intro apart
    simp [apart]

/-- The digests of the numbers zero and the modulus satisfy the constraint and differ. -/
theorem not_equalityConstraint_iff_equal :
    ¬ (EqualityConstraint (leBytes 32 0) (leBytes 32 modulus) ↔
        normaliseDigest (leBytes 32 0) = normaliseDigest (leBytes 32 modulus)) := by
  have wrapped : Wrapped (normaliseDigest (leBytes 32 0)).number
      (normaliseDigest (leBytes 32 modulus)).number := by
    decide +kernel
  intro exact
  have equal := exact.mp ((equalityConstraint_iff _ _).mpr
    ((digestToScalar_eq_iff _ _).mpr (.inr wrapped)))
  rw [equal] at wrapped
  exact not_wrapped_self _ wrapped

end Equality

section LogChain

/-- Replacing one part of a log chain by one with another scalar changes the commitment. -/
structure LogTamperEvident (previousHash entryHash : Bytes) (sequenceNumber : UInt64) : Prop where
  previous : ∀ other, scalarOf other ≠ scalarOf previousHash →
    deriveLogChainCommitment other entryHash sequenceNumber ≠
      deriveLogChainCommitment previousHash entryHash sequenceNumber
  entry : ∀ other, scalarOf other ≠ scalarOf entryHash →
    deriveLogChainCommitment previousHash other sequenceNumber ≠
      deriveLogChainCommitment previousHash entryHash sequenceNumber
  sequence : ∀ other : UInt64, (other.toNat : Fp) ≠ (sequenceNumber.toNat : Fp) →
    deriveLogChainCommitment previousHash entryHash other ≠
      deriveLogChainCommitment previousHash entryHash sequenceNumber

/-- Two commitments of log entries are equal exactly when the sums that the gate binds
are. -/
theorem deriveLogChainCommitment_eq_iff (previous previous' entry entry' : Bytes)
    (sequence sequence' : UInt64) :
    deriveLogChainCommitment previous entry sequence =
        deriveLogChainCommitment previous' entry' sequence' ↔
      scalarOf previous + scalarOf entry * (sequence.toNat : Fp) =
        scalarOf previous' + scalarOf entry' * (sequence'.toNat : Fp) := by
  constructor
  · intro same
    exact scalarToBytes_injective same
  · intro same
    exact congrArg scalarToBytes same

/-- A sequence number is below the modulus. -/
theorem sequence_cast_injective {left right : UInt64}
    (same : (left.toNat : Fp) = (right.toNat : Fp)) : left = right := by
  have bound : 2 ^ 64 < modulus := by decide
  have small (number : UInt64) : number.toNat < modulus := number.toNat_lt.trans bound
  have values := congrArg ZMod.val same
  rw [ZMod.val_natCast_of_lt (small left), ZMod.val_natCast_of_lt (small right)] at values
  exact UInt64.toNat_inj.mp values

/-- A sequence number of 64 bits is smaller than the field, so only zero becomes zero. -/
theorem sequence_cast_eq_zero_iff (sequence : UInt64) :
    (sequence.toNat : Fp) = 0 ↔ sequence = 0 := by
  constructor
  · intro zero
    exact sequence_cast_injective (zero.trans Nat.cast_zero.symm)
  · intro zero
    rw [zero]
    exact Nat.cast_zero

/-- A digest has the scalar zero exactly when its number is a multiple of the modulus. -/
theorem digestToScalar_eq_zero_iff (digest : Digest) :
    digestToScalar digest = 0 ↔ ∃ times < 4, digest.number = times * modulus := by
  rw [digestToScalar_eq, ZMod.natCast_eq_zero_iff]
  constructor
  · rintro ⟨times, number⟩
    rw [mul_comm] at number
    have bounded := digest.number_lt
    rw [number] at bounded
    exact ⟨times, Nat.lt_of_mul_lt_mul_right bounded, number⟩
  · rintro ⟨times, -, number⟩
    exact ⟨times, number.trans (mul_comm _ _)⟩

section Evident

variable {previousHash entryHash : Bytes} {sequenceNumber : UInt64}
  (evident : LogTamperEvident previousHash entryHash sequenceNumber)

include evident

/-- With the sequence number zero, any other entry has the same commitment. -/
theorem LogTamperEvident.sequence_ne_zero : (sequenceNumber.toNat : Fp) ≠ 0 := by
  intro zero
  apply evident.entry (scalarToBytes (scalarOf entryHash + 1))
  · rw [scalarOf_scalarToBytes]
    simp
  · rw [deriveLogChainCommitment_eq_iff, zero, mul_zero, mul_zero]

/-- With the scalar of the entry zero, any other sequence number has the same commitment. -/
theorem LogTamperEvident.entry_ne_zero : scalarOf entryHash ≠ 0 := by
  intro zero
  apply evident.sequence (sequenceNumber + 1)
  · intro same
    have next := sequence_cast_injective same
    simp at next
  · rw [deriveLogChainCommitment_eq_iff, zero, zero_mul, zero_mul]

end Evident

/-- For every previous hash, entry hash and sequence number: replacing exactly one of them by a
value with another scalar changes the commitment, if and only if the sequence number is not
zero and the number that the entry's digest denotes is not a multiple of the modulus.

Proof: the previous hash is a summand, so it never cancels. The entry and the sequence number
are the factors of a product in a field, so each cancels exactly when the other is not zero;
and there is another scalar to replace either with. -/
theorem logTamperEvident_iff (previousHash entryHash : Bytes) (sequenceNumber : UInt64) :
    LogTamperEvident previousHash entryHash sequenceNumber ↔
      sequenceNumber ≠ 0 ∧
        ∀ times < 4, (normaliseDigest entryHash).number ≠ times * modulus := by
  have nonzero : (∀ times < 4, (normaliseDigest entryHash).number ≠ times * modulus) ↔
      scalarOf entryHash ≠ 0 := by
    rw [scalarOf, ne_eq, digestToScalar_eq_zero_iff]
    push Not
    rfl
  rw [nonzero, ne_eq, ← sequence_cast_eq_zero_iff]
  constructor
  · intro evident
    exact ⟨evident.sequence_ne_zero, evident.entry_ne_zero⟩
  · rintro ⟨sequence, entry⟩
    constructor
    · intro other different
      rw [ne_eq, deriveLogChainCommitment_eq_iff, add_left_inj]
      exact different
    · intro other different
      rw [ne_eq, deriveLogChainCommitment_eq_iff, add_right_inj]
      exact fun same => different (mul_right_cancel₀ sequence same)
    · intro other different
      rw [ne_eq, deriveLogChainCommitment_eq_iff, add_right_inj]
      exact fun same => different (mul_left_cancel₀ entry same)

/-- The hashes of the formula's test at sequence number zero: the entry is not bound. -/
theorem not_logTamperEvident_zero : ¬ LogTamperEvident (utf8 "prev") (utf8 "entry") 0 := by
  intro evident
  exact evident.sequence_ne_zero Nat.cast_zero

end LogChain

section Counts

/-- Over one digest two commitments of audits are equal exactly when the total number of
relays is; the sums cannot wrap around the field. -/
theorem deriveRelayCommitment_eq_iff (digest : Bytes) (guard exit guard' exit' : UInt32) :
    deriveRelayCommitment digest guard exit = deriveRelayCommitment digest guard' exit' ↔
      guard.toNat + exit.toNat = guard'.toNat + exit'.toNat := by
  have bound : 2 ^ 32 + 2 ^ 32 < modulus := by decide
  have small (left right : UInt32) : left.toNat + right.toNat < modulus := by
    have first := left.toNat_lt
    have second := right.toNat_lt
    omega
  constructor
  · intro same
    have sums := scalarToBytes_injective same
    rw [add_assoc, add_assoc, add_right_inj, ← Nat.cast_add, ← Nat.cast_add] at sums
    have values := congrArg ZMod.val sums
    rwa [ZMod.val_natCast_of_lt (small _ _), ZMod.val_natCast_of_lt (small _ _)] at values
  · intro sums
    apply congrArg scalarToBytes
    rw [add_assoc, add_assoc, ← Nat.cast_add, ← Nat.cast_add, sums]

/-- Two commitments of executions are equal exactly when the sums of their scalars are. -/
theorem deriveExecutionCommitment_eq_iff (input output telemetry input' output' telemetry' : Bytes) :
    deriveExecutionCommitment input output telemetry =
        deriveExecutionCommitment input' output' telemetry' ↔
      scalarOf input + scalarOf output + scalarOf telemetry =
        scalarOf input' + scalarOf output' + scalarOf telemetry' := by
  constructor
  · intro same
    exact scalarToBytes_injective same
  · intro same
    exact congrArg scalarToBytes same

/-- A relay commitment binds the sum of its counts and no more: for every digest and all
counts, two commitments are equal exactly when the sums are. An execution commitment binds the
sum of its three scalars: two are equal exactly when the sums are, so exchanging input, output
and telemetry in any way leaves it the same.

Proof: both derivations encode one field element, and the encoding is injective. The counts
are too small for their sum to wrap around the modulus; for the scalars the sum in the field
is all there is, and it does not depend on their order. -/
theorem commitments_bind_sums (consensusDigest : Bytes) (guard exit guard' exit' : UInt32)
    (input output telemetry input' output' telemetry' : Bytes) :
    (deriveRelayCommitment consensusDigest guard exit =
        deriveRelayCommitment consensusDigest guard' exit' ↔
      guard.toNat + exit.toNat = guard'.toNat + exit'.toNat) ∧
    (deriveExecutionCommitment input output telemetry =
        deriveExecutionCommitment input' output' telemetry' ↔
      scalarOf input + scalarOf output + scalarOf telemetry =
        scalarOf input' + scalarOf output' + scalarOf telemetry') ∧
    ([input', output', telemetry'].Perm [input, output, telemetry] →
      deriveExecutionCommitment input output telemetry =
        deriveExecutionCommitment input' output' telemetry') := by
  refine ⟨deriveRelayCommitment_eq_iff _ _ _ _ _, deriveExecutionCommitment_eq_iff _ _ _ _ _ _, ?_⟩
  intro exchanged
  rw [deriveExecutionCommitment_eq_iff]
  have sums := (exchanged.map scalarOf).sum_eq
  simp only [List.map_cons, List.map_nil, List.sum_cons, List.sum_nil, add_zero] at sums
  rw [add_assoc, add_assoc, sums]

/-- The values of the formula's test, with input and output exchanged. -/
theorem commitments_bind_sums_exchanged :
    [utf8 "output", utf8 "input", utf8 "telemetry"].Perm
        [utf8 "input", utf8 "output", utf8 "telemetry"] ∧
      deriveExecutionCommitment (utf8 "input") (utf8 "output") (utf8 "telemetry") =
        deriveExecutionCommitment (utf8 "output") (utf8 "input") (utf8 "telemetry") := by
  have exchanged : [utf8 "output", utf8 "input", utf8 "telemetry"].Perm
      [utf8 "input", utf8 "output", utf8 "telemetry"] := List.Perm.swap _ _ _
  exact ⟨exchanged, (commitments_bind_sums [] 0 0 0 0 _ _ _ _ _ _).2.2 exchanged⟩

/-- Five guards and seven exits have the commitment of seven guards and five exits, and an
input and an output of 32 octets can be exchanged. -/
theorem commitments_shared :
    (deriveRelayCommitment (utf8 "consensus-root") 5 7 =
        deriveRelayCommitment (utf8 "consensus-root") 7 5 ∧
      ((5 : UInt32), (7 : UInt32)) ≠ (7, 5)) ∧
    [leBytes 32 2, leBytes 32 1, leBytes 32 3].Perm
      [leBytes 32 1, leBytes 32 2, leBytes 32 3] ∧
    deriveExecutionCommitment (leBytes 32 1) (leBytes 32 2) (leBytes 32 3) =
      deriveExecutionCommitment (leBytes 32 2) (leBytes 32 1) (leBytes 32 3) ∧
    (leBytes 32 2, leBytes 32 1, leBytes 32 3) ≠ (leBytes 32 1, leBytes 32 2, leBytes 32 3) := by
  refine ⟨⟨?_, by decide⟩, List.Perm.swap _ _ _, ?_, by decide⟩
  · rw [deriveRelayCommitment_eq_iff]
    rfl
  · rw [deriveExecutionCommitment_eq_iff]
    ring

end Counts

end SecureDatabase.Zk
