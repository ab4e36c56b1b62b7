import Mathlib.Tactic.NormNum.Prime
import SecureDatabase.Foundation.Primality
import SecureDatabase.ZkProver

/-!
# The field of the scalars

The modulus is prime, so the scalars have no zero divisors. A digest stands for the residue of
the number that its octets denote, least significant first. The modulus is a little above a
quarter of the range of those numbers, so up to four digests share a scalar.
-/

namespace SecureDatabase.Zk

open Foundation

section Prime

/-- The factor of `modulus - 1` with twenty-one digits. -/
theorem prime_539204044132271846773 : (539204044132271846773).Prime := by
  have twelve : (417677162933).Prime := by
    apply PrimeCertificate.prime ⟨2, [2, 2, 59, 1973, 897019], 39,
      by decide, by decide, by decide +kernel, by decide +kernel, by decide +kernel⟩
    simp only [List.forall_mem_cons, List.not_mem_nil, false_implies, implies_true, and_true]
    exact ⟨Nat.prime_two, Nat.prime_two, by norm_num, by norm_num, by norm_num⟩
  apply PrimeCertificate.prime ⟨5, [2, 2, 3, 3, 3, 3, 3, 89, 14923, 417677162933], 69,
    by decide, by decide, by decide +kernel, by decide +kernel, by decide +kernel⟩
  simp only [List.forall_mem_cons, List.not_mem_nil, false_implies, implies_true, and_true]
  exact ⟨Nat.prime_two, Nat.prime_two, Nat.prime_three, Nat.prime_three, Nat.prime_three,
    Nat.prime_three, Nat.prime_three, by norm_num, by norm_num, twelve⟩

/-- The factor of `modulus - 1` with forty-three digits. -/
theorem prime_8999194758858563409123804352480028797519453 :
    (8999194758858563409123804352480028797519453).Prime := by
  have eleven : (22160661629).Prime := by
    apply PrimeCertificate.prime ⟨3, [2, 2, 7, 19, 41655379], 35,
      by decide, by decide, by decide +kernel, by decide +kernel, by decide +kernel⟩
    simp only [List.forall_mem_cons, List.not_mem_nil, false_implies, implies_true, and_true]
    exact ⟨Nat.prime_two, Nat.prime_two, by norm_num, by norm_num, by norm_num⟩
  have fifteen : (325086459374267).Prime := by
    apply PrimeCertificate.prime ⟨2, [2, 509, 413527, 772231], 49,
      by decide, by decide, by decide +kernel, by decide +kernel, by decide +kernel⟩
    simp only [List.forall_mem_cons, List.not_mem_nil, false_implies, implies_true, and_true]
    exact ⟨Nat.prime_two, by norm_num, by norm_num, by norm_num⟩
  apply PrimeCertificate.prime
    ⟨2, [2, 2, 3, 3, 3, 3, 11, 2531, 115603, 1197907, 22160661629, 325086459374267], 143,
      by decide, by decide, by decide +kernel, by decide +kernel, by decide +kernel⟩
  simp only [List.forall_mem_cons, List.not_mem_nil, false_implies, implies_true, and_true]
  exact ⟨Nat.prime_two, Nat.prime_two, Nat.prime_three, Nat.prime_three, Nat.prime_three,
    Nat.prime_three, by norm_num, by norm_num, by norm_num, by norm_num, eleven, fifteen⟩

/-- The order of the Pallas base field is prime. -/
theorem prime_modulus : modulus.Prime := by
  apply PrimeCertificate.prime ⟨5, List.replicate 32 2 ++
      [3, 463, 539204044132271846773, 8999194758858563409123804352480028797519453], 255,
    by decide, by decide, by decide +kernel, by decide +kernel, by decide +kernel⟩
  simp only [List.forall_mem_append, List.forall_mem_cons, List.not_mem_nil, false_implies,
    implies_true, and_true]
  refine ⟨?_, Nat.prime_three, by norm_num, prime_539204044132271846773,
    prime_8999194758858563409123804352480028797519453⟩
  intro factor two
  rw [List.eq_of_mem_replicate two]
  exact Nat.prime_two

/-- The modulus is prime, so the scalars are a field. -/
instance : Fact modulus.Prime := ⟨prime_modulus⟩

end Prime

section LittleEndian

/-- Octets denote a number below the power of their count. -/
theorem littleEndian_lt (octets : Bytes) : littleEndian octets < 256 ^ octets.length := by
  induction octets with
  | nil => decide
  | cons octet octets ih =>
    have small : octet.toNat < 256 := octet.toNat_lt
    rw [littleEndian, List.length_cons, pow_succ]
    omega

/-- Octets in a row denote the first number, and the second above it. -/
theorem littleEndian_append (low high : Bytes) :
    littleEndian (low ++ high) = littleEndian low + 256 ^ low.length * littleEndian high := by
  induction low with
  | nil => simp [littleEndian]
  | cons octet octets ih =>
    rw [List.cons_append, littleEndian, littleEndian, ih, List.length_cons, pow_succ]
    ring

/-- Octets are determined by their length and the number they denote. -/
theorem littleEndian_injective {left right : Bytes} (size : left.length = right.length)
    (same : littleEndian left = littleEndian right) : left = right := by
  induction left generalizing right with
  | nil => exact (List.length_eq_zero_iff.mp size.symm).symm
  | cons octet octets ih =>
    cases right with
    | nil => cases size
    | cons other others =>
      have first : octet.toNat < 256 := octet.toNat_lt
      have second : other.toNat < 256 := other.toNat_lt
      simp only [littleEndian] at same
      have head : octet = other := UInt8.toNat_inj.mp (by omega)
      have tail : octets = others := ih (Nat.succ.inj size) (by omega)
      rw [head, tail]

/-- Eight octets fit the word they are read into. -/
theorem toNat_fromLeBytes {octets : Bytes} (size : octets.length ≤ 8) :
    (fromLeBytes octets).toNat = littleEndian octets := by
  have fits : littleEndian octets < 2 ^ 64 :=
    (littleEndian_lt octets).trans_le (Nat.pow_le_pow_right (by decide) size)
  rw [fromLeBytes, UInt64.toNat_ofNat', Nat.mod_eq_of_lt fits]

end LittleEndian

namespace Digest

/-- The number that the octets of a digest denote. -/
def number (digest : Digest) : Nat := littleEndian digest.octets

/-- Thirty-two octets hold less than four times the modulus. -/
theorem number_lt (digest : Digest) : digest.number < 4 * modulus := by
  have below := littleEndian_lt digest.octets
  rw [digest.size] at below
  exact below.trans (by decide)

/-- Different digests are different numbers. -/
theorem number_injective {left right : Digest} (same : left.number = right.number) :
    left = right := by
  have octets := littleEndian_injective (left.size.trans right.size.symm) same
  cases left
  cases right
  cases octets
  rfl

/-- Every scalar is the scalar of a digest. -/
def ofScalar (scalar : Fp) : Digest := ⟨scalarToBytes scalar, length_leBytes 32 _⟩

/-- The encoding of a scalar denotes its least representative. -/
theorem number_ofScalar (scalar : Fp) : (ofScalar scalar).number = scalar.val :=
  littleEndian_leBytes 32 _ ((ZMod.val_lt scalar).trans (by decide))

end Digest

/-- The four limbs of a digest put together are its number. -/
theorem digestToScalar_eq (digest : Digest) : digestToScalar digest = (digest.number : Fp) := by
  obtain ⟨octets, size⟩ := digest
  have limb (part : Bytes) : (part.take 8).length ≤ 8 := List.length_take_le _ _
  have split (part : Bytes) (enough : 8 ≤ part.length) : littleEndian part =
      littleEndian (part.take 8) + 2 ^ 64 * littleEndian (part.drop 8) := by
    have eight : (part.take 8).length = 8 := List.length_take_of_le enough
    have word : 256 ^ 8 = 2 ^ 64 := by decide
    conv_lhs => rw [← List.take_append_drop 8 part, littleEndian_append, eight, word]
  have last : octets.drop 24 = (octets.drop 24).take 8 :=
    (List.take_of_length_le (by simp [size])).symm
  have first := split octets (by omega)
  have second := split (octets.drop 8) (by simp [size])
  have third := split (octets.drop 16) (by simp [size])
  rw [List.drop_drop] at second third
  rw [digestToScalar, fromRaw, toNat_fromLeBytes (limb _), toNat_fromLeBytes (limb _),
    toNat_fromLeBytes (limb _), toNat_fromLeBytes (limb _), ← last, Digest.number, first, second,
    third]
  congr 1
  ring

/-- The scalar of the digest that encodes a scalar is that scalar. -/
theorem digestToScalar_ofScalar (scalar : Fp) :
    digestToScalar (Digest.ofScalar scalar) = scalar := by
  rw [digestToScalar_eq, Digest.number_ofScalar, ZMod.natCast_zmod_val]

/-- Two numbers differ by one, two or three times the modulus. -/
def Wrapped (left right : Nat) : Prop :=
  ∃ times ∈ [1, 2, 3], left = right + times * modulus ∨ right = left + times * modulus

/-- Whether two numbers differ by such a multiple can be computed. -/
instance (left right : Nat) : Decidable (Wrapped left right) :=
  inferInstanceAs (Decidable (∃ times ∈ [1, 2, 3], _))

/-- No number differs from itself by a multiple that is not zero. -/
theorem not_wrapped_self (number : Nat) : ¬ Wrapped number number := by
  simp only [Wrapped, List.mem_cons, List.not_mem_nil, or_false, exists_eq_or_imp, exists_eq_left,
    modulus]
  omega

/-- Digests share a scalar exactly when they are equal or a multiple of the modulus apart. -/
theorem digestToScalar_eq_iff (left right : Digest) :
    digestToScalar left = digestToScalar right ↔
      left = right ∨ Wrapped left.number right.number := by
  have leftSmall := left.number_lt
  have rightSmall := right.number_lt
  rw [digestToScalar_eq, digestToScalar_eq, ZMod.natCast_eq_natCast_iff']
  constructor
  · intro residue
    by_cases same : left.number = right.number
    · exact .inl (Digest.number_injective same)
    · right
      simp only [Wrapped, List.mem_cons, List.not_mem_nil, or_false, exists_eq_or_imp,
        exists_eq_left]
      simp only [modulus] at *
      omega
  · rintro (rfl | ⟨times, -, apart | apart⟩)
    · rfl
    · rw [apart, Nat.add_mul_mod_self_right]
    · rw [apart, Nat.add_mul_mod_self_right]

end SecureDatabase.Zk
