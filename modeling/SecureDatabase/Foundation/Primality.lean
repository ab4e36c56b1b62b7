import Mathlib.Algebra.BigOperators.Associated
import Mathlib.NumberTheory.LucasPrimality

/-!
# Certified primes

A number is prime when some element of its residue ring has full multiplicative order. The
certificate names that element and the prime factors of the number below; the powers are
computed by repeated squaring, so the kernel can evaluate them for numbers of a few hundred
bits.
-/

namespace SecureDatabase.Foundation

/-- A power reduced by a modulus: the power of half the exponent is squared, and an odd
exponent takes one more factor. The number of halvings is bounded in advance. -/
def powerMod (modulus base : Nat) : Nat → Nat → Nat
  | 0, _ => 1 % modulus
  | halvings + 1, exponent =>
      powerMod modulus base halvings (exponent / 2) ^ 2 * base ^ (exponent % 2) % modulus

/-- Repeated squaring computes the power, when there are as many halvings as the exponent
has binary digits. -/
theorem powerMod_eq (modulus base halvings exponent : Nat) (enough : exponent < 2 ^ halvings) :
    powerMod modulus base halvings exponent = base ^ exponent % modulus := by
  induction halvings generalizing exponent with
  | zero =>
    rw [pow_zero, Nat.lt_one_iff] at enough
    rw [enough, powerMod, pow_zero]
  | succ halvings ih =>
    have half : exponent / 2 < 2 ^ halvings := by
      rw [pow_succ] at enough
      omega
    have whole : exponent / 2 * 2 + exponent % 2 = exponent := Nat.div_add_mod' exponent 2
    calc powerMod modulus base (halvings + 1) exponent
      _ = (base ^ (exponent / 2) % modulus) ^ 2 * base ^ (exponent % 2) % modulus := by
        rw [powerMod, ih _ half]
      _ = (base ^ (exponent / 2)) ^ 2 * base ^ (exponent % 2) % modulus := by
        rw [Nat.mul_mod, ← Nat.pow_mod, ← Nat.mul_mod]
      _ = base ^ exponent % modulus := by
        rw [← pow_mul, ← pow_add, whole]

/-- Evidence that a number is prime: an element, the prime factors of the number below with
their multiplicity, and the number of halvings that the exponents take. -/
structure PrimeCertificate (candidate : Nat) where
  element : Nat
  factors : List Nat
  halvings : Nat
  bounded : candidate ≤ 2 ^ halvings
  large : 1 < candidate
  product : factors.prod = candidate - 1
  order : powerMod candidate element halvings (candidate - 1) = 1
  proper : ∀ factor ∈ factors,
    powerMod candidate element halvings ((candidate - 1) / factor) ≠ 1

/-- A certified number is prime as soon as the factors it names are. -/
theorem PrimeCertificate.prime {candidate : Nat} (certificate : PrimeCertificate candidate)
    (primes : ∀ factor ∈ certificate.factors, factor.Prime) : candidate.Prime := by
  have large := certificate.large
  have bounded := certificate.bounded
  -- a power is one in the residue ring exactly when the computed one is
  have computed (exponent : Nat) (below : exponent ≤ candidate - 1) :
      (certificate.element : ZMod candidate) ^ exponent = 1 ↔
        powerMod candidate certificate.element certificate.halvings exponent = 1 := by
    rw [powerMod_eq _ _ _ _ (by omega), ← Nat.cast_pow, ← Nat.cast_one,
      ZMod.natCast_eq_natCast_iff', Nat.mod_eq_of_lt large]
  apply lucas_primality candidate (certificate.element : ZMod candidate)
  · exact (computed _ le_rfl).mpr certificate.order
  · intro divisor prime divides
    rw [← certificate.product] at divides
    obtain ⟨factor, listed, divided⟩ := (Prime.dvd_prod_iff prime.prime).mp divides
    obtain rfl := (Nat.prime_dvd_prime_iff_eq prime (primes factor listed)).mp divided
    rw [ne_eq, computed _ (Nat.div_le_self _ _)]
    exact certificate.proper divisor listed

end SecureDatabase.Foundation
