import SecureDatabase.Foundation.Text

/-!
# Authenticated encryption with associated data

A cipher encrypts a plaintext under a key, a nonce and associated data, and opens
what it encrypted under the same three. Its outputs carry at least a tag. That it
opens nothing else, and nothing under another key, nonce or associated data, is
the separate assumption `Authentic`: the ideal form of unforgeability, under
which an opened text identifies the encryption that produced it.

`framed` is a cipher without secrecy that satisfies the assumption. It writes the
key, the nonce and the associated data with their lengths in front of the
plaintext, so no two encryptions coincide. `bare` only writes a tag there: it opens
what it encrypted, which is all that recovery asks of a cipher, and its outputs are
short.
-/

namespace SecureDatabase.Foundation

/-- A deterministic cipher that opens what it encrypted. -/
structure Aead (tagLength : Nat) where
  encrypt : (key nonce aad plaintext : Bytes) → Bytes
  decrypt : (key nonce aad body : Bytes) → Option Bytes
  tagged : ∀ key nonce aad plaintext, tagLength ≤ (encrypt key nonce aad plaintext).length
  opens : ∀ key nonce aad plaintext,
    decrypt key nonce aad (encrypt key nonce aad plaintext) = some plaintext

/-- Opening succeeds only on an encryption, and only under its own key, nonce and
associated data. -/
structure Aead.Authentic {tagLength : Nat} (aead : Aead tagLength) : Prop where
  genuine : ∀ key nonce aad body plaintext,
    aead.decrypt key nonce aad body = some plaintext →
      body = aead.encrypt key nonce aad plaintext
  bound : ∀ key nonce aad plaintext key' nonce' aad' plaintext',
    aead.encrypt key nonce aad plaintext = aead.encrypt key' nonce' aad' plaintext' →
      key = key' ∧ nonce = nonce' ∧ aad = aad'

namespace Aead

variable {tagLength : Nat}

/-- An authentic cipher recovers from an encryption nothing but its plaintext. -/
theorem Authentic.same {aead : Aead tagLength} (authentic : aead.Authentic)
    {key nonce aad plaintext key' nonce' aad' plaintext' : Bytes}
    (opened : aead.decrypt key' nonce' aad' (aead.encrypt key nonce aad plaintext) =
      some plaintext') :
    key' = key ∧ nonce' = nonce ∧ aad' = aad ∧ plaintext' = plaintext := by
  have produced := authentic.genuine _ _ _ _ _ opened
  obtain ⟨rfl, rfl, rfl⟩ := authentic.bound _ _ _ _ _ _ _ _ produced
  rw [aead.opens] at opened
  exact ⟨rfl, rfl, rfl, (Option.some.inj opened).symm⟩

/-- The length in unary, a zero, and the octets themselves. -/
def frame (bytes : Bytes) : Bytes := List.replicate bytes.length 1 ++ 0 :: bytes

/-- A number in unary with its end mark can be read back from the front of a text,
together with what follows it. -/
theorem unary_unique (m n : Nat) (x y : Bytes)
    (same : List.replicate m 1 ++ (0 : UInt8) :: x = List.replicate n 1 ++ 0 :: y) :
    m = n ∧ x = y := by
  induction m generalizing n with
  | zero =>
    cases n with
    | zero => exact ⟨rfl, by simpa using same⟩
    | succ n => simp [List.replicate_succ] at same
  | succ m inductionHypothesis =>
    cases n with
    | zero => simp [List.replicate_succ] at same
    | succ n =>
      simp only [List.replicate_succ, List.cons_append, List.cons.injEq, true_and] at same
      obtain ⟨rfl, rfl⟩ := inductionHypothesis n same
      exact ⟨rfl, rfl⟩

/-- A framed octet string can be read off the front of any continuation. -/
theorem frame_unique {left right x y : Bytes} (same : frame left ++ x = frame right ++ y) :
    left = right ∧ x = y := by
  simp only [frame, List.append_assoc, List.cons_append] at same
  obtain ⟨length, rest⟩ := unary_unique _ _ _ _ same
  exact List.append_inj rest length

/-- What precedes the plaintext in `framed`. -/
def header (tagLength : Nat) (key nonce aad : Bytes) : Bytes :=
  List.replicate tagLength 0 ++ (frame key ++ (frame nonce ++ frame aad))

/-- The cipher that states openly what it binds. -/
def framed (tagLength : Nat) : Aead tagLength where
  encrypt key nonce aad plaintext := header tagLength key nonce aad ++ plaintext
  decrypt key nonce aad body := (header tagLength key nonce aad).isPrefixOf? body
  tagged := by
    intro key nonce aad plaintext
    simp only [header, List.length_append, List.length_replicate]
    omega
  opens := by
    intro key nonce aad plaintext
    rw [List.isPrefixOf?_eq_some_iff_append_eq]

/-- The cipher that adds a tag of zeros and nothing else. -/
def bare (tagLength : Nat) : Aead tagLength where
  encrypt _ _ _ plaintext := List.replicate tagLength 0 ++ plaintext
  decrypt _ _ _ body := (List.replicate tagLength 0).isPrefixOf? body
  tagged := by
    intro key nonce aad plaintext
    simp only [List.length_append, List.length_replicate]
    omega
  opens := by
    intro key nonce aad plaintext
    rw [List.isPrefixOf?_eq_some_iff_append_eq]

/-- The framed cipher is authentic: it opens nothing that it did not seal under the same
key, nonce and associated data, as its ciphertext spells all of them out. -/
theorem framed_authentic (tagLength : Nat) : (framed tagLength).Authentic where
  genuine := by
    intro key nonce aad body plaintext opened
    exact (List.isPrefixOf?_eq_some_iff_append_eq.mp opened).symm
  bound := by
    intro key nonce aad plaintext key' nonce' aad' plaintext' same
    simp only [framed, header, List.append_assoc, List.append_cancel_left_eq] at same
    obtain ⟨rfl, afterKey⟩ := frame_unique same
    obtain ⟨rfl, afterNonce⟩ := frame_unique afterKey
    obtain ⟨rfl, -⟩ := frame_unique afterNonce
    exact ⟨rfl, rfl, rfl⟩

end Aead

end SecureDatabase.Foundation
