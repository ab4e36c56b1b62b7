import SecureDatabase.Foundation.Text

/-!
# SHA-256

The hash function on octet strings, given by its standard description: the message is
padded to whole blocks of 64 octets, each block is expanded to 64 words and mixed
into eight chaining words, and the final chaining words are written big-endian. The
definitions are executable. Developments that hash only ever rely on the length of
the result.
-/

namespace SecureDatabase.Foundation

namespace Sha256

/-- Rotation to the right. -/
def rotateRight (word bits : UInt32) : UInt32 := word >>> bits ||| word <<< (32 - bits)

/-- The round constants. -/
def roundConstants : List UInt32 :=
  [0x428a2f98, 0x71374491, 0xb5c0fbcf, 0xe9b5dba5, 0x3956c25b, 0x59f111f1, 0x923f82a4, 0xab1c5ed5,
   0xd807aa98, 0x12835b01, 0x243185be, 0x550c7dc3, 0x72be5d74, 0x80deb1fe, 0x9bdc06a7, 0xc19bf174,
   0xe49b69c1, 0xefbe4786, 0x0fc19dc6, 0x240ca1cc, 0x2de92c6f, 0x4a7484aa, 0x5cb0a9dc, 0x76f988da,
   0x983e5152, 0xa831c66d, 0xb00327c8, 0xbf597fc7, 0xc6e00bf3, 0xd5a79147, 0x06ca6351, 0x14292967,
   0x27b70a85, 0x2e1b2138, 0x4d2c6dfc, 0x53380d13, 0x650a7354, 0x766a0abb, 0x81c2c92e, 0x92722c85,
   0xa2bfe8a1, 0xa81a664b, 0xc24b8b70, 0xc76c51a3, 0xd192e819, 0xd6990624, 0xf40e3585, 0x106aa070,
   0x19a4c116, 0x1e376c08, 0x2748774c, 0x34b0bcb5, 0x391c0cb3, 0x4ed8aa4a, 0x5b9cca4f, 0x682e6ff3,
   0x748f82ee, 0x78a5636f, 0x84c87814, 0x8cc70208, 0x90befffa, 0xa4506ceb, 0xbef9a3f7, 0xc67178f2]

/-- The eight chaining words. -/
structure Chain where
  a : UInt32
  b : UInt32
  c : UInt32
  d : UInt32
  e : UInt32
  f : UInt32
  g : UInt32
  h : UInt32
deriving DecidableEq

/-- The chaining words before the first block. -/
def initial : Chain :=
  ⟨0x6a09e667, 0xbb67ae85, 0x3c6ef372, 0xa54ff53a, 0x510e527f, 0x9b05688c, 0x1f83d9ab, 0x5be0cd19⟩

/-- A word as four octets, most significant first. -/
def wordOctets (word : UInt32) : Bytes :=
  [(word >>> 24).toUInt8, (word >>> 16).toUInt8, (word >>> 8).toUInt8, word.toUInt8]

/-- Octets read as words, most significant first; an incomplete word is dropped. -/
def words : Bytes → List UInt32
  | p :: q :: r :: s :: rest =>
      (p.toUInt32 <<< 24 ||| q.toUInt32 <<< 16 ||| r.toUInt32 <<< 8 ||| s.toUInt32) :: words rest
  | _ => []

/-- A number of bits as eight octets, most significant first. -/
def lengthOctets (bits : Nat) : Bytes :=
  [56, 48, 40, 32, 24, 16, 8, 0].map (fun shift => UInt8.ofNat (bits >>> shift))

/-- The message with a single one bit, zeros up to a whole number of blocks and its
length in bits appended. -/
def padded (message : Bytes) : Bytes :=
  message ++ 0x80 :: (List.replicate ((119 - message.length % 64) % 64) 0 ++
    lengthOctets (8 * message.length))

/-- The next word of the schedule from the sixteen words before it, oldest first. -/
def nextWord (window : List UInt32) : UInt32 :=
  let w1 := window.getD 1 0
  let w14 := window.getD 14 0
  window.getD 0 0 + (rotateRight w1 7 ^^^ rotateRight w1 18 ^^^ w1 >>> 3) + window.getD 9 0 +
    (rotateRight w14 17 ^^^ rotateRight w14 19 ^^^ w14 >>> 10)

/-- One round with its constant and its scheduled word. -/
def round (chain : Chain) (constant word : UInt32) : Chain :=
  let ⟨a, b, c, d, e, f, g, h⟩ := chain
  let t1 := h + (rotateRight e 6 ^^^ rotateRight e 11 ^^^ rotateRight e 25) +
    (e &&& f ^^^ ~~~e &&& g) + constant + word
  let t2 := (rotateRight a 2 ^^^ rotateRight a 13 ^^^ rotateRight a 22) +
    (a &&& b ^^^ a &&& c ^^^ b &&& c)
  ⟨t1 + t2, a, b, c, d + t1, e, f, g⟩

/-- All rounds: each consumes the oldest word of the window and schedules one. -/
def rounds : List UInt32 → List UInt32 → Chain → Chain
  | constant :: constants, word :: window, chain =>
      rounds constants (window ++ [nextWord (word :: window)]) (round chain constant word)
  | _, _, chain => chain

/-- Mix one block of sixteen words into the chaining words. -/
def compress (chain : Chain) (block : List UInt32) : Chain :=
  let mixed := rounds roundConstants block chain
  ⟨chain.a + mixed.a, chain.b + mixed.b, chain.c + mixed.c, chain.d + mixed.d,
    chain.e + mixed.e, chain.f + mixed.f, chain.g + mixed.g, chain.h + mixed.h⟩

/-- Mix a number of blocks in order. -/
def absorb : Nat → Chain → List UInt32 → Chain
  | 0, chain, _ => chain
  | blocks + 1, chain, message => absorb blocks (compress chain (message.take 16)) (message.drop 16)

/-- The chaining words written out. -/
def chainOctets (chain : Chain) : Bytes :=
  [chain.a, chain.b, chain.c, chain.d, chain.e, chain.f, chain.g, chain.h].flatMap wordOctets

end Sha256

/-- `Sha256::digest`. -/
def sha256 (message : Bytes) : Bytes :=
  Sha256.chainOctets (Sha256.absorb ((Sha256.padded message).length / 64) Sha256.initial
    (Sha256.words (Sha256.padded message)))

/-- A digest has 32 octets. -/
@[simp] theorem sha256_length (message : Bytes) : (sha256 message).length = 32 := rfl

example : hexEncode (sha256 [0x61, 0x62, 0x63]) =
    "ba7816bf8f01cfea414140de5dae2223b00361a396177a9cb410ff61f20015ad" := by
  decide +kernel

end SecureDatabase.Foundation
