import Mathlib.Data.List.Basic

/-!
# Padded base64 with canonical decoding

The encoder writes three octets as four digits and pads a shorter last group.
The decoder accepts whole groups only, requires the padding, and refuses a last
digit with bits that no octet uses. Hence decoding is exactly the inverse of
encoding: a text decodes to some octets precisely when it is their encoding
(`decode_eq_some_iff`). No digit and no padding is a colon.
-/

namespace SecureDatabase.Foundation.Base64

/-- The standard alphabet, in digit order. -/
def alphabet : List Char :=
  ['A', 'B', 'C', 'D', 'E', 'F', 'G', 'H', 'I', 'J', 'K', 'L', 'M',
    'N', 'O', 'P', 'Q', 'R', 'S', 'T', 'U', 'V', 'W', 'X', 'Y', 'Z',
    'a', 'b', 'c', 'd', 'e', 'f', 'g', 'h', 'i', 'j', 'k', 'l', 'm',
    'n', 'o', 'p', 'q', 'r', 's', 't', 'u', 'v', 'w', 'x', 'y', 'z',
    '0', '1', '2', '3', '4', '5', '6', '7', '8', '9', '+', '/']

/-- The character that fills up a short last group. -/
def padding : Char := '='

/-- The digit of a value below 64. -/
def digit (value : Nat) : Char := alphabet.getD value padding

/-- The value of a digit; the padding character and all others have none. -/
def value (char : Char) : Option Nat := alphabet.findIdx? (fun digit => digit == char)

/-- The alphabet has one digit for each value of six bits. -/
theorem alphabet_length : alphabet.length = 64 := by decide

/-- Each value of six bits is read back from its digit. -/
theorem value_digit (number : Nat) (small : number < 64) : value (digit number) = some number := by
  have all : ∀ number < 64, value (digit number) = some number := by decide
  exact all number small

/-- Padding is no digit, so it cannot be taken for one in front of the last group. -/
theorem value_padding : value padding = none := by decide

/-- The separator of envelopes is no digit either. -/
theorem value_colon : value ':' = none := by decide

/-- A character without a value is no digit. -/
theorem digit_ne {char : Char} (outside : value char = none) (number : Nat) (small : number < 64) :
    digit number ≠ char := by
  intro same
  have known := value_digit number small
  rw [same, outside] at known
  exact Option.some_ne_none number known.symm

/-- Only digits have values, and each is the digit of its value. -/
theorem digit_of_value {char : Char} {number : Nat} (known : value char = some number) :
    number < 64 ∧ digit number = char := by
  obtain ⟨inside, equal, -⟩ := List.findIdx?_eq_some_iff_getElem.mp known
  have bounded : number < 64 := alphabet_length ▸ inside
  refine ⟨bounded, ?_⟩
  rw [digit, List.getD_eq_getElem?_getD, List.getElem?_eq_getElem inside]
  exact eq_of_beq equal

/-- Four digits for every three octets, the last group padded. -/
def encode : List UInt8 → List Char
  | [] => []
  | [a] =>
      [digit (a.toNat / 4), digit (a.toNat % 4 * 16), padding, padding]
  | [a, b] =>
      [digit (a.toNat / 4), digit (a.toNat % 4 * 16 + b.toNat / 16),
        digit (b.toNat % 16 * 4), padding]
  | a :: b :: c :: rest =>
      digit (a.toNat / 4) :: digit (a.toNat % 4 * 16 + b.toNat / 16) ::
        digit (b.toNat % 16 * 4 + c.toNat / 64) :: digit (c.toNat % 64) :: encode rest

/-- Three octets from a group of four digits. -/
def group (w x y z : Char) : Option (List UInt8) := do
  let w ← value w
  let x ← value x
  let y ← value y
  let z ← value z
  return [UInt8.ofNat (w * 4 + x / 16), UInt8.ofNat (x % 16 * 16 + y / 4),
    UInt8.ofNat (y % 4 * 64 + z)]

/-- One octet from two digits whose unused bits are zero. -/
def oneOctet (w x : Char) : Option (List UInt8) := do
  let w ← value w
  let x ← value x
  if x % 16 = 0 then some [UInt8.ofNat (w * 4 + x / 16)] else none

/-- Two octets from three digits whose unused bits are zero. -/
def twoOctets (w x y : Char) : Option (List UInt8) := do
  let w ← value w
  let x ← value x
  let y ← value y
  if y % 4 = 0 then
    some [UInt8.ofNat (w * 4 + x / 16), UInt8.ofNat (x % 16 * 16 + y / 4)]
  else none

/-- One or two octets from a last group with its required padding. -/
def padded (w x y z : Char) : Option (List UInt8) :=
  if z = padding then
    if y = padding then oneOctet w x else twoOctets w x y
  else none

/-- Whole groups of digits, then nothing or one padded group. -/
def decode : List Char → Option (List UInt8)
  | [] => some []
  | w :: x :: y :: z :: rest =>
      match group w x y z with
      | some octets => (decode rest).map (octets ++ ·)
      | none => if rest = [] then padded w x y z else none
  | _ => none

/-- Splitting three octets into four digit values and back loses nothing. -/
theorem group_encode (a b c : UInt8) :
    group (digit (a.toNat / 4)) (digit (a.toNat % 4 * 16 + b.toNat / 16))
      (digit (b.toNat % 16 * 4 + c.toNat / 64)) (digit (c.toNat % 64)) = some [a, b, c] := by
  have boundA : a.toNat < 256 := a.toNat_lt
  have boundB : b.toNat < 256 := b.toNat_lt
  have boundC : c.toNat < 256 := c.toNat_lt
  have first : a.toNat / 4 * 4 + (a.toNat % 4 * 16 + b.toNat / 16) / 16 = a.toNat := by omega
  have second : (a.toNat % 4 * 16 + b.toNat / 16) % 16 * 16 +
      (b.toNat % 16 * 4 + c.toNat / 64) / 4 = b.toNat := by omega
  have third : (b.toNat % 16 * 4 + c.toNat / 64) % 4 * 64 + c.toNat % 64 = c.toNat := by omega
  simp only [group, value_digit _ (show a.toNat / 4 < 64 by omega),
    value_digit _ (show a.toNat % 4 * 16 + b.toNat / 16 < 64 by omega),
    value_digit _ (show b.toNat % 16 * 4 + c.toNat / 64 < 64 by omega),
    value_digit _ (show c.toNat % 64 < 64 by omega), Option.bind_eq_bind, Option.bind_some,
    first, second, third, UInt8.ofNat_toNat]
  rfl

/-- A last group that was written for one octet is read as that octet: two digits and two
signs of padding. -/
theorem padded_encode_one (a : UInt8) :
    padded (digit (a.toNat / 4)) (digit (a.toNat % 4 * 16)) padding padding = some [a] := by
  have bound : a.toNat < 256 := a.toNat_lt
  have whole : a.toNat / 4 * 4 + a.toNat % 4 * 16 / 16 = a.toNat := by omega
  have unused : a.toNat % 4 * 16 % 16 = 0 := by omega
  simp only [padded, oneOctet, value_digit _ (show a.toNat / 4 < 64 by omega),
    value_digit _ (show a.toNat % 4 * 16 < 64 by omega), Option.bind_eq_bind, Option.bind_some,
    unused, whole, ↓reduceIte, UInt8.ofNat_toNat]

/-- A last group that was written for two octets is read as those two: three digits and
one sign of padding. -/
theorem padded_encode_two (a b : UInt8) :
    padded (digit (a.toNat / 4)) (digit (a.toNat % 4 * 16 + b.toNat / 16))
      (digit (b.toNat % 16 * 4)) padding = some [a, b] := by
  have boundA : a.toNat < 256 := a.toNat_lt
  have boundB : b.toNat < 256 := b.toNat_lt
  have first : a.toNat / 4 * 4 + (a.toNat % 4 * 16 + b.toNat / 16) / 16 = a.toNat := by omega
  have second : (a.toNat % 4 * 16 + b.toNat / 16) % 16 * 16 + b.toNat % 16 * 4 / 4 = b.toNat := by
    omega
  have unused : b.toNat % 16 * 4 % 4 = 0 := by omega
  have digits : digit (b.toNat % 16 * 4) ≠ padding := digit_ne value_padding _ (by omega)
  simp only [padded, digits, twoOctets, value_digit _ (show a.toNat / 4 < 64 by omega),
    value_digit _ (show a.toNat % 4 * 16 + b.toNat / 16 < 64 by omega),
    value_digit _ (show b.toNat % 16 * 4 < 64 by omega), Option.bind_eq_bind, Option.bind_some,
    first, second, unused, ↓reduceIte, UInt8.ofNat_toNat]

/-- A group that ends in padding is no group of four digits. -/
theorem group_padding (w x y : Char) : group w x y padding = none := by
  cases first : value w <;> cases second : value x <;> cases third : value y <;>
    simp [group, first, second, third, value_padding]

/-- Decoding recovers what was encoded. -/
theorem decode_encode (octets : List UInt8) : decode (encode octets) = some octets := by
  induction octets using encode.induct with
  | case1 => rfl
  | case2 a =>
    simp only [encode, decode, group_padding, ↓reduceIte]
    exact padded_encode_one a
  | case3 a b =>
    simp only [encode, decode, group_padding, ↓reduceIte]
    exact padded_encode_two a b
  | case4 a b c rest inductionHypothesis =>
    simp only [encode, decode, group_encode, inductionHypothesis, Option.map_some]
    rfl

/-- A group that decodes is the encoding of its three octets. -/
theorem group_sound {w x y z : Char} {octets : List UInt8} (known : group w x y z = some octets) :
    ∃ a b c, octets = [a, b, c] ∧ w = digit (a.toNat / 4) ∧
      x = digit (a.toNat % 4 * 16 + b.toNat / 16) ∧
      y = digit (b.toNat % 16 * 4 + c.toNat / 64) ∧ z = digit (c.toNat % 64) := by
  cases first : value w with
  | none => simp [group, first] at known
  | some p =>
    cases second : value x with
    | none => simp [group, first, second] at known
    | some q =>
      cases third : value y with
      | none => simp [group, first, second, third] at known
      | some r =>
        cases fourth : value z with
        | none => simp [group, first, second, third, fourth] at known
        | some s =>
          obtain ⟨boundP, rfl⟩ := digit_of_value first
          obtain ⟨boundQ, rfl⟩ := digit_of_value second
          obtain ⟨boundR, rfl⟩ := digit_of_value third
          obtain ⟨boundS, rfl⟩ := digit_of_value fourth
          simp only [group, first, second, third, fourth, Option.bind_eq_bind, Option.bind_some,
            Option.pure_def, Option.some.injEq] at known
          refine ⟨_, _, _, known.symm, ?_, ?_, ?_, ?_⟩
          all_goals exact congrArg digit (by simp only [UInt8.toNat_ofNat']; omega)

/-- Two digits that are read as one octet are the ones that encoding writes for it; the
four bits left over are zero. -/
theorem oneOctet_sound {w x : Char} {octets : List UInt8} (known : oneOctet w x = some octets) :
    ∃ a, octets = [a] ∧ w = digit (a.toNat / 4) ∧ x = digit (a.toNat % 4 * 16) := by
  cases first : value w with
  | none => simp [oneOctet, first] at known
  | some p =>
    cases second : value x with
    | none => simp [oneOctet, first, second] at known
    | some q =>
      obtain ⟨boundP, rfl⟩ := digit_of_value first
      obtain ⟨boundQ, rfl⟩ := digit_of_value second
      by_cases unused : q % 16 = 0
      · simp only [oneOctet, first, second, Option.bind_eq_bind, Option.bind_some, unused,
          ↓reduceIte, Option.some.injEq] at known
        refine ⟨_, known.symm, ?_, ?_⟩
        all_goals exact congrArg digit (by simp only [UInt8.toNat_ofNat']; omega)
      · simp [oneOctet, first, second, unused] at known

/-- Three digits that are read as two octets are the ones that encoding writes for them;
the two bits left over are zero. -/
theorem twoOctets_sound {w x y : Char} {octets : List UInt8}
    (known : twoOctets w x y = some octets) :
    ∃ a b, octets = [a, b] ∧ w = digit (a.toNat / 4) ∧
      x = digit (a.toNat % 4 * 16 + b.toNat / 16) ∧ y = digit (b.toNat % 16 * 4) := by
  cases first : value w with
  | none => simp [twoOctets, first] at known
  | some p =>
    cases second : value x with
    | none => simp [twoOctets, first, second] at known
    | some q =>
      cases third : value y with
      | none => simp [twoOctets, first, second, third] at known
      | some r =>
        obtain ⟨boundP, rfl⟩ := digit_of_value first
        obtain ⟨boundQ, rfl⟩ := digit_of_value second
        obtain ⟨boundR, rfl⟩ := digit_of_value third
        by_cases unused : r % 4 = 0
        · simp only [twoOctets, first, second, third, Option.bind_eq_bind, Option.bind_some,
            unused, ↓reduceIte, Option.some.injEq] at known
          refine ⟨_, _, known.symm, ?_, ?_, ?_⟩
          all_goals exact congrArg digit (by simp only [UInt8.toNat_ofNat']; omega)
        · simp [twoOctets, first, second, third, unused] at known

/-- A padded group that decodes is the encoding of its one or two octets. -/
theorem padded_sound {w x y z : Char} {octets : List UInt8}
    (known : padded w x y z = some octets) : encode octets = [w, x, y, z] := by
  unfold padded at known
  split at known
  · rename_i last
    split at known
    · rename_i third
      obtain ⟨a, rfl, rfl, rfl⟩ := oneOctet_sound known
      simp [encode, last, third]
    · obtain ⟨a, b, rfl, rfl, rfl, rfl⟩ := twoOctets_sound known
      simp [encode, last]
  · exact absurd known (by simp)

/-- A text decodes only to octets of which it is the encoding. -/
theorem encode_of_decode {text : List Char} {octets : List UInt8}
    (known : decode text = some octets) : encode octets = text := by
  induction text using decode.induct generalizing octets with
  | case1 =>
    simp only [decode, Option.some.injEq] at known
    subst octets
    rfl
  | case2 w x y z rest front found inductionHypothesis =>
    simp only [decode, found, Option.map_eq_some_iff] at known
    obtain ⟨tail, decoded, rfl⟩ := known
    obtain ⟨a, b, c, rfl, rfl, rfl, rfl, rfl⟩ := group_sound found
    simp [encode, inductionHypothesis decoded]
  | case3 w x y z found =>
    simp only [decode, found, ↓reduceIte] at known
    exact padded_sound known
  | case4 w x y z rest found more =>
    simp [decode, found, more] at known
  | case5 text short long =>
    rw [decode] at known
    · exact absurd known (by simp)
    all_goals assumption

/-- Canonical decoding is the inverse of encoding, in both directions. -/
theorem decode_eq_some_iff (text : List Char) (octets : List UInt8) :
    decode text = some octets ↔ text = encode octets := by
  constructor
  · intro known
    exact (encode_of_decode known).symm
  · intro same
    rw [same]
    exact decode_encode octets

/-- A character that is neither a digit nor the padding is in no encoded text. -/
theorem not_mem_encode {char : Char} (outside : value char = none) (notPadding : char ≠ padding)
    (octets : List UInt8) : char ∉ encode octets := by
  have other (number : Nat) (small : number < 64) : char ≠ digit number :=
    (digit_ne outside number small).symm
  induction octets using encode.induct with
  | case1 => simp [encode]
  | case2 a =>
    have bound : a.toNat < 256 := a.toNat_lt
    simp [encode, notPadding, other _ (show a.toNat / 4 < 64 by omega),
      other _ (show a.toNat % 4 * 16 < 64 by omega)]
  | case3 a b =>
    have boundA : a.toNat < 256 := a.toNat_lt
    have boundB : b.toNat < 256 := b.toNat_lt
    simp [encode, notPadding, other _ (show a.toNat / 4 < 64 by omega),
      other _ (show a.toNat % 4 * 16 + b.toNat / 16 < 64 by omega),
      other _ (show b.toNat % 16 * 4 < 64 by omega)]
  | case4 a b c rest inductionHypothesis =>
    have boundA : a.toNat < 256 := a.toNat_lt
    have boundB : b.toNat < 256 := b.toNat_lt
    have boundC : c.toNat < 256 := c.toNat_lt
    simp [encode, inductionHypothesis, other _ (show a.toNat / 4 < 64 by omega),
      other _ (show a.toNat % 4 * 16 + b.toNat / 16 < 64 by omega),
      other _ (show b.toNat % 16 * 4 + c.toNat / 64 < 64 by omega),
      other _ (show c.toNat % 64 < 64 by omega)]

/-- No encoded text contains a colon. -/
theorem colon_not_mem_encode (octets : List UInt8) : ':' ∉ encode octets :=
  not_mem_encode value_colon (by decide) octets

/-- Four characters for every three octets, the last group whole. -/
theorem length_encode (octets : List UInt8) :
    (encode octets).length = (octets.length + 2) / 3 * 4 := by
  induction octets using encode.induct with
  | case1 => rfl
  | case2 a => simp [encode]
  | case3 a b => simp [encode]
  | case4 a b c rest inductionHypothesis =>
    simp only [encode, List.length_cons, inductionHypothesis]
    omega

end SecureDatabase.Foundation.Base64
