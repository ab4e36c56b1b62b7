import SecureDatabase.Basic
import SecureDatabase.Foundation.Aead
import SecureDatabase.Foundation.Base64

/-!
# Protected-value envelopes and their record context

A protected value is stored as a prefixed text of three base64 segments: the
broker handle, the redeem token and the nonce, ciphertext and tag. The retired
first version has no token segment. The associated data of an encryption names a
schema version, a table, a field, a row and a purpose.

The codec is exact for both versions: a text decodes to a handle, a token and a
ciphertext, or to a handle and a ciphertext, precisely when it is their encoding, and
no text is read as the other version. The record context is
unambiguous for names without a null character: it determines every one of its
parts, although the purpose carries no length.
-/

namespace SecureDatabase

open Foundation

/-- Authentication tag length emitted by `aesEncryptWithAad`. -/
def tagLength : Nat := 16

/-- `aead::NONCE_LEN`. -/
def nonceLength : Nat := 12

/-- Key length of AES-256-GCM. -/
def keyLength : Nat := 32

/-- The prefix of the retired form of an envelope, which has no redeem token. -/
def aeadPrefixV1 : String := "aead:v1:"

/-- The prefix of the canonical form: handle, redeem token and ciphertext follow it. -/
def aeadPrefixV2 : String := "aead:v2:"

/-- What stands between the segments of an envelope. It is no digit of the base64
alphabet, so segments are told apart. -/
def aeadSeparator : Char := ':'

/-- An AES-GCM nonce. -/
structure Nonce where
  octets : Bytes
  length : octets.length = nonceLength
deriving DecidableEq

section Cipher

variable (aead : Aead tagLength)

/-- Encrypt plaintext with caller-supplied associated data under a drawn nonce,
returning nonce, ciphertext and tag. A key of the wrong length is refused. -/
def aesEncryptWithAad (nonce : Nonce) (key plaintext aad : Bytes) : DbResult Bytes :=
  if key.length = keyLength then
    .ok (nonce.octets ++ aead.encrypt key nonce.octets aad plaintext)
  else .error (.encryption "ring::error::Unspecified")

/-- Decrypt what `aesEncryptWithAad` produced, validating the same associated data. -/
def aesDecryptWithAad (key ciphertext aad : Bytes) : DbResult Bytes :=
  if ciphertext.length < nonceLength + tagLength then
    .error (.encryption "ciphertext too short")
  else if key.length = keyLength then
    match aead.decrypt key (ciphertext.take nonceLength) aad (ciphertext.drop nonceLength) with
    | some plaintext => .ok plaintext
    | none => .error (.encryption "decryption failed")
  else .error (.encryption "ring::error::Unspecified")

/-- Decryption undoes encryption under the same key and associated data. -/
theorem aesDecrypt_aesEncrypt (nonce : Nonce) {key plaintext aad ciphertext : Bytes}
    (sealed : aesEncryptWithAad aead nonce key plaintext aad = .ok ciphertext) :
    aesDecryptWithAad aead key ciphertext aad = .ok plaintext := by
  unfold aesEncryptWithAad at sealed
  split at sealed
  · rename_i fits
    have content : nonce.octets ++ aead.encrypt key nonce.octets aad plaintext = ciphertext :=
      Except.ok.inj sealed
    subst ciphertext
    have long : ¬ (nonce.octets ++ aead.encrypt key nonce.octets aad plaintext).length <
        nonceLength + tagLength := by
      have tag := aead.tagged key nonce.octets aad plaintext
      rw [List.length_append, nonce.length]
      omega
    rw [aesDecryptWithAad, if_neg long, if_pos fits, ← nonce.length, List.take_left,
      List.drop_left, aead.opens]
  · exact absurd sealed (by simp)

/-- Decryption succeeds exactly on a long enough text that the cipher opens. -/
theorem aesDecryptWithAad_eq_ok_iff (key ciphertext aad plaintext : Bytes) :
    aesDecryptWithAad aead key ciphertext aad = .ok plaintext ↔
      nonceLength + tagLength ≤ ciphertext.length ∧ key.length = keyLength ∧
      aead.decrypt key (ciphertext.take nonceLength) aad (ciphertext.drop nonceLength) =
        some plaintext := by
  unfold aesDecryptWithAad
  by_cases short : ciphertext.length < nonceLength + tagLength
  · have tooShort : ¬ nonceLength + tagLength ≤ ciphertext.length := by omega
    simp [short, tooShort]
  · have long : nonceLength + tagLength ≤ ciphertext.length := by omega
    by_cases fits : key.length = keyLength
    · cases opened : aead.decrypt key (ciphertext.take nonceLength) aad
          (ciphertext.drop nonceLength) <;> simp [short, long, fits]
    · simp [short, fits]

end Cipher

/-- Encode a ciphertext together with its broker handle and redeem token. -/
def encodeAeadPayload (handle redeemToken : String) (ciphertext : Bytes) : String :=
  aeadPrefixV2 ++ String.ofList (Base64.encode (utf8 handle) ++ aeadSeparator ::
    (Base64.encode (utf8 redeemToken) ++ aeadSeparator :: Base64.encode ciphertext))

/-- The segments of a versioned remainder: handle, token if the version has one,
and ciphertext. -/
def aeadSegments (version : Nat) (remainder : List Char) :
    DbResult (List Char × Option (List Char) × List Char) :=
  if version = 2 then
    match splitn aeadSeparator 3 remainder with
    | [handle, redeemToken, ciphertext] => .ok (handle, some redeemToken, ciphertext)
    | _ => .error (.encryption "invalid AEAD v2 payload format")
  else
    match splitOnce aeadSeparator remainder with
    | some (handle, ciphertext) => .ok (handle, none, ciphertext)
    | none => .error (.encryption "invalid AEAD v1 payload format")

/-- The decoded redeem token of a segment, if there is one. -/
def decodeRedeemToken : Option (List Char) → DbResult (Option String)
  | none => .ok none
  | some segment => do
      let octets ← okOr (.encryption "invalid AEAD redeem token encoding") (Base64.decode segment)
      let token ← okOr (.encryption "AEAD redeem token is not valid UTF-8") (fromUtf8 octets)
      return some token

/-- Decode the three segments in the source's order: the handle's base64, the
token, the ciphertext, and last the handle's UTF-8. -/
def decodeAeadSegments (handleSegment : List Char) (tokenSegment : Option (List Char))
    (ciphertextSegment : List Char) : DbResult (String × Option String × Bytes) := do
  let handleOctets ←
    okOr (.encryption "invalid AEAD handle encoding") (Base64.decode handleSegment)
  let redeemToken ← decodeRedeemToken tokenSegment
  let ciphertext ←
    okOr (.encryption "invalid AEAD ciphertext encoding") (Base64.decode ciphertextSegment)
  let handle ← okOr (.encryption "AEAD handle is not valid UTF-8") (fromUtf8 handleOctets)
  return (handle, redeemToken, ciphertext)

/-- The remainder after the version prefix, with the version. -/
def aeadVersion (encoded : String) : DbResult (String × Nat) :=
  match stripPrefix aeadPrefixV2 encoded with
  | some remainder => .ok (remainder, 2)
  | none =>
      match stripPrefix aeadPrefixV1 encoded with
      | some remainder => .ok (remainder, 1)
      | none => .error (.encryption "value missing aead:v1/v2 prefix")

/-- Decode an encoded payload into handle, optional redeem token and ciphertext.
Payloads of the first version decode without a token. -/
def decodeAeadPayload (encoded : String) : DbResult (String × Option String × Bytes) := do
  let (remainder, version) ← aeadVersion encoded
  let (handle, redeemToken, ciphertext) ← aeadSegments version remainder.toList
  decodeAeadSegments handle redeemToken ciphertext

/-- Whether the value appears to be an encoded payload of either version. -/
def isAeadPayload (value : String) : Bool :=
  startsWith value aeadPrefixV1 || startsWith value aeadPrefixV2

/-- Whether the value appears to be an encoded payload of the canonical version. -/
def isAeadPayloadV2 (value : String) : Bool := startsWith value aeadPrefixV2

/-- No envelope that the crate makes contains a NUL, so the server receives every one:
the prefix, the separators and the base64 digits are all printable. -/
theorem nul_not_mem_encodeAeadPayload (handle redeemToken : String) (ciphertext : Bytes) :
    '\x00' ∉ (encodeAeadPayload handle redeemToken ciphertext).toList := by
  have encoded (octets : Bytes) : '\x00' ∉ Base64.encode octets :=
    Base64.not_mem_encode (by decide) (by decide) octets
  have plain : '\x00' ∉ aeadPrefixV2.toList := by decide
  have separated : '\x00' ≠ aeadSeparator := by decide
  simp [encodeAeadPayload, encoded, plain, separated]

/-- Whatever is encoded carries the canonical prefix, so an encoded envelope is never
taken for a plaintext. -/
@[simp] theorem isAeadPayloadV2_encode (handle redeemToken : String) (ciphertext : Bytes) :
    isAeadPayloadV2 (encodeAeadPayload handle redeemToken ciphertext) = true :=
  startsWith_append _ _

/-- The canonical prefix is one of the two that mark a text as an envelope. -/
theorem isAeadPayload_of_v2 {value : String} (canonical : isAeadPayloadV2 value = true) :
    isAeadPayload value = true := by
  simp only [isAeadPayload, Bool.or_eq_true]
  exact .inr canonical

/-- No value carries both prefixes. -/
theorem not_both_prefixes {value : String} (canonical : startsWith value aeadPrefixV2 = true) :
    startsWith value aeadPrefixV1 = false := by
  by_contra retired
  rw [Bool.not_eq_false, startsWith_iff] at retired
  obtain ⟨rest, rfl⟩ := retired
  obtain ⟨other, same⟩ := (startsWith_iff _ _).mp canonical
  have chars := congrArg String.toList same
  simp [aeadPrefixV1, aeadPrefixV2] at chars

/-- Three parts come out exactly of two separators that neither of the first two
parts contains. -/
theorem splitn_three_iff (text handle token ciphertext : List Char) :
    splitn aeadSeparator 3 text = [handle, token, ciphertext] ↔
      text = handle ++ aeadSeparator :: (token ++ aeadSeparator :: ciphertext) ∧
        aeadSeparator ∉ handle ∧ aeadSeparator ∉ token := by
  constructor
  · intro parts
    cases first : splitOnce aeadSeparator text with
    | none => simp [splitn, first] at parts
    | some front =>
      cases second : splitOnce aeadSeparator front.2 with
      | none => simp [splitn, first, second] at parts
      | some back =>
        simp only [splitn, first, second, List.cons.injEq, and_true] at parts
        obtain ⟨rfl, rfl, rfl⟩ := parts
        obtain ⟨outer, freshHandle⟩ := (splitOnce_eq_some_iff _ _ front.1 front.2).mp first
        obtain ⟨inner, freshToken⟩ := (splitOnce_eq_some_iff _ _ back.1 back.2).mp second
        exact ⟨by rw [outer, inner], freshHandle, freshToken⟩
  · rintro ⟨rfl, freshHandle, freshToken⟩
    have first := (splitOnce_eq_some_iff aeadSeparator _ handle
      (token ++ aeadSeparator :: ciphertext)).mpr ⟨rfl, freshHandle⟩
    have second := (splitOnce_eq_some_iff aeadSeparator _ token ciphertext).mpr ⟨rfl, freshToken⟩
    simp [splitn, first, second]

/-- Segments with a token decode exactly to what they encode. -/
theorem decodeAeadSegments_eq_ok_iff (handleSegment tokenSegment ciphertextSegment : List Char)
    (handle token : String) (ciphertext : Bytes) :
    decodeAeadSegments handleSegment (some tokenSegment) ciphertextSegment =
        .ok (handle, some token, ciphertext) ↔
      handleSegment = Base64.encode (utf8 handle) ∧ tokenSegment = Base64.encode (utf8 token) ∧
        ciphertextSegment = Base64.encode ciphertext := by
  simp only [decodeAeadSegments, decodeRedeemToken, bind_eq_ok_iff, okOr_eq_ok_iff,
    Base64.decode_eq_some_iff, fromUtf8_eq_some_iff, pure, Except.pure, Except.ok.injEq,
    Prod.mk.injEq]
  constructor
  · rintro ⟨_, rfl, _, ⟨_, rfl, _, rfl, rfl⟩, _, rfl, _, rfl, rfl, token, rfl⟩
    cases token
    exact ⟨rfl, rfl, rfl⟩
  · rintro ⟨rfl, rfl, rfl⟩
    exact ⟨_, rfl, _, ⟨_, rfl, _, rfl, rfl⟩, _, rfl, _, rfl, rfl, rfl, rfl⟩

/-- Segments without a token decode exactly to what they encode. -/
theorem decodeAeadSegments_none_eq_ok_iff (handleSegment ciphertextSegment : List Char)
    (handle : String) (redeemToken : Option String) (ciphertext : Bytes) :
    decodeAeadSegments handleSegment none ciphertextSegment = .ok (handle, redeemToken, ciphertext) ↔
      handleSegment = Base64.encode (utf8 handle) ∧ redeemToken = none ∧
        ciphertextSegment = Base64.encode ciphertext := by
  simp only [decodeAeadSegments, decodeRedeemToken, bind_eq_ok_iff, okOr_eq_ok_iff,
    Base64.decode_eq_some_iff, fromUtf8_eq_some_iff, pure, Except.pure, Except.ok.injEq,
    Prod.mk.injEq]
  constructor
  · rintro ⟨_, rfl, _, rfl, _, rfl, _, rfl, rfl, rfl, rfl⟩
    exact ⟨rfl, rfl, rfl⟩
  · rintro ⟨rfl, rfl, rfl⟩
    exact ⟨_, rfl, _, rfl, _, rfl, _, rfl, rfl, rfl, rfl⟩

/-- The canonical version is recognised by its prefix alone. -/
theorem aeadVersion_eq_two_iff (encoded remainder : String) :
    aeadVersion encoded = .ok (remainder, 2) ↔ encoded = aeadPrefixV2 ++ remainder := by
  rw [← stripPrefix_eq_some_iff]
  unfold aeadVersion
  cases stripPrefix aeadPrefixV2 encoded with
  | some found => simp
  | none => cases stripPrefix aeadPrefixV1 encoded <;> simp

/-- The retired version is recognised by its prefix, which excludes the canonical one. -/
theorem aeadVersion_eq_one_iff (encoded remainder : String) :
    aeadVersion encoded = .ok (remainder, 1) ↔ encoded = aeadPrefixV1 ++ remainder := by
  rw [← stripPrefix_eq_some_iff]
  unfold aeadVersion
  cases canonical : stripPrefix aeadPrefixV2 encoded with
  | none => cases stripPrefix aeadPrefixV1 encoded <;> simp
  | some found =>
    have starts : startsWith encoded aeadPrefixV2 = true :=
      (startsWith_iff _ _).mpr ⟨found, (stripPrefix_eq_some_iff _ _ _).mp canonical⟩
    have other : stripPrefix aeadPrefixV1 encoded ≠ some remainder := by
      intro retired
      have both := (startsWith_iff _ _).mpr ⟨remainder, (stripPrefix_eq_some_iff _ _ _).mp retired⟩
      rw [not_both_prefixes starts] at both
      cases both
    simp [other]

/-- A recognised payload of another version than the canonical one has the
retired prefix. -/
theorem aeadVersion_cases {encoded remainder : String} {version : Nat}
    (known : aeadVersion encoded = .ok (remainder, version)) :
    version = 2 ∨ version = 1 ∧ encoded = aeadPrefixV1 ++ remainder := by
  unfold aeadVersion at known
  split at known
  · simp only [Except.ok.injEq, Prod.mk.injEq] at known
    exact .inl known.2.symm
  · split at known
    · rename_i found
      simp only [Except.ok.injEq, Prod.mk.injEq] at known
      obtain ⟨rfl, rfl⟩ := known
      exact .inr ⟨rfl, (stripPrefix_eq_some_iff _ _ _).mp found⟩
    · exact absurd known (by simp)

/-- The canonical version has exactly the segments that its separators cut. -/
theorem aeadSegments_two_iff (remainder handle ciphertext : List Char)
    (redeemToken : Option (List Char)) :
    aeadSegments 2 remainder = .ok (handle, redeemToken, ciphertext) ↔
      ∃ token, redeemToken = some token ∧
        splitn aeadSeparator 3 remainder = [handle, token, ciphertext] := by
  unfold aeadSegments
  rw [if_pos rfl]
  split
  · rename_i first second third parts
    simp only [Except.ok.injEq, Prod.mk.injEq, parts, List.cons.injEq, and_true]
    constructor
    · rintro ⟨rfl, rfl, rfl⟩
      exact ⟨second, rfl, rfl, rfl, rfl⟩
    · rintro ⟨token, rfl, rfl, rfl, rfl⟩
      exact ⟨rfl, rfl, rfl⟩
  · rename_i other
    constructor
    · exact fun impossible => absurd impossible (by simp)
    · rintro ⟨token, -, parts⟩
      exact absurd parts (other handle token ciphertext)

/-- The retired version is cut at its first separator and has no token segment. -/
theorem aeadSegments_one_iff (remainder handle ciphertext : List Char)
    (redeemToken : Option (List Char)) :
    aeadSegments 1 remainder = .ok (handle, redeemToken, ciphertext) ↔
      redeemToken = none ∧ remainder = handle ++ aeadSeparator :: ciphertext ∧
        aeadSeparator ∉ handle := by
  rw [← splitOnce_eq_some_iff]
  unfold aeadSegments
  rw [if_neg (by decide)]
  split
  · rename_i first second cut
    simp only [cut, Except.ok.injEq, Option.some.injEq, Prod.mk.injEq]
    constructor
    · rintro ⟨rfl, rfl, rfl⟩
      exact ⟨rfl, rfl, rfl⟩
    · rintro ⟨rfl, rfl, rfl⟩
      exact ⟨rfl, rfl, rfl⟩
  · rename_i uncut
    simp [uncut]

/-- A text decodes with a token exactly when it is the canonical encoding of what
it decodes to. -/
theorem decodeAeadPayload_eq_ok_iff (encoded handle token : String) (ciphertext : Bytes) :
    decodeAeadPayload encoded = .ok (handle, some token, ciphertext) ↔
      encoded = encodeAeadPayload handle token ciphertext := by
  simp only [decodeAeadPayload, bind_eq_ok_iff, Prod.exists]
  constructor
  · rintro ⟨remainder, version, versioned, handleSegment, tokenSegment, ciphertextSegment, cut,
      decoded⟩
    obtain rfl | ⟨rfl, -⟩ := aeadVersion_cases versioned
    · obtain ⟨segment, rfl, parts⟩ := (aeadSegments_two_iff _ _ _ _).mp cut
      obtain ⟨joined, -, -⟩ := (splitn_three_iff _ _ _ _).mp parts
      obtain ⟨rfl, rfl, rfl⟩ := (decodeAeadSegments_eq_ok_iff _ _ _ _ _ _).mp decoded
      rw [(aeadVersion_eq_two_iff _ _).mp versioned, encodeAeadPayload, ← joined,
        String.ofList_toList]
    · obtain ⟨rfl, -, -⟩ := (aeadSegments_one_iff _ _ _ _).mp cut
      obtain ⟨-, token, -⟩ := (decodeAeadSegments_none_eq_ok_iff _ _ _ _ _).mp decoded
      cases token
  · rintro rfl
    refine ⟨_, 2, (aeadVersion_eq_two_iff _ _).mpr rfl, _, some _, _, ?_,
      (decodeAeadSegments_eq_ok_iff _ _ _ _ _ _).mpr ⟨rfl, rfl, rfl⟩⟩
    refine (aeadSegments_two_iff _ _ _ _).mpr ⟨_, rfl, (splitn_three_iff _ _ _ _).mpr ⟨?_, ?_, ?_⟩⟩
    · rw [String.toList_ofList]
    · exact Base64.colon_not_mem_encode _
    · exact Base64.colon_not_mem_encode _

/-- The encoding of the retired version: a handle and a ciphertext. -/
def retiredAeadPayload (handle : String) (ciphertext : Bytes) : String :=
  aeadPrefixV1 ++ String.ofList
    (Base64.encode (utf8 handle) ++ aeadSeparator :: Base64.encode ciphertext)

/-- A text decodes without a token exactly when it is the retired encoding of what it
decodes to. -/
theorem decodeAeadPayload_none_eq_ok_iff (encoded handle : String) (ciphertext : Bytes) :
    decodeAeadPayload encoded = .ok (handle, none, ciphertext) ↔
      encoded = retiredAeadPayload handle ciphertext := by
  simp only [decodeAeadPayload, bind_eq_ok_iff, Prod.exists]
  constructor
  · rintro ⟨remainder, version, versioned, handleSegment, tokenSegment, ciphertextSegment, cut,
      decoded⟩
    obtain rfl | ⟨rfl, rfl⟩ := aeadVersion_cases versioned
    · obtain ⟨segment, rfl, -⟩ := (aeadSegments_two_iff _ _ _ _).mp cut
      simp [decodeAeadSegments, bind_eq_ok_iff, decodeRedeemToken, pure, Except.pure] at decoded
    · obtain ⟨rfl, joined, -⟩ := (aeadSegments_one_iff _ _ _ _).mp cut
      obtain ⟨rfl, -, rfl⟩ := (decodeAeadSegments_none_eq_ok_iff _ _ _ _ _).mp decoded
      rw [retiredAeadPayload, ← joined, String.ofList_toList]
  · rintro rfl
    refine ⟨_, 1, (aeadVersion_eq_one_iff _ _).mpr rfl, _, none, _, ?_,
      (decodeAeadSegments_none_eq_ok_iff _ _ _ _ _).mpr ⟨rfl, rfl, rfl⟩⟩
    refine (aeadSegments_one_iff _ _ _ _).mpr ⟨rfl, ?_, Base64.colon_not_mem_encode _⟩
    rw [String.toList_ofList]

/-- The codec is exact: a text decodes with a token exactly when it is the canonical
encoding of the result, without one exactly when it is the retired encoding, and every
other text is an error.

Proof: the two equivalences say which results are reached from which texts. A text that is
neither encoding cannot have a result, with a token or without one, and then an error is all
that is left. -/
theorem decodeAeadPayload_exact (encoded : String) :
    (∀ handle token ciphertext,
      decodeAeadPayload encoded = .ok (handle, some token, ciphertext) ↔
        encoded = encodeAeadPayload handle token ciphertext) ∧
    (∀ handle ciphertext,
      decodeAeadPayload encoded = .ok (handle, none, ciphertext) ↔
        encoded = retiredAeadPayload handle ciphertext) ∧
    ((∀ handle token ciphertext, encoded ≠ encodeAeadPayload handle token ciphertext) →
      (∀ handle ciphertext, encoded ≠ retiredAeadPayload handle ciphertext) →
      ∃ error, decodeAeadPayload encoded = .error error) := by
  refine ⟨decodeAeadPayload_eq_ok_iff encoded, decodeAeadPayload_none_eq_ok_iff encoded, ?_⟩
  intro notCanonical notRetired
  cases decoded : decodeAeadPayload encoded with
  | error error => exact ⟨error, rfl⟩
  | ok content =>
    obtain ⟨handle, _ | token, ciphertext⟩ := content
    · exact absurd ((decodeAeadPayload_none_eq_ok_iff _ _ _).mp decoded) (notRetired _ _)
    · exact absurd ((decodeAeadPayload_eq_ok_iff _ _ _ _).mp decoded) (notCanonical _ _ _)

/-- An encoding determines its handle, token and ciphertext. -/
theorem encodeAeadPayload_injective {handle token handle' token' : String}
    {ciphertext ciphertext' : Bytes}
    (same : encodeAeadPayload handle token ciphertext = encodeAeadPayload handle' token' ciphertext') :
    handle = handle' ∧ token = token' ∧ ciphertext = ciphertext' := by
  have decoded := (decodeAeadPayload_eq_ok_iff _ handle token ciphertext).mpr rfl
  rw [same, (decodeAeadPayload_eq_ok_iff _ handle' token' ciphertext').mpr rfl] at decoded
  cases decoded
  exact ⟨rfl, rfl, rfl⟩

section Sealing

variable {aead : Aead tagLength}

/-- A text is an envelope of a plaintext sealed in a context, under some handle,
token, key and nonce. -/
def EnvelopeOf (aead : Aead tagLength) (aad plaintext : Bytes) (encoded : String) : Prop :=
  ∃ handle token key, ∃ nonce : Nonce, encoded =
    encodeAeadPayload handle token (nonce.octets ++ aead.encrypt key nonce.octets aad plaintext)

/-- Under an authentic cipher an envelope belongs to one context and one plaintext. -/
theorem EnvelopeOf.unique (authentic : aead.Authentic) {aad plaintext aad' plaintext' : Bytes}
    {encoded : String} (left : EnvelopeOf aead aad plaintext encoded)
    (right : EnvelopeOf aead aad' plaintext' encoded) : aad = aad' ∧ plaintext = plaintext' := by
  obtain ⟨handle, token, key, nonce, rfl⟩ := left
  obtain ⟨handle', token', key', nonce', same⟩ := right
  obtain ⟨-, -, ciphertext⟩ := encodeAeadPayload_injective same
  obtain ⟨-, bodies⟩ := List.append_inj ciphertext (by rw [nonce.length, nonce'.length])
  have opened := aead.opens key nonce.octets aad plaintext
  rw [bodies] at opened
  obtain ⟨-, -, contexts, plaintexts⟩ := authentic.same opened
  exact ⟨contexts, plaintexts⟩

/-- Under an authentic cipher what decodes and opens in a context is an envelope of
that context. -/
theorem envelopeOf_of_opened (authentic : aead.Authentic) {encoded handle token : String}
    {ciphertext key aad plaintext : Bytes}
    (decoded : decodeAeadPayload encoded = .ok (handle, some token, ciphertext))
    (opened : aesDecryptWithAad aead key ciphertext aad = .ok plaintext) :
    EnvelopeOf aead aad plaintext encoded := by
  obtain ⟨long, -, opens⟩ := (aesDecryptWithAad_eq_ok_iff aead _ _ _ _).mp opened
  have body := authentic.genuine _ _ _ _ _ opens
  have twelve : (ciphertext.take nonceLength).length = nonceLength := by
    rw [List.length_take]
    omega
  refine ⟨handle, token, key, ⟨ciphertext.take nonceLength, twelve⟩, ?_⟩
  rw [(decodeAeadPayload_eq_ok_iff _ _ _ _).mp decoded, ← body, List.take_append_drop]

end Sealing

/-- The context a protected value is bound to, as associated data. -/
def recordBoundAad (table field : String) (rowId : Uuid) (purpose : Bytes) : Bytes :=
  utf8 ("schema:v2\x00table:" ++ table ++ "\x00field:" ++ field ++ "\x00row:" ++ rowId.display ++
    "\x00") ++ purpose

/-- The context as its null-terminated parts. -/
theorem recordBoundAad_parts (table field : String) (rowId : Uuid) (purpose : Bytes) :
    recordBoundAad table field rowId purpose =
      utf8 "schema:v2" ++ 0 :: (utf8 ("table:" ++ table) ++ 0 :: (utf8 ("field:" ++ field) ++
        0 :: (utf8 ("row:" ++ rowId.display) ++ 0 :: purpose))) := by
  have table_ : utf8 "schema:v2\x00table:" = utf8 "schema:v2" ++ 0 :: utf8 "table:" := by decide
  have field_ : utf8 "\x00field:" = 0 :: utf8 "field:" := by decide
  have row_ : utf8 "\x00row:" = 0 :: utf8 "row:" := by decide
  have end_ : utf8 "\x00" = [0] := by decide
  simp only [recordBoundAad, utf8_append, table_, field_, row_, end_, List.append_assoc,
    List.cons_append, List.nil_append]

/-- A labelled name without a null character has no zero octet. -/
theorem zero_not_mem_labelled {label name : String} (plain : '\x00' ∉ label.toList)
    (fresh : '\x00' ∉ name.toList) : 0 ∉ utf8 (label ++ name) := by
  intro member
  have nul := nul_of_zero_mem_utf8 member
  rw [String.toList_append, List.mem_append] at nul
  exact nul.elim plain fresh

/-- The context determines its table, field, row and purpose: the four separators
are the first four zero octets, and the purpose is everything after them. -/
theorem recordBoundAad_injective {table field table' field' : String} {rowId rowId' : Uuid}
    {purpose purpose' : Bytes}
    (table_fresh : '\x00' ∉ table.toList) (field_fresh : '\x00' ∉ field.toList)
    (table'_fresh : '\x00' ∉ table'.toList) (field'_fresh : '\x00' ∉ field'.toList)
    (same : recordBoundAad table field rowId purpose =
      recordBoundAad table' field' rowId' purpose') :
    table = table' ∧ field = field' ∧ rowId = rowId' ∧ purpose = purpose' := by
  have cancel {label left right : String} (equal : utf8 (label ++ left) = utf8 (label ++ right)) :
      left = right := by
    rw [utf8_append, utf8_append] at equal
    exact utf8_injective (List.append_cancel_left equal)
  rw [recordBoundAad_parts, recordBoundAad_parts] at same
  obtain ⟨-, same⟩ := separated_unique (by decide) (by decide) same
  obtain ⟨tables, same⟩ := separated_unique (zero_not_mem_labelled (by decide) table_fresh)
    (zero_not_mem_labelled (by decide) table'_fresh) same
  obtain ⟨fields, same⟩ := separated_unique (zero_not_mem_labelled (by decide) field_fresh)
    (zero_not_mem_labelled (by decide) field'_fresh) same
  obtain ⟨rows, purposes⟩ :=
    separated_unique (zero_not_mem_labelled (by decide) rowId.nul_not_mem_display)
      (zero_not_mem_labelled (by decide) rowId'.nul_not_mem_display) same
  exact ⟨cancel tables, cancel fields, Uuid.display_injective (cancel rows), purposes⟩

end SecureDatabase
