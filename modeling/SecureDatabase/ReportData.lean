import SecureDatabase.Basic
import SecureDatabase.Foundation.Base64
import SecureDatabase.Foundation.Environment

/-!
# Report data of the trusted execution environment

The report data of a quote is 64 octets, given in hexadecimal or in base64. Both are tried in
order. Every hexadecimal digit is also a base64 digit, so what tells the formats apart is how
long a text of 64 octets is in each of them.
-/

namespace SecureDatabase.Tee

open Foundation

/-- Decode with the first format that yields 64 octets. -/
def decodeReportData (raw : String) : Except String Bytes :=
  match (hexDecode raw).filter (fun bytes => bytes.length = 64) with
  | some bytes => .ok bytes
  | none =>
      match (Base64.decode raw.toList).filter (fun bytes => bytes.length = 64) with
      | some bytes => .ok bytes
      | none => .error "report data must be 64 bytes hex or base64 encoded"

/-- Where the services are, and the report data when it was given. -/
structure TeeEndpointConfig where
  dstackEndpoint : Option String
  tappdEndpoint : Option String
  givenReportData : Option Bytes

namespace TeeEndpointConfig

/-- The report data that the variable writes, when it holds a text. -/
def reportDataFromEnv (env : Environment) : DbResult (Option Bytes) :=
  match env.text "SECURE_DB_TEE_REPORT_DATA" with
  | none => .ok none
  | some raw => some <$> (decodeReportData raw).mapError DatabaseError.configuration

/-- `TeeEndpointConfig::from_env`: the addresses as they are, and the report data as it
decodes. -/
def fromEnv (env : Environment) : DbResult TeeEndpointConfig := do
  let dstackEndpoint := env.text "SECURE_DB_DSTACK_ENDPOINT"
  let tappdEndpoint := env.text "SECURE_DB_TAPPD_ENDPOINT"
  let givenReportData ← reportDataFromEnv env
  return { dstackEndpoint, tappdEndpoint, givenReportData }

/-- What is supplied to the quote endpoint: 64 zeros unless something was given. -/
def reportData (config : TeeEndpointConfig) : Bytes :=
  match config.givenReportData with
  | some data => data
  | none => List.replicate 64 0

end TeeEndpointConfig

/-- Two digits for each octet, of either case. -/
def InHex (data : Bytes) (text : String) : Prop := asciiLowercase text = hexEncode data

/-- Padded base64 in the standard alphabet. -/
def InBase64 (data : Bytes) (text : String) : Prop := text = String.ofList (Base64.encode data)

section Formats

/-- A text decodes to octets exactly when it is their hexadecimal writing, in either
case. -/
theorem hexDecode_eq_some_iff (raw : String) (data : Bytes) :
    hexDecode raw = some data ↔ InHex data raw := by
  rw [hexDecode, hexOctets_eq_some_iff, InHex, asciiLowercase, hexEncode,
    ← String.toList_inj, String.toList_ofList, String.toList_ofList]

/-- A text decodes to octets exactly when it is their base64 writing. -/
theorem base64Decode_eq_some_iff (raw : String) (data : Bytes) :
    Base64.decode raw.toList = some data ↔ InBase64 data raw := by
  rw [Base64.decode_eq_some_iff, InBase64, ← String.toList_inj, String.toList_ofList]

/-- A hexadecimal writing has two digits for each octet. -/
theorem InHex.length {data : Bytes} {text : String} (written : InHex data text) :
    text.toList.length = 2 * data.length := by
  have same := congrArg (fun text => text.toList.length) written
  simpa [asciiLowercase, hexEncode, length_hexDigits] using same

/-- A base64 writing has four signs for each three octets or part of them. -/
theorem InBase64.length {data : Bytes} {text : String} (written : InBase64 data text) :
    text.toList.length = (data.length + 2) / 3 * 4 := by
  rw [written, String.toList_ofList, Base64.length_encode]

/-- A text of 64 octets has 128 characters in one format and 88 in the other. -/
theorem InHex.not_inBase64 {data other : Bytes} {text : String} (size : data.length = 64)
    (otherSize : other.length = 64) (written : InHex data text) : ¬ InBase64 other text := by
  intro otherwise
  have hexLength := written.length
  have base64Length := otherwise.length
  rw [size] at hexLength
  rw [otherSize] at base64Length
  omega

/-- What a reader yields when only 64 octets are taken from it. -/
theorem filter_size_eq_some_iff (decoded : Option Bytes) (data : Bytes) :
    decoded.filter (fun bytes => bytes.length = 64) = some data ↔
      decoded = some data ∧ data.length = 64 := by
  rw [Option.filter_eq_some_iff, decide_eq_true_eq]

/-- Report data is decoded exactly from its two writings. -/
theorem decodeReportData_ok_iff (raw : String) (data : Bytes) :
    decodeReportData raw = .ok data ↔
      data.length = 64 ∧ (InHex data raw ∨ InBase64 data raw) := by
  unfold decodeReportData
  split
  case h_1 bytes found =>
    obtain ⟨read, size⟩ := (filter_size_eq_some_iff _ _).mp found
    have written := (hexDecode_eq_some_iff _ _).mp read
    constructor
    · rintro ⟨⟩
      exact ⟨size, .inl written⟩
    · rintro ⟨otherSize, hex | base64⟩
      · rw [← hexDecode_eq_some_iff, read] at hex
        rw [Option.some.inj hex]
      · exact absurd base64 (written.not_inBase64 size otherSize)
  case h_2 notHex =>
    have other (written : InHex data raw) (size : data.length = 64) : False := by
      have decoded := (hexDecode_eq_some_iff _ _).mpr written
      have found := (filter_size_eq_some_iff _ _).mpr ⟨decoded, size⟩
      rw [notHex] at found
      cases found
    split
    case h_1 bytes found =>
      obtain ⟨read, size⟩ := (filter_size_eq_some_iff _ _).mp found
      constructor
      · rintro ⟨⟩
        exact ⟨size, .inr ((base64Decode_eq_some_iff _ _).mp read)⟩
      · rintro ⟨otherSize, hex | base64⟩
        · exact (other hex otherSize).elim
        · rw [← base64Decode_eq_some_iff, read] at base64
          rw [Option.some.inj base64]
    case h_2 notBase64 =>
      constructor
      · intro failed
        cases failed
      · rintro ⟨size, hex | base64⟩
        · exact (other hex size).elim
        · have found := (filter_size_eq_some_iff _ _).mpr
            ⟨(base64Decode_eq_some_iff _ _).mpr base64, size⟩
          rw [notBase64] at found
          cases found

/-- Decoding undoes both writings of 64 octets, and no text is read in one format that was
written in the other.

Proof: decoding tries hexadecimal digits first and base64 second, and each decoder is the
inverse of its encoder. For 64 octets the lengths of the two writings differ, so a text cannot
be both. -/
theorem reportData_unambiguous :
    (∀ (raw : String) (data : Bytes), decodeReportData raw = .ok data ↔
      data.length = 64 ∧ (InHex data raw ∨ InBase64 data raw)) ∧
    (∀ data : Bytes, data.length = 64 → decodeReportData (hexEncode data) = .ok data ∧
      decodeReportData (String.ofList (Base64.encode data)) = .ok data) ∧
    ∀ (raw : String) (data other : Bytes), data.length = 64 → other.length = 64 →
      InHex data raw → ¬ InBase64 other raw := by
  refine ⟨decodeReportData_ok_iff, ?_, ?_⟩
  · intro data size
    constructor
    · have written := (hexDecode_eq_some_iff _ _).mp (hexDecode_hexEncode data)
      exact (decodeReportData_ok_iff _ _).mpr ⟨size, .inl written⟩
    · exact (decodeReportData_ok_iff _ _).mpr ⟨size, .inr rfl⟩
  · intro raw data other size otherSize written
    exact written.not_inBase64 size otherSize

/-- Sixty-four zeros are recovered from both writings, which differ. -/
theorem reportData_unambiguous_zeros :
    decodeReportData (hexEncode (List.replicate 64 0)) = .ok (List.replicate 64 0) ∧
      decodeReportData (String.ofList (Base64.encode (List.replicate 64 0))) =
        .ok (List.replicate 64 0) ∧
      ¬ InBase64 (List.replicate 64 0) (hexEncode (List.replicate 64 0)) := by
  have size : (List.replicate 64 (0 : UInt8)).length = 64 := List.length_replicate
  have written : InHex (List.replicate 64 0) (hexEncode (List.replicate 64 0)) := by
    unfold InHex
    decide +kernel
  obtain ⟨hex, base64⟩ := reportData_unambiguous.2.1 _ size
  exact ⟨hex, base64, reportData_unambiguous.2.2 _ _ _ size size written⟩

end Formats

section Configuration

/-- A text is refused exactly when it writes no 64 octets in either format, and always
with the same message. -/
theorem decodeReportData_error_iff (raw : String) (error : String) :
    decodeReportData raw = .error error ↔
      error = "report data must be 64 bytes hex or base64 encoded" ∧
        ∀ data : Bytes, data.length = 64 → ¬ InHex data raw ∧ ¬ InBase64 data raw := by
  cases outcome : decodeReportData raw with
  | ok data =>
    obtain ⟨size, written⟩ := (decodeReportData_ok_iff _ _).mp outcome
    constructor
    · intro failed
      cases failed
    · rintro ⟨-, unwritten⟩
      exact absurd written (not_or.mpr (unwritten data size))
  | error found =>
    have fixed : found = "report data must be 64 bytes hex or base64 encoded" := by
      unfold decodeReportData at outcome
      split at outcome
      · cases outcome
      · split at outcome <;> cases outcome
        rfl
    subst fixed
    constructor
    · rintro ⟨⟩
      refine ⟨rfl, fun data size => not_or.mp ?_⟩
      intro written
      rw [(decodeReportData_ok_iff _ _).mpr ⟨size, written⟩] at outcome
      cases outcome
    · rintro ⟨rfl, -⟩
      rfl

/-- Without a text in the variable a configuration is given no report data. -/
theorem fromEnv_of_unset {env : Environment}
    (unset : env.text "SECURE_DB_TEE_REPORT_DATA" = none) :
    TeeEndpointConfig.fromEnv env = .ok ⟨env.text "SECURE_DB_DSTACK_ENDPOINT",
      env.text "SECURE_DB_TAPPD_ENDPOINT", none⟩ := by
  unfold TeeEndpointConfig.fromEnv TeeEndpointConfig.reportDataFromEnv
  rw [unset]
  rfl

/-- A configuration is given what the text in the variable decodes to, and fails with the error of
its decoding. -/
theorem fromEnv_of_set {env : Environment} {raw : String}
    (set_ : env.text "SECURE_DB_TEE_REPORT_DATA" = some raw) :
    TeeEndpointConfig.fromEnv env = match decodeReportData raw with
      | .ok data => .ok ⟨env.text "SECURE_DB_DSTACK_ENDPOINT",
          env.text "SECURE_DB_TAPPD_ENDPOINT", some data⟩
      | .error error => .error (.configuration error) := by
  unfold TeeEndpointConfig.fromEnv TeeEndpointConfig.reportDataFromEnv
  rw [set_]
  dsimp only
  cases decodeReportData raw <;> rfl

/-- What a configuration supplies to the quote endpoint is what the variable writes, and 64 zeros
where it holds no text. A text that writes no 64 octets is refused, and nothing else is.

Proof: the variable decides which of the two cases is met; in the second both outcomes of the
decoder are known exactly, and the rest of the configuration cannot fail. -/
theorem suppliedReportData_exact (env : Environment) :
    (∀ data, (∃ config, TeeEndpointConfig.fromEnv env = .ok config ∧ config.reportData = data) ↔
      match env.text "SECURE_DB_TEE_REPORT_DATA" with
      | none => data = List.replicate 64 0
      | some raw => data.length = 64 ∧ (InHex data raw ∨ InBase64 data raw)) ∧
    ∀ error, TeeEndpointConfig.fromEnv env = .error error ↔
      error = .configuration "report data must be 64 bytes hex or base64 encoded" ∧
        ∃ raw, env.text "SECURE_DB_TEE_REPORT_DATA" = some raw ∧
          ∀ data : Bytes, data.length = 64 → ¬ InHex data raw ∧ ¬ InBase64 data raw := by
  cases found : env.text "SECURE_DB_TEE_REPORT_DATA" with
  | none =>
    rw [fromEnv_of_unset found]
    constructor
    · intro data
      constructor
      · rintro ⟨_, ⟨⟩, rfl⟩
        rfl
      · rintro rfl
        exact ⟨_, rfl, rfl⟩
    · intro error
      constructor
      · intro failed
        cases failed
      · rintro ⟨-, _, none, -⟩
        cases none
  | some raw =>
    rw [fromEnv_of_set found]
    constructor
    · intro data
      change _ ↔ data.length = 64 ∧ (InHex data raw ∨ InBase64 data raw)
      rw [← decodeReportData_ok_iff]
      cases decodeReportData raw with
      | ok decoded =>
        constructor
        · rintro ⟨_, ⟨⟩, rfl⟩
          rfl
        · rintro ⟨⟩
          exact ⟨_, rfl, rfl⟩
      | error text =>
        constructor
        · rintro ⟨_, ⟨⟩, -⟩
        · intro decoded
          cases decoded
    · intro error
      constructor
      · intro failed
        cases outcome : decodeReportData raw with
        | ok decoded =>
          rw [outcome] at failed
          cases failed
        | error text =>
          rw [outcome] at failed
          cases failed
          obtain ⟨rfl, unwritten⟩ := (decodeReportData_error_iff _ _).mp outcome
          exact ⟨rfl, raw, rfl, unwritten⟩
      · rintro ⟨rfl, _, ⟨⟩, unwritten⟩
        rw [(decodeReportData_error_iff _ _).mpr ⟨rfl, unwritten⟩]

end Configuration

end SecureDatabase.Tee
