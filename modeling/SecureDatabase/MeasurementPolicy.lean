import SecureDatabase.Foundation.Json
import SecureDatabase.Foundation.Text

/-!
# Attestation policies of the broker client

A policy file lists the measurements a broker may have and possibly the compose hash
it must run. An empty list of one kind allows every value of that kind, and loading
only demands that something is listed at all. What a policy demands of a peer
therefore depends on the kind of the peer's report.

Reading the file, parsing JSON and parsing the event log are parameters, and so is
the lower-casing of texts: nothing here depends on which characters it changes.
Errors are given by the message they display.
-/

namespace SecureDatabase.BrokerClient

open Foundation

/-- Octets of a fixed number. -/
abbrev Octets (size : Nat) := { octets : Bytes // octets.length = size }

/-- The parts of a verified report that a policy looks at. -/
inductive Report where
  | td10 (mrTd : Octets 48)
  | td15 (mrTd : Octets 48)
  | sgxEnclave (mrEnclave mrSigner : Octets 32) (isvSvn : UInt16)

/-- A record of the event log. -/
structure TdxEventLog where
  imr : UInt32
  event : String
  eventPayload : Bytes
deriving DecidableEq

/-- An attestation whose quote has been verified. -/
structure VerifiedAttestation where
  report : Report
  rawEventLog : Bytes

/-- The loaded restrictions, in lower case. An empty list and an absent value restrict
nothing. -/
structure MeasurementPolicy where
  allowedMrtd : List String
  allowedMrenclave : List String
  allowedMrsigner : List String
  minIsvsvn : Option UInt16
  expectedComposeHash : Option String
deriving DecidableEq

/-- A loaded policy with the name that messages use. -/
structure ClientPolicy where
  policyName : String
  measurement : MeasurementPolicy
deriving DecidableEq

section Policy

/- `str::to_lowercase`. -/
variable (toLowercase : String → String)

namespace MeasurementPolicy

/-- An empty list allows every measurement; any other allows what it has, in any case. -/
def allowsTdxMrtd (policy : MeasurementPolicy) (mrtd : String) : Bool :=
  policy.allowedMrtd.isEmpty || policy.allowedMrtd.contains (toLowercase mrtd)

/-- All three restrictions have to allow an enclave: its measurement, its signer and its
version. -/
def allowsSgxMeasurements (policy : MeasurementPolicy) (mrenclave mrsigner : String)
    (isvsvn : UInt16) : Bool :=
  let mrenclaveOk :=
    policy.allowedMrenclave.isEmpty || policy.allowedMrenclave.contains (toLowercase mrenclave)
  let mrsignerOk :=
    policy.allowedMrsigner.isEmpty || policy.allowedMrsigner.contains (toLowercase mrsigner)
  let isvsvnOk := match policy.minIsvsvn with
    | some min => decide (min ≤ isvsvn)
    | none => true
  mrenclaveOk && mrsignerOk && isvsvnOk

/-- A hash is compared only where one is expected. -/
def allowsComposeHash (policy : MeasurementPolicy) (composeHash : String) : Bool :=
  match policy.expectedComposeHash with
  | some expected => expected = toLowercase composeHash
  | none => true

/-- Whether the policy expects a compose hash at all. -/
def expectsComposeHash (policy : MeasurementPolicy) : Bool := policy.expectedComposeHash.isSome

end MeasurementPolicy

namespace ClientPolicy

/-- The texts of an array, lower-cased; anything else is left out. -/
def stringSet (value : Option Json) : List String :=
  ((value.bind Json.asArray).map fun elements =>
    (elements.filterMap Json.asStr).map toLowercase).getD []

/-- The measurements that a parsed policy file lists. -/
def measurementOf (value : Json) : MeasurementPolicy where
  allowedMrtd := stringSet toLowercase (value.get "allowed_mrtd")
  allowedMrenclave := stringSet toLowercase (value.get "allowed_mrenclave")
  allowedMrsigner := stringSet toLowercase (value.get "allowed_mrsigner")
  minIsvsvn := ((value.get "min_isvsvn").bind Json.asU64).map UInt64.toUInt16
  expectedComposeHash := ((value.get "expected_compose_hash").bind Json.asStr).map toLowercase

/-- Read and check a policy file. -/
def fromFile (readToString : String → Except String String)
    (fromStr : String → Except String Json) (path : String) : Except String ClientPolicy := do
  let raw ← (readToString path).mapError
    (fun _ => "failed to read client policy file: " ++ path)
  let value ← (fromStr raw).mapError (fun _ => "failed to parse policy file (expected JSON)")
  let measurement := measurementOf toLowercase value
  if measurement.allowedMrtd.isEmpty && measurement.allowedMrenclave.isEmpty &&
      measurement.allowedMrsigner.isEmpty && measurement.expectedComposeHash.isNone then
    throw "attestation policy must restrict at least one measurement or compose hash"
  return { policyName := ((value.get "policy_name").bind Json.asStr).getD "default", measurement }

end ClientPolicy

/-- The compose hash of an event log: the payload of its first compose event in the
third register. -/
def decodeComposeHash (fromSlice : Bytes → Except String (List TdxEventLog))
    (verified : VerifiedAttestation) : Except String String := do
  if verified.rawEventLog.isEmpty then
    throw "event log missing — cannot decode compose hash"
  let events ← (fromSlice verified.rawEventLog).mapError
    (fun _ => "failed to parse RA-TLS event log JSON")
  match events.find? (fun event => event.imr = 3 &&
      (event.event = "compose-hash" || event.event = "upgraded-app-id")) with
  | some event => return hexEncode event.eventPayload
  | none => throw "compose-hash event not found in event log"

/-- The restrictions of the kind of a report, and of no other kind. -/
def enforceMeasurementPolicy (policy : MeasurementPolicy) (verified : VerifiedAttestation) :
    Except String Unit :=
  match verified.report with
  | .td10 mrTd =>
      let mrtd := hexEncode mrTd.val
      if policy.allowsTdxMrtd toLowercase mrtd then .ok ()
      else .error ("TDX MR_TD " ++ mrtd ++ " rejected by policy")
  | .td15 mrTd =>
      let mrtd := hexEncode mrTd.val
      if policy.allowsTdxMrtd toLowercase mrtd then .ok ()
      else .error ("TDX (TD15) MR_TD " ++ mrtd ++ " rejected by policy")
  | .sgxEnclave mrEnclave mrSigner isvSvn =>
      let mrenclave := hexEncode mrEnclave.val
      let mrsigner := hexEncode mrSigner.val
      if policy.allowsSgxMeasurements toLowercase mrenclave mrsigner isvSvn then .ok ()
      else .error ("SGX measurements rejected (mrenclave=" ++ mrenclave ++ ", mrsigner=" ++
        mrsigner ++ ", isv_svn=" ++ toString isvSvn.toNat ++ ")")

/-- The compose hash that `verify_peer_certificate_async` works with: none where it
cannot be decoded or is empty. -/
def composeHash (fromSlice : Bytes → Except String (List TdxEventLog))
    (verified : VerifiedAttestation) : Option String :=
  (decodeComposeHash fromSlice verified).toOption.filter (fun hash => !hash.isEmpty)

/-- What `verify_peer_certificate_async` demands of a verified attestation. -/
def verifyPeerPolicy (fromSlice : Bytes → Except String (List TdxEventLog))
    (policy : ClientPolicy) (verified : VerifiedAttestation) : Except String Unit := do
  if policy.measurement.expectsComposeHash then
    match composeHash fromSlice verified with
    | none => throw "attestation missing compose hash while policy requires it"
    | some hash =>
        if !policy.measurement.allowsComposeHash toLowercase hash then
          throw ("compose hash " ++ hash ++ " rejected by policy")
  else
    match composeHash fromSlice verified with
    | none => pure ()
    | some hash =>
        if !policy.measurement.allowsComposeHash toLowercase hash then
          throw ("compose hash " ++ hash ++ " rejected by policy")
  enforceMeasurementPolicy toLowercase policy.measurement verified

/-- A value of the attestation itself was found among what the policy lists for it: its
measurement of the report's own kind, or its compose hash. -/
def Matched (fromSlice : Bytes → Except String (List TdxEventLog)) (policy : MeasurementPolicy)
    (verified : VerifiedAttestation) : Prop :=
  (∃ hash, composeHash fromSlice verified = some hash ∧
    policy.expectedComposeHash = some (toLowercase hash)) ∨
  match verified.report with
  | .td10 mrTd => toLowercase (hexEncode mrTd.val) ∈ policy.allowedMrtd
  | .td15 mrTd => toLowercase (hexEncode mrTd.val) ∈ policy.allowedMrtd
  | .sgxEnclave mrEnclave mrSigner _ =>
      toLowercase (hexEncode mrEnclave.val) ∈ policy.allowedMrenclave ∨
        toLowercase (hexEncode mrSigner.val) ∈ policy.allowedMrsigner

end Policy

/-- A document lists a text under a name. -/
def Lists (document : Json) (name : String) : Prop :=
  ∃ elements text, document.get name = some (.array elements) ∧ .string text ∈ elements

/-- A document covers the kind of a report: it gives a compose hash, lists a value of that
kind, or demands a security version that the report does not have. -/
def Covers (document : Json) (report : Report) : Prop :=
  (∃ text, document.get "expected_compose_hash" = some (.string text)) ∨
  match report with
  | .td10 _ => Lists document "allowed_mrtd"
  | .td15 _ => Lists document "allowed_mrtd"
  | .sgxEnclave _ _ isvSvn =>
      Lists document "allowed_mrenclave" ∨ Lists document "allowed_mrsigner" ∨
        ∃ min, document.get "min_isvsvn" = some (.number (.posInt min)) ∧ isvSvn < min.toUInt16

section Coverage

variable {toLowercase : String → String}

/-- What a list is read as. -/
theorem mem_stringSet_iff (document : Json) (name lowered : String) :
    lowered ∈ ClientPolicy.stringSet toLowercase (document.get name) ↔
      ∃ elements text, document.get name = some (.array elements) ∧ .string text ∈ elements ∧
        toLowercase text = lowered := by
  constructor
  · intro member
    cases found : document.get name with
    | none => simp [found, ClientPolicy.stringSet] at member
    | some value =>
      cases value with
      | array elements =>
        simp only [found, ClientPolicy.stringSet, Option.bind_some, Json.asArray, Option.map_some,
          Option.getD_some, List.mem_map, List.mem_filterMap] at member
        obtain ⟨text, ⟨element, present, read⟩, lower⟩ := member
        cases element with
        | string other =>
          cases read
          exact ⟨elements, text, rfl, present, lower⟩
        | _ => cases read
      | _ => simp [found, ClientPolicy.stringSet, Json.asArray] at member
  · rintro ⟨elements, text, found, present, lower⟩
    simp only [found, ClientPolicy.stringSet, Option.bind_some, Json.asArray, Option.map_some,
      Option.getD_some, List.mem_map, List.mem_filterMap]
    exact ⟨text, ⟨_, present, rfl⟩, lower⟩

/-- A set is read as non-empty exactly when the document lists a text there. -/
theorem stringSet_ne_nil_iff (document : Json) (name : String) :
    ClientPolicy.stringSet toLowercase (document.get name) ≠ [] ↔ Lists document name := by
  constructor
  · intro listed
    obtain ⟨lowered, member⟩ := List.exists_mem_of_ne_nil _ listed
    obtain ⟨elements, text, found, present, -⟩ := (mem_stringSet_iff document name lowered).mp member
    exact ⟨elements, text, found, present⟩
  · rintro ⟨elements, text, found, present⟩
    apply List.ne_nil_of_mem
    exact (mem_stringSet_iff document name (toLowercase text)).mpr
      ⟨elements, text, found, present, rfl⟩

/-- A compose hash is expected exactly when the document gives one as a text. -/
theorem expectedComposeHash_isSome_iff (document : Json) :
    (ClientPolicy.measurementOf toLowercase document).expectedComposeHash.isSome = true ↔
      ∃ text, document.get "expected_compose_hash" = some (.string text) := by
  simp only [ClientPolicy.measurementOf, Option.isSome_map]
  cases found : document.get "expected_compose_hash" with
  | none => simp
  | some value => cases value <;> simp [Json.asStr]

/-- A security version is demanded exactly when the document gives an unsigned integer,
of which the low 16 bits count. -/
theorem exists_minIsvsvn_iff (document : Json) (holds : UInt16 → Prop) :
    (∃ min, (ClientPolicy.measurementOf toLowercase document).minIsvsvn = some min ∧ holds min) ↔
      ∃ min, document.get "min_isvsvn" = some (.number (.posInt min)) ∧ holds min.toUInt16 := by
  simp only [ClientPolicy.measurementOf, Option.map_eq_some_iff, Option.bind_eq_some_iff]
  constructor
  · rintro ⟨_, ⟨min, ⟨value, found, read⟩, rfl⟩, demanded⟩
    refine ⟨min, ?_, demanded⟩
    rw [found]
    cases value with
    | number number =>
      cases number with
      | posInt magnitude =>
        cases read
        rfl
      | _ => cases read
    | _ => cases read
  · rintro ⟨min, found, demanded⟩
    exact ⟨_, ⟨min, ⟨_, found, rfl⟩, rfl⟩, demanded⟩

/-- A loaded policy holds what its document lists. -/
theorem measurement_of_fromFile {readToString : String → Except String String}
    {fromStr : String → Except String Json} {path raw : String} {document : Json}
    {policy : ClientPolicy} (read : readToString path = .ok raw)
    (parsed : fromStr raw = .ok document)
    (loaded : ClientPolicy.fromFile toLowercase readToString fromStr path = .ok policy) :
    policy.measurement = ClientPolicy.measurementOf toLowercase document := by
  simp only [ClientPolicy.fromFile, read, parsed, Except.mapError, bind, Except.bind] at loaded
  split at loaded
  · cases loaded
  · cases loaded
    rfl

/-- What enforcement accepts: the report's measurements are allowed. -/
theorem enforceMeasurementPolicy_eq_ok_iff (policy : MeasurementPolicy)
    (verified : VerifiedAttestation) :
    enforceMeasurementPolicy toLowercase policy verified = .ok () ↔
      match verified.report with
      | .td10 mrTd => policy.allowsTdxMrtd toLowercase (hexEncode mrTd.val) = true
      | .td15 mrTd => policy.allowsTdxMrtd toLowercase (hexEncode mrTd.val) = true
      | .sgxEnclave mrEnclave mrSigner isvSvn =>
          policy.allowsSgxMeasurements toLowercase (hexEncode mrEnclave.val)
            (hexEncode mrSigner.val) isvSvn = true := by
  unfold enforceMeasurementPolicy
  cases verified.report <;> simp

/-- What the policy stage accepts: an expected compose hash is the attestation's own, and
the report's measurements are allowed. -/
theorem verifyPeerPolicy_eq_ok_iff (fromSlice : Bytes → Except String (List TdxEventLog))
    (policy : ClientPolicy) (verified : VerifiedAttestation) :
    verifyPeerPolicy toLowercase fromSlice policy verified = .ok () ↔
      (∀ expected, policy.measurement.expectedComposeHash = some expected →
        ∃ hash, composeHash fromSlice verified = some hash ∧ expected = toLowercase hash) ∧
      match verified.report with
      | .td10 mrTd => policy.measurement.allowsTdxMrtd toLowercase (hexEncode mrTd.val) = true
      | .td15 mrTd => policy.measurement.allowsTdxMrtd toLowercase (hexEncode mrTd.val) = true
      | .sgxEnclave mrEnclave mrSigner isvSvn =>
          policy.measurement.allowsSgxMeasurements toLowercase (hexEncode mrEnclave.val)
            (hexEncode mrSigner.val) isvSvn = true := by
  rw [← enforceMeasurementPolicy_eq_ok_iff]
  unfold verifyPeerPolicy MeasurementPolicy.expectsComposeHash MeasurementPolicy.allowsComposeHash
  cases policy.measurement.expectedComposeHash with
  | none => cases composeHash fromSlice verified <;> simp
  | some expected =>
    cases composeHash fromSlice verified with
    | none => simp [bind, Except.bind, throw, throwThe, MonadExceptOf.throw]
    | some hash =>
      by_cases same : expected = toLowercase hash
      · simp [same]
      · simp [same, bind, Except.bind, throw, throwThe, MonadExceptOf.throw]

/-- The policy restricts reports of this kind. -/
def MeasurementPolicy.Restricts (policy : MeasurementPolicy) : Report → Prop
  | .td10 _ => policy.allowedMrtd ≠ []
  | .td15 _ => policy.allowedMrtd ≠ []
  | .sgxEnclave _ _ isvSvn =>
      policy.allowedMrenclave ≠ [] ∨ policy.allowedMrsigner ≠ [] ∨
        ∃ min, policy.minIsvsvn = some min ∧ isvSvn < min

/-- A check against a list that is not empty is membership. -/
theorem mem_of_allowed {allowed : List String} {value : String} (restricted : allowed ≠ [])
    (ok : (allowed.isEmpty || allowed.contains value) = true) : value ∈ allowed := by
  simpa [restricted] using ok

/-- Acceptance means a match exactly where the policy expects a compose hash or restricts
the report. -/
theorem matched_iff_restricts (fromSlice : Bytes → Except String (List TdxEventLog))
    (policy : ClientPolicy) (verified : VerifiedAttestation) :
    (verifyPeerPolicy toLowercase fromSlice policy verified = .ok () →
      Matched toLowercase fromSlice policy.measurement verified) ↔
      policy.measurement.expectedComposeHash.isSome = true ∨
        policy.measurement.Restricts verified.report := by
  rw [verifyPeerPolicy_eq_ok_iff]
  constructor
  · intro implies
    by_contra unrestricted
    obtain ⟨unexpected, unlisted⟩ := not_or.mp unrestricted
    have absent : policy.measurement.expectedComposeHash = none := by simpa using unexpected
    cases kind : verified.report with
    | td10 mrTd =>
      have empty : policy.measurement.allowedMrtd = [] := by
        simpa [MeasurementPolicy.Restricts, kind] using unlisted
      simp [Matched, MeasurementPolicy.allowsTdxMrtd, kind, absent, empty] at implies
    | td15 mrTd =>
      have empty : policy.measurement.allowedMrtd = [] := by
        simpa [MeasurementPolicy.Restricts, kind] using unlisted
      simp [Matched, MeasurementPolicy.allowsTdxMrtd, kind, absent, empty] at implies
    | sgxEnclave mrEnclave mrSigner isvSvn =>
      rw [kind] at unlisted
      obtain ⟨enclaves, rest⟩ := not_or.mp unlisted
      obtain ⟨signers, recent⟩ := not_or.mp rest
      have versionOk : ∀ min, policy.measurement.minIsvsvn = some min → min ≤ isvSvn :=
        fun min demanded => UInt16.not_lt.mp (fun old => recent ⟨min, demanded, old⟩)
      simp only [not_not] at enclaves signers
      have allowed : policy.measurement.allowsSgxMeasurements toLowercase
          (hexEncode mrEnclave.val) (hexEncode mrSigner.val) isvSvn = true := by
        cases demanded : policy.measurement.minIsvsvn with
        | none => simp [MeasurementPolicy.allowsSgxMeasurements, enclaves, signers, demanded]
        | some min =>
          simp [MeasurementPolicy.allowsSgxMeasurements, enclaves, signers, demanded,
            versionOk min demanded]
      simp [Matched, kind, absent, enclaves, signers, allowed] at implies
  · rintro (expects | restricts) ⟨compose, allowed⟩
    · obtain ⟨expected, known⟩ := Option.isSome_iff_exists.mp expects
      obtain ⟨hash, decoded, same⟩ := compose expected known
      exact .inl ⟨hash, decoded, same ▸ known⟩
    · right
      cases kind : verified.report with
      | td10 mrTd =>
        rw [kind] at restricts allowed
        exact mem_of_allowed restricts allowed
      | td15 mrTd =>
        rw [kind] at restricts allowed
        exact mem_of_allowed restricts allowed
      | sgxEnclave mrEnclave mrSigner isvSvn =>
        rw [kind] at restricts allowed
        simp only [MeasurementPolicy.allowsSgxMeasurements, Bool.and_eq_true] at allowed
        obtain ⟨⟨enclaveOk, signerOk⟩, versionOk⟩ := allowed
        rcases restricts with enclaves | signers | ⟨min, demanded, old⟩
        · exact .inl (mem_of_allowed enclaves enclaveOk)
        · exact .inr (mem_of_allowed signers signerOk)
        · rw [demanded] at versionOk
          exact absurd old (UInt16.not_lt.mpr (of_decide_eq_true versionOk))

end Coverage

/-- For every policy file that is loaded and every attestation: the policy stage accepts
only what was matched against a value the policy lists, exactly when the document covers
the kind of the attestation's report.

Proof: where the document covers the report, the list or hash that it gives is not empty
and acceptance means membership, or the demanded security version refuses the report.
Where it does not, every list that is consulted is empty, so the report is accepted with
nothing to match. -/
theorem matched_iff_covers (toLowercase : String → String)
    (readToString : String → Except String String) (fromStr : String → Except String Json)
    (fromSlice : Bytes → Except String (List TdxEventLog)) (path raw : String) (document : Json)
    (policy : ClientPolicy) (verified : VerifiedAttestation)
    (read : readToString path = .ok raw) (parsed : fromStr raw = .ok document)
    (loaded : ClientPolicy.fromFile toLowercase readToString fromStr path = .ok policy) :
    (verifyPeerPolicy toLowercase fromSlice policy verified = .ok () →
      Matched toLowercase fromSlice policy.measurement verified) ↔
      Covers document verified.report := by
  rw [matched_iff_restricts, measurement_of_fromFile read parsed loaded]
  apply or_congr
  · exact expectedComposeHash_isSome_iff document
  · cases verified.report with
    | td10 mrTd => exact stringSet_ne_nil_iff document "allowed_mrtd"
    | td15 mrTd => exact stringSet_ne_nil_iff document "allowed_mrtd"
    | sgxEnclave mrEnclave mrSigner isvSvn =>
      apply or_congr (stringSet_ne_nil_iff document "allowed_mrenclave")
      apply or_congr (stringSet_ne_nil_iff document "allowed_mrsigner")
      exact exists_minIsvsvn_iff document (fun min => isvSvn < min)

/-- `str::to_ascii_lowercase`, which lower-cases a text of ASCII characters. -/
def toAsciiLowercase (text : String) : String := String.ofList (text.toList.map Char.toLower)

/-- The measurement that the file below lists, written as an operator may write it. -/
def listedMeasurement : String := String.ofList (List.replicate 64 'A')

/-- A policy file that lists one enclave. -/
def enclavePolicyFile : String :=
  "\x7b\"allowed_mrenclave\": [\"" ++ listedMeasurement ++ "\"]\x7d"

/-- What that file parses to. -/
def enclavePolicy : Json := .object [("allowed_mrenclave", .array [.string listedMeasurement])]

/-- A parser that knows this one file. -/
def parseEnclavePolicy (raw : String) : Except String Json :=
  if raw = enclavePolicyFile then .ok enclavePolicy else .error "expected value"

/-- An event log that does not parse. -/
def noEvents (_ : Bytes) : Except String (List TdxEventLog) := .error "expected value"

/-- A verified quote of the listed enclave, signed by an unlisted key, with no event log. -/
def listedEnclave : VerifiedAttestation :=
  ⟨.sgxEnclave ⟨List.replicate 32 170, rfl⟩ ⟨List.replicate 32 7, rfl⟩ 0, []⟩

/-- A verified quote of a trust domain with an arbitrary measurement and no event log. -/
def unknownDomain : VerifiedAttestation := ⟨.td10 ⟨List.replicate 48 7, rfl⟩, []⟩

/-- What is loaded from the file of one enclave. -/
def loadedEnclavePolicy : ClientPolicy :=
  ⟨"default", ClientPolicy.measurementOf toAsciiLowercase enclavePolicy⟩

/-- The file is loaded: it restricts something. -/
theorem fromFile_enclavePolicy :
    ClientPolicy.fromFile toAsciiLowercase (fun _ => .ok enclavePolicyFile) parseEnclavePolicy
      "policy.json" = .ok loadedEnclavePolicy := by
  decide +kernel

/-- The file covers enclaves: the listed one is accepted, and has matched the list. -/
theorem matched_listedEnclave :
    Covers enclavePolicy listedEnclave.report ∧
      verifyPeerPolicy toAsciiLowercase noEvents loadedEnclavePolicy listedEnclave = .ok () ∧
      Matched toAsciiLowercase noEvents loadedEnclavePolicy.measurement listedEnclave := by
  have covers : Covers enclavePolicy listedEnclave.report :=
    .inr (.inl ⟨[.string listedMeasurement], listedMeasurement, rfl, List.mem_cons_self⟩)
  have accepted : verifyPeerPolicy toAsciiLowercase noEvents loadedEnclavePolicy listedEnclave =
      .ok () := by
    decide +kernel
  exact ⟨covers, accepted, (matched_iff_covers toAsciiLowercase _ parseEnclavePolicy noEvents
    "policy.json" enclavePolicyFile enclavePolicy loadedEnclavePolicy listedEnclave rfl rfl
    fromFile_enclavePolicy).mpr covers accepted⟩

/-- The same file admits every trust domain, with nothing to match. -/
theorem not_matched_unknownDomain :
    ClientPolicy.fromFile toAsciiLowercase (fun _ => .ok enclavePolicyFile) parseEnclavePolicy
        "policy.json" = .ok loadedEnclavePolicy ∧
      verifyPeerPolicy toAsciiLowercase noEvents loadedEnclavePolicy unknownDomain = .ok () ∧
      ¬ Matched toAsciiLowercase noEvents loadedEnclavePolicy.measurement unknownDomain := by
  refine ⟨fromFile_enclavePolicy, by decide +kernel, ?_⟩
  rintro (⟨hash, decoded, -⟩ | member)
  · cases decoded
  · have unlisted : loadedEnclavePolicy.measurement.allowedMrtd = [] := by decide +kernel
    change _ ∈ loadedEnclavePolicy.measurement.allowedMrtd at member
    rw [unlisted] at member
    cases member

end SecureDatabase.BrokerClient
