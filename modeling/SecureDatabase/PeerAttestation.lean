import Mathlib.Logic.Equiv.List
import SecureDatabase.Basic
import SecureDatabase.MeasurementPolicy

/-!
# Verification of a peer's certificate

A peer presents its quote, its public key and an event log in one certificate. The quote is
verified against collateral and its report data against the public key; the compose hash is
then read from the event log. Nothing relates the event log to the quote: the register that
a trust domain extends with every event is never compared with a replay of the log.

The certificate parser, the quote verifier, the digest of the key binding and the parser of
the event log are parameters. The value of a run-time register is of an arbitrary type, so
that extending one can be taken free of collisions, which no function on 48 octets is.
-/

namespace SecureDatabase.BrokerClient

open Foundation

/-- The parts of an X.509 certificate that verification looks at: the common names of its
subject, absent where one is not readable as a text, and its extensions by identifier. -/
structure Certificate where
  commonNames : List (Option String)
  extensions : List (List Nat × Bytes)
  subjectPublicKey : Bytes

/-- The parts of a quote's report that verification looks at, with the third run-time
register of a trust domain. -/
inductive QuoteReport (Register : Type) where
  | td10 (mrTd : Octets 48) (rtmr3 : Register) (reportData : Octets 64)
  | td15 (mrTd : Octets 48) (rtmr3 : Register) (reportData : Octets 64)
  | sgxEnclave (mrEnclave mrSigner : Octets 32) (isvSvn : UInt16) (reportData : Octets 64)
deriving DecidableEq

namespace QuoteReport

variable {Register : Type}

/-- What a policy looks at. -/
def measured : QuoteReport Register → Report
  | td10 mrTd _ _ => .td10 mrTd
  | td15 mrTd _ _ => .td15 mrTd
  | sgxEnclave mrEnclave mrSigner isvSvn _ => .sgxEnclave mrEnclave mrSigner isvSvn

/-- The report data of a quote, whatever its kind. -/
def reportData : QuoteReport Register → Octets 64
  | td10 _ _ reportData => reportData
  | td15 _ _ reportData => reportData
  | sgxEnclave _ _ _ reportData => reportData

/-- The third run-time register, which only a trust domain has. -/
def rtmr3 : QuoteReport Register → Option Register
  | td10 _ rtmr3 _ => some rtmr3
  | td15 _ rtmr3 _ => some rtmr3
  | sgxEnclave _ _ _ _ => none

end QuoteReport

/-- The libraries that verification calls. -/
structure Libraries (Register Collateral : Type) where
  /-- `X509Certificate::from_der`. -/
  parseCertificate : Bytes → Except String Certificate
  /-- `yasna::parse_der` of an octet string. -/
  readBytes : Bytes → Except String Bytes
  /-- `Quote::parse`. -/
  parseQuote : Bytes → Except String (QuoteReport Register)
  sha512 : Bytes → Octets 64
  getCollateral : String → Bytes → Except String Collateral
  /-- `dcap_qvl::verify::verify`. -/
  verifyQuote : Bytes → Collateral → Nat → Except String (QuoteReport Register)
  /-- `serde_json::from_slice` of an event log. -/
  fromSlice : Bytes → Except String (List TdxEventLog)
  toLowercase : String → String

/-- What verification reads from its surroundings: the variable `PCCS_URL` and the seconds
since the epoch, absent on a clock before it. -/
structure Surroundings where
  pccsUrl : Option String
  now : Option Nat

/-- Whose hardware a quote is from. -/
inductive TEEVendor where
  | amdSevSnp
  | intelTDX
  | intelSGX
deriving DecidableEq

/-- Attestation extracted from a peer's certificate. -/
structure Attestation where
  quote : Bytes
  rawEventLog : Bytes

/-- The extension that carries the quote. -/
def phalaRatlsQuoteOid : List Nat := [1, 3, 6, 1, 4, 1, 62397, 1, 1]

/-- The extension that carries the event log. -/
def phalaRatlsEventLogOid : List Nat := [1, 3, 6, 1, 4, 1, 62397, 1, 2]

/-- `X509Certificate::get_extension_unique`. -/
def Certificate.getExtensionUnique (certificate : Certificate) (oid : List Nat) :
    Except String (Option Bytes) :=
  match certificate.extensions.filter (fun extension => extension.1 = oid) with
  | [] => .ok none
  | [extension] => .ok (some extension.2)
  | _ => .error "duplicate extensions"

section Verification

variable {Register Collateral : Type} (libraries : Libraries Register Collateral)

/-- The octets of an extension, less the octet string they are wrapped in. -/
def getExtensionOctets (certificate : Certificate) (oid : List Nat) :
    Except String (Option Bytes) := do
  match ← (certificate.getExtensionUnique oid).mapError
      (fun _ => "failed to read X.509 extension") with
  | none => return none
  | some value =>
      let inner ← (libraries.readBytes value).mapError
        (fun error => "RA-TLS extension is not a valid DER OCTET STRING: " ++ error)
      return some inner

/-- `Attestation::from_der`. -/
def Attestation.fromDer (certDer : Bytes) : Except String (Option Attestation) := do
  let certificate ← (libraries.parseCertificate certDer).mapError
    (fun error => "failed to parse X.509 certificate: " ++ error)
  match ← getExtensionOctets libraries certificate phalaRatlsQuoteOid with
  | none => return none
  | some quote =>
      let rawEventLog ← getExtensionOctets libraries certificate phalaRatlsEventLogOid
      return some ⟨quote, rawEventLog.getD []⟩

/-- Classify the vendor from the leading octets of a quote: a version and, at offset 4, the
type of the environment. -/
def detectVendorFromQuote (quote : Bytes) : Except String TEEVendor :=
  match quote with
  | version0 :: version1 :: _ :: _ :: type0 :: type1 :: type2 :: type3 :: _ =>
      let version := version0.toNat + 256 * version1.toNat
      let teeType :=
        type0.toNat + 256 * type1.toNat + 65536 * type2.toNat + 16777216 * type3.toNat
      if version = 3 then .ok .intelSGX
      else if (version = 4 ∨ version = 5) ∧ teeType = 0x81 then .ok .intelTDX
      else if (version = 4 ∨ version = 5) ∧ teeType = 0 then .ok .intelSGX
      else .ok .amdSevSnp
  | _ => .error ("quote too short (" ++ toString quote.length ++ " bytes) to determine vendor")

/-- `decode_report_data`: the report data of a quote that parses. -/
def decodeReportData (quote : Bytes) : Except String (Octets 64) := do
  let parsed ← (libraries.parseQuote quote).mapError
    (fun error => "failed to parse quote: " ++ error)
  return parsed.reportData

/-- The report data that binds a quote to a public key. -/
def expectedReportData (pubkeyDer : Bytes) : Octets 64 :=
  libraries.sha512 (utf8 "ratls-cert" ++ utf8 ":" ++ pubkeyDer)

/-- An explicit address of the collateral service comes before the variable. -/
def resolvePccsUrl (surroundings : Surroundings) (pccsUrl : Option String) :
    Except String String :=
  match pccsUrl.filter (fun url => !url.isEmpty), surroundings.pccsUrl with
  | some url, _ => .ok url
  | none, some url => .ok url
  | none, none => .error
      "PCCS URL not provided: pass pccs_url or set PCCS_URL environment variable"

/-- The verified report of a quote. -/
def verifiedReport (surroundings : Surroundings) (quote pubkeyDer : Bytes)
    (pccsUrl : Option String) : Except String (QuoteReport Register) := do
  let vendor ← detectVendorFromQuote quote
  if vendor = .amdSevSnp then
    throw ("AMD SEV-SNP attestation verification is not implemented in this module; " ++
      "call-site must reject AMD before invoking verify_with_ra_pubkey")
  let actualReportData ← (decodeReportData libraries quote).mapError
    (fun _ => "failed to decode report_data from quote for pubkey binding check")
  if actualReportData ≠ expectedReportData libraries pubkeyDer then
    throw ("RA-TLS quote report_data does not match peer public key binding " ++
      "(tag \"ratls-cert\")")
  let pccsUrl ← resolvePccsUrl surroundings pccsUrl
  let collateral ← (libraries.getCollateral pccsUrl quote).mapError
    (fun _ => "failed to fetch quote collateral from PCCS")
  match surroundings.now with
  | none => throw "system clock is before UNIX epoch"
  | some now =>
      (libraries.verifyQuote quote collateral now).mapError
        (fun error => "DCAP quote verification failed: " ++ error)

/-- `Attestation::verify_with_ra_pubkey`, with the parts of its result that a policy looks
at: the event log is passed on as it came. -/
def verifyWithRaPubkey (surroundings : Surroundings) (attestation : Attestation)
    (pubkeyDer : Bytes) (pccsUrl : Option String) : Except String VerifiedAttestation := do
  let report ← verifiedReport libraries surroundings attestation.quote pubkeyDer pccsUrl
  return ⟨report.measured, attestation.rawEventLog⟩

/-- The subject of a certificate is on the list, if there is one. -/
def checkSubject (subjectAllowlist : Option (List String)) (certificate : Certificate) :
    Except String Unit :=
  match subjectAllowlist with
  | none => .ok ()
  | some allowlist =>
      match certificate.commonNames.head?.join with
      | none => .error "server certificate has no common name"
      | some subject =>
          if allowlist.contains (libraries.toLowercase (trim subject)) then .ok ()
          else .error ("server subject " ++ subject ++ " not in allowlist")

/-- What the client asks of every peer. -/
structure PeerRequirements where
  policy : ClientPolicy
  subjectAllowlist : Option (List String)
  pccsUrl : Option String

/-- `verify_peer_certificate_async`. -/
def verifyPeerCertificate (surroundings : Surroundings) (required : PeerRequirements)
    (certDer : Bytes) : Except String Unit := do
  let certificate ← (libraries.parseCertificate certDer).mapError
    (fun error => "failed to parse X.509 certificate: " ++ error)
  checkSubject libraries required.subjectAllowlist certificate
  match ← (Attestation.fromDer libraries certDer).mapError
      (fun _ => "failed to parse RA-TLS attestation") with
  | none => throw "certificate does not contain RA-TLS attestation"
  | some attestation =>
      let verified ← (verifyWithRaPubkey libraries surroundings attestation
        certificate.subjectPublicKey required.pccsUrl).mapError
        (fun _ => "RA-TLS attestation verification failed")
      verifyPeerPolicy libraries.toLowercase libraries.fromSlice required.policy verified

/-- Two certificates are alike but for their event logs: they have the subject, the public
key and the quote in common. -/
structure Alike (certificate other : Certificate) : Prop where
  commonNames : other.commonNames = certificate.commonNames
  publicKey : other.subjectPublicKey = certificate.subjectPublicKey
  quote : getExtensionOctets libraries other phalaRatlsQuoteOid =
    getExtensionOctets libraries certificate phalaRatlsQuoteOid

/-- Encoded octets are a certificate that is alike a given one and has these events as its
event log. -/
def Presents (certificate : Certificate) (certDer : Bytes) (events : List TdxEventLog) : Prop :=
  ∃ other rawEventLog, libraries.parseCertificate certDer = .ok other ∧
    Alike libraries certificate other ∧
    getExtensionOctets libraries other phalaRatlsEventLogOid = .ok (some rawEventLog) ∧
    rawEventLog ≠ [] ∧ libraries.fromSlice rawEventLog = .ok events

end Verification

/-- The events of the third register. -/
def imr3Events (events : List TdxEventLog) : List TdxEventLog :=
  events.filter (fun event => event.imr = 3)

section Replay

variable {Register Collateral : Type} (extend : Register → TdxEventLog → Register)
  (start : Register) (libraries : Libraries Register Collateral) (surroundings : Surroundings)
  (required : PeerRequirements)

/-- The third register after a log, from its value at the start. -/
def replay (events : List TdxEventLog) : Register := (imr3Events events).foldl extend start

/-- The verified quote of a certificate has the register that these events lead to. -/
def Authenticates (certificate : Certificate) (events : List TdxEventLog) : Prop :=
  ∃ quote report,
    getExtensionOctets libraries certificate phalaRatlsQuoteOid = .ok (some quote) ∧
    verifiedReport libraries surroundings quote certificate.subjectPublicKey required.pccsUrl =
      .ok report ∧
    report.rtmr3 = some (replay extend start events)

/-- Whatever event log a certificate comes with, an accepted compose hash is attested. -/
structure ComposeHashAttested (certificate : Certificate) : Prop where
  /-- An accepted log is authenticated by the quote. -/
  authenticated : ∀ certDer other, libraries.parseCertificate certDer = .ok other →
    Alike libraries certificate other →
    verifyPeerCertificate libraries surroundings required certDer = .ok () →
    ∃ events, Presents libraries certificate certDer events ∧
      Authenticates extend start libraries surroundings required certificate events
  /-- No log that differs in the third register is accepted alongside the genuine one. -/
  unaltered : ∀ genuine altered events others,
    Presents libraries certificate genuine events →
    Presents libraries certificate altered others →
    verifyPeerCertificate libraries surroundings required genuine = .ok () →
    verifyPeerCertificate libraries surroundings required altered = .ok () →
    Authenticates extend start libraries surroundings required certificate events →
    imr3Events others = imr3Events events

/-- Every check other than that of the event log is passed, and the expected compose hash
is the digits of some payload. -/
def Admissible (certificate : Certificate) (expected : String) : Prop :=
  ∃ quote report payload,
    checkSubject libraries required.subjectAllowlist certificate = .ok () ∧
    getExtensionOctets libraries certificate phalaRatlsQuoteOid = .ok (some quote) ∧
    verifiedReport libraries surroundings quote certificate.subjectPublicKey required.pccsUrl =
      .ok report ∧
    enforceMeasurementPolicy libraries.toLowercase required.policy.measurement
      ⟨report.measured, []⟩ = .ok () ∧
    payload ≠ [] ∧ libraries.toLowercase (hexEncode payload) = expected

variable {extend start libraries surroundings required}

/-- What the attestation of a parsed certificate consists of. -/
theorem fromDer_eq_ok_iff {certDer : Bytes} {certificate : Certificate}
    (parsed : libraries.parseCertificate certDer = .ok certificate) (attestation : Attestation) :
    Attestation.fromDer libraries certDer = .ok (some attestation) ↔
      ∃ quote log, getExtensionOctets libraries certificate phalaRatlsQuoteOid = .ok (some quote) ∧
        getExtensionOctets libraries certificate phalaRatlsEventLogOid = .ok log ∧
        attestation = ⟨quote, log.getD []⟩ := by
  simp only [Attestation.fromDer, bind_eq_ok_iff, mapError_eq_ok_iff, parsed, Except.ok.injEq,
    exists_eq_left']
  constructor
  · rintro ⟨found, quoted, result⟩
    cases found with
    | none => cases result
    | some quote =>
      obtain ⟨log, logged, made⟩ := (bind_eq_ok_iff _ _ _).mp result
      cases made
      exact ⟨quote, log, quoted, logged, rfl⟩
  · rintro ⟨quote, log, quoted, logged, rfl⟩
    exact ⟨some quote, quoted, (bind_eq_ok_iff _ _ _).mpr ⟨log, logged, rfl⟩⟩

/-- What is accepted: a certificate whose subject is allowed and whose quote is verified, if
the policy stage accepts the report with whatever log it came with. -/
theorem verifyPeerCertificate_eq_ok_iff {certDer : Bytes} {certificate : Certificate}
    (parsed : libraries.parseCertificate certDer = .ok certificate) :
    verifyPeerCertificate libraries surroundings required certDer = .ok () ↔
      ∃ quote log report,
        checkSubject libraries required.subjectAllowlist certificate = .ok () ∧
        getExtensionOctets libraries certificate phalaRatlsQuoteOid = .ok (some quote) ∧
        getExtensionOctets libraries certificate phalaRatlsEventLogOid = .ok log ∧
        verifiedReport libraries surroundings quote certificate.subjectPublicKey
          required.pccsUrl = .ok report ∧
        verifyPeerPolicy libraries.toLowercase libraries.fromSlice required.policy
          ⟨report.measured, log.getD []⟩ = .ok () := by
  simp only [verifyPeerCertificate, bind_eq_ok_iff, mapError_eq_ok_iff, parsed, Except.ok.injEq,
    exists_eq_left']
  constructor
  · rintro ⟨⟨⟩, subject, found, extracted, result⟩
    cases found with
    | none => cases result
    | some attestation =>
      obtain ⟨quote, log, quoted, logged, rfl⟩ := (fromDer_eq_ok_iff parsed attestation).mp extracted
      obtain ⟨verified, attested, accepted⟩ := (bind_eq_ok_iff _ _ _).mp result
      rw [mapError_eq_ok_iff] at attested
      obtain ⟨report, reported, made⟩ := (bind_eq_ok_iff _ _ _).mp attested
      cases made
      exact ⟨quote, log, report, subject, quoted, logged, reported, accepted⟩
  · rintro ⟨quote, log, report, subject, quoted, logged, reported, accepted⟩
    refine ⟨(), subject, some ⟨quote, log.getD []⟩,
      (fromDer_eq_ok_iff parsed _).mpr ⟨quote, log, quoted, logged, rfl⟩, ?_⟩
    refine (bind_eq_ok_iff _ _ _).mpr ⟨⟨report.measured, log.getD []⟩, ?_, accepted⟩
    rw [mapError_eq_ok_iff]
    exact (bind_eq_ok_iff _ _ _).mpr ⟨report, reported, rfl⟩

/-- A compose hash is the digits of the payload of the log's first compose event. -/
theorem composeHash_eq_some_iff (fromSlice : Bytes → Except String (List TdxEventLog))
    (verified : VerifiedAttestation) (hash : String) :
    composeHash fromSlice verified = some hash ↔
      verified.rawEventLog ≠ [] ∧ ∃ events event, fromSlice verified.rawEventLog = .ok events ∧
        events.find? (fun event => event.imr = 3 &&
          (event.event = "compose-hash" || event.event = "upgraded-app-id")) = some event ∧
        event.eventPayload ≠ [] ∧ hexEncode event.eventPayload = hash := by
  have empty (payload : Bytes) : hexEncode payload = "" ↔ payload = [] := by
    cases payload <;> simp [hexEncode, hexDigits]
  simp only [composeHash, Option.filter_eq_some_iff, decodeComposeHash]
  by_cases missing : verified.rawEventLog = []
  · simp [missing, throw, throwThe, MonadExceptOf.throw, bind, Except.bind, Except.toOption]
  · cases read : fromSlice verified.rawEventLog with
    | error _ => simp [missing, bind, Except.bind, Except.toOption, Except.mapError]
    | ok events =>
      cases found : events.find? (fun event => event.imr = 3 &&
          (event.event = "compose-hash" || event.event = "upgraded-app-id")) with
      | none =>
        simp [missing, found, throw, throwThe, MonadExceptOf.throw, bind, Except.bind,
          Except.toOption, Except.mapError]
      | some event =>
        have nonempty : hexEncode event.eventPayload = hash ∧ ¬ hash = "" ↔
            ¬ event.eventPayload = [] ∧ hexEncode event.eventPayload = hash := by
          rw [and_comm, ← empty]
          exact and_congr_left (fun same => by rw [same])
        simpa [missing, found, bind, Except.bind, Except.toOption, Except.mapError, pure,
          Except.pure] using nonempty

/-- A certificate presents one log. -/
theorem Presents.unique {certificate : Certificate} {certDer : Bytes}
    {events others : List TdxEventLog} (presents : Presents libraries certificate certDer events)
    (again : Presents libraries certificate certDer others) : others = events := by
  obtain ⟨one, raw, parsed, -, logged, -, read⟩ := presents
  obtain ⟨two, raw', parsed', -, logged', -, read'⟩ := again
  obtain rfl : two = one := by simpa [parsed] using parsed'.symm
  obtain rfl : raw' = raw := by simpa [logged] using logged'.symm
  simpa [read] using read'.symm

/-- The log of one event that gives a compose hash. -/
def composeLog (payload : Bytes) (rest : List TdxEventLog) : List TdxEventLog :=
  ⟨3, "compose-hash", payload⟩ :: rest

/-- An accepted certificate is admissible and comes with a log. -/
theorem admissible_of_accepted {certificate other : Certificate} {certDer : Bytes}
    {expected : String}
    (expects : required.policy.measurement.expectedComposeHash = some expected)
    (parsed : libraries.parseCertificate certDer = .ok other)
    (alike : Alike libraries certificate other)
    (accepted : verifyPeerCertificate libraries surroundings required certDer = .ok ()) :
    Admissible libraries surroundings required certificate expected := by
  obtain ⟨quote, log, report, subject, quoted, logged, reported, allowed⟩ :=
    (verifyPeerCertificate_eq_ok_iff parsed).mp accepted
  rw [verifyPeerPolicy_eq_ok_iff] at allowed
  obtain ⟨hash, composed, rfl⟩ := allowed.1 expected expects
  obtain ⟨-, events, event, -, -, nonempty, rfl⟩ := (composeHash_eq_some_iff _ _ _).mp composed
  refine ⟨quote, report, event.eventPayload, ?_, alike.quote ▸ quoted, ?_, ?_, nonempty, rfl⟩
  · simpa only [checkSubject, alike.commonNames] using subject
  · rw [← alike.publicKey]
    exact reported
  · exact (enforceMeasurementPolicy_eq_ok_iff _ _).mpr allowed.2

/-- An admissible certificate is accepted with the expected compose hash in its log,
whatever follows there. -/
theorem accepted_of_admissible {certificate : Certificate} {certDer : Bytes}
    {rest : List TdxEventLog} {payload : Bytes}
    {report : QuoteReport Register} {quote : Bytes}
    (expects : required.policy.measurement.expectedComposeHash =
      some (libraries.toLowercase (hexEncode payload)))
    (subject : checkSubject libraries required.subjectAllowlist certificate = .ok ())
    (quoted : getExtensionOctets libraries certificate phalaRatlsQuoteOid = .ok (some quote))
    (reported : verifiedReport libraries surroundings quote certificate.subjectPublicKey
      required.pccsUrl = .ok report)
    (measured : enforceMeasurementPolicy libraries.toLowercase required.policy.measurement
      ⟨report.measured, []⟩ = .ok ())
    (nonempty : payload ≠ [])
    (presents : Presents libraries certificate certDer (composeLog payload rest)) :
    verifyPeerCertificate libraries surroundings required certDer = .ok () := by
  obtain ⟨other, raw, parsed, alike, logged, present, read⟩ := presents
  refine (verifyPeerCertificate_eq_ok_iff parsed).mpr
    ⟨quote, some raw, report, ?_, alike.quote ▸ quoted, logged, ?_, ?_⟩
  · simpa only [checkSubject, alike.commonNames] using subject
  · rw [alike.publicKey]
    exact reported
  · rw [verifyPeerPolicy_eq_ok_iff]
    refine ⟨?_, (enforceMeasurementPolicy_eq_ok_iff _ _).mp measured⟩
    intro expected demanded
    obtain rfl := Option.some.inj (expects.symm.trans demanded)
    exact ⟨hexEncode payload, (composeHash_eq_some_iff _ _ _).mpr
      ⟨present, _, _, read, rfl, nonempty, rfl⟩, rfl⟩

end Replay

/-- For every certificate, every policy with an expected compose hash and every outcome of
quote verification: whatever event log the certificate comes with, an accepted compose hash
is attested exactly when the certificate is not admissible, so that no event log at all is
accepted with it.

Proof: two logs that begin with the expected compose hash and go on with different events
are accepted alike, and the register of the quote cannot be the one that both lead to. -/
theorem composeHashAttested_iff {Register Collateral : Type}
    (extend : Register → TdxEventLog → Register) (start : Register)
    (libraries : Libraries Register Collateral) (surroundings : Surroundings)
    (required : PeerRequirements) (certificate : Certificate) (expected : String)
    (collisionFree : Function.Injective2 extend)
    (carried : ∀ events, ∃ certDer, Presents libraries certificate certDer events)
    (expects : required.policy.measurement.expectedComposeHash = some expected) :
    ComposeHashAttested extend start libraries surroundings required certificate ↔
      ¬ Admissible libraries surroundings required certificate expected := by
  constructor
  · rintro attested ⟨quote, report, payload, subject, quoted, reported, measured, nonempty, rfl⟩
    -- The log goes on with an event that the caller chooses.
    have register (event : TdxEventLog) (third : event.imr = 3) :
        report.rtmr3 = some (extend (replay extend start (composeLog payload [])) event) := by
      obtain ⟨certDer, presents⟩ := carried (composeLog payload [event])
      have accepted := accepted_of_admissible expects subject quoted reported measured nonempty
        presents
      obtain ⟨other, -, parsed, alike, -⟩ := id presents
      obtain ⟨events, again, quote', report', quoted', reported', register⟩ :=
        attested.authenticated certDer other parsed alike accepted
      obtain rfl := presents.unique again
      obtain rfl : quote' = quote := by simpa [quoted] using quoted'.symm
      obtain rfl : report' = report := by simpa [reported] using reported'.symm
      simpa [replay, imr3Events, composeLog, third] using register
    have one := register ⟨3, "", [0]⟩ rfl
    have two := register ⟨3, "", [1]⟩ rfl
    have same := (collisionFree (Option.some.inj (one.symm.trans two))).2
    cases same
  · intro inadmissible
    constructor
    · intro certDer other parsed alike accepted
      exact absurd (admissible_of_accepted expects parsed alike accepted) inadmissible
    · intro genuine altered events others presents _ accepted _ _
      obtain ⟨other, -, parsed, alike, -⟩ := presents
      exact absurd (admissible_of_accepted expects parsed alike accepted) inadmissible

/-- An event as numbers. -/
def eventCode (event : TdxEventLog) : Nat × List Nat × List Nat :=
  (event.imr.toNat, event.event.toList.map Char.toNat, event.eventPayload.map UInt8.toNat)

/-- The event that a code of numbers stands for. -/
def eventOfCode (code : Nat × List Nat × List Nat) : TdxEventLog :=
  ⟨UInt32.ofNat code.1, String.ofList (code.2.1.map Char.ofNat), code.2.2.map UInt8.ofNat⟩

/-- An event is read back from its code. -/
theorem eventOfCode_eventCode (event : TdxEventLog) : eventOfCode (eventCode event) = event := by
  cases event
  simp [eventCode, eventOfCode, Function.comp_def]

/-- The public key of a trust domain. -/
def domainKey : Bytes := [4, 7]

/-- The SHA-512 digest of `ratls-cert:` and that key. -/
def domainBinding : Octets 64 :=
  ⟨[153, 19, 66, 214, 192, 27, 37, 133, 95, 225, 93, 164, 130, 250, 83, 246, 143, 243, 77, 196,
    187, 182, 250, 81, 204, 94, 117, 24, 155, 221, 118, 60, 229, 112, 127, 40, 127, 28, 31, 243,
    222, 200, 8, 208, 2, 142, 131, 3, 174, 178, 24, 117, 130, 187, 192, 21, 233, 216, 113, 114,
    163, 215, 205, 48], rfl⟩

/-- A quote of the domain: its header, its measurement, its registers and its report data. -/
def domainQuote : Bytes :=
  [4, 0, 2, 0, 0x81, 0, 0, 0] ++ List.replicate 176 0 ++ List.replicate 48 9 ++
    List.replicate 336 0 ++ domainBinding.val

/-- The event of a compose hash. -/
def composeEvent : TdxEventLog := ⟨3, "compose-hash", [0xab]⟩

/-- An event that the domain never recorded. -/
def forgedEvent : TdxEventLog := ⟨3, "key-provider", [0xcd]⟩

/-- A log with the one event of the compose hash. -/
def genuineLog : Bytes := utf8
  "[\x7b\"imr\":3,\"event\":\"compose-hash\",\"event_payload\":\"ab\"\x7d]"

/-- The same log with a second event, of another name. -/
def alteredLog : Bytes := utf8
  ("[\x7b\"imr\":3,\"event\":\"compose-hash\",\"event_payload\":\"ab\"\x7d," ++
    "\x7b\"imr\":3,\"event\":\"key-provider\",\"event_payload\":\"cd\"\x7d]")

/-- A register that keeps every event it was extended with. -/
def extendHistory (register : List TdxEventLog) (event : TdxEventLog) : List TdxEventLog :=
  register ++ [event]

/-- Extending a history keeps apart both what was there and what is added. -/
theorem extendHistory_injective : Function.Injective2 extendHistory := by
  intro register other event another same
  simpa [extendHistory] using same

/-- The report of the domain, whose register has the compose event only. -/
def domainReport : QuoteReport (List TdxEventLog) :=
  .td10 ⟨List.replicate 48 9, rfl⟩ [composeEvent] domainBinding

/-- The domain's certificate, as a function of the value of its event-log extension. -/
def domainCertificate (eventLog : Bytes) : Certificate where
  commonNames := [some "broker"]
  extensions := [(phalaRatlsQuoteOid, 4 :: 0x82 :: 2 :: 0x78 :: domainQuote),
    (phalaRatlsEventLogOid, eventLog)]
  subjectPublicKey := domainKey

/-- Libraries that know the domain. An encoded certificate is given by its event log, which
is not wrapped, and other logs than the two above are written as the number of their code. -/
def domainLibraries : Libraries (List TdxEventLog) Unit where
  parseCertificate eventLog := .ok (domainCertificate eventLog)
  readBytes value := .ok (if value.take 2 = [4, 0x82] then value.drop 4 else value)
  parseQuote quote := if quote = domainQuote then .ok domainReport else .error "invalid quote"
  sha512 input :=
    if input = utf8 "ratls-cert:" ++ domainKey then domainBinding
    else ⟨List.replicate 64 0, rfl⟩
  getCollateral _ _ := .ok ()
  verifyQuote quote _ _ :=
    if quote = domainQuote then .ok domainReport else .error "invalid quote"
  fromSlice raw :=
    if raw = genuineLog then .ok [composeEvent]
    else if raw = alteredLog then .ok [composeEvent, forgedEvent]
    else .ok ((Denumerable.ofNat (List (Nat × List Nat × List Nat))
      (raw.length - 1)).map eventOfCode)
  toLowercase := toAsciiLowercase

/-- Each of these logs is carried by a certificate that these libraries accept. -/
theorem domainLibraries_carry (eventLog : Bytes) (events : List TdxEventLog) :
    ∃ certDer, Presents domainLibraries (domainCertificate eventLog) certDer events := by
  let coded : Bytes := List.replicate (Encodable.encode (events.map eventCode) + 1) 0
  have zero : (0 : UInt8) ∈ coded := by simp [coded]
  have notGenuine : coded ≠ genuineLog := by
    intro same
    exact absurd (same ▸ zero) (by decide +kernel)
  have notAltered : coded ≠ alteredLog := by
    intro same
    exact absurd (same ▸ zero) (by decide +kernel)
  have unwrapped : coded.take 2 ≠ [4, 0x82] := by
    simp [coded, List.replicate_succ]
  refine ⟨coded, domainCertificate coded, coded, rfl, ⟨rfl, rfl, rfl⟩, ?_, by simp [coded], ?_⟩
  · have found : (domainCertificate coded).getExtensionUnique phalaRatlsEventLogOid =
        .ok (some coded) := rfl
    simp [getExtensionOctets, found, domainLibraries, unwrapped, bind, Except.bind,
      Except.mapError, pure, Except.pure]
  · have decoded : Denumerable.ofNat (List (Nat × List Nat × List Nat)) (coded.length - 1) =
        events.map eventCode := by
      simp [coded]
    simp [domainLibraries, notGenuine, notAltered, decoded, Function.comp_def,
      eventOfCode_eventCode]

/-- A policy of one compose hash. -/
def composePolicy : ClientPolicy := ⟨"default", ⟨[], [], [], none, some "ab"⟩⟩

/-- Surroundings with a collateral service. -/
def serviced : Surroundings := ⟨some "https://pccs.local", some 1700000000⟩

/-- A domain whose subject is not on the list is accepted with no event log. -/
theorem composeHashAttested_unlistedSubject :
    ¬ Admissible domainLibraries serviced ⟨composePolicy, some ["vault"], none⟩
        (domainCertificate genuineLog) "ab" ∧
      ComposeHashAttested extendHistory [] domainLibraries serviced
        ⟨composePolicy, some ["vault"], none⟩ (domainCertificate genuineLog) := by
  have unlisted : ¬ Admissible domainLibraries serviced ⟨composePolicy, some ["vault"], none⟩
      (domainCertificate genuineLog) "ab" := by
    rintro ⟨quote, report, payload, subject, -⟩
    exact absurd subject (by decide +kernel)
  exact ⟨unlisted, (composeHashAttested_iff extendHistory [] domainLibraries serviced _
    (domainCertificate genuineLog) "ab" extendHistory_injective
    (domainLibraries_carry genuineLog) rfl).mpr unlisted⟩

/-- An event is added to the log of a domain: the altered certificate is accepted alongside
the genuine one, although its log does not lead to the register of the quote. -/
theorem not_composeHashAttested_alteredLog :
    verifyPeerCertificate domainLibraries serviced ⟨composePolicy, none, none⟩ genuineLog =
        .ok () ∧
      verifyPeerCertificate domainLibraries serviced ⟨composePolicy, none, none⟩ alteredLog =
        .ok () ∧
      Presents domainLibraries (domainCertificate genuineLog) genuineLog [composeEvent] ∧
      Presents domainLibraries (domainCertificate genuineLog) alteredLog
        [composeEvent, forgedEvent] ∧
      Authenticates extendHistory [] domainLibraries serviced ⟨composePolicy, none, none⟩
        (domainCertificate genuineLog) [composeEvent] ∧
      ¬ ComposeHashAttested extendHistory [] domainLibraries serviced
        ⟨composePolicy, none, none⟩ (domainCertificate genuineLog) := by
  have genuine : verifyPeerCertificate domainLibraries serviced ⟨composePolicy, none, none⟩
      genuineLog = .ok () := by
    decide +kernel
  have altered : verifyPeerCertificate domainLibraries serviced ⟨composePolicy, none, none⟩
      alteredLog = .ok () := by
    decide +kernel
  have first : Presents domainLibraries (domainCertificate genuineLog) genuineLog
      [composeEvent] :=
    ⟨domainCertificate genuineLog, genuineLog, rfl, ⟨rfl, rfl, rfl⟩, rfl, by decide +kernel, rfl⟩
  have second : Presents domainLibraries (domainCertificate genuineLog) alteredLog
      [composeEvent, forgedEvent] :=
    ⟨domainCertificate alteredLog, alteredLog, rfl, ⟨rfl, rfl, rfl⟩, rfl, by decide +kernel, rfl⟩
  have authentic : Authenticates extendHistory [] domainLibraries serviced
      ⟨composePolicy, none, none⟩ (domainCertificate genuineLog) [composeEvent] :=
    ⟨domainQuote, domainReport, rfl, by decide +kernel, rfl⟩
  refine ⟨genuine, altered, first, second, authentic, ?_⟩
  intro attested
  have same := attested.unaltered genuineLog alteredLog _ _ first second genuine altered authentic
  simp [imr3Events, composeEvent, forgedEvent] at same

end SecureDatabase.BrokerClient
