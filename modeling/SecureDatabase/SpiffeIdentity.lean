import SecureDatabase.BrokerClientConfig
import SecureDatabase.PeerAttestation

/-!
# SPIFFE identities

Two identifiers name the same identity when their paths are equal and their trust domains are
equal up to the case of ASCII letters. The verifier of the SPIFFE mode leaves the chain to the
TLS library and then compares the one URI in the server's certificate with its target, both
normalised.

The verifier of chains and the parser of certificates are parameters. Errors are the texts they
display.
-/

namespace SecureDatabase.BrokerClient

open Foundation

/-- A name in the extension for alternative names of the subject. -/
inductive GeneralName where
  | uri (text : String)
  | other
deriving DecidableEq

/-- The URI of a general name, absent for a name of another kind. -/
def GeneralName.uriText : GeneralName → Option String
  | .uri text => some text
  | .other => none

/-- What a server presents, to whom and when. -/
structure PresentedCert where
  endEntity : Bytes
  intermediates : List Bytes
  serverName : String
  ocsp : Bytes
  now : Nat

/-- The libraries that the verifier calls. -/
structure CertLibraries where
  /-- `WebPkiServerVerifier::verify_server_cert` with a root store. -/
  verifyServerCert : List Bytes → PresentedCert → Except String Unit
  /-- `parse_x509_certificate`. -/
  parseX509Certificate : Bytes → Except String Certificate
  /-- The names in the extension, absent where they are not readable. -/
  parseGeneralNames : Bytes → Option (List GeneralName)

/-- The extension of the subject's alternative names. -/
def subjectAltNameOid : List Nat := [2, 5, 29, 17]

/-- `X509Certificate::subject_alternative_name`. -/
def Certificate.subjectAlternativeName (libraries : CertLibraries) (certificate : Certificate) :
    Except String (Option (List GeneralName)) :=
  match certificate.getExtensionUnique subjectAltNameOid with
  | .error error => .error error
  | .ok found => .ok (found.bind libraries.parseGeneralNames)

/-- The URIs among the alternative names. -/
def Certificate.uris (libraries : CertLibraries) (certificate : Certificate) : List String :=
  match certificate.subjectAlternativeName libraries with
  | .ok (some names) => names.filterMap GeneralName.uriText
  | _ => []

/-- The verifier with its root store and the normalised target. -/
def SpiffeServerVerifier.verifyServerCert (libraries : CertLibraries) (rootStore : List Bytes)
    (allowed : String) (presented : PresentedCert) : Except String Unit := do
  libraries.verifyServerCert rootStore presented
  let cert ← (libraries.parseX509Certificate presented.endEntity).mapError
    (fun _ => "unexpected error: failed to parse server cert")
  match cert.uris libraries with
  | [uri] =>
      match normalizeSpiffeId uri with
      | none => .error "unexpected error: presented SAN URI is not a valid SPIFFE ID"
      | some presentedNorm =>
          require (presentedNorm = allowed) "unexpected error: server SPIFFE ID not authorised"
  | _ => .error "unexpected error: SPIFFE server cert must have exactly one URI SAN"

/-- Two identifiers have one path and trust domains that differ at most in case. -/
def SameIdentity (left right : String) : Prop :=
  ∃ leftDomain rightDomain path : String,
    left = "spiffe://" ++ leftDomain ++ path ∧ right = "spiffe://" ++ rightDomain ++ path ∧
    startsWith path "/" = true ∧
    (leftDomain ≠ "" ∧ '/' ∉ leftDomain.toList) ∧ (rightDomain ≠ "" ∧ '/' ∉ rightDomain.toList) ∧
    asciiLowercase leftDomain = asciiLowercase rightDomain

/-- The octets are a certificate with one extension for alternative names, and of the names that
stand in it exactly one is a URI, this one. The statement is about the parsed extension alone and
uses nothing of the verifier. -/
def HasSingleUri (libraries : CertLibraries) (endEntity : Bytes) (uri : String) : Prop :=
  ∃ cert extension before after,
    libraries.parseX509Certificate endEntity = .ok cert ∧
    cert.getExtensionUnique subjectAltNameOid = .ok (some extension) ∧
    libraries.parseGeneralNames extension = some (before ++ .uri uri :: after) ∧
    ∀ other, .uri other ∉ before ∧ .uri other ∉ after

section Normalisation

/-- What is normalised: a trust domain up to the first slash, and the path from there on. -/
theorem normalizeSpiffeId_eq_some_iff (uri identity : String) :
    normalizeSpiffeId uri = some identity ↔
      ∃ domain path : String, uri = "spiffe://" ++ domain ++ "/" ++ path ∧
        (domain ≠ "" ∧ '/' ∉ domain.toList) ∧
        identity = "spiffe://" ++ asciiLowercase domain ++ "/" ++ path := by
  simp only [normalizeSpiffeId, Option.bind_eq_bind, Option.bind_eq_some_iff,
    stripPrefix_eq_some_iff, Prod.exists, splitOnce_eq_some_iff]
  constructor
  · rintro ⟨rest, rfl, domain, path, ⟨split, free⟩, found⟩
    split at found
    case isTrue _ => cases found
    case isFalse nonempty =>
      refine ⟨String.ofList domain, String.ofList path, ?_, ⟨?_, ?_⟩, ?_⟩
      · refine String.toList_injective ?_
        simp [split]
      · intro empty
        refine nonempty ?_
        rw [← String.toList_ofList (l := domain), empty]
        rfl
      · rwa [String.toList_ofList]
      · exact (Option.some.inj found).symm
  · rintro ⟨domain, path, rfl, ⟨nonempty, free⟩, rfl⟩
    refine ⟨domain ++ "/" ++ path, ?_, domain.toList, path.toList, ⟨?_, free⟩, ?_⟩
    · simp [String.append_assoc]
    · simp
    · have some : domain.toList ≠ [] := fun empty => nonempty (String.toList_eq_nil_iff.mp empty)
      simp [some]

/-- An identity is put together in one way only. -/
theorem identity_unique {leftDomain rightDomain leftPath rightPath : String}
    (leftFree : '/' ∉ leftDomain.toList) (rightFree : '/' ∉ rightDomain.toList)
    (same : "spiffe://" ++ leftDomain ++ "/" ++ leftPath =
      "spiffe://" ++ rightDomain ++ "/" ++ rightPath) :
    leftDomain = rightDomain ∧ leftPath = rightPath := by
  have chars : leftDomain.toList ++ '/' :: leftPath.toList =
      rightDomain.toList ++ '/' :: rightPath.toList := by
    have whole := congrArg String.toList same
    simpa [String.toList_append] using whole
  obtain ⟨domains, paths⟩ := separated_unique leftFree rightFree chars
  exact ⟨String.toList_injective domains, String.toList_injective paths⟩

/-- Two identifiers have one normal form exactly when they name the same identity. -/
theorem sameIdentity_iff (left right : String) :
    (∃ identity, normalizeSpiffeId left = some identity ∧
      normalizeSpiffeId right = some identity) ↔ SameIdentity left right := by
  constructor
  · rintro ⟨identity, leftNormal, rightNormal⟩
    obtain ⟨leftDomain, leftPath, rfl, leftValid, rfl⟩ :=
      (normalizeSpiffeId_eq_some_iff _ _).mp leftNormal
    obtain ⟨rightDomain, rightPath, rfl, rightValid, same⟩ :=
      (normalizeSpiffeId_eq_some_iff _ _).mp rightNormal
    obtain ⟨domains, rfl⟩ := identity_unique (not_mem_asciiLowercase (by decide) leftValid.2)
      (not_mem_asciiLowercase (by decide) rightValid.2) same
    exact ⟨leftDomain, rightDomain, "/" ++ leftPath, String.append_assoc, String.append_assoc,
      startsWith_append _ _, leftValid, rightValid, domains⟩
  · rintro ⟨leftDomain, rightDomain, path, rfl, rfl, starts, leftValid, rightValid, domains⟩
    obtain ⟨rest, rfl⟩ := (startsWith_iff _ _).mp starts
    refine ⟨"spiffe://" ++ asciiLowercase leftDomain ++ "/" ++ rest, ?_, ?_⟩
    · exact (normalizeSpiffeId_eq_some_iff _ _).mpr
        ⟨leftDomain, rest, String.append_assoc.symm, leftValid, rfl⟩
    · exact (normalizeSpiffeId_eq_some_iff _ _).mpr
        ⟨rightDomain, rest, String.append_assoc.symm, rightValid, by rw [domains]⟩

/-- A normal form is its own. -/
theorem normalizeSpiffeId_normal {uri identity : String}
    (normal : normalizeSpiffeId uri = some identity) :
    normalizeSpiffeId identity = some identity := by
  obtain ⟨domain, path, -, ⟨nonempty, free⟩, rfl⟩ :=
    (normalizeSpiffeId_eq_some_iff _ _).mp normal
  refine (normalizeSpiffeId_eq_some_iff _ _).mpr ⟨asciiLowercase domain, path, rfl,
    ⟨asciiLowercase_ne_empty nonempty, not_mem_asciiLowercase (by decide) free⟩, ?_⟩
  rw [asciiLowercase_asciiLowercase]

end Normalisation

section Verification

variable {libraries : CertLibraries} {rootStore : List Bytes} {presented : PresentedCert}

/-- Names among which the verifier collects nothing hold no URI. -/
theorem filterMap_uriText_eq_nil_iff (names : List GeneralName) :
    names.filterMap GeneralName.uriText = [] ↔ ∀ text, .uri text ∉ names := by
  simp only [List.filterMap_eq_nil_iff]
  constructor
  · intro none text listed
    exact Option.some_ne_none text (none (.uri text) listed)
  · intro none name listed
    cases name with
    | other => rfl
    | uri text => exact absurd listed (none text)

/-- The verifier collects a single text exactly where one name is that URI and the names before and
after it are of other kinds. -/
theorem filterMap_uriText_eq_singleton_iff (names : List GeneralName) (uri : String) :
    names.filterMap GeneralName.uriText = [uri] ↔
      ∃ before after, names = before ++ .uri uri :: after ∧
        ∀ other, .uri other ∉ before ∧ .uri other ∉ after := by
  constructor
  · intro collected
    obtain ⟨before, name, after, rfl, skipped, named, rest⟩ :=
      List.filterMap_eq_cons_iff.mp collected
    cases name with
    | other => cases named
    | uri text =>
      cases Option.some.inj named
      have none := (filterMap_uriText_eq_nil_iff before).mp (List.filterMap_eq_nil_iff.mpr skipped)
      exact ⟨before, after, rfl, fun other =>
        ⟨none other, (filterMap_uriText_eq_nil_iff after).mp rest other⟩⟩
  · rintro ⟨before, after, rfl, none⟩
    have first := (filterMap_uriText_eq_nil_iff before).mpr fun other => (none other).1
    have last := (filterMap_uriText_eq_nil_iff after).mpr fun other => (none other).2
    simp [List.filterMap_append, first, last, GeneralName.uriText]

/-- What the verifier's loop collects from a parsed certificate is one text exactly where the
extension has a single URI. A repeated, missing or unreadable extension yields no text at all. -/
theorem uris_eq_singleton_iff (certificate : Certificate) (uri : String) :
    certificate.uris libraries = [uri] ↔
      ∃ extension before after,
        certificate.getExtensionUnique subjectAltNameOid = .ok (some extension) ∧
        libraries.parseGeneralNames extension = some (before ++ .uri uri :: after) ∧
        ∀ other, .uri other ∉ before ∧ .uri other ∉ after := by
  unfold Certificate.uris Certificate.subjectAlternativeName
  cases found : certificate.getExtensionUnique subjectAltNameOid with
  | error error => simp
  | ok held =>
    cases held with
    | none => simp
    | some extension =>
      cases parsed : libraries.parseGeneralNames extension with
      | none => simp [parsed]
      | some names =>
        have collected := filterMap_uriText_eq_singleton_iff names uri
        simpa [parsed] using collected

/-- Once the chain is verified, what is left is to compare the one URI. -/
theorem verifyServerCert_ok_iff
    (chain : libraries.verifyServerCert rootStore presented = .ok ()) (allowed : String) :
    SpiffeServerVerifier.verifyServerCert libraries rootStore allowed presented = .ok () ↔
      ∃ uri, HasSingleUri libraries presented.endEntity uri ∧
        normalizeSpiffeId uri = some allowed := by
  unfold SpiffeServerVerifier.verifyServerCert
  rw [bind_eq_ok_iff]
  simp only [chain, bind_eq_ok_iff, mapError_eq_ok_iff, true_and]
  constructor
  · rintro ⟨-, cert, parsed, compared⟩
    split at compared
    case h_2 _ _ => cases compared
    case h_1 uri found =>
      split at compared
      case h_1 _ => cases compared
      case h_2 presentedNorm normal =>
        have same := of_decide_eq_true ((require_eq_ok_iff _ _).mp compared)
        obtain ⟨extension, before, after, single⟩ := (uris_eq_singleton_iff cert uri).mp found
        exact ⟨uri, ⟨cert, extension, before, after, parsed, single⟩, same ▸ normal⟩
  · rintro ⟨uri, ⟨cert, extension, before, after, parsed, single⟩, normal⟩
    have found : cert.uris libraries = [uri] :=
      (uris_eq_singleton_iff cert uri).mpr ⟨extension, before, after, single⟩
    refine ⟨(), cert, parsed, ?_⟩
    simp [found, normal]

/-- A verifier is made for a target whose identity is well formed, and it looks for the
normal form of that. -/
theorem new_eq_ok_iff (library : TlsLibrary) (target allowed : String) :
    SpiffeServerVerifier.new library rootStore target = .ok (.spiffe allowed) ↔
      library.webPkiVerifier rootStore = .ok () ∧ normalizeSpiffeId target = some allowed := by
  unfold SpiffeServerVerifier.new
  rw [bind_eq_ok_iff]
  simp only [mapError_eq_ok_iff]
  cases normalizeSpiffeId target with
  | none => simp
  | some identity =>
    constructor
    · rintro ⟨⟨⟩, built, same⟩
      cases same
      exact ⟨built, rfl⟩
    · rintro ⟨built, same⟩
      cases same
      exact ⟨(), built, rfl⟩

/-- Comparison of identities is exact, normalisation is idempotent, and a verifier for a target
accepts a certificate whose chain is verified exactly when its single URI names the target.

Proof: a normalised identity is its trust domain in lower case and its path, and two
identities are the same when these are. Normalising twice changes nothing as lower case stays.
The verifier compares the normalised single URI with the normalised target, which is the
identity it was made for. -/
theorem spiffe_identity_exact :
    (∀ left right, (∃ identity, normalizeSpiffeId left = some identity ∧
      normalizeSpiffeId right = some identity) ↔ SameIdentity left right) ∧
    (∀ uri, (normalizeSpiffeId uri).bind normalizeSpiffeId = normalizeSpiffeId uri) ∧
    ∀ (library : TlsLibrary) (libraries : CertLibraries) (rootStore : List Bytes)
      (target allowed : String) (presented : PresentedCert),
      SpiffeServerVerifier.new library rootStore target = .ok (.spiffe allowed) →
      libraries.verifyServerCert rootStore presented = .ok () →
        (SpiffeServerVerifier.verifyServerCert libraries rootStore allowed presented = .ok () ↔
          ∃ uri, HasSingleUri libraries presented.endEntity uri ∧ SameIdentity uri target) := by
  refine ⟨sameIdentity_iff, ?_, ?_⟩
  · intro uri
    cases normal : normalizeSpiffeId uri with
    | none => rfl
    | some identity => exact normalizeSpiffeId_normal normal
  · intro library libraries rootStore target allowed presented built chain
    have targetNormal := ((new_eq_ok_iff library target allowed).mp built).2
    rw [verifyServerCert_ok_iff chain]
    simp only [← sameIdentity_iff, targetNormal, Option.some.injEq]
    constructor
    · rintro ⟨uri, single, normal⟩
      exact ⟨uri, single, allowed, normal, rfl⟩
    · rintro ⟨uri, single, identity, normal, rfl⟩
      exact ⟨uri, single, normal⟩

/-- A TLS library that has every root store verified and nothing else. -/
def brokerLibrary : TlsLibrary where
  certs _ := []
  addRoot _ := .ok ()
  safeDefaultProtocolVersions := .ok ()
  clientAuthCert _ _ := .ok ()
  webPkiVerifier _ := .ok ()
  privateKey _ := .error "no private key"
  currentRuntime := .ok ()
  newFromPath _ := .ok ()
  fetchX509Svid := .error "no identity"
  fetchX509Bundles := .error "no bundles"

/-- A certificate of one octet, which names its subject by a host and by a URI. -/
def brokerCert : PresentedCert where
  endEntity := [1]
  intermediates := []
  serverName := "broker.example.org"
  ocsp := []
  now := 1700000000

/-- Libraries that verify and parse that certificate. -/
def brokerCertLibraries : CertLibraries where
  verifyServerCert _ presented :=
    if presented.endEntity = [1] then .ok () else .error "invalid peer certificate: UnknownIssuer"
  parseX509Certificate der :=
    if der = [1] then .ok ⟨[], [(subjectAltNameOid, [2])], []⟩ else .error "parse error"
  parseGeneralNames value :=
    if value = [2] then some [.other, .uri "spiffe://Example.org/broker"] else none

/-- A broker is accepted for a target whose trust domain is written in another case. -/
theorem broker_accepted_in_other_case :
    SpiffeServerVerifier.new brokerLibrary [[0]] "spiffe://example.ORG/broker" =
      .ok (.spiffe "spiffe://example.org/broker") ∧
    SpiffeServerVerifier.verifyServerCert brokerCertLibraries [[0]] "spiffe://example.org/broker"
      brokerCert = .ok () := by
  have built : SpiffeServerVerifier.new brokerLibrary [[0]] "spiffe://example.ORG/broker" =
      .ok (.spiffe "spiffe://example.org/broker") :=
    (new_eq_ok_iff _ _ _).mpr ⟨rfl, by decide +kernel⟩
  have named : HasSingleUri brokerCertLibraries brokerCert.endEntity
      "spiffe://Example.org/broker" :=
    ⟨⟨[], [(subjectAltNameOid, [2])], []⟩, [2], [.other], [], rfl, rfl, rfl, by simp⟩
  have same : SameIdentity "spiffe://Example.org/broker" "spiffe://example.ORG/broker" :=
    ⟨"Example.org", "example.ORG", "/broker", by decide +kernel, by decide +kernel,
      by decide +kernel, by decide +kernel, by decide +kernel, by decide +kernel⟩
  exact ⟨built, (spiffe_identity_exact.2.2 _ _ _ _ _ brokerCert built rfl).mpr
    ⟨_, named, same⟩⟩

end Verification

end SecureDatabase.BrokerClient
