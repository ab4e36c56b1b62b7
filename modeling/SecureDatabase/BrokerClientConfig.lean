import SecureDatabase.Basic
import SecureDatabase.Foundation.Environment
import SecureDatabase.Foundation.IpAddress
import SecureDatabase.MeasurementPolicy

/-!
# Configuration of the broker client

How the client verifies the broker is a mode, read from the environment with everything that
the mode calls for: the endpoint, a policy file, an allowlist of subjects and the client's own
certificate. From that configuration a TLS configuration is built, or none for a plain channel.

The parsers of URLs, JSON and PEM files, the file system, the TLS library and the workload
interface are parameters. Errors are the texts they display.
-/

namespace SecureDatabase.BrokerClient

open Foundation

/-- How the client makes sure of its broker: by attestation, not at all, by SPIFFE
identities, or by certificates on the own host. -/
inductive AttestationMode where
  | enforced
  | disabled
  | spiffe
  | localMode
deriving DecidableEq

/-- A parsed URL, as far as it is read. -/
structure Url where
  scheme : String
  hostStr : Option String

/-- A private key and the form it was written in. -/
inductive PrivateKeyDer where
  | pkcs1 (key : Bytes)
  | sec1 (key : Bytes)
  | pkcs8 (key : Bytes)

/-- An item of a PEM file. -/
inductive PemItem where
  | x509Certificate (certificate : Bytes)
  | pkcs1Key (key : Bytes)
  | sec1Key (key : Bytes)
  | pkcs8Key (key : Bytes)
  | other

/-- The process that reads the configuration. -/
structure HostProcess where
  env : Environment
  debugAssertions : Bool
  read : String → Except String Bytes
  readToString : String → Except String String

/-- The libraries that the configuration is read with. -/
structure Parsers where
  debug : DebugText
  toLowercase : String → String
  parseUrl : String → Except String Url
  fromStr : String → Except String Json
  readAll : Bytes → List (Except String PemItem)

/-- What a client is configured with. In the enforced mode a chain and a key are there,
and the policy restricts something. -/
structure SecretBrokerClientConfig where
  endpoint : Url
  attestationMode : AttestationMode
  policy : ClientPolicy
  pccsUrl : Option String
  subjectAllowlist : Option (List String)
  clientCertChain : Option (List Bytes)
  clientKey : Option PrivateKeyDer
  clientIdentityPem : Option Bytes
  timeoutSeconds : Nat
  spiffeSocketPath : Option String
  mySpiffeId : Option String

namespace AttestationMode

/-- What `Debug` writes for a mode. -/
def debugName : AttestationMode → String
  | enforced => "Enforced"
  | disabled => "Disabled"
  | spiffe => "Spiffe"
  | localMode => "Local"

/-- `AttestationMode::from_env_var`: a mode by its name in any case; a variable that is
set to anything else is refused. -/
def fromEnvVar (debug : DebugText) (env : Environment) (key default : String) :
    Except String AttestationMode :=
  let raw := (env.text key).getD default
  let named := asciiLowercase (trim raw)
  if named = "disabled" then .ok disabled
  else if named = "spiffe" then .ok spiffe
  else if named = "local" then .ok localMode
  else if named = "enforced" then .ok enforced
  else .error (key ++ " must be one of enforced, spiffe, local, or disabled; got " ++ debug.str raw)

end AttestationMode

/-- The policy of empty lists, which no attestation fails. -/
def MeasurementPolicy.allowAll : MeasurementPolicy where
  allowedMrtd := []
  allowedMrenclave := []
  allowedMrsigner := []
  minIsvsvn := none
  expectedComposeHash := none

/-- The policy of the modes that do not attest. -/
def ClientPolicy.transportOnly : ClientPolicy where
  policyName := "transport-only"
  measurement := .allowAll

/-- `ClientPolicy::from_env`: the policy of a file, which the enforced mode requires and
the others may do without. -/
def ClientPolicy.fromEnv (parsers : Parsers) (host : HostProcess)
    (mode : AttestationMode) : Except String ClientPolicy :=
  match host.env.var "SECRET_BROKER_CLIENT_POLICY_FILE" with
  | .ok path => fromFile parsers.toLowercase host.readToString parsers.fromStr path
  | .error error =>
      if mode ≠ .enforced then .ok .transportOnly
      else .error ("SECRET_BROKER_CLIENT_POLICY_FILE must be set when attestation is enforced: " ++
        error.display parsers.debug)

/-- The certificates of a PEM file, none of its other items. -/
def parseCertChain (parsers : Parsers) (bytes : Bytes) : Except String (List Bytes) := do
  let items ← (parsers.readAll bytes).mapM id
  let certs := items.filterMap fun
    | .x509Certificate certificate => some certificate
    | _ => none
  require (!certs.isEmpty) "no certificates found in client bundle"
  return certs

/-- The first key of a PEM file; what follows it is not read. -/
def parsePrivateKey (parsers : Parsers) (bytes : Bytes) : Except String PrivateKeyDer :=
  go (parsers.readAll bytes)
where
  go : List (Except String PemItem) → Except String PrivateKeyDer
    | [] => .error "no private key found in bundle"
    | .error error :: _ => .error error
    | .ok (.pkcs8Key key) :: _ => .ok (.pkcs8 key)
    | .ok (.pkcs1Key key) :: _ => .ok (.pkcs1 key)
    | .ok (.sec1Key key) :: _ => .ok (.sec1 key)
    | .ok _ :: rest => go rest

/-- What a relaxed mode takes. -/
def unsafeFlagEnv : String := "SECURE_DB_ALLOW_UNSAFE_BROKER"

/-- Attesting may be switched off in a debug build only, and only when the unsafe flag is
set to one of three texts. -/
def ensureAttestationMode (parsers : Parsers) (host : HostProcess)
    (mode : AttestationMode) : Except String Unit :=
  if mode = .enforced ∨ mode = .spiffe ∨ mode = .localMode then .ok ()
  else if host.debugAssertions then
    if ((host.env.text unsafeFlagEnv).map (fun raw =>
        decide (parsers.toLowercase (trim raw) ∈ ["1", "true", "yes"]))).getD false then .ok ()
    else .error ("secret-broker attestation mode " ++ mode.debugName ++ " requires " ++
      unsafeFlagEnv ++ "=1 and a debug build")
  else .error ("secret-broker attestation mode " ++ mode.debugName ++
    " is forbidden in release builds")

/-- Whether the host of an endpoint is the own one: by its name, or by an address that
parses and is a loopback address. -/
def secretBrokerEndpointIsLoopback (endpoint : Url) : Bool :=
  match endpoint.hostStr with
  | none => false
  | some host =>
      let normalized := asciiLowercase (trim host)
      if normalized = "localhost" || endsWith normalized ".localhost" then true
      else ((IpAddr.parse normalized).map IpAddr.isLoopback).getD false

namespace SecretBrokerClientConfig

variable (parsers : Parsers) (host : HostProcess)

/-- The client's certificate chain, its key and both files, when both variables are set. -/
def configuredIdentity :
    Except String (Option (List Bytes) × Option PrivateKeyDer × Option Bytes) :=
  match host.env.text "SECRET_BROKER_CLIENT_CERT",
      host.env.text "SECRET_BROKER_CLIENT_KEY" with
  | some cert, some key => do
      let certBytes ← (host.read cert).mapError
        (fun _ => "failed to read client cert " ++ cert)
      let keyBytes ← (host.read key).mapError
        (fun _ => "failed to read client key " ++ key)
      let certs ← (parseCertChain parsers certBytes).mapError
        (fun _ => "failed to parse client certificate chain")
      let key ← (parsePrivateKey parsers keyBytes).mapError
        (fun _ => "failed to parse client private key")
      return (some certs, some key, some (certBytes ++ keyBytes))
  | none, none => .ok (none, none, none)
  | _, _ => .error
      "SECRET_BROKER_CLIENT_CERT and SECRET_BROKER_CLIENT_KEY must both be set or both unset"

/-- The identity of the client, which the enforced mode requires. -/
def loadClientIdentity (attestationMode : AttestationMode) :
    Except String (Option (List Bytes) × Option PrivateKeyDer × Option Bytes) := do
  let identity ← configuredIdentity parsers host
  require (!(attestationMode = .enforced && identity.1.isNone))
    "client attestation mode is enforced but SECRET_BROKER_CLIENT_CERT/KEY are not configured"
  return identity

/-- The subjects listed in a variable, lower-cased; no list when none is left. -/
def subjectAllowlistFromEnv : Option (List String) :=
  ((host.env.text "SECRET_BROKER_CLIENT_SUBJECTS").map fun raw =>
    (splitChar ',' raw).filterMap fun entry =>
      let trimmed := parsers.toLowercase (trim entry)
      if trimmed = "" then none else some trimmed).filter (fun subjects => !subjects.isEmpty)

/-- The timeout in seconds: ten unless one is set, which has to be a number of 64 bits. -/
def timeoutFromEnv : Except String Nat :=
  match host.env.var "SECRET_BROKER_CLIENT_TIMEOUT_SECS" with
  | .ok raw => (parseUnsigned 64 raw).mapError (fun _ =>
      "invalid SECRET_BROKER_CLIENT_TIMEOUT_SECS value " ++ parsers.debug.str raw)
  | .error .notPresent => .ok 10
  | .error error => .error ("failed to read broker timeout: " ++ error.display parsers.debug)

/-- `SecretBrokerClientConfig::from_env`: the gates on mode, endpoint and identity, in the
order in which they are passed. -/
def fromEnv : Except String SecretBrokerClientConfig := do
  let env := host.env
  let raw ← (env.var "SECRET_BROKER_ENDPOINT").mapError
    (fun _ => "SECRET_BROKER_ENDPOINT is required")
  let endpoint ← (parsers.parseUrl raw).mapError (fun _ => "invalid SECRET_BROKER_ENDPOINT")
  let attestationMode ←
    AttestationMode.fromEnvVar parsers.debug env "SECRET_BROKER_CLIENT_MODE" "enforced"
  require (!((attestationMode = .localMode || attestationMode = .disabled) &&
      !secretBrokerEndpointIsLoopback endpoint))
    ("SECRET_BROKER_CLIENT_MODE=" ++ attestationMode.debugName ++
      " requires a loopback SECRET_BROKER_ENDPOINT")
  require (!(attestationMode ≠ .disabled && endpoint.scheme ≠ "https"))
    "SECRET_BROKER_ENDPOINT must use https unless client mode is disabled"
  ensureAttestationMode parsers host attestationMode
  let policy ← ClientPolicy.fromEnv parsers host attestationMode
  let subjectAllowlist := subjectAllowlistFromEnv parsers host
  require (!(subjectAllowlist.isNone && attestationMode = .enforced))
    "SECRET_BROKER_CLIENT_SUBJECTS must be set when attestation is enforced"
  let pccsUrl := env.text "SECRET_BROKER_PCCS_URL"
  let (clientCertChain, clientKey, clientIdentityPem) ←
    loadClientIdentity parsers host attestationMode
  let timeoutSeconds ← timeoutFromEnv parsers host
  require (timeoutSeconds ≠ 0) "SECRET_BROKER_CLIENT_TIMEOUT_SECS must be greater than zero"
  let spiffeSocketPath := (env.text "SECRET_BROKER_SPIFFE_SOCKET").or
    (if attestationMode = .spiffe then some "/var/run/spire/agent.sock" else none)
  let mySpiffeId := env.text "SECRET_BROKER_CLIENT_SPIFFE_ID"
  return {
    endpoint, attestationMode, policy, pccsUrl, subjectAllowlist, clientCertChain, clientKey,
    clientIdentityPem, timeoutSeconds, spiffeSocketPath, mySpiffeId }

end SecretBrokerClientConfig

/-- An identity that the workload interface hands out. -/
structure X509Svid where
  trustDomain : String
  certChain : List Bytes
  privateKey : Bytes

/-- The TLS library, and the workload interface behind a socket. -/
structure TlsLibrary where
  certs : Bytes → List (Except String Bytes)
  addRoot : Bytes → Except String Unit
  safeDefaultProtocolVersions : Except String Unit
  clientAuthCert : List Bytes → PrivateKeyDer → Except String Unit
  webPkiVerifier : List Bytes → Except String Unit
  privateKey : Bytes → Except String PrivateKeyDer
  currentRuntime : Except String Unit
  newFromPath : String → Except String Unit
  fetchX509Svid : Except String X509Svid
  fetchX509Bundles : Except String (String → Option (List Bytes))

/-- How the server's certificate is verified. -/
inductive ServerVerifier where
  | webPki
  | spiffe (allowed : String)
  | raTls (policy : ClientPolicy) (subjectAllowlist : Option (List String))
      (pccsUrl : Option String)

/-- What a connection is made with, as far as it decides whom the client trusts and who it
says it is. -/
structure ClientConfig where
  rootStore : List Bytes
  clientAuth : Option (List Bytes × PrivateKeyDer)
  alpnProtocols : List String
  verifier : ServerVerifier

section Tls

variable (parsers : Parsers) (host : HostProcess) (library : TlsLibrary)

/-- The configuration of the local mode: the roots of one bundle, which has to hold a
certificate, and the client's own identity. -/
def buildLocalLoopbackClientConfig (certChain : List Bytes) (privateKey : PrivateKeyDer) :
    Except String ClientConfig := do
  let caPath ← (host.env.var "SECRET_BROKER_TLS_CA_CERT").mapError
    (fun _ => "SECRET_BROKER_TLS_CA_CERT is required in local mode")
  let caBytes ← (host.read caPath).mapError
    (fun _ => "failed to read local loopback CA cert from " ++ caPath)
  let caCerts ← ((library.certs caBytes).mapM id).mapError
    (fun _ => "failed to parse local loopback CA cert bundle")
  require (!caCerts.isEmpty) "local loopback CA bundle did not contain any certificates"
  caCerts.forM fun cert => (library.addRoot cert).mapError
    (fun error => "failed to add local loopback CA certificate: " ++ error)
  library.safeDefaultProtocolVersions.mapError (fun _ => "failed to configure TLS protocol versions")
  (library.clientAuthCert certChain privateKey).mapError
    (fun _ => "failed to configure local loopback client certificate")
  return {
    rootStore := caCerts
    clientAuth := some (certChain, privateKey)
    alpnProtocols := ["h2"]
    verifier := .webPki }

/-- The chain of the client in the local mode, whose variable has to be set. -/
def loadLocalClientCertChain : Except String (List Bytes) := do
  let certPath ← (host.env.var "SECRET_BROKER_CLIENT_CERT").mapError
    (fun _ => "SECRET_BROKER_CLIENT_CERT is required in local mode")
  let certBytes ← (host.read certPath).mapError
    (fun _ => "failed to read local loopback client cert from " ++ certPath)
  parseCertChain parsers certBytes

/-- The key of the client in the local mode, whose variable has to be set. -/
def loadLocalClientPrivateKey : Except String PrivateKeyDer := do
  let keyPath ← (host.env.var "SECRET_BROKER_CLIENT_KEY").mapError
    (fun _ => "SECRET_BROKER_CLIENT_KEY is required in local mode")
  let keyBytes ← (host.read keyPath).mapError
    (fun _ => "failed to read local loopback client key from " ++ keyPath)
  parsePrivateKey parsers keyBytes

/-- A SPIFFE identifier with its trust domain lower-cased. -/
def normalizeSpiffeId (uri : String) : Option String := do
  let rest ← stripPrefix "spiffe://" uri
  let (td, path) ← splitOnce '/' rest.toList
  if td = [] then none
  else some ("spiffe://" ++ asciiLowercase (String.ofList td) ++ "/" ++ String.ofList path)

/-- A verifier of one identity, which has to be well formed. -/
def SpiffeServerVerifier.new (rootStore : List Bytes) (allowedSpiffeId : String) :
    Except String ServerVerifier := do
  (library.webPkiVerifier rootStore).mapError
    (fun error => "unexpected error: failed to build WebPkiServerVerifier: " ++ error)
  match normalizeSpiffeId allowedSpiffeId with
  | some allowed => .ok (.spiffe allowed)
  | none => .error ("unexpected error: invalid target SPIFFE ID: " ++ allowedSpiffeId)

/-- The identity and the trust bundles come from the workload interface. -/
def buildSpiffeClientConfig (config : SecretBrokerClientConfig) : Except String ClientConfig := do
  let socketPath := config.spiffeSocketPath.getD "/var/run/spire/agent.sock"
  library.currentRuntime.mapError (fun _ => "SPIFFE TLS config requires Tokio runtime")
  (library.newFromPath ("unix:" ++ socketPath)).mapError
    (fun _ => "failed to connect to SPIRE Workload API")
  let svid ← library.fetchX509Svid.mapError (fun _ => "failed to fetch X509 SVID from SPIRE")
  let bundles ← library.fetchX509Bundles.mapError
    (fun _ => "failed to fetch X509 bundles from SPIRE")
  let authorities ← match bundles svid.trustDomain with
    | some authorities => pure authorities
    | none => throw ("no SPIFFE bundle found for trust domain: " ++ svid.trustDomain)
  authorities.forM fun cert => (library.addRoot cert).mapError
    (fun _ => "failed to add SPIFFE authority cert to root store")
  let clientKey ← (library.privateKey svid.privateKey).mapError
    (fun _ => "failed to parse SVID private key")
  library.safeDefaultProtocolVersions.mapError (fun _ => "failed to configure TLS protocol versions")
  (library.clientAuthCert svid.certChain clientKey).mapError
    (fun _ => "failed to configure SPIFFE client certificate")
  let targetSpiffeId ← (host.env.var "SECRET_BROKER_TARGET_SPIFFE_ID").mapError
    (fun _ => "SECRET_BROKER_TARGET_SPIFFE_ID is required in SPIFFE mode")
  let verifier ← (SpiffeServerVerifier.new library authorities targetSpiffeId).mapError
    (fun error => "failed to create SPIFFE verifier: " ++ error)
  return {
    rootStore := authorities
    clientAuth := some (svid.certChain, clientKey)
    alpnProtocols := ["h2"]
    verifier }

/-- Certificates are verified by the attestation they carry. -/
def buildRaTlsClientConfig (config : SecretBrokerClientConfig) : Except String ClientConfig := do
  library.safeDefaultProtocolVersions.mapError (fun _ => "failed to configure TLS protocol versions")
  let clientAuth ← match config.clientCertChain, config.clientKey with
    | some certs, some key => do
        (library.clientAuthCert certs key).mapError
          (fun _ => "failed to configure client certificate for secret-broker")
        pure (some (certs, key))
    | _, _ => pure none
  return {
    rootStore := []
    clientAuth
    alpnProtocols := ["h2"]
    verifier := .raTls config.policy config.subjectAllowlist config.pccsUrl }

/-- The configured chain of the local mode, or the one in the file that a variable names. -/
def localCertChain (config : SecretBrokerClientConfig) : Except String (List Bytes) :=
  match config.clientCertChain with
  | some certs => .ok certs
  | none => loadLocalClientCertChain parsers host

/-- The configured key of the local mode, or the one in the file that a variable names. -/
def localPrivateKey (config : SecretBrokerClientConfig) : Except String PrivateKeyDer :=
  match config.clientKey with
  | some key => .ok key
  | none => loadLocalClientPrivateKey parsers host

/-- The TLS configuration of a channel, or none for a plain one. -/
def buildTlsConfig (config : SecretBrokerClientConfig) : Except String (Option ClientConfig) :=
  match config.attestationMode with
  | .localMode => do
      let certChain ← localCertChain parsers host config
      let privateKey ← localPrivateKey parsers host config
      some <$> buildLocalLoopbackClientConfig host library certChain privateKey
  | .disabled => .ok none
  | .spiffe => some <$> buildSpiffeClientConfig host library config
  | .enforced => some <$> buildRaTlsClientConfig library config

end Tls

/-- The host of an endpoint is the local machine's own: a name that stands for it, or one of
its addresses. -/
def LoopbackEndpoint (endpoint : Url) : Prop :=
  ∃ host, endpoint.hostStr = some host ∧
    (asciiLowercase (trim host) = "localhost" ∨
      (∃ front, asciiLowercase (trim host) = front ++ ".localhost") ∨
      ∃ address, IpAddr.parse (asciiLowercase (trim host)) = some address ∧
        address.isLoopback = true)

/-- A policy restricts at least one measurement or the compose hash. -/
def MeasurementPolicy.RestrictsSomething (policy : MeasurementPolicy) : Prop :=
  policy.allowedMrtd ≠ [] ∨ policy.allowedMrenclave ≠ [] ∨ policy.allowedMrsigner ≠ [] ∨
    policy.expectedComposeHash ≠ none

/-- What each mode calls for. -/
structure Gated (parsers : Parsers) (host : HostProcess) (config : SecretBrokerClientConfig) :
    Prop where
  loopback : config.attestationMode = .localMode ∨ config.attestationMode = .disabled →
    LoopbackEndpoint config.endpoint
  https : config.attestationMode ≠ .disabled → config.endpoint.scheme = "https"
  relaxed : config.attestationMode = .disabled → host.debugAssertions = true ∧
    ∃ raw, host.env unsafeFlagEnv = .text raw ∧
      parsers.toLowercase (trim raw) ∈ ["1", "true", "yes"]
  policy : config.attestationMode = .enforced →
    ∃ path, host.env "SECRET_BROKER_CLIENT_POLICY_FILE" = .text path ∧
      ClientPolicy.fromFile parsers.toLowercase host.readToString parsers.fromStr path =
        .ok config.policy ∧
      config.policy.measurement.RestrictsSomething
  subjects : config.attestationMode = .enforced →
    ∃ subjects, config.subjectAllowlist = some subjects ∧ subjects ≠ []
  identity : config.attestationMode = .enforced →
    (∃ certs, config.clientCertChain = some certs ∧ certs ≠ []) ∧
      ∃ key, config.clientKey = some key
  timeout : 0 < config.timeoutSeconds

section Gates

variable {parsers : Parsers} {host : HostProcess}

/-- A text ends in another exactly when it is something and that text. -/
theorem endsWith_iff (text ending : String) :
    endsWith text ending = true ↔ ∃ front, text = front ++ ending := by
  rw [endsWith, List.isSuffixOf_iff_suffix]
  constructor
  · rintro ⟨front, same⟩
    refine ⟨String.ofList front, String.toList_injective ?_⟩
    rw [String.toList_append, String.toList_ofList, same]
  · rintro ⟨front, rfl⟩
    exact ⟨front.toList, String.toList_append.symm⟩

/-- The test of the endpoint is the written meaning of loopback: one of the local names,
or an address of the own host. -/
theorem loopbackEndpoint_iff (endpoint : Url) :
    secretBrokerEndpointIsLoopback endpoint = true ↔ LoopbackEndpoint endpoint := by
  unfold secretBrokerEndpointIsLoopback LoopbackEndpoint
  cases endpoint.hostStr with
  | none => simp
  | some host =>
    simp only [Option.some.injEq, exists_eq_left', ← endsWith_iff]
    cases IpAddr.parse (asciiLowercase (trim host)) with
    | none => simp
    | some address => simp [or_assoc]

/-- Attesting is switched off in a debug build with the flag set, and nowhere else. -/
theorem ensureAttestationMode_disabled
    (allowed : ensureAttestationMode parsers host .disabled = .ok ()) :
    host.debugAssertions = true ∧ ∃ raw, host.env unsafeFlagEnv = .text raw ∧
      parsers.toLowercase (trim raw) ∈ ["1", "true", "yes"] := by
  unfold ensureAttestationMode at allowed
  rw [if_neg (by decide)] at allowed
  split at allowed
  case isFalse _ => cases allowed
  case isTrue build =>
    refine ⟨build, ?_⟩
    cases found : host.env.text unsafeFlagEnv with
    | none => simp [found] at allowed
    | some raw =>
      rw [found, Option.map_some, Option.getD_some] at allowed
      split at allowed
      case isFalse _ => cases allowed
      case isTrue truthy =>
        exact ⟨raw, (host.env.text_eq_some_iff _ _).mp found, of_decide_eq_true truthy⟩

/-- A policy file that is accepted restricts something. -/
theorem fromFile_restricts {toLowercase : String → String}
    {readToString : String → Except String String} {fromStr : String → Except String Json}
    {path : String} {policy : ClientPolicy}
    (loaded : ClientPolicy.fromFile toLowercase readToString fromStr path = .ok policy) :
    policy.measurement.RestrictsSomething := by
  obtain ⟨raw, -, loaded⟩ := (bind_eq_ok_iff _ _ _).mp loaded
  obtain ⟨value, -, loaded⟩ := (bind_eq_ok_iff _ _ _).mp loaded
  dsimp only at loaded
  split at loaded
  case isTrue _ => cases loaded
  case isFalse restricted =>
    cases loaded
    simp only [Bool.and_eq_true, List.isEmpty_iff, Option.isNone_iff_eq_none] at restricted
    unfold MeasurementPolicy.RestrictsSomething
    tauto

/-- In the enforced mode the policy was loaded from a file, so it restricts something. -/
theorem fromEnv_enforced {policy : ClientPolicy}
    (loaded : ClientPolicy.fromEnv parsers host .enforced = .ok policy) :
    ∃ path, host.env "SECRET_BROKER_CLIENT_POLICY_FILE" = .text path ∧
      ClientPolicy.fromFile parsers.toLowercase host.readToString parsers.fromStr path =
        .ok policy := by
  unfold ClientPolicy.fromEnv at loaded
  cases found : host.env.var "SECRET_BROKER_CLIENT_POLICY_FILE" with
  | error error => simp [found] at loaded
  | ok path =>
    rw [found] at loaded
    exact ⟨path, (host.env.var_eq_ok_iff _ _).mp found, loaded⟩

/-- A chain that is accepted has a certificate. -/
theorem parseCertChain_ne_nil {bytes : Bytes} {certs : List Bytes}
    (parsed : parseCertChain parsers bytes = .ok certs) : certs ≠ [] := by
  obtain ⟨items, -, parsed⟩ := (bind_eq_ok_iff _ _ _).mp parsed
  obtain ⟨_, found, parsed⟩ := (bind_eq_ok_iff _ _ _).mp parsed
  cases parsed
  have nonempty := (require_eq_ok_iff _ _).mp found
  simpa using nonempty

/-- In the enforced mode there are a chain that is not empty and a key. -/
theorem loadClientIdentity_enforced {certs : Option (List Bytes)} {key : Option PrivateKeyDer}
    {pem : Option Bytes}
    (loaded : SecretBrokerClientConfig.loadClientIdentity parsers host .enforced =
      .ok (certs, key, pem)) :
    (∃ chain, certs = some chain ∧ chain ≠ []) ∧ ∃ found, key = some found := by
  obtain ⟨identity, configured, loaded⟩ := (bind_eq_ok_iff _ _ _).mp loaded
  obtain ⟨_, present, loaded⟩ := (bind_eq_ok_iff _ _ _).mp loaded
  cases loaded
  have some := (require_eq_ok_iff _ _).mp present
  unfold SecretBrokerClientConfig.configuredIdentity at configured
  split at configured
  case h_1 cert keyPath _ _ =>
    obtain ⟨certBytes, -, configured⟩ := (bind_eq_ok_iff _ _ _).mp configured
    obtain ⟨keyBytes, -, configured⟩ := (bind_eq_ok_iff _ _ _).mp configured
    obtain ⟨chain, parsed, configured⟩ := (bind_eq_ok_iff _ _ _).mp configured
    obtain ⟨found, -, configured⟩ := (bind_eq_ok_iff _ _ _).mp configured
    cases configured
    rw [mapError_eq_ok_iff] at parsed
    exact ⟨⟨chain, rfl, parseCertChain_ne_nil parsed⟩, found, rfl⟩
  case h_2 _ _ =>
    cases configured
    simp at some
  case h_3 _ _ _ _ => cases configured

/-- A list of subjects that is used has a subject, so it never admits everyone by being
empty. -/
theorem subjectAllowlist_ne_nil {subjects : List String}
    (found : SecretBrokerClientConfig.subjectAllowlistFromEnv parsers host = some subjects) :
    subjects ≠ [] := by
  obtain ⟨-, nonempty⟩ := Option.filter_eq_some_iff.mp found
  simpa using nonempty

/-- Only the disabled mode has a plain channel. -/
theorem disabled_of_buildTlsConfig {library : TlsLibrary} {config : SecretBrokerClientConfig}
    (plain : buildTlsConfig parsers host library config = .ok none) :
    config.attestationMode = .disabled := by
  -- a configuration that is built is wrapped, so the result is never absent
  have wrapped (result : Except String ClientConfig) : some <$> result ≠ .ok none := by
    cases result <;> simp [Functor.map, Except.map]
  unfold buildTlsConfig at plain
  cases mode : config.attestationMode with
  | disabled => rfl
  | enforced =>
    rw [mode] at plain
    exact absurd plain (wrapped _)
  | spiffe =>
    rw [mode] at plain
    exact absurd plain (wrapped _)
  | localMode =>
    rw [mode] at plain
    obtain ⟨certChain, -, plain⟩ := (bind_eq_ok_iff _ _ _).mp plain
    obtain ⟨privateKey, -, plain⟩ := (bind_eq_ok_iff _ _ _).mp plain
    exact absurd plain (wrapped _)

/-- For every environment, build kind and behaviour of the libraries: a configuration that is
read meets what its mode calls for, and whenever a TLS configuration is built from it there is
one, unless the mode is disabled.

Proof: a configuration that was read has passed every check in the order of the source. Each
conjunct is one of these checks at the mode it is about; that a TLS configuration is missing
in the disabled mode only is a case analysis over the modes. -/
theorem fromEnv_gated (parsers : Parsers) (host : HostProcess) (config : SecretBrokerClientConfig)
    (loaded : SecretBrokerClientConfig.fromEnv parsers host = .ok config) :
    Gated parsers host config ∧
      ∀ (later : HostProcess) (library : TlsLibrary),
        buildTlsConfig parsers later library config = .ok none →
          config.attestationMode = .disabled := by
  refine ⟨?_, fun later library plain => disabled_of_buildTlsConfig plain⟩
  unfold SecretBrokerClientConfig.fromEnv at loaded
  obtain ⟨raw, -, loaded⟩ := (bind_eq_ok_iff _ _ _).mp loaded
  obtain ⟨endpoint, -, loaded⟩ := (bind_eq_ok_iff _ _ _).mp loaded
  obtain ⟨mode, -, loaded⟩ := (bind_eq_ok_iff _ _ _).mp loaded
  obtain ⟨_, loopback, loaded⟩ := (bind_eq_ok_iff _ _ _).mp loaded
  obtain ⟨_, https, loaded⟩ := (bind_eq_ok_iff _ _ _).mp loaded
  obtain ⟨_, allowed, loaded⟩ := (bind_eq_ok_iff _ _ _).mp loaded
  obtain ⟨policy, policyLoaded, loaded⟩ := (bind_eq_ok_iff _ _ _).mp loaded
  obtain ⟨_, subjects, loaded⟩ := (bind_eq_ok_iff _ _ _).mp loaded
  obtain ⟨⟨certs, key, pem⟩, identity, loaded⟩ := (bind_eq_ok_iff _ _ _).mp loaded
  obtain ⟨timeout, -, loaded⟩ := (bind_eq_ok_iff _ _ _).mp loaded
  obtain ⟨_, positive, loaded⟩ := (bind_eq_ok_iff _ _ _).mp loaded
  cases loaded
  have loopbackHolds := (require_eq_ok_iff _ _).mp loopback
  have httpsHolds := (require_eq_ok_iff _ _).mp https
  have subjectsHold := (require_eq_ok_iff _ _).mp subjects
  have timeoutHolds := of_decide_eq_true ((require_eq_ok_iff _ _).mp positive)
  constructor
  case loopback =>
    intro relaxed
    rw [← loopbackEndpoint_iff]
    by_contra elsewhere
    rcases relaxed with rfl | rfl <;> simp [elsewhere] at loopbackHolds
  case https =>
    intro verified
    by_contra plain
    simp [verified, plain] at httpsHolds
  case relaxed =>
    rintro rfl
    exact ensureAttestationMode_disabled allowed
  case policy =>
    rintro rfl
    obtain ⟨path, set, read⟩ := fromEnv_enforced policyLoaded
    exact ⟨path, set, read, fromFile_restricts read⟩
  case subjects =>
    rintro rfl
    cases found : SecretBrokerClientConfig.subjectAllowlistFromEnv parsers host with
    | none => simp [found] at subjectsHold
    | some listed => exact ⟨listed, rfl, subjectAllowlist_ne_nil found⟩
  case identity =>
    rintro rfl
    exact loadClientIdentity_enforced identity
  case timeout => exact Nat.pos_of_ne_zero timeoutHolds

end Gates

section Sample

/-- A debug build that talks to a broker of its own on a plain channel. -/
def plainHost : HostProcess where
  env key :=
    if key = "SECRET_BROKER_ENDPOINT" then .text "http://127.0.0.1:50051"
    else if key = "SECRET_BROKER_CLIENT_MODE" then .text "Disabled"
    else if key = unsafeFlagEnv then .text "1"
    else .absent
  debugAssertions := true
  read _ := .error "No such file or directory (os error 2)"
  readToString _ := .error "No such file or directory (os error 2)"

/-- Libraries that read what the plain host has. -/
def plainParsers : Parsers where
  debug := ⟨fun text => text, fun _ => ""⟩
  toLowercase := asciiLowercase
  parseUrl text :=
    if text = "http://127.0.0.1:50051" then .ok ⟨"http", some "127.0.0.1"⟩
    else .error "relative URL without a base"
  fromStr _ := .error "expected value at line 1 column 1"
  readAll _ := []

/-- The plain host is configured, in the disabled mode, with a loopback endpoint. -/
theorem fromEnv_gated_plain :
    ∃ config, SecretBrokerClientConfig.fromEnv plainParsers plainHost = .ok config ∧
      config.attestationMode = .disabled ∧ LoopbackEndpoint config.endpoint := by
  have loaded : SecretBrokerClientConfig.fromEnv plainParsers plainHost = .ok
      { endpoint := ⟨"http", some "127.0.0.1"⟩
        attestationMode := .disabled
        policy := .transportOnly
        pccsUrl := none
        subjectAllowlist := none
        clientCertChain := none
        clientKey := none
        clientIdentityPem := none
        timeoutSeconds := 10
        spiffeSocketPath := none
        mySpiffeId := none } := by
    rfl
  have gated := (fromEnv_gated plainParsers plainHost _ loaded).1
  exact ⟨_, loaded, rfl, gated.loopback (.inr rfl)⟩

end Sample

end SecureDatabase.BrokerClient
