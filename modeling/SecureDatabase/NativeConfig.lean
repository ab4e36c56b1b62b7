import SecureDatabase.Foundation.Environment
import SecureDatabase.PoolRotation

/-!
# Configuration of the native pools

Where the credentials of the two pools come from, how large the pools are and how long they
wait is read from the environment. Static credentials take an explicit choice and a second
variable that allows it; everything else obtains leases from the broker.

Errors are the texts they display. What `Debug` writes for a text is a parameter.
-/

namespace SecureDatabase.Native

open Foundation Rotation

/-- Where the credentials of a pool come from: a static address or the broker. -/
inductive NativeAuthConfig where
  | staticUrl (databaseUrl : String)
  | broker (credential : BrokerCredentialConfig)

/-- What a process is configured with. Without an authentication of its own the secrets
pool is the data pool. -/
structure NativeConfig where
  dataAuth : NativeAuthConfig
  secretsAuth : Option NativeAuthConfig
  maxConnections : Nat
  minConnections : Nat
  connectTimeoutSeconds : Nat
  idleTimeoutSeconds : Nat
  applicationName : String

/-- The entries of a list separated by commas, blank ones left out. -/
def parseScopeList (raw : String) : List String :=
  (splitChar ',' raw).filterMap fun entry =>
    let trimmed := trim entry
    if trimmed = "" then none else some trimmed

/-- `required_env`: a variable that has to be set and not blank. Its value is not
trimmed. -/
def requiredEnv (env : Environment) (key : String) : Except String String := do
  let value ← (env.var key).mapError (fun _ => key ++ " is required")
  require (trim value ≠ "") (key ++ " must not be empty")
  return value

/-- A numeric variable of a width; an absent one has its default. -/
def parseUnsignedEnv (debug : DebugText) (env : Environment) (width : Nat) (key : String)
    (default : Nat) : Except String Nat :=
  match env.var key with
  | .ok raw => (parseUnsigned width raw).mapError fun error =>
      "invalid " ++ key ++ " value " ++ debug.str raw ++ ": " ++ error.display
  | .error .notPresent => .ok default
  | .error error => .error ("failed to read " ++ key ++ ": " ++ error.display debug)

/-- `parse_u32_env`: a number of 32 bits or a default. -/
def parseU32Env (debug : DebugText) (env : Environment) (key : String) (default : Nat) :
    Except String Nat :=
  parseUnsignedEnv debug env 32 key default

/-- `parse_u64_env`: a number of 64 bits or a default. -/
def parseU64Env (debug : DebugText) (env : Environment) (key : String) (default : Nat) :
    Except String Nat :=
  parseUnsignedEnv debug env 64 key default

/-- `env_flag`: a switch that is off unless it is set to one of four texts; one that is
set to anything else is an error. -/
def envFlag (debug : DebugText) (env : Environment) (key : String) : DbResult Bool :=
  match env.var key with
  | .error .notPresent => .ok false
  | .error error => .error (.configuration ("failed to read " ++ key ++ ": " ++ error.display debug))
  | .ok value =>
      if asciiLowercase (trim value) ∈ ["1", "true", "yes", "on"] then .ok true
      else if asciiLowercase (trim value) ∈ ["0", "false", "no", "off"] then .ok false
      else .error (.configuration (key ++ " must be a boolean value"))

/-- The chosen source of credentials. -/
def credentialSource (env : Environment) : String :=
  asciiLowercase ((env.text "SECURE_DB_CREDENTIAL_SOURCE").getD "broker")

/-- The credentials of the data pool. -/
def dataAuth (debug : DebugText) (env : Environment) : Except String NativeAuthConfig :=
  if credentialSource env = "broker" then do
    let audience ← requiredEnv env "SECURE_DB_BROKER_AUDIENCE"
    let scope := ((env.text "SECURE_DB_BROKER_SCOPE").map parseScopeList).getD []
    let ttlSeconds ← parseU64Env debug env "SECURE_DB_BROKER_TTL_SECONDS" 900
    require (ttlSeconds ≠ 0) "SECURE_DB_BROKER_TTL_SECONDS must be greater than zero"
    return .broker { audience, scope, ttlSeconds }
  else if credentialSource env = "static" then do
    let allowed ← (envFlag debug env "SECURE_DB_ALLOW_STATIC").mapError DatabaseError.display
    require allowed "SECURE_DB_CREDENTIAL_SOURCE=static requires SECURE_DB_ALLOW_STATIC=true"
    let databaseUrl ← requiredEnv env "SECURE_DB_URL"
    return .staticUrl databaseUrl
  else .error ("SECURE_DB_CREDENTIAL_SOURCE must be 'broker' or 'static', got " ++
    debug.str (credentialSource env))

/-- The credentials of the secrets pool, of the same kind as those of the data pool. -/
def secretsAuth (debug : DebugText) (env : Environment) :
    NativeAuthConfig → Except String (Option NativeAuthConfig)
  | .broker dataBroker =>
      match env.text "SECURE_DB_SECRETS_BROKER_AUDIENCE" with
      | some audience => do
          require (trim audience ≠ "") "SECURE_DB_SECRETS_BROKER_AUDIENCE must not be empty"
          let scope := ((env.text "SECURE_DB_SECRETS_BROKER_SCOPE").map parseScopeList).getD
            dataBroker.scope
          let ttlSeconds ← parseU64Env debug env "SECURE_DB_SECRETS_BROKER_TTL_SECONDS"
            dataBroker.ttlSeconds
          require (ttlSeconds ≠ 0)
            "SECURE_DB_SECRETS_BROKER_TTL_SECONDS must be greater than zero"
          return some (.broker { audience, scope, ttlSeconds })
      | none => do
          require (!(env.isSet "SECURE_DB_SECRETS_BROKER_SCOPE" ||
              env.isSet "SECURE_DB_SECRETS_BROKER_TTL_SECONDS"))
            "SECURE_DB_SECRETS_BROKER_AUDIENCE is required when secret-pool broker overrides are set"
          return none
  | .staticUrl _ =>
      .ok (((env.text "SECURE_DB_SECRETS_URL").filter (fun value => trim value ≠ "")).map
        .staticUrl)

/-- `load_native_config`: each value is read and checked in turn, and the first that fails
ends the loading. -/
def loadNativeConfig (debug : DebugText) (env : Environment) : Except String NativeConfig := do
  let dataAuth ← dataAuth debug env
  let secretsAuth ← secretsAuth debug env dataAuth
  let maxConnections ← parseU32Env debug env "SECURE_DB_POOL_MAX" 20
  let minConnections ← parseU32Env debug env "SECURE_DB_POOL_MIN" 5
  require (maxConnections ≠ 0 && minConnections ≤ maxConnections)
    "SECURE_DB_POOL_MAX must be positive and SECURE_DB_POOL_MIN must not exceed it"
  let connectTimeoutSeconds ← parseU64Env debug env "SECURE_DB_CONNECT_TIMEOUT" 10
  let idleTimeoutSeconds ← parseU64Env debug env "SECURE_DB_IDLE_TIMEOUT" 300
  require (connectTimeoutSeconds ≠ 0 && idleTimeoutSeconds ≠ 0)
    "database timeout values must be greater than zero"
  let applicationName := (env.text "SECURE_DB_APP_NAME").getD "secure-database"
  require (trim applicationName ≠ "") "SECURE_DB_APP_NAME must not be empty"
  return {
    dataAuth, secretsAuth, maxConnections, minConnections, connectTimeoutSeconds,
    idleTimeoutSeconds, applicationName }

/-- Static credentials were chosen, and are allowed. -/
def StaticSelected (env : Environment) : Prop :=
  (∃ source, env "SECURE_DB_CREDENTIAL_SOURCE" = .text source ∧ asciiLowercase source = "static") ∧
    ∃ flag, env "SECURE_DB_ALLOW_STATIC" = .text flag ∧
      asciiLowercase (trim flag) ∈ ["1", "true", "yes", "on"]

namespace NativeAuthConfig

/-- Credentials that are written in the configuration. -/
def IsStatic : NativeAuthConfig → Prop
  | staticUrl _ => True
  | broker _ => False

/-- Credentials that the broker leases, for a named audience and for some time. -/
def IsLeased : NativeAuthConfig → Prop
  | staticUrl _ => False
  | broker credential => trim credential.audience ≠ "" ∧ 0 < credential.ttlSeconds

end NativeAuthConfig

/-- A variable is set but is no unsigned number of a width. -/
def Malformed (env : Environment) (numeric : String × Nat) : Prop :=
  match env numeric.1 with
  | .absent => False
  | .notUnicode _ => True
  | .text raw => ¬ IsUnsigned numeric.2 raw

/-- The numeric variables that are consulted, with their widths. -/
def consulted (env : Environment) : List (String × Nat) :=
  [("SECURE_DB_POOL_MAX", 32), ("SECURE_DB_POOL_MIN", 32), ("SECURE_DB_CONNECT_TIMEOUT", 64),
    ("SECURE_DB_IDLE_TIMEOUT", 64)] ++
  if credentialSource env = "static" then []
  else [("SECURE_DB_BROKER_TTL_SECONDS", 64), ("SECURE_DB_SECRETS_BROKER_TTL_SECONDS", 64)]

/-- What a loaded configuration is guaranteed to be. -/
structure Guarded (env : Environment) (config : NativeConfig) : Prop where
  credentials :
    (StaticSelected env ∧ config.dataAuth.IsStatic ∧
        ∀ auth ∈ config.secretsAuth, auth.IsStatic) ∨
      (¬ StaticSelected env ∧ config.dataAuth.IsLeased ∧
        ∀ auth ∈ config.secretsAuth, auth.IsLeased)
  connections : 0 < config.maxConnections ∧ config.minConnections ≤ config.maxConnections
  timeouts : 0 < config.connectTimeoutSeconds ∧ 0 < config.idleTimeoutSeconds
  named : trim config.applicationName ≠ ""

section Readings

variable {debug : DebugText} {env : Environment}

/-- What is read from a numeric variable was not malformed. -/
theorem not_malformed_of_parse {width : Nat} {key : String} {default number : Nat}
    (read : parseUnsignedEnv debug env width key default = .ok number) :
    ¬ Malformed env (key, width) := by
  unfold parseUnsignedEnv Environment.var at read
  unfold Malformed
  cases found : env key with
  | absent => simp
  | notUnicode octets =>
    rw [found] at read
    cases read
  | text raw =>
    simp only [found, mapError_eq_ok_iff, parseUnsigned_ok_iff] at read
    exact not_not.mpr read.1

/-- A required value is not blank. -/
theorem requiredEnv_eq_ok {key value : String} (read : requiredEnv env key = .ok value) :
    trim value ≠ "" := by
  obtain ⟨found, -, read⟩ := (bind_eq_ok_iff _ _ _).mp read
  obtain ⟨_, required, read⟩ := (bind_eq_ok_iff _ _ _).mp read
  cases read
  exact of_decide_eq_true ((require_eq_ok_iff _ _).mp required)

/-- A switch is on only when its variable holds one of the four texts. -/
theorem envFlag_eq_ok_true {key : String} (read : envFlag debug env key = .ok true) :
    ∃ flag, env key = .text flag ∧ asciiLowercase (trim flag) ∈ ["1", "true", "yes", "on"] := by
  unfold envFlag Environment.var at read
  cases found : env key with
  | absent => simp [found] at read
  | notUnicode octets => simp [found] at read
  | text flag =>
    simp only [found] at read
    split at read
    case isTrue truthy => exact ⟨flag, rfl, truthy⟩
    case isFalse _ =>
      split at read
      · cases read
      · cases read

/-- The credentials are static only when the variable says so. -/
theorem credentialSource_eq_static (chosen : credentialSource env = "static") :
    ∃ source, env "SECURE_DB_CREDENTIAL_SOURCE" = .text source ∧
      asciiLowercase source = "static" := by
  unfold credentialSource at chosen
  cases found : env.text "SECURE_DB_CREDENTIAL_SOURCE" with
  | none =>
    rw [found] at chosen
    exact absurd chosen (by decide)
  | some source =>
    rw [found] at chosen
    exact ⟨source, (env.text_eq_some_iff _ _).mp found, chosen⟩

/-- The credentials of the data pool: static ones that were chosen and are allowed, or a lease. -/
theorem dataAuth_eq_ok {auth : NativeAuthConfig} (loaded : dataAuth debug env = .ok auth) :
    (credentialSource env = "static" ∧ StaticSelected env ∧ ∃ url, auth = .staticUrl url) ∨
      (credentialSource env = "broker" ∧
        ¬ Malformed env ("SECURE_DB_BROKER_TTL_SECONDS", 64) ∧
        ∃ credential, auth = .broker credential ∧ auth.IsLeased) := by
  unfold dataAuth at loaded
  split at loaded
  case isTrue broker =>
    obtain ⟨audience, found, loaded⟩ := (bind_eq_ok_iff _ _ _).mp loaded
    obtain ⟨ttlSeconds, read, loaded⟩ := (bind_eq_ok_iff _ _ _).mp loaded
    obtain ⟨_, positive, loaded⟩ := (bind_eq_ok_iff _ _ _).mp loaded
    cases loaded
    have nonzero := of_decide_eq_true ((require_eq_ok_iff _ _).mp positive)
    exact .inr ⟨broker, not_malformed_of_parse read, _, rfl, requiredEnv_eq_ok found,
      Nat.pos_of_ne_zero nonzero⟩
  case isFalse _ =>
    split at loaded
    case isTrue chosen =>
      obtain ⟨allowed, flagged, loaded⟩ := (bind_eq_ok_iff _ _ _).mp loaded
      obtain ⟨_, truthy, loaded⟩ := (bind_eq_ok_iff _ _ _).mp loaded
      obtain ⟨databaseUrl, found, loaded⟩ := (bind_eq_ok_iff _ _ _).mp loaded
      cases loaded
      obtain rfl := (require_eq_ok_iff _ _).mp truthy
      rw [mapError_eq_ok_iff] at flagged
      exact .inl ⟨chosen, ⟨credentialSource_eq_static chosen, envFlag_eq_ok_true flagged⟩, _, rfl⟩
    case isFalse _ => cases loaded

/-- Beside static credentials the secrets pool has static ones or none. -/
theorem secretsAuth_static {url : String} {secrets : Option NativeAuthConfig}
    (loaded : secretsAuth debug env (.staticUrl url) = .ok secrets) :
    ∀ auth ∈ secrets, auth.IsStatic := by
  cases loaded
  intro auth present
  obtain ⟨_, -, rfl⟩ := Option.map_eq_some_iff.mp present
  trivial

/-- Beside a lease the secrets pool has a lease or none. -/
theorem secretsAuth_broker {credential : BrokerCredentialConfig}
    {secrets : Option NativeAuthConfig}
    (loaded : secretsAuth debug env (.broker credential) = .ok secrets) :
    ¬ Malformed env ("SECURE_DB_SECRETS_BROKER_TTL_SECONDS", 64) ∧
      ∀ auth ∈ secrets, auth.IsLeased := by
  rw [secretsAuth] at loaded
  split at loaded
  case h_1 audience found =>
    obtain ⟨_, named, loaded⟩ := (bind_eq_ok_iff _ _ _).mp loaded
    obtain ⟨ttlSeconds, read, loaded⟩ := (bind_eq_ok_iff _ _ _).mp loaded
    obtain ⟨_, positive, loaded⟩ := (bind_eq_ok_iff _ _ _).mp loaded
    cases loaded
    refine ⟨not_malformed_of_parse read, ?_⟩
    intro auth present
    cases present
    exact ⟨of_decide_eq_true ((require_eq_ok_iff _ _).mp named),
      Nat.pos_of_ne_zero (of_decide_eq_true ((require_eq_ok_iff _ _).mp positive))⟩
  case h_2 missing =>
    obtain ⟨_, unset, loaded⟩ := (bind_eq_ok_iff _ _ _).mp loaded
    cases loaded
    refine ⟨?_, by simp⟩
    have absent := (require_eq_ok_iff _ _).mp unset
    unfold Malformed
    cases found : env "SECURE_DB_SECRETS_BROKER_TTL_SECONDS" with
    | absent => simp
    | notUnicode octets => simp [Environment.isSet, found] at absent
    | text raw => simp [Environment.isSet, found] at absent

/-- Every field of a loaded configuration was read, and passed its check. -/
structure Loaded (debug : DebugText) (env : Environment) (config : NativeConfig) : Prop where
  dataAuth : dataAuth debug env = .ok config.dataAuth
  secretsAuth : secretsAuth debug env config.dataAuth = .ok config.secretsAuth
  maxConnections : parseU32Env debug env "SECURE_DB_POOL_MAX" 20 = .ok config.maxConnections
  minConnections : parseU32Env debug env "SECURE_DB_POOL_MIN" 5 = .ok config.minConnections
  connectTimeout :
    parseU64Env debug env "SECURE_DB_CONNECT_TIMEOUT" 10 = .ok config.connectTimeoutSeconds
  idleTimeout : parseU64Env debug env "SECURE_DB_IDLE_TIMEOUT" 300 = .ok config.idleTimeoutSeconds
  connections : 0 < config.maxConnections ∧ config.minConnections ≤ config.maxConnections
  timeouts : 0 < config.connectTimeoutSeconds ∧ 0 < config.idleTimeoutSeconds
  named : trim config.applicationName ≠ ""

/-- A configuration that is loaded has passed every check, in every field. -/
theorem loadNativeConfig_loaded {config : NativeConfig}
    (loaded : loadNativeConfig debug env = .ok config) : Loaded debug env config := by
  unfold loadNativeConfig at loaded
  obtain ⟨auth, dataLoaded, loaded⟩ := (bind_eq_ok_iff _ _ _).mp loaded
  obtain ⟨secrets, secretsLoaded, loaded⟩ := (bind_eq_ok_iff _ _ _).mp loaded
  obtain ⟨maxConnections, maxRead, loaded⟩ := (bind_eq_ok_iff _ _ _).mp loaded
  obtain ⟨minConnections, minRead, loaded⟩ := (bind_eq_ok_iff _ _ _).mp loaded
  obtain ⟨_, sizes, loaded⟩ := (bind_eq_ok_iff _ _ _).mp loaded
  obtain ⟨connectTimeout, connectRead, loaded⟩ := (bind_eq_ok_iff _ _ _).mp loaded
  obtain ⟨idleTimeout, idleRead, loaded⟩ := (bind_eq_ok_iff _ _ _).mp loaded
  obtain ⟨_, times, loaded⟩ := (bind_eq_ok_iff _ _ _).mp loaded
  obtain ⟨_, named, loaded⟩ := (bind_eq_ok_iff _ _ _).mp loaded
  cases loaded
  have sizesHold := (require_eq_ok_iff _ _).mp sizes
  have timesHold := (require_eq_ok_iff _ _).mp times
  rw [Bool.and_eq_true, decide_eq_true_eq, decide_eq_true_eq] at sizesHold timesHold
  exact {
    dataAuth := dataLoaded
    secretsAuth := secretsLoaded
    maxConnections := maxRead
    minConnections := minRead
    connectTimeout := connectRead
    idleTimeout := idleRead
    connections := ⟨Nat.pos_of_ne_zero sizesHold.1, sizesHold.2⟩
    timeouts := ⟨Nat.pos_of_ne_zero timesHold.1, Nat.pos_of_ne_zero timesHold.2⟩
    named := of_decide_eq_true ((require_eq_ok_iff _ _).mp named) }

/-- What a loaded configuration says about the environment it was loaded from. -/
theorem loadNativeConfig_eq_ok {config : NativeConfig}
    (loaded : loadNativeConfig debug env = .ok config) :
    Guarded env config ∧ ∀ numeric ∈ consulted env, ¬ Malformed env numeric := by
  have parts := loadNativeConfig_loaded loaded
  have secrets := parts.secretsAuth
  rcases dataAuth_eq_ok parts.dataAuth with
    ⟨chosen, selected, url, static⟩ | ⟨broker, ttl, credential, lease, leased⟩
  · rw [static] at secrets
    have credentials : config.dataAuth.IsStatic := by rw [static]; trivial
    refine ⟨⟨.inl ⟨selected, credentials, secretsAuth_static secrets⟩, parts.connections,
      parts.timeouts, parts.named⟩, ?_⟩
    simp only [consulted, chosen, ↓reduceIte, List.append_nil, List.forall_mem_cons,
      List.not_mem_nil, false_implies, implies_true, and_true]
    exact ⟨not_malformed_of_parse parts.maxConnections, not_malformed_of_parse parts.minConnections,
      not_malformed_of_parse parts.connectTimeout, not_malformed_of_parse parts.idleTimeout⟩
  · rw [lease] at secrets
    obtain ⟨secretsTtl, secretsLeased⟩ := secretsAuth_broker secrets
    have unselected : ¬ StaticSelected env := by
      rintro ⟨⟨source, found, lower⟩, -⟩
      rw [credentialSource, (env.text_eq_some_iff _ _).mpr found, Option.getD_some, lower] at broker
      exact absurd broker (by decide)
    have other : ¬ credentialSource env = "static" := by
      rw [broker]
      decide
    refine ⟨⟨.inr ⟨unselected, leased, secretsLeased⟩, parts.connections, parts.timeouts,
      parts.named⟩, ?_⟩
    simp only [consulted, other, ↓reduceIte, List.cons_append, List.nil_append,
      List.forall_mem_cons, List.not_mem_nil, false_implies, implies_true, and_true]
    exact ⟨not_malformed_of_parse parts.maxConnections, not_malformed_of_parse parts.minConnections,
      not_malformed_of_parse parts.connectTimeout, not_malformed_of_parse parts.idleTimeout, ttl,
      secretsTtl⟩

end Readings

/-- For every environment: a configuration that is loaded uses static credentials in both
pools when these were chosen and allowed and leases in both pools otherwise, each with a named
audience and a positive lifetime; its pool sizes, timeouts and name are sound; and when a
numeric variable that is consulted is malformed, nothing is loaded.

Proof: a configuration that was loaded has passed every stage of the loader, and what each
stage demands is read back from its success. A malformed number makes the stage that reads it
fail, so a load that succeeds has met none. -/
theorem loadNativeConfig_guarded (debug : DebugText) (env : Environment) :
    (∀ config, loadNativeConfig debug env = .ok config → Guarded env config) ∧
      ∀ numeric ∈ consulted env, Malformed env numeric →
        ∃ error, loadNativeConfig debug env = .error error := by
  constructor
  · intro config loaded
    exact (loadNativeConfig_eq_ok loaded).1
  · intro numeric member malformed
    cases loaded : loadNativeConfig debug env with
    | error error => exact ⟨error, rfl⟩
    | ok config => exact absurd malformed ((loadNativeConfig_eq_ok loaded).2 numeric member)

/-- An environment that names an audience and a pool size. -/
def sampleEnvironment (poolMax : String) (key : String) : EnvVar :=
  if key = "SECURE_DB_BROKER_AUDIENCE" then .text "orders"
  else if key = "SECURE_DB_POOL_MAX" then .text poolMax
  else .absent

/-- Debug texts as they are. -/
def sampleDebug : DebugText := ⟨fun text => text, fun _ => ""⟩

/-- With a pool size of eight the sample environment loads a lease; with a pool size that is
no number it does not load. -/
theorem loadNativeConfig_guarded_sample :
    (∃ config, loadNativeConfig sampleDebug (sampleEnvironment "8") = .ok config ∧
      Guarded (sampleEnvironment "8") config ∧ config.dataAuth.IsLeased) ∧
    (("SECURE_DB_POOL_MAX", 32) ∈ consulted (sampleEnvironment "eight") ∧
      Malformed (sampleEnvironment "eight") ("SECURE_DB_POOL_MAX", 32) ∧
      ∃ error, loadNativeConfig sampleDebug (sampleEnvironment "eight") = .error error) := by
  constructor
  · have loaded : loadNativeConfig sampleDebug (sampleEnvironment "8") = .ok
        ⟨.broker ⟨"orders", [], 900⟩, none, 8, 5, 10, 300, "secure-database"⟩ := by
      rfl
    have guarded := (loadNativeConfig_guarded _ _).1 _ loaded
    exact ⟨_, loaded, guarded, by decide, by decide⟩
  · have consults : ("SECURE_DB_POOL_MAX", 32) ∈ consulted (sampleEnvironment "eight") :=
      List.mem_append_left _ List.mem_cons_self
    have malformed : Malformed (sampleEnvironment "eight") ("SECURE_DB_POOL_MAX", 32) := by
      intro unsigned
      have first := unsigned.2.1 'e' (by decide)
      exact absurd first (by decide)
    exact ⟨consults, malformed, (loadNativeConfig_guarded _ _).2 _ consults malformed⟩

end SecureDatabase.Native
