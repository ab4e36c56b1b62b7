import SecureDatabase.NativeConfig

/-!
# When the secrets pool is the data pool

A configuration without credentials for the secrets pool keeps both schemas in the data pool.
That is meant to be a choice, made by leaving the variables of the secrets pool out. The two
sources of credentials read these variables in different ways. For leases a blank audience, and
overrides without an audience, are errors. A static address that is blank is dropped. For both a
variable that holds no text is taken as one that is not there.
-/

namespace SecureDatabase.Native

open Foundation Rotation

/-- The variables of the secrets pool, for the chosen source of credentials. -/
def secretsVariables (env : Environment) : List String :=
  if credentialSource env = "static" then ["SECURE_DB_SECRETS_URL"]
  else ["SECURE_DB_SECRETS_BROKER_AUDIENCE", "SECURE_DB_SECRETS_BROKER_SCOPE",
    "SECURE_DB_SECRETS_BROKER_TTL_SECONDS"]

/-- The secrets pool is the data pool only if none of its variables is there. -/
def SharedByChoice (env : Environment) (config : NativeConfig) : Prop :=
  config.secretsAuth = none → ∀ key ∈ secretsVariables env, env key = .absent

/-- The variable that names the secrets pool can be read, if it is there: it holds a text, and
for static credentials one that is not blank. -/
def SecretsLegible (env : Environment) : Prop :=
  if credentialSource env = "static" then
    env "SECURE_DB_SECRETS_URL" = .absent ∨
      ∃ url, env "SECURE_DB_SECRETS_URL" = .text url ∧ trim url ≠ ""
  else ∀ octets, env "SECURE_DB_SECRETS_BROKER_AUDIENCE" ≠ .notUnicode octets

section Sources

variable {debug : DebugText} {env : Environment} {secrets : Option NativeAuthConfig}

/-- Beside static credentials there are none for the secrets pool exactly when there is no
address, or one that is blank or no text. -/
theorem secretsAuth_static_eq_none {url : String}
    (loaded : secretsAuth debug env (.staticUrl url) = .ok secrets) :
    secrets = none ↔ ∀ other, env "SECURE_DB_SECRETS_URL" = .text other → trim other = "" := by
  cases loaded
  rw [Option.map_eq_none_iff, Option.filter_eq_none_iff]
  simp only [Environment.text_eq_some_iff, decide_eq_true_eq, not_not]

/-- Beside a lease there is none for the secrets pool exactly when there is no audience that is a
text. Then the overrides are not there. -/
theorem secretsAuth_broker_eq_none {credential : BrokerCredentialConfig}
    (loaded : secretsAuth debug env (.broker credential) = .ok secrets) :
    (secrets = none ↔ env.text "SECURE_DB_SECRETS_BROKER_AUDIENCE" = none) ∧
      (env.text "SECURE_DB_SECRETS_BROKER_AUDIENCE" = none →
        env "SECURE_DB_SECRETS_BROKER_SCOPE" = .absent ∧
          env "SECURE_DB_SECRETS_BROKER_TTL_SECONDS" = .absent) := by
  rw [secretsAuth] at loaded
  split at loaded
  case h_1 audience found =>
    obtain ⟨_, -, loaded⟩ := (bind_eq_ok_iff _ _ _).mp loaded
    obtain ⟨ttlSeconds, -, loaded⟩ := (bind_eq_ok_iff _ _ _).mp loaded
    obtain ⟨_, -, loaded⟩ := (bind_eq_ok_iff _ _ _).mp loaded
    cases loaded
    simp [found]
  case h_2 missing =>
    obtain ⟨_, unset, loaded⟩ := (bind_eq_ok_iff _ _ _).mp loaded
    cases loaded
    have absent := (require_eq_ok_iff _ _).mp unset
    simp only [Bool.not_eq_true', Bool.or_eq_false_iff, Environment.isSet_eq_false_iff] at absent
    exact ⟨iff_of_true rfl missing, fun _ => absent⟩

/-- Whenever a configuration loads, the secrets pool is shared only by choice exactly when the
variable that names it can be read.

Proof: which variables name a secrets pool depends on the source of the credentials that was
loaded. The pool is shared when none of them gives a text, and that happens without a choice
only where one is set and cannot be read. -/
theorem shared_by_choice_iff {config : NativeConfig}
    (loaded : loadNativeConfig debug env = .ok config) :
    SharedByChoice env config ↔ SecretsLegible env := by
  have parts := loadNativeConfig_loaded loaded
  have secretsLoaded := parts.secretsAuth
  unfold SharedByChoice SecretsLegible secretsVariables
  rcases dataAuth_eq_ok parts.dataAuth with
    ⟨chosen, -, url, static⟩ | ⟨chosen, -, credential, broker, -⟩
  · rw [static] at secretsLoaded
    rw [if_pos chosen, if_pos chosen, secretsAuth_static_eq_none secretsLoaded]
    simp only [List.forall_mem_singleton]
    cases found : env "SECURE_DB_SECRETS_URL" with
    | absent => simp
    | notUnicode octets => simp
    | text value => simp
  · have other : ¬ credentialSource env = "static" := by
      rw [chosen]
      decide
    rw [broker] at secretsLoaded
    obtain ⟨none_iff, overrides⟩ := secretsAuth_broker_eq_none secretsLoaded
    rw [if_neg other, if_neg other, none_iff]
    constructor
    · intro chosen octets found
      have absent := chosen (by rw [Environment.text, found]) _ List.mem_cons_self
      rw [found] at absent
      cases absent
    · intro legible untexted
      obtain ⟨scope, ttl⟩ := overrides untexted
      have audience : env "SECURE_DB_SECRETS_BROKER_AUDIENCE" = .absent := by
        cases found : env "SECURE_DB_SECRETS_BROKER_AUDIENCE" with
        | absent => rfl
        | notUnicode octets => exact absurd found (legible octets)
        | text audience => rw [Environment.text, found] at untexted; cases untexted
      simp [audience, scope, ttl]

end Sources

section Samples

/-- An environment with a variable for the secrets pool, beside leases for the data pool. -/
def leasedEnvironment (audience : EnvVar) (key : String) : EnvVar :=
  if key = "SECURE_DB_BROKER_AUDIENCE" then .text "orders"
  else if key = "SECURE_DB_SECRETS_BROKER_AUDIENCE" then audience
  else .absent

/-- An environment with a variable for the secrets pool, beside a static address for the data
pool. -/
def staticEnvironment (url : EnvVar) (key : String) : EnvVar :=
  if key = "SECURE_DB_CREDENTIAL_SOURCE" then .text "static"
  else if key = "SECURE_DB_ALLOW_STATIC" then .text "true"
  else if key = "SECURE_DB_URL" then .text "postgres://pgbouncer:6432/data"
  else if key = "SECURE_DB_SECRETS_URL" then url
  else .absent

/-- Without an audience for the secrets pool it is shared, and by choice. -/
theorem unnamed_secrets_shared_by_choice :
    ∃ config, loadNativeConfig sampleDebug (leasedEnvironment .absent) = .ok config ∧
      config.secretsAuth = none ∧ SharedByChoice (leasedEnvironment .absent) config := by
  have loaded : loadNativeConfig sampleDebug (leasedEnvironment .absent) = .ok
      ⟨.broker ⟨"orders", [], 900⟩, none, 20, 5, 10, 300, "secure-database"⟩ := by
    rfl
  have legible : SecretsLegible (leasedEnvironment .absent) := by
    rw [SecretsLegible, if_neg (by decide)]
    intro octets found
    cases found
  exact ⟨_, loaded, rfl, (shared_by_choice_iff loaded).mpr legible⟩

/-- The secrets pool is shared although an audience is given, which is no text. It is shared too
although a static address is given, which is blank. -/
theorem illegible_secrets_shared :
    (∃ config, loadNativeConfig sampleDebug (leasedEnvironment (.notUnicode [255])) = .ok config ∧
      config.secretsAuth = none ∧
      ¬ SharedByChoice (leasedEnvironment (.notUnicode [255])) config) ∧
    ∃ config, loadNativeConfig sampleDebug (staticEnvironment (.text " ")) = .ok config ∧
      config.secretsAuth = none ∧ ¬ SharedByChoice (staticEnvironment (.text " ")) config := by
  have leased : loadNativeConfig sampleDebug (leasedEnvironment (.notUnicode [255])) = .ok
      ⟨.broker ⟨"orders", [], 900⟩, none, 20, 5, 10, 300, "secure-database"⟩ := by
    rfl
  have static : loadNativeConfig sampleDebug (staticEnvironment (.text " ")) = .ok
      ⟨.staticUrl "postgres://pgbouncer:6432/data", none, 20, 5, 10, 300, "secure-database"⟩ := by
    rfl
  refine ⟨⟨_, leased, rfl, ?_⟩, _, static, rfl, ?_⟩
  · intro chosen
    have absent := chosen rfl "SECURE_DB_SECRETS_BROKER_AUDIENCE" List.mem_cons_self
    cases absent
  · intro chosen
    have absent := chosen rfl "SECURE_DB_SECRETS_URL" List.mem_cons_self
    cases absent

end Samples

end SecureDatabase.Native
