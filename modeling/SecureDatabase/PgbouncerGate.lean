import SecureDatabase.Foundation.Uri
import SecureDatabase.LeaseRotation
import SecureDatabase.NativeConfig

/-!
# The gate of static addresses

A pool with a static address is opened through PgBouncer: the address has to name the host
`pgbouncer` or the port 6432, unless the gate is switched off. The gate does not take the
address apart. It looks for five texts in the whole of it. So a user, a path or a query that
holds one of them passes for the authority, and a host without a port is not seen.
-/

namespace SecureDatabase.Native

open Foundation Rotation Program

/-- `str::to_lowercase`. Beyond ASCII it follows the Unicode tables, which are left open. -/
structure Lowercase where
  map : String → String
  ascii : ∀ text, IsAscii text.toList → map text = asciiLowercase text

/-- `str::eq_ignore_ascii_case`. -/
def eqIgnoreAsciiCase (left right : String) : Bool := asciiLowercase left = asciiLowercase right

/-- The mode of attested connections, enforced unless it is set. -/
def ratlsMode (env : Environment) : String :=
  (env.text "SECURE_DB_RATLS_MODE").getD "enforced"

/-- The gate is skipped where attesting is disabled, and where the direct bootstrap is
switched on. -/
def skipPgbouncerCheck (debug : DebugText) (env : Environment) : DbResult Bool :=
  if eqIgnoreAsciiCase (ratlsMode env) "disabled" then .ok true
  else envFlag debug env "SECURE_DB_ALLOW_DIRECT_BOOTSTRAP"

/-- The five texts that the gate looks for, in an address in lower case. -/
def hasHostOrPort (lower : String) : Bool :=
  let hasHost := contains lower "@pgbouncer:" || contains lower "//pgbouncer:"
  let hasPort := contains lower ":6432/" || endsWith lower ":6432" || contains lower ":6432?"
  hasHost || hasPort

/-- `ensure_pgbouncer_dsn`: an address in which the gate finds nothing is refused with a
message that names it. -/
def ensurePgbouncerDsn (lowercase : Lowercase) (url : String) : DbResult Unit :=
  require (hasHostOrPort (lowercase.map url)) (.configuration
    ("PgBouncer DSN required (port 6432 or host pgbouncer): " ++ url ++
      ". Set SECURE_DB_ALLOW_DIRECT_BOOTSTRAP=1 for admin bootstrap or " ++
      "SECURE_DB_RATLS_MODE=disabled for development."))

/-- The gate, unless it is skipped. -/
def pgbouncerGate (debug : DebugText) (env : Environment) (lowercase : Lowercase) (url : String) :
    DbResult Unit := do
  let skipped ← skipPgbouncerCheck debug env
  if skipped then return () else ensurePgbouncerDsn lowercase url

section StaticPool

variable {Cell Query Answer : Type} (debug : DebugText) (env : Environment)
  (lowercase : Lowercase) (parse : String → Except String PgConnectOptions)

/-- The connection options of a static address. -/
def staticOptions (databaseUrl : String) (context : PoolContext) : DbResult PgConnectOptions := do
  pgbouncerGate debug env lowercase databaseUrl
  let options ← (parse databaseUrl).mapError fun error =>
    .configuration ("invalid DATABASE_URL: " ++ error)
  return { options with
    sslMode := if eqIgnoreAsciiCase (ratlsMode env) "disabled" then .prefer else .require
    applicationName := some context.applicationName }

/-- Create a pool with a static address. It has no worker. -/
def createStaticPool (databaseUrl : String) (context : PoolContext) :
    PoolProgram Cell Query Answer PoolId := do
  let options ← ofExcept (staticOptions debug env lowercase parse databaseUrl context)
  instantiatePool options context.settings

end StaticPool

section Occurrences

/-- What the gate looks for, in terms of the name and the number. -/
theorem hasHostOrPort_eq_true {text : String} {name digits chars : List Char}
    (named : "pgbouncer".toList = name) (numbered : "6432".toList = digits)
    (whole : text.toList = chars) :
    hasHostOrPort text = true ↔
      ('@' :: (name ++ [':']) <:+: chars ∨ '/' :: '/' :: (name ++ [':']) <:+: chars) ∨
        (':' :: (digits ++ ['/']) <:+: chars ∨ ':' :: digits <:+ chars) ∨
          ':' :: (digits ++ ['?']) <:+: chars := by
  subst whole named numbered
  simp only [hasHostOrPort, Bool.or_eq_true]
  refine or_congr (or_congr ?_ ?_) (or_congr (or_congr ?_ ?_) ?_)
  · exact contains_iff (by decide)
  · exact contains_iff (by decide)
  · exact contains_iff (by decide)
  · exact endsWith_iff_isSuffix (by decide)
  · exact contains_iff (by decide)

/-- Where the gate finds it: in the host and the port, at the start of the user, at the start of
a path without an authority, or after the authority. -/
theorem hasHostOrPort_iff {pieces : Pieces} {lower tail : String} {name digits : List Char}
    (named : "pgbouncer".toList = name) (numbered : "6432".toList = digits)
    (whole : lower.toList = pieces.text) (rest : tail.toList = pieces.tail) :
    hasHostOrPort lower = true ↔
      ((pieces.host = name ∧ pieces.port ≠ none) ∨ pieces.port = some digits) ∨
        (∃ user, pieces.userinfo = some user ∧ name ++ [':'] <+: user) ∨
        (pieces.authority = [] ∧ '/' :: (name ++ [':']) <+: pieces.tail) ∨
        hasHostOrPort tail = true := by
  have host : Plain name := by
    subst named
    decide
  have number : Plain digits ∧ digits ≠ [] := by
    subst numbered
    decide
  have arrange (a b c d e f : Prop) :
      (a ∨ b ∨ c ∨ d) ∨ (e ∨ f) ↔ (a ∨ e) ∨ b ∨ c ∨ (d ∨ f) := by
    tauto
  rw [hasHostOrPort_eq_true named numbered whole, pieces.name_occurs_iff host,
    pieces.number_occurs_iff number.1 number.2, hasHostOrPort_eq_true named numbered rest]
  exact arrange _ _ _ _ _ _

end Occurrences

section Authority

/-- The address names PgBouncer as its host, or its port. -/
def NamesPgbouncer (uri : Uri) : Prop :=
  asciiLowercase uri.host = "pgbouncer" ∨ uri.portNumber = some 6432

/-- It does so in a way that the gate sees: by the host with some port, or by the port without
leading zeros. -/
def SpelledOut (uri : Uri) : Prop :=
  (asciiLowercase uri.host = "pgbouncer" ∧ uri.port ≠ none) ∨ uri.port = some "6432"

/-- Something else in the address looks like that: a user that starts with the name and a colon,
what follows the authority, or the start of a path that no authority precedes. -/
def Decoy (uri : Uri) : Prop :=
  (∃ user, uri.userinfo = some user ∧ startsWith (asciiLowercase user) "pgbouncer:" = true) ∨
    (uri.authority = "" ∧ startsWith (asciiLowercase uri.tail) "/pgbouncer:" = true) ∨
    hasHostOrPort (asciiLowercase uri.tail) = true

/-- An authority that spells the name or the number out is one of the bouncer. -/
theorem SpelledOut.names {uri : Uri} (spelled : SpelledOut uri) : NamesPgbouncer uri := by
  obtain ⟨host, -⟩ | port := spelled
  · exact .inl host
  · refine .inr ?_
    rw [Uri.portNumber, port]
    rfl

/-- The gate sees what is spelled out and what looks like that. -/
theorem hasHostOrPort_uri_iff (uri : Uri) :
    hasHostOrPort (asciiLowercase uri.text) = true ↔ SpelledOut uri ∨ Decoy uri := by
  obtain ⟨name, named⟩ : ∃ name, "pgbouncer".toList = name := ⟨_, rfl⟩
  obtain ⟨digits, numbered⟩ : ∃ digits, "6432".toList = digits := ⟨_, rfl⟩
  have colon : "pgbouncer:".toList = name ++ [':'] := by
    rw [← named]
    decide
  have slash : "/pgbouncer:".toList = '/' :: (name ++ [':']) := by
    rw [← named]
    decide
  have whole : (asciiLowercase uri.text).toList = uri.lowercasePieces.text := by
    rw [toList_asciiLowercase, Uri.lowercasePieces_text]
  have rest : (asciiLowercase uri.tail).toList = uri.lowercasePieces.tail :=
    toList_asciiLowercase uri.tail
  have host : uri.lowercasePieces.host = name ↔ asciiLowercase uri.host = "pgbouncer" := by
    rw [← named, ← String.toList_inj, toList_asciiLowercase]
    rfl
  have port : uri.lowercasePieces.port ≠ none ↔ uri.port ≠ none := by
    rw [Uri.lowercasePieces_port]
    simp
  have number : uri.lowercasePieces.port = some digits ↔ uri.port = some "6432" := by
    rw [Uri.lowercasePieces_port, ← numbered, Option.map_eq_some_iff]
    constructor
    · rintro ⟨text, found, same⟩
      rw [found, String.toList_inj.mp same]
    · intro found
      exact ⟨"6432", found, rfl⟩
  have user : (∃ user, uri.lowercasePieces.userinfo = some user ∧ name ++ [':'] <+: user) ↔
      ∃ user, uri.userinfo = some user ∧
        startsWith (asciiLowercase user) "pgbouncer:" = true := by
    constructor
    · rintro ⟨_, found, starts⟩
      obtain ⟨text, known, rfl⟩ := Option.map_eq_some_iff.mp found
      rw [← toList_asciiLowercase] at starts
      exact ⟨text, known, (startsWith_iff_isPrefix colon).mpr starts⟩
    · rintro ⟨text, known, starts⟩
      have found := (startsWith_iff_isPrefix colon).mp starts
      rw [toList_asciiLowercase] at found
      exact ⟨_, congrArg (Option.map _) known, found⟩
  have authority : uri.lowercasePieces.authority = [] ↔ uri.authority = "" := by
    rw [Uri.lowercasePieces_authority, List.map_eq_nil_iff, String.toList_eq_nil_iff]
  rw [hasHostOrPort_iff named numbered whole rest, host, port, number, user, authority, ← rest,
    ← startsWith_iff_isPrefix slash]
  rfl

/-- While it is not skipped the gate lets an address through exactly when it is spelled
out there, or a decoy. -/
theorem pgbouncerGate_active {debug : DebugText} {env : Environment} (lowercase : Lowercase)
    (active : skipPgbouncerCheck debug env = .ok false) (uri : Uri) :
    pgbouncerGate debug env lowercase uri.text = .ok () ↔ SpelledOut uri ∨ Decoy uri := by
  rw [pgbouncerGate, active, ← hasHostOrPort_uri_iff, ← lowercase.ascii _ uri.isAscii_text]
  exact require_eq_ok_iff _ _

/-- While the gate is active, it accepts an address exactly for what the authority names, if and
only if the authority spells that out, or something else in the address looks like it just when
the authority names it.

Proof: the two texts that the gate looks for occur in an address where the authority spells
them out, or elsewhere, as a decoy. What is spelled out is named by the authority; otherwise
acceptance is the decoy alone. -/
theorem gate_reads_authority_iff {debug : DebugText} {env : Environment} (lowercase : Lowercase)
    (active : skipPgbouncerCheck debug env = .ok false) (uri : Uri) :
    (pgbouncerGate debug env lowercase uri.text = .ok () ↔ NamesPgbouncer uri) ↔
      SpelledOut uri ∨ (Decoy uri ↔ NamesPgbouncer uri) := by
  rw [pgbouncerGate_active lowercase active]
  by_cases spelled : SpelledOut uri
  · exact iff_of_true (iff_of_true (.inl spelled) spelled.names) (.inl spelled)
  · simp only [spelled, false_or]

end Authority

section Samples

/-- Lower case in ASCII alone. -/
def asciiOnly : Lowercase := ⟨asciiLowercase, fun _ _ => rfl⟩

/-- No variable is set, so that the gate is active. -/
def bareEnvironment (_ : String) : EnvVar := .absent

/-- An address of PgBouncer by its host and its port. -/
def bouncerUri : Uri where
  scheme := "postgres"
  userinfo := some "app:secret"
  host := "PgBouncer"
  port := some "6432"
  path := "/orders"
  query := some "sslmode=require"
  validScheme := by decide
  validUserinfo := by decide
  validHost := by decide
  validPort := by decide
  validPath := by decide
  validQuery := by decide

/-- An address of a database, with a user that has the name of PgBouncer. -/
def decoyUri : Uri where
  scheme := "postgres"
  userinfo := some "pgbouncer:secret"
  host := "db.example.com"
  port := some "5432"
  path := "/orders"
  query := none
  validScheme := by decide
  validUserinfo := by decide
  validHost := by decide
  validPort := by decide
  validPath := by decide
  validQuery := by decide

/-- An address of PgBouncer by its host alone. -/
def portlessUri : Uri where
  scheme := "postgres"
  userinfo := some "app"
  host := "pgbouncer"
  port := none
  path := "/orders"
  query := none
  validScheme := by decide
  validUserinfo := by decide
  validHost := by decide
  validPort := by decide
  validPath := by decide
  validQuery := by decide

/-- An address that spells out its host and its port passes the gate. -/
theorem bouncerUri_accepted :
    skipPgbouncerCheck sampleDebug bareEnvironment = .ok false ∧
      (pgbouncerGate sampleDebug bareEnvironment asciiOnly bouncerUri.text = .ok () ↔
        NamesPgbouncer bouncerUri) :=
  ⟨rfl, (gate_reads_authority_iff asciiOnly rfl bouncerUri).mpr (.inl (.inr rfl))⟩

/-- The gate accepts an address for the name of its user, and refuses one that has no port for
its host. -/
theorem gate_misreads_user_and_host :
    skipPgbouncerCheck sampleDebug bareEnvironment = .ok false ∧
      (pgbouncerGate sampleDebug bareEnvironment asciiOnly decoyUri.text = .ok () ∧
        ¬ NamesPgbouncer decoyUri) ∧
      pgbouncerGate sampleDebug bareEnvironment asciiOnly portlessUri.text ≠ .ok () ∧
        NamesPgbouncer portlessUri := by
  refine ⟨rfl, ⟨by decide +kernel, ?_⟩, by decide +kernel, .inl (by decide)⟩
  unfold NamesPgbouncer
  decide +kernel

end Samples

end SecureDatabase.Native
