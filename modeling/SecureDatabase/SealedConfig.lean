import SecureDatabase.Foundation.Environment
import SecureDatabase.Foundation.FileSystem
import SecureDatabase.Foundation.Program
import SecureDatabase.TorTables

/-!
# Sealed configuration files

`wrap_secret_v2_to_file` of the command line tool has the broker wrap a secret and saves the
reply. It writes a temporary file beside the output, protects it and renames it. The temporary
file is the output path with another extension, so that outputs which differ in their extension
only have one temporary file.

Any number of processes may run at once, and each may stop after any of its system calls: a
schedule that no longer moves a process is one in which it has crashed.
-/

namespace SecureDatabase.SealedConfig

open Foundation Program
open TorAuth (SecretLifecycle)

/-- What a wrapping request asks for. -/
structure WrapV2Params where
  lifecycle : Option SecretLifecycle
  label : Option String
  unwrapPrincipalId : Option String
deriving DecidableEq

/-- What the broker answers: a handle, the token that redeems it, and when it was made. -/
structure WrapResponse where
  handle : String
  redeemToken : Option String
  createdAt : DateTime

/-- A process that wraps a secret: its environment, its file mode mask and its arguments. -/
structure Process where
  env : Environment
  umask : Mode
  plaintextEnv : String
  outputFile : String
  lifecycle : String
  label : Option String
  unwrapPrincipalId : Option String

/-- What a process asks of the broker and of the operating system. -/
inductive Statement where
  | fromEnv
  | wrapSecretV2 (plaintext : Bytes) (params : WrapV2Params)
  | createDirAll (path : Bytes)
  | openTruncate (path : Bytes) (mode : Mode)
  | write (file offset : Nat) (octets : Bytes)
  | setPermissions (path : Bytes) (mode : Mode)
  | rename (source target : Bytes)
deriving DecidableEq

variable {Name σ : Type}

/-- The type of each reply. A written file is known by its number, a write by the octets that
it took. -/
abbrev Reply : Statement → Type
  | .fromEnv => Except String Unit
  | .wrapSecretV2 _ _ => Except String WrapResponse
  | .createDirAll _ => Except String Unit
  | .openTruncate _ _ => Except String Nat
  | .write _ _ _ => Except String Nat
  | .setPermissions _ _ => Except String Unit
  | .rename _ _ => Except String Unit

/-- An error with its contexts, outermost first. -/
abbrev Operation (α : Type) := Program Statement Reply (List String) α

/-- What is not part of the repository: the broker, how a time and a document are written, how a
path is shown, and which name a path leads to. -/
structure Externals (Name σ : Type) where
  fromEnv : σ → Except String Unit × σ
  wrapSecretV2 : Bytes → WrapV2Params → σ → Except String WrapResponse × σ
  toRfc3339 : DateTime → String
  toStringPretty : Json → Except String String
  display : Bytes → String
  locate : Bytes → Name

/-- The file system, a fault that system calls meet, how many octets a write takes, and the
outside. -/
structure World (Name σ : Type) where
  files : FileSystem Name
  fault : Option String
  limit : Nat
  outside : σ

namespace World

/-- Pass a request to the outside. -/
def ask {Answer : Type} (request : σ → Answer × σ) (world : World Name σ) :
    Answer × World Name σ :=
  ((request world.outside).1, { world with outside := (request world.outside).2 })

/-- A system call: it fails without an effect, or does what its body does. -/
def system {Answer : Type}
    (body : FileSystem Name → Except String (Answer × FileSystem Name)) (world : World Name σ) :
    Except String Answer × World Name σ :=
  match world.fault with
  | some error => (.error error, world)
  | none =>
      match body world.files with
      | .error error => (.error error, world)
      | .ok (answer, files) => (.ok answer, { world with files })

end World

/-- The error of a name without a file. -/
def orNotFound : Option (FileSystem Name) → Except String (Unit × FileSystem Name)
  | none => .error "No such file or directory (os error 2)"
  | some after => .ok ((), after)

section Execution

variable [DecidableEq Name] (externals : Externals Name σ)

/-- How broker and operating system answer. Directories hold no content, so making them changes
no file. -/
def exec : (stmt : Statement) → World Name σ → Reply stmt × World Name σ
  | .fromEnv => World.ask externals.fromEnv
  | .wrapSecretV2 plaintext params => World.ask (externals.wrapSecretV2 plaintext params)
  | .createDirAll _ => World.system (fun files => .ok ((), files))
  | .openTruncate path mode => World.system (fun files =>
      .ok (files.openTruncate (externals.locate path) mode))
  | .write file offset octets => fun world => world.system (fun files =>
      .ok (min world.limit octets.length, files.write file offset (octets.take world.limit)))
  | .setPermissions path mode => World.system (fun files =>
      orNotFound (files.setMode (externals.locate path) mode))
  | .rename source target => World.system (fun files =>
      orNotFound (files.rename (externals.locate source) (externals.locate target)))

/-- What may change by itself. -/
inductive Drift (σ : Type) where
  | fault (next : Option String)
  | limit (next : Nat)
  | outside (next : σ)

/-- Broker and operating system with their surroundings. -/
def machine : Machine (World Name σ) (Drift σ) Statement Reply where
  exec := exec externals
  drift
    | .fault fault, world => { world with fault }
    | .limit limit, world => { world with limit }
    | .outside outside, world => { world with outside }

end Execution

/-- `anyhow`'s context around the error of a reply. -/
def withContext {α : Type} (context : String) : Except String α → Operation α
  | .ok answer => pure answer
  | .error error => .failure [context, error]

/-- The names of the lifecycles. -/
def parseWrapLifecycle (raw : String) : Except (List String) SecretLifecycle :=
  match asciiLowercase (trim raw) with
  | "single_use_unwrap" | "single-use-unwrap" | "singleuseunwrap" => .ok .singleUseUnwrap
  | "renewable_lease" | "renewable-lease" | "renewablelease" => .ok .renewableLease
  | "service_bootstrap" | "service-bootstrap" | "servicebootstrap" => .ok .serviceBootstrap
  | other => .error ["unsupported lifecycle '" ++ other ++
      "' ; expected single_use_unwrap, renewable_lease, or service_bootstrap"]

/-- An optional argument, trimmed, counts only if something is left. -/
def trimmedArgument (argument : Option String) : Option String :=
  (argument.map trim).filter (fun value => value ≠ "")

namespace Process

variable (process : Process)

/-- The secret to wrap: a variable that is set and not blank. -/
def plaintext (debug : DebugText) : Except (List String) String :=
  match process.env.var process.plaintextEnv with
  | .error error => .error [process.plaintextEnv ++ " is required", error.display debug]
  | .ok plaintext =>
      if trim plaintext = "" then .error [process.plaintextEnv ++ " must not be empty"]
      else .ok plaintext

/-- What a process asks the broker for. -/
def wrapParams (lifecycle : SecretLifecycle) : WrapV2Params where
  lifecycle := some lifecycle
  label := trimmedArgument process.label
  unwrapPrincipalId := trimmedArgument process.unwrapPrincipalId

/-- The path of the output, in octets. -/
def outputPath : Bytes := utf8 process.outputFile

/-- The directory to create. -/
def parent : Bytes := (Path.parent process.outputPath).getD (utf8 ".")

/-- The temporary file beside the output. -/
def tmpPath : Bytes := Path.withExtension process.outputPath (utf8 "tmp")

/-- The mode of a file that the process makes. -/
def creationMode : Mode := 0o666 &&& ~~~process.umask

end Process

/-- The mode `0600`. -/
def protectedMode : Mode := 0o600

/-- `write_all`: each write takes at least one octet, so there are no more than octets. -/
def writeAll (context : String) (file : Nat) : Nat → Nat → Bytes → Operation Unit
  | _, _, [] => pure ()
  | 0, _, _ :: _ => pure ()
  | fuel + 1, offset, first :: rest => do
      let reply ← ask (.write file offset (first :: rest))
      let count ← withContext context reply
      if count = 0 then .failure [context, "failed to write whole buffer"]
      else writeAll context file fuel (offset + count) ((first :: rest).drop count)

section Wrapping

variable (externals : Externals Name σ) (process : Process)

/-- The document that is saved. Its fields keep the order in which they are given. -/
def payload (wrapped : WrapResponse) : Json :=
  .object [("handle", .string wrapped.handle),
    ("redeem_token", (wrapped.redeemToken.map Json.string).getD .null),
    ("issued_at", .string (externals.toRfc3339 wrapped.createdAt))]

/-- Protect the temporary file and rename it to the output. -/
def finish : Operation Unit := do
  let tmp := externals.display process.tmpPath
  let reply ← ask (.setPermissions process.tmpPath protectedMode)
  withContext ("failed to chmod " ++ tmp) reply
  let reply ← ask (.rename process.tmpPath process.outputPath)
  withContext ("failed to rename " ++ tmp ++ " to " ++ externals.display process.outputPath) reply

/-- Write the temporary file and make it the output. -/
def publish (content : Bytes) : Operation Unit := do
  let writing := "failed to write temporary output " ++ externals.display process.tmpPath
  let reply ← ask (.openTruncate process.tmpPath process.creationMode)
  let file ← withContext writing reply
  writeAll writing file content.length 0 content
  finish externals process

/-- Have a secret wrapped and save the reply. -/
def wrapSecretV2ToFile (debug : DebugText) : Operation Unit := do
  let plaintext ← ofExcept (process.plaintext debug)
  let lifecycle ← ofExcept (parseWrapLifecycle process.lifecycle)
  let reply ← ask .fromEnv
  withContext "failed to create secret-broker client" reply
  let reply ← ask (.wrapSecretV2 (utf8 plaintext) (process.wrapParams lifecycle))
  let wrapped ← withContext "failed to wrap secret via broker" reply
  let reply ← ask (.createDirAll process.parent)
  withContext ("failed to create output directory " ++ externals.display process.parent) reply
  let serialized ← withContext "failed to serialize wrapped secret config"
    (externals.toStringPretty (payload externals wrapped))
  publish externals process (utf8 (serialized ++ "\n"))

end Wrapping

end SecureDatabase.SealedConfig
