import Mathlib.Data.List.Sort
import SecureDatabase.Foundation.Environment
import SecureDatabase.Foundation.Program
import SecureDatabase.Foundation.SqlText
import SecureDatabase.Foundation.Table

/-!
# Repair of leased ownership

Before migrations run, the command line tool drops the roles that were leased to listed
audiences and gives what they own to the stable owner. It selects them with LIKE: the sanitised
audience, an escaped underscore and `%`. The underscore after the audience is escaped, those
inside the audience are not, so each of these stands for any character.

A server may refuse any statement; the tool then stops with the error.
-/

namespace SecureDatabase.Repair

open Foundation Program

/-- The role names of `pg_roles`. -/
abbrev Roles := @Table String String id

/-- What the tool asks of the server. -/
inductive Statement where
  | connect
  | ownerExists (ownerRole : String)
  | leaseRoles (roleLikePattern ownerRole : String)
  | execute (text : String)
deriving DecidableEq

namespace Statement

/-- What a statement yields. -/
abbrev Result : Statement → Type
  | connect => Unit
  | ownerExists _ => Bool
  | leaseRoles _ _ => List String
  | execute _ => Unit

end Statement

/-- What a statement is answered: its result, or the error of the server. -/
abbrev Reply (stmt : Statement) : Type := Except String stmt.Result

/-- A command about what a role owns. -/
inductive Command where
  | reassignOwned (role newOwner : String)
  | dropOwned (role : String)
  | dropRole (role : String)
deriving DecidableEq

namespace Command

/-- Which command. -/
inductive Kind where
  | reassignOwned
  | dropOwned
  | dropRole

/-- The role that a command of a kind is run on. -/
def target : Kind → Command → Option String
  | .reassignOwned, reassignOwned role _ => some role
  | .dropOwned, dropOwned role => some role
  | .dropRole, dropRole role => some role
  | _, _ => none

/-- One identifier up to the end of the text. -/
def readName (text : List Char) : Option String :=
  match readIdentifier text with
  | some (name, []) => some (String.ofList name)
  | _ => none

/-- `REASSIGN OWNED BY name TO name`, after the keyword. -/
def readReassign (text : List Char) : Option Command := do
  let (role, rest) ← readIdentifier text
  let rest ← rest.dropPrefix? " TO ".toList
  let newOwner ← readName rest
  return reassignOwned (String.ofList role) newOwner

/-- The server reads the text of a command. -/
def parse (text : String) : Option Command :=
  match text.toList.dropPrefix? "REASSIGN OWNED BY ".toList with
  | some rest => readReassign rest
  | none =>
      match text.toList.dropPrefix? "DROP OWNED BY ".toList with
      | some rest => (readName rest).map dropOwned
      | none =>
          match text.toList.dropPrefix? "DROP ROLE IF EXISTS ".toList with
          | some rest => (readName rest).map dropRole
          | none => none

/-- Whether a name is a role, as a reply. -/
def requireRole (roles : Roles) (role : String) : Except String Unit :=
  if role ∈ roles.rows then .ok () else .error ("role \"" ++ role ++ "\" does not exist")

/-- What a command replies. -/
def reply (roles : Roles) : Command → Except String Unit
  | reassignOwned role newOwner => do
      requireRole roles role
      requireRole roles newOwner
  | dropOwned role => requireRole roles role
  | dropRole _ => .ok ()

/-- The roles that a command leaves. -/
def apply (roles : Roles) : Command → Roles
  | dropRole role => roles.deleteWhere (fun name => name = role)
  | _ => roles

end Command

/-- A server with its roles, and the errors with which it refuses statements. -/
structure Cluster where
  roles : Roles
  refuses : Statement → Option String

namespace Cluster

/-- SELECT the names that match a pattern, without the owner, in order. -/
def select (cluster : Cluster) (roleLikePattern ownerRole : String) :
    Except String (List String) :=
  match likeItems roleLikePattern.toList with
  | none => .error "LIKE pattern must not end with escape character"
  | some items =>
      .ok ((cluster.roles.rows.filter
        (fun rolname => likeMatches items rolname.toList && rolname ≠ ownerRole)).insertionSort
          (· ≤ ·))

/-- What an accepted statement does. -/
def accept (cluster : Cluster) : (stmt : Statement) → Reply stmt × Cluster
  | .connect => (.ok (), cluster)
  | .ownerExists ownerRole => (.ok (decide (ownerRole ∈ cluster.roles.rows)), cluster)
  | .leaseRoles roleLikePattern ownerRole =>
      (cluster.select roleLikePattern ownerRole, cluster)
  | .execute text =>
      match Command.parse text with
      | none => (.error "syntax error", cluster)
      | some command =>
          match command.reply cluster.roles with
          | .error error => (.error error, cluster)
          | .ok () => (.ok (), { cluster with roles := command.apply cluster.roles })

end Cluster

/-- The server executes a statement or refuses it. -/
def exec (stmt : Statement) (cluster : Cluster) : Reply stmt × Cluster :=
  match cluster.refuses stmt with
  | some error => (.error error, cluster)
  | none => cluster.accept stmt

/-- How a repair fails: with a message, or with the server's error and its context. -/
inductive RepairError where
  | message (text : String)
  | query (error : String)
  | context (text error : String)
deriving DecidableEq

/-- A repair in terms of its statements, with its errors. -/
abbrev Operation (α : Type) := Program Statement Reply RepairError α

/-- Execute a statement; its error ends the operation. -/
def sql (stmt : Statement) : Operation stmt.Result := do
  let reply ← ask stmt
  ofExcept (Except.mapError RepairError.query reply)

/-- `sanitize_identifier`: letters, digits and two signs, in lower case; nothing left is
no identifier. -/
def sanitizeIdentifier (input : String) : Option String :=
  let sanitized := input.toList.filter (fun c => c.isAlphanum || c = '_' || c = '-')
  if sanitized.isEmpty then none else some (asciiLowercase (String.ofList sanitized))

/-- `quote_identifier`: a name in quotes, those inside it doubled. -/
def quoteIdentifier (input : String) : String := String.ofList (delimited input.toList)

/-- The body of the inner loop. -/
def repairRole (ownerRole leaseRole : String) : Operation Unit := do
  sql (.execute
    ("REASSIGN OWNED BY " ++ quoteIdentifier leaseRole ++ " TO " ++ quoteIdentifier ownerRole))
  sql (.execute ("DROP OWNED BY " ++ quoteIdentifier leaseRole))
  sql (.execute ("DROP ROLE IF EXISTS " ++ quoteIdentifier leaseRole))

/-- The inner loop. -/
def repairRoles (ownerRole : String) : List String → Operation Unit
  | [] => pure ()
  | leaseRole :: rest => do
      repairRole ownerRole leaseRole
      repairRoles ownerRole rest

/-- The pattern of the roles that were leased to a sanitised audience. -/
def roleLikePattern (audience : String) : String := audience ++ "\\_%"

/-- The outer loop, with the sanitised audiences that it has seen. -/
def repairAudiences (ownerRole : String) : List String → List String → Operation Unit
  | [], _ => pure ()
  | audience :: rest, seen =>
      match sanitizeIdentifier audience with
      | none => repairAudiences ownerRole rest seen
      | some sanitized =>
          if sanitized ∈ seen then repairAudiences ownerRole rest seen
          else do
            let leaseRoles ← sql (.leaseRoles (roleLikePattern sanitized) ownerRole)
            repairRoles ownerRole leaseRoles
            repairAudiences ownerRole rest (sanitized :: seen)

/-- Connect, with the context of a failure. -/
def connect : Operation Unit := do
  let reply : Except String Unit ← ask Statement.connect
  ofExcept (Except.mapError
    (RepairError.context "failed to connect to Postgres for lease ownership repair") reply)

/-- `repair_postgres_lease_ownership`: without audiences nothing is done; otherwise the
owner has to exist before any role is repaired. -/
def repairPostgresLeaseOwnership (ownerRole : String) (repairLeaseAudiences : List String) :
    Operation Unit :=
  if repairLeaseAudiences.isEmpty then pure ()
  else do
    connect
    let ownerExists ← sql (.ownerExists ownerRole)
    if !ownerExists then
      failure (.message ("stable Postgres owner role '" ++ ownerRole ++ "' does not exist"))
    else repairAudiences ownerRole repairLeaseAudiences []

end SecureDatabase.Repair
