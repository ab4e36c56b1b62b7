import SecureDatabase.OwnershipRepair

/-!
# The roles that a repair drops

A repair processes the roles whose name has the form of a listed audience, with each underscore
of the audience standing for any character. It drops only the roles of the listed audiences
exactly when every such name also begins with one of them literally.
-/

namespace SecureDatabase.Repair

open Foundation Program

/-- The role that a statement runs a command of some kind on. -/
def Statement.target (kind : Command.Kind) : Statement → Option String
  | .execute text => (Command.parse text).bind (Command.target kind)
  | _ => none

/-- The roles that commands of some kind are run on, in order. -/
def targets (kind : Command.Kind) (stmts : List Statement) : List String :=
  stmts.filterMap (Statement.target kind)

/-- A name begins literally with a sanitised audience and an underscore. -/
def LeasedTo (sanitized role : String) : Prop :=
  sanitized.toList ++ ['_'] <+: role.toList

/-- A name begins with a sanitised audience and an underscore, where each underscore inside the
audience stands for any character. -/
def Resembles (sanitized role : String) : Prop :=
  ∃ front back, role.toList = front ++ '_' :: back ∧
    List.Forall₂ (fun expected char => expected = '_' ∨ char = expected) sanitized.toList front

/-- A role is related to one of the listed audiences, once sanitised. -/
def Among (related : String → String → Prop) (audiences : List String) (role : String) : Prop :=
  ∃ audience ∈ audiences, ∃ sanitized, sanitizeIdentifier audience = some sanitized ∧
    related sanitized role

/-- The other roles that are related to one of the listed audiences. -/
def Listed (related : String → String → Prop) (audiences : List String) (ownerRole : String)
    (roles : Roles) (role : String) : Prop :=
  role ∈ roles.rows ∧ role ≠ ownerRole ∧ Among related audiences role

section Commands

/-- The server reads a quoted name back. -/
theorem readName_quoteIdentifier (name : String) :
    Command.readName (quoteIdentifier name).toList = some name := by
  have read := readIdentifier_delimited name.toList [] (by simp)
  rw [List.append_nil] at read
  simp [Command.readName, quoteIdentifier, read]

/-- The server reads this text as the command that hands over what a role owns. -/
theorem parse_reassign (role newOwner : String) :
    Command.parse
        ("REASSIGN OWNED BY " ++ quoteIdentifier role ++ " TO " ++ quoteIdentifier newOwner) =
      some (.reassignOwned role newOwner) := by
  have role_read := readIdentifier_delimited role.toList
    (" TO ".toList ++ (quoteIdentifier newOwner).toList) (by simp)
  have text : ("REASSIGN OWNED BY " ++ quoteIdentifier role ++ " TO " ++
      quoteIdentifier newOwner).toList = "REASSIGN OWNED BY ".toList ++
        (delimited role.toList ++ (" TO ".toList ++ (quoteIdentifier newOwner).toList)) := by
    simp only [String.toList_append, List.append_assoc, quoteIdentifier, String.toList_ofList]
  rw [Command.parse, text, List.dropPrefix?_append_of_beq _ (beq_self_eq_true _)]
  simp only [Command.readReassign, role_read, Option.bind_eq_bind, Option.bind_some,
    List.dropPrefix?_append_of_beq _ (beq_self_eq_true _), readName_quoteIdentifier,
    String.ofList_toList]
  rfl

/-- It reads this one as the command that drops what a role still owns. -/
theorem parse_dropOwned (role : String) :
    Command.parse ("DROP OWNED BY " ++ quoteIdentifier role) = some (.dropOwned role) := by
  have other (rest : List Char) :
      ("DROP OWNED BY ".toList ++ rest).dropPrefix? "REASSIGN OWNED BY ".toList = none := rfl
  rw [Command.parse, String.toList_append, other,
    List.dropPrefix?_append_of_beq _ (beq_self_eq_true _)]
  simp only [readName_quoteIdentifier, Option.map_some]

/-- It reads this one as the command that drops a role. -/
theorem parse_dropRole (role : String) :
    Command.parse ("DROP ROLE IF EXISTS " ++ quoteIdentifier role) = some (.dropRole role) := by
  have reassign (rest : List Char) :
      ("DROP ROLE IF EXISTS ".toList ++ rest).dropPrefix? "REASSIGN OWNED BY ".toList = none := rfl
  have dropOwned (rest : List Char) :
      ("DROP ROLE IF EXISTS ".toList ++ rest).dropPrefix? "DROP OWNED BY ".toList = none := rfl
  rw [Command.parse, String.toList_append, reassign, dropOwned,
    List.dropPrefix?_append_of_beq _ (beq_self_eq_true _)]
  simp only [readName_quoteIdentifier, Option.map_some]

end Commands

section Patterns

/-- Sanitising leaves no other character than letters, digits, underscores and hyphens. -/
theorem not_mem_of_sanitizeIdentifier {audience sanitized : String} (char : Char)
    (kept : sanitizeIdentifier audience = some sanitized) (plain : char.isLower = false)
    (refused : ¬ (char.isAlphanum || char = '_' || char = '-')) : char ∉ sanitized.toList := by
  simp only [sanitizeIdentifier] at kept
  split at kept
  case isTrue _ => cases kept
  case isFalse _ =>
    rw [← Option.some.inj kept]
    refine not_mem_asciiLowercase plain ?_
    rw [String.toList_ofList]
    intro chosen
    exact refused (List.mem_filter.mp chosen).2

/-- What the pattern of a sanitised audience stands for. -/
theorem likeItems_roleLikePattern {audience sanitized : String}
    (kept : sanitizeIdentifier audience = some sanitized) :
    likeItems (roleLikePattern sanitized).toList =
      some (sanitized.toList.map LikeItem.ofChar ++ [.exactly '_', .anyText]) := by
  have unescaped := not_mem_of_sanitizeIdentifier '\\' kept (by decide) (by decide)
  rw [roleLikePattern, String.toList_append, likeItems_append _ _ unescaped]
  rfl

/-- A name matches the pattern of a sanitised audience exactly when it resembles it. -/
theorem likeMatches_iff_resembles {audience sanitized : String}
    (kept : sanitizeIdentifier audience = some sanitized) (role : String) :
    likeMatches (sanitized.toList.map LikeItem.ofChar ++ [.exactly '_', .anyText]) role.toList ↔
      Resembles sanitized role := by
  have percent := not_mem_of_sanitizeIdentifier '%' kept (by decide) (by decide)
  have tail (back : List Char) :
      likeMatches [.exactly '_', .anyText] back ↔ ∃ rest, back = '_' :: rest := by
    cases back with
    | nil => simp [likeMatches]
    | cons char rest => simp [likeMatches, List.mem_tails]
  rw [likeMatches_plain_iff _ _ _ percent]
  simp only [tail]
  constructor
  · rintro ⟨front, back, split, fits, rest, rfl⟩
    exact ⟨front, rest, split, fits⟩
  · rintro ⟨front, rest, split, fits⟩
    exact ⟨front, _, split, fits, rest, rfl⟩

/-- The SELECT of a sanitised audience yields, once each, the other roles that resemble it. -/
theorem select_spec {audience sanitized : String}
    (kept : sanitizeIdentifier audience = some sanitized) (cluster : Cluster)
    (ownerRole : String) :
    ∃ leaseRoles, cluster.select (roleLikePattern sanitized) ownerRole = .ok leaseRoles ∧
      leaseRoles.Nodup ∧
      ∀ role, role ∈ leaseRoles ↔
        role ∈ cluster.roles.rows ∧ role ≠ ownerRole ∧ Resembles sanitized role := by
  rw [Cluster.select, likeItems_roleLikePattern kept]
  refine ⟨_, rfl, ?_, ?_⟩
  · have distinct : cluster.roles.rows.Nodup := by
      have keys := cluster.roles.distinct
      rwa [List.map_id] at keys
    exact (List.perm_insertionSort _ _).nodup_iff.mpr (distinct.filter _)
  · intro role
    rw [List.mem_insertionSort, List.mem_filter, Bool.and_eq_true,
      likeMatches_iff_resembles kept, decide_eq_true_eq, and_comm (a := Resembles sanitized role)]

end Patterns

section Operations

/-- The server refuses nothing. -/
def Cluster.Accepting (cluster : Cluster) : Prop := ∀ stmt, cluster.refuses stmt = none

/-- An operation runs the commands of each kind on given roles and returns a result; a server
that refuses something may make it fail after a part of them. -/
def Does {α : Type} (cluster : Cluster) (covered : Command.Kind → List String) (result : α)
    (after : Roles) (operation : Operation α) : Prop :=
  (operation.run exec cluster = (.ok result, { cluster with roles := after }) ∧
    ∀ kind, targets kind (operation.issued exec cluster) = covered kind) ∨
  (¬ cluster.Accepting ∧ (∃ error, (operation.run exec cluster).1 = .error error) ∧
    ∀ kind, (targets kind (operation.issued exec cluster)).Sublist (covered kind))

/-- Statements in a row have the targets of the first and then those of the second. -/
theorem targets_append (kind : Command.Kind) (first second : List Statement) :
    targets kind (first ++ second) = targets kind first ++ targets kind second :=
  List.filterMap_append

/-- What issues nothing touches no role. -/
theorem does_pure {α : Type} (cluster : Cluster) (result : α) :
    Does cluster (fun _ => []) result cluster.roles (pure result) :=
  .inl ⟨rfl, fun _ => rfl⟩

/-- One operation after the other runs the commands of both. -/
theorem Does.bind {α β : Type} {cluster : Cluster} {first second : Command.Kind → List String}
    {between after : Roles} {found : α} {result : β} {operation : Operation α}
    (does : Does cluster first found between operation) (next : α → Operation β)
    (later : Does { cluster with roles := between } second result after (next found)) :
    Does cluster (fun kind => first kind ++ second kind) result after (operation >>= next) := by
  rcases does with ⟨returned, covered⟩ | ⟨refusing, ⟨error, failed⟩, covered⟩
  · have issued := issued_bind_of_ok returned next
    have ran : (operation >>= next).run exec cluster =
        (next found).run exec { cluster with roles := between } := by
      rw [run_bind, returned]
    rcases later with ⟨ended, rest⟩ | ⟨refusing, ⟨error, failed⟩, rest⟩
    · refine .inl ⟨ran.trans ended, ?_⟩
      intro kind
      rw [issued, targets_append, covered, rest]
    · refine .inr ⟨refusing, ⟨error, by rw [ran, failed]⟩, ?_⟩
      intro kind
      rw [issued, targets_append, covered]
      exact (List.Sublist.refl _).append (rest kind)
  · refine .inr ⟨refusing, ⟨error, ?_⟩, ?_⟩
    · rw [run_bind]
      cases ended : operation.run exec cluster with
      | mk outcome store =>
        rw [ended] at failed
        cases failed
        rfl
    · intro kind
      rw [issued_bind_of_error failed]
      exact (covered kind).trans (List.sublist_append_left _ _)

/-- A statement that the server accepts with some reply, whatever is made of its error. -/
theorem does_ask {cluster : Cluster} {stmt : Statement} {result : stmt.Result} {after : Roles}
    (wrap : String → RepairError)
    (accepted : cluster.accept stmt = (.ok result, { cluster with roles := after })) :
    Does cluster (fun kind => (stmt.target kind).toList) result after
      (ask stmt >>= fun reply => ofExcept (Except.mapError wrap reply)) := by
  have issued : (ask stmt >>= fun reply =>
      (ofExcept (Except.mapError wrap reply) : Operation stmt.Result)).issued exec cluster =
        [stmt] := by
    rw [ask_bind, Program.issued]
    cases (exec stmt cluster).1 <;> rfl
  have covered (kind : Command.Kind) : targets kind [stmt] = (stmt.target kind).toList := by
    cases found : stmt.target kind <;> simp [targets, found]
  cases refused : cluster.refuses stmt with
  | none =>
    refine .inl ⟨?_, fun kind => by rw [issued, covered]⟩
    rw [ask_bind, run_issue, exec, refused, accepted]
    rfl
  | some error =>
    refine .inr ⟨fun accepting => ?_, ⟨wrap error, ?_⟩, fun kind => by rw [issued, covered]⟩
    · rw [accepting stmt] at refused
      cases refused
    · rw [ask_bind, run_issue, exec, refused]
      rfl

/-- A statement that the server accepts has its result and leaves its roles. -/
theorem does_sql {cluster : Cluster} {stmt : Statement} {result : stmt.Result} {after : Roles}
    (accepted : cluster.accept stmt = (.ok result, { cluster with roles := after })) :
    Does cluster (fun kind => (stmt.target kind).toList) result after (sql stmt) :=
  does_ask RepairError.query accepted

/-- A command on a text that names it. -/
theorem does_execute (cluster : Cluster) {text : String} {command : Command}
    (parsed : Command.parse text = some command)
    (fits : command.reply cluster.roles = .ok ()) :
    Does cluster (fun kind => (command.target kind).toList) () (command.apply cluster.roles)
      (sql (.execute text)) := by
  have accepted : cluster.accept (.execute text) =
      (.ok (), { cluster with roles := command.apply cluster.roles }) := by
    simp only [Cluster.accept, parsed, fits]
  have does := does_sql accepted
  simpa only [Statement.target, parsed, Option.bind_some] using does

/-- The repair of one role runs the three commands on it, after which it is gone. -/
theorem does_repairRole {cluster : Cluster} {ownerRole leaseRole : String}
    (owner : ownerRole ∈ cluster.roles.rows) (role : leaseRole ∈ cluster.roles.rows) :
    Does cluster (fun _ => [leaseRole]) ()
      (cluster.roles.deleteWhere (fun name => name = leaseRole))
      (repairRole ownerRole leaseRole) := by
  have granted : Command.reply cluster.roles (.reassignOwned leaseRole ownerRole) = .ok () := by
    simp only [Command.reply, Command.requireRole, if_pos owner, if_pos role]
    rfl
  have reassign := does_execute cluster (parse_reassign leaseRole ownerRole) granted
  have dropOwned := does_execute cluster (parse_dropOwned leaseRole) (if_pos role)
  have dropRole := does_execute cluster (parse_dropRole leaseRole) rfl
  have whole := reassign.bind (fun _ => _) (dropOwned.bind (fun _ => _) dropRole)
  have each (kind : Command.Kind) :
      (Command.target kind (.reassignOwned leaseRole ownerRole)).toList ++
        ((Command.target kind (.dropOwned leaseRole)).toList ++
          (Command.target kind (.dropRole leaseRole)).toList) = [leaseRole] := by
    cases kind <;> rfl
  simp only [each] at whole
  exact whole

/-- The repair of several roles does so for each of them, in their order; the owner is not
among them, so it stays to take over. -/
theorem does_repairRoles {ownerRole : String} (leaseRoles : List String) (cluster : Cluster)
    (owner : ownerRole ∈ cluster.roles.rows) (other : ownerRole ∉ leaseRoles)
    (known : ∀ role ∈ leaseRoles, role ∈ cluster.roles.rows) (distinct : leaseRoles.Nodup) :
    Does cluster (fun _ => leaseRoles) ()
      (cluster.roles.deleteWhere (fun name => name ∈ leaseRoles))
      (repairRoles ownerRole leaseRoles) := by
  induction leaseRoles generalizing cluster with
  | nil =>
    have none_dropped : cluster.roles.deleteWhere (fun name => name ∈ ([] : List String)) =
        cluster.roles := by
      simp [Table.deleteWhere]
    rw [none_dropped]
    exact does_pure cluster ()
  | cons leaseRole rest ih =>
    obtain ⟨first, others⟩ : ownerRole ≠ leaseRole ∧ ownerRole ∉ rest := by simpa using other
    obtain ⟨fresh, distinct⟩ := List.nodup_cons.mp distinct
    have dropped := does_repairRole owner (known leaseRole List.mem_cons_self)
    have remaining : ∀ role, role ≠ leaseRole → role ∈ cluster.roles.rows →
        role ∈ (cluster.roles.deleteWhere (fun name => name = leaseRole)).rows := by
      intro role differs stored
      simp [Table.mem_deleteWhere, differs, stored]
    have rest_known : ∀ role ∈ rest,
        role ∈ (cluster.roles.deleteWhere (fun name => name = leaseRole)).rows := by
      intro role member
      refine remaining role ?_ (known role (List.mem_cons_of_mem _ member))
      rintro rfl
      exact fresh member
    have both := dropped.bind (fun _ => repairRoles ownerRole rest)
      (ih { cluster with roles := cluster.roles.deleteWhere (fun name => name = leaseRole) }
        (remaining ownerRole first owner) others rest_known distinct)
    have at_once : (cluster.roles.deleteWhere (fun name => name = leaseRole)).deleteWhere
        (fun name => name ∈ rest) =
        cluster.roles.deleteWhere (fun name => name ∈ leaseRole :: rest) := by
      simp only [Table.deleteWhere, List.filter_filter, Table.mk.injEq]
      refine List.filter_congr (fun name _ => ?_)
      simp [Bool.and_comm]
    rw [at_once] at both
    exact both

/-- The roles of an audience that was not seen yet. -/
def Unseen (audiences seen : List String) (role : String) : Prop :=
  ∃ audience ∈ audiences, ∃ sanitized, sanitizeIdentifier audience = some sanitized ∧
    sanitized ∉ seen ∧ Resembles sanitized role

/-- A new audience adds the roles that resemble it. -/
theorem unseen_cons_of_new {audience sanitized : String} {rest seen : List String}
    (kept : sanitizeIdentifier audience = some sanitized) (fresh : sanitized ∉ seen)
    (role : String) :
    Unseen (audience :: rest) seen role ↔
      Resembles sanitized role ∨ Unseen rest (sanitized :: seen) role := by
  constructor
  · rintro ⟨other, member, found, read, unseen, resembles⟩
    by_cases same : found = sanitized
    · exact .inl (same ▸ resembles)
    · rcases List.mem_cons.mp member with rfl | member
      · rw [kept] at read
        cases read
        exact absurd rfl same
      · exact .inr ⟨other, member, found, read, by simp [same, unseen], resembles⟩
  · rintro (resembles | ⟨other, member, found, read, unseen, resembles⟩)
    · exact ⟨audience, List.mem_cons_self, sanitized, kept, fresh, resembles⟩
    · exact ⟨other, List.mem_cons_of_mem _ member, found, read,
        fun old => unseen (List.mem_cons_of_mem _ old), resembles⟩

/-- The outer loop processes, once each, the other roles that resemble an unseen audience. -/
theorem does_repairAudiences {ownerRole : String} (audiences : List String) (seen : List String)
    (cluster : Cluster) (owner : ownerRole ∈ cluster.roles.rows) :
    ∃ covered after, Does cluster (fun _ => covered) () after
        (repairAudiences ownerRole audiences seen) ∧
      covered.Nodup ∧
      ∀ role, role ∈ covered ↔
        role ∈ cluster.roles.rows ∧ role ≠ ownerRole ∧ Unseen audiences seen role := by
  induction audiences generalizing seen cluster with
  | nil =>
    refine ⟨[], cluster.roles, does_pure cluster (), List.nodup_nil, ?_⟩
    intro role
    simp [Unseen]
  | cons audience rest ih =>
    cases kept : sanitizeIdentifier audience with
    | none =>
      obtain ⟨covered, after, does, distinct, members⟩ := ih seen cluster owner
      refine ⟨covered, after, ?_, distinct, ?_⟩
      · simpa only [repairAudiences, kept] using does
      · intro role
        simp [members, Unseen, kept]
    | some sanitized =>
      by_cases known : sanitized ∈ seen
      · obtain ⟨covered, after, does, distinct, members⟩ := ih seen cluster owner
        refine ⟨covered, after, ?_, distinct, ?_⟩
        · simpa only [repairAudiences, kept, if_pos known] using does
        · intro role
          simp [members, Unseen, kept, known]
      · obtain ⟨leaseRoles, selected, once, chosen⟩ := select_spec kept cluster ownerRole
        have other : ownerRole ∉ leaseRoles := fun member => ((chosen _).mp member).2.1 rfl
        have accepted : cluster.accept (.leaseRoles (roleLikePattern sanitized) ownerRole) =
            (.ok leaseRoles, { cluster with roles := cluster.roles }) := by
          simp only [Cluster.accept, selected]
        have repair := does_repairRoles leaseRoles cluster owner other
          (fun role member => ((chosen role).mp member).1) once
        obtain ⟨covered, after, does, distinct, members⟩ := ih (sanitized :: seen)
          { cluster with roles := cluster.roles.deleteWhere (fun name => name ∈ leaseRoles) }
          (by simp [Table.mem_deleteWhere, owner, other])
        refine ⟨leaseRoles ++ covered, after, ?_, ?_, ?_⟩
        · simp only [repairAudiences, kept, if_neg known]
          exact (does_sql accepted).bind _ (repair.bind _ does)
        · refine List.nodup_append.mpr ⟨once, distinct, ?_⟩
          rintro role leased _ later rfl
          have left := ((members role).mp later).1
          simp [Table.mem_deleteWhere, leased] at left
        · intro role
          rw [List.mem_append, members, unseen_cons_of_new kept known, Table.mem_deleteWhere]
          have leased := chosen role
          simp only [decide_eq_false_iff_not]
          tauto

/-- The commands that a whole repair issues are among those of its parts. -/
theorem Does.issued_sublist {α β : Type} {cluster : Cluster}
    {first : Command.Kind → List String} {between : Roles} {found : α} {operation : Operation α}
    (does : Does cluster first found between operation) (next : α → Operation β)
    (kind : Command.Kind) :
    (targets kind ((operation >>= next).issued exec cluster)).Sublist
      (first kind ++
        targets kind ((next found).issued exec { cluster with roles := between })) := by
  rcases does with ⟨returned, covered⟩ | ⟨-, ⟨error, failed⟩, covered⟩
  · rw [issued_bind_of_ok returned next, targets_append, covered]
  · rw [issued_bind_of_error failed]
    exact (covered kind).trans (List.sublist_append_left _ _)

end Operations

section Repairs

/-- The roles that a repair runs commands of some kind on. -/
def processed (kind : Command.Kind) (audiences : List String) (ownerRole : String)
    (cluster : Cluster) : List String :=
  targets kind ((repairPostgresLeaseOwnership ownerRole audiences).issued exec cluster)

/-- Connecting touches no role. -/
theorem does_connect (cluster : Cluster) :
    Does cluster (fun _ => []) () cluster.roles connect := by
  have accepted : cluster.accept .connect = (.ok (), { cluster with roles := cluster.roles }) := rfl
  exact does_ask _ accepted

/-- Looking the owner up touches no role. -/
theorem does_ownerExists (cluster : Cluster) (ownerRole : String) :
    Does cluster (fun _ => []) (decide (ownerRole ∈ cluster.roles.rows)) cluster.roles
      (sql (.ownerExists ownerRole)) := by
  have accepted : cluster.accept (.ownerExists ownerRole) =
      (.ok (decide (ownerRole ∈ cluster.roles.rows)), { cluster with roles := cluster.roles }) :=
    rfl
  exact does_sql accepted

/-- Nothing is processed for an owner that does not exist. -/
theorem processed_of_missing {ownerRole : String} {cluster : Cluster}
    (missing : ownerRole ∉ cluster.roles.rows) (kind : Command.Kind) (audiences : List String) :
    processed kind audiences ownerRole cluster = [] := by
  unfold processed repairPostgresLeaseOwnership
  split
  case isTrue _ => rfl
  case isFalse _ =>
    refine List.sublist_nil.mp (((does_connect cluster).issued_sublist _ kind).trans ?_)
    refine ((does_ownerExists cluster ownerRole).issued_sublist _ kind).trans ?_
    simp [missing, targets, Program.issued]

/-- For an owner that exists, a repair is its outer loop. -/
theorem does_repair {ownerRole : String} {cluster : Cluster} {audiences : List String}
    {covered : List String} {after : Roles} (owner : ownerRole ∈ cluster.roles.rows)
    (does : Does cluster (fun _ => covered) () after (repairAudiences ownerRole audiences [])) :
    Does cluster (fun _ => covered) () after
      (repairPostgresLeaseOwnership ownerRole audiences) := by
  cases audiences with
  | nil => exact does
  | cons audience rest =>
    have known : Does cluster (fun _ => covered) () after
        (if !decide (ownerRole ∈ cluster.roles.rows) then
          failure (.message ("stable Postgres owner role '" ++ ownerRole ++ "' does not exist"))
        else repairAudiences ownerRole (audience :: rest) []) := by
      simpa [owner] using does
    exact (does_connect cluster).bind _ ((does_ownerExists cluster ownerRole).bind _ known)

/-- For an owner that exists, the other roles that resemble an audience are processed, once
each, until a statement is refused. -/
theorem processed_of_owner {ownerRole : String} (cluster : Cluster)
    (owner : ownerRole ∈ cluster.roles.rows) (audiences : List String) :
    ∃ covered : List String, covered.Nodup ∧
      (∀ role, role ∈ covered ↔ Listed Resembles audiences ownerRole cluster.roles role) ∧
      ∀ kind, (processed kind audiences ownerRole cluster).Sublist covered ∧
        (cluster.Accepting → processed kind audiences ownerRole cluster = covered) := by
  obtain ⟨covered, after, does, distinct, members⟩ :=
    does_repairAudiences audiences [] cluster owner
  refine ⟨covered, distinct, ?_, ?_⟩
  · intro role
    rw [members]
    simp [Listed, Among, Unseen]
  · intro kind
    rcases does_repair owner does with ⟨-, same⟩ | ⟨refusing, -, part⟩
    · have equal : processed kind audiences ownerRole cluster = covered := same kind
      exact ⟨equal ▸ List.Sublist.refl _, fun _ => equal⟩
    · exact ⟨part kind, fun accepting => absurd accepting refusing⟩

/-- The commands are run exactly on the other roles whose names begin literally with a listed
audience, once on each; where the server refuses a statement, on no other role. -/
structure RepairsNamed (audiences : List String) (ownerRole : String) (roles : Roles) : Prop where
  once : ∀ refuses kind, (processed kind audiences ownerRole ⟨roles, refuses⟩).Nodup
  only : ∀ refuses kind role, role ∈ processed kind audiences ownerRole ⟨roles, refuses⟩ →
    Listed LeasedTo audiences ownerRole roles role
  exactly : ∀ kind role,
    role ∈ processed kind audiences ownerRole ⟨roles, fun _ => none⟩ ↔
      Listed LeasedTo audiences ownerRole roles role

/-- Every literal beginning is a resemblance. -/
theorem LeasedTo.resembles {sanitized role : String} (leased : LeasedTo sanitized role) :
    Resembles sanitized role := by
  obtain ⟨back, begins⟩ := leased
  refine ⟨sanitized.toList, back, by simpa using begins.symm, ?_⟩
  exact List.forall₂_same.mpr (fun _ _ => .inr rfl)

/-- With an owner that exists, every role that resembles an audience must begin with one. -/
theorem repairsNamed_iff_of_owner {ownerRole : String} {roles : Roles}
    (owner : ownerRole ∈ roles.rows) (audiences : List String) :
    RepairsNamed audiences ownerRole roles ↔
      ∀ role ∈ roles.rows, role ≠ ownerRole →
        Among Resembles audiences role → Among LeasedTo audiences role := by
  constructor
  · intro repairs role stored other resembles
    obtain ⟨covered, -, members, runs⟩ :=
      processed_of_owner ⟨roles, fun _ => none⟩ owner audiences
    have all := (runs .dropRole).2 (fun _ => rfl)
    have dropped := (members role).mpr ⟨stored, other, resembles⟩
    rw [← all] at dropped
    exact (repairs.only _ _ role dropped).2.2
  · intro literal
    have listed (role : String) : Listed Resembles audiences ownerRole roles role ↔
        Listed LeasedTo audiences ownerRole roles role := by
      constructor
      · rintro ⟨stored, other, resembles⟩
        exact ⟨stored, other, literal role stored other resembles⟩
      · rintro ⟨stored, other, audience, member, sanitized, kept, leased⟩
        exact ⟨stored, other, audience, member, sanitized, kept, leased.resembles⟩
    constructor
    · intro refuses kind
      obtain ⟨covered, distinct, -, runs⟩ := processed_of_owner ⟨roles, refuses⟩ owner audiences
      exact distinct.sublist (runs kind).1
    · intro refuses kind role dropped
      obtain ⟨covered, -, members, runs⟩ := processed_of_owner ⟨roles, refuses⟩ owner audiences
      exact (listed role).mp ((members role).mp ((runs kind).1.subset dropped))
    · intro kind role
      obtain ⟨covered, -, members, runs⟩ :=
        processed_of_owner ⟨roles, fun _ => none⟩ owner audiences
      rw [(runs kind).2 (fun _ => rfl), members]
      exact listed role

/-- Without the owner nothing is dropped, so nothing may have to be. -/
theorem repairsNamed_iff_of_missing {ownerRole : String} {roles : Roles}
    (missing : ownerRole ∉ roles.rows) (audiences : List String) :
    RepairsNamed audiences ownerRole roles ↔
      ∀ role ∈ roles.rows, role ≠ ownerRole → ¬ Among LeasedTo audiences role := by
  have none_processed (refuses : Statement → Option String) (kind : Command.Kind) :
      processed kind audiences ownerRole ⟨roles, refuses⟩ = [] :=
    processed_of_missing missing kind audiences
  constructor
  · intro repairs role stored other leased
    have dropped := (repairs.exactly .dropRole role).mpr ⟨stored, other, leased⟩
    rw [none_processed] at dropped
    cases dropped
  · intro nothing
    constructor
    · intro refuses kind
      rw [none_processed]
      exact List.nodup_nil
    · intro refuses kind role dropped
      rw [none_processed] at dropped
      cases dropped
    · intro kind role
      rw [none_processed]
      constructor
      · intro dropped
        cases dropped
      · rintro ⟨stored, other, leased⟩
        exact absurd leased (nothing role stored other)

/-- A repair drops exactly the roles of the listed audiences if and only if the owner exists and
no other role resembles an audience without beginning with one, or the owner does not exist and
there is nothing to drop.

Proof: with an owner, the roles that are dropped are those that the pattern of some audience
matches, so they are the right ones exactly when matching implies beginning with it. Without
an owner nothing is issued, which is right exactly when there is nothing to drop. -/
theorem repairsNamed_iff (audiences : List String) (ownerRole : String) (roles : Roles) :
    RepairsNamed audiences ownerRole roles ↔
      if ownerRole ∈ roles.rows then
        ∀ role ∈ roles.rows, role ≠ ownerRole →
          Among Resembles audiences role → Among LeasedTo audiences role
      else ∀ role ∈ roles.rows, role ≠ ownerRole → ¬ Among LeasedTo audiences role := by
  by_cases owner : ownerRole ∈ roles.rows
  · rw [if_pos owner]
    exact repairsNamed_iff_of_owner owner audiences
  · rw [if_neg owner]
    exact repairsNamed_iff_of_missing owner audiences

/-- A role of the audience `axb` is dropped for the audience `a_b`. -/
theorem not_repairsNamed_underscore :
    ¬ RepairsNamed ["a_b"] "owner" ⟨["owner", "axb_1"], by decide⟩ := by
  intro repairs
  have dropped : "axb_1" ∈ processed .dropRole ["a_b"] "owner"
      ⟨⟨["owner", "axb_1"], by decide⟩, fun _ => none⟩ := by
    decide +kernel
  obtain ⟨-, -, audience, listed, sanitized, kept, leased⟩ := repairs.only _ _ _ dropped
  obtain rfl := List.mem_singleton.mp listed
  have read : sanitizeIdentifier "a_b" = some "a_b" := by decide +kernel
  obtain rfl : "a_b" = sanitized := Option.some.inj (read.symm.trans kept)
  revert leased
  unfold LeasedTo
  decide +kernel

end Repairs

end SecureDatabase.Repair
