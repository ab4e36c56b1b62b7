import SecureDatabase.Foundation.SqlLexer
import SecureDatabase.OwnershipRepair

/-!
# Quoted names in the statements of a repair

The texts that a repair executes are concatenations of fixed words and quoted role names. The
server reads each of them as exactly one statement, the one that was meant: whatever characters a
name has, it is read as that name and as nothing else.

A repair takes the names of the roles from the server's replies. What it executes is therefore
stated for every reply, not only for those of a server that keeps to its tables.
-/

namespace SecureDatabase.Repair

open Foundation Program Scanner

/-- The statements that repair one role. -/
def repairStatements (ownerRole leaseRole : String) : List (List Token) :=
  [[.word "REASSIGN", .word "OWNED", .word "BY", .identifier leaseRole, .word "TO",
      .identifier ownerRole],
    [.word "DROP", .word "OWNED", .word "BY", .identifier leaseRole],
    [.word "DROP", .word "ROLE", .word "IF", .word "EXISTS", .identifier leaseRole]]

/-- The names that a reply lists. -/
def namesIn : Exchange Reply → List String
  | ⟨.leaseRoles _ _, .ok leaseRoles⟩ => leaseRoles
  | _ => []

/-- The names that the server has listed so far. -/
def listedNames (past : List (Exchange Reply)) : List String := past.flatMap namesIn

/-- A text is executed only if the server reads it as one statement, which repairs a role that it
has listed. -/
def Intended (ownerRole : String) (past : List (Exchange Reply)) (stmt : Statement) : Prop :=
  ∀ text, stmt = .execute text → (∀ role ∈ listedNames past, NulFree role) →
    ∃ role ∈ listedNames past, ∃ statement ∈ repairStatements ownerRole role,
      readStatements text = some [statement]

section Texts

/-- Quoting adds no NUL. -/
theorem nulFree_quoteIdentifier {name : String} (free : NulFree name) :
    NulFree (quoteIdentifier name) :=
  free.delimited

/-- A name at the end of a text is read after the words in front of it. -/
theorem lex_naming {front name : String} {words : List Token}
    (advanced : between.advance front.toList = (words, between)) (fixed : NulFree front)
    (free : NulFree name) :
    lex (front ++ quoteIdentifier name) = some (words ++ [.identifier name]) := by
  have quoted : between.read (quoteIdentifier name).toList = some [.identifier name] := by
    rw [quoteIdentifier, String.toList_ofList, Scanner.read, advance_delimited]
    simp [finish]
  rw [lex_of_nulFree (fixed.append (nulFree_quoteIdentifier free)), String.toList_append,
    read_append advanced, quoted]
  rfl

/-- A name between words is read between them. -/
theorem advance_naming {front back name : String} {words later : List Token}
    (advanced : between.advance front.toList = (words, between))
    (resumed : (closing name.toList).advance back.toList = (later, between)) :
    between.advance (front ++ quoteIdentifier name ++ back).toList = (words ++ later, between) := by
  simp only [String.toList_append, quoteIdentifier, String.toList_ofList, List.append_assoc,
    advance_append, advanced, advance_delimited, resumed, List.nil_append]

/-- The server reads this text as the words that it was meant to be, with the two names as
identifiers. -/
theorem lex_reassign {leaseRole ownerRole : String} (leased : NulFree leaseRole)
    (owner : NulFree ownerRole) :
    lex ("REASSIGN OWNED BY " ++ quoteIdentifier leaseRole ++ " TO " ++
        quoteIdentifier ownerRole) =
      some [.word "REASSIGN", .word "OWNED", .word "BY", .identifier leaseRole, .word "TO",
        .identifier ownerRole] := by
  have words : between.advance "REASSIGN OWNED BY ".toList =
      ([.word "REASSIGN", .word "OWNED", .word "BY"], between) := rfl
  have resumed : (closing leaseRole.toList).advance " TO ".toList =
      ([.identifier (String.ofList leaseRole.toList), .word "TO"], between) := rfl
  rw [String.ofList_toList] at resumed
  have fixed : NulFree ("REASSIGN OWNED BY " ++ quoteIdentifier leaseRole ++ " TO ") := by
    have front : NulFree "REASSIGN OWNED BY " := by decide
    have back : NulFree " TO " := by decide
    exact (front.append (nulFree_quoteIdentifier leased)).append back
  rw [lex_naming (advance_naming words resumed) fixed owner]
  rfl

/-- So it reads this one, with its one name. -/
theorem lex_dropOwned {leaseRole : String} (leased : NulFree leaseRole) :
    lex ("DROP OWNED BY " ++ quoteIdentifier leaseRole) =
      some [.word "DROP", .word "OWNED", .word "BY", .identifier leaseRole] := by
  have words : between.advance "DROP OWNED BY ".toList =
      ([.word "DROP", .word "OWNED", .word "BY"], between) := rfl
  have fixed : NulFree "DROP OWNED BY " := by decide
  rw [lex_naming words fixed leased]
  rfl

/-- And this one. -/
theorem lex_dropRole {leaseRole : String} (leased : NulFree leaseRole) :
    lex ("DROP ROLE IF EXISTS " ++ quoteIdentifier leaseRole) =
      some [.word "DROP", .word "ROLE", .word "IF", .word "EXISTS", .identifier leaseRole] := by
  have words : between.advance "DROP ROLE IF EXISTS ".toList =
      ([.word "DROP", .word "ROLE", .word "IF", .word "EXISTS"], between) := rfl
  have fixed : NulFree "DROP ROLE IF EXISTS " := by decide
  rw [lex_naming words fixed leased]
  rfl

/-- A quoted name is read back, so no two names are quoted alike. -/
theorem quoteIdentifier_injective : Function.Injective quoteIdentifier := by
  intro first second same
  have read (name : String) :
      readIdentifier (quoteIdentifier name).toList = some (name.toList, []) := by
    have whole := readIdentifier_delimited name.toList [] (by simp)
    rwa [List.append_nil, ← String.toList_ofList (l := delimited name.toList)] at whole
  have both := read first
  rw [same, read second] at both
  exact String.toList_injective (Prod.mk.inj (Option.some.inj both)).1.symm

end Texts

section Runs

variable {ownerRole : String}

/-- A statement for a listed role is intended when the server reads it as such. -/
theorem intended_execute {past : List (Exchange Reply)} {leaseRole text : String}
    (listed : leaseRole ∈ listedNames past)
    (read : NulFree leaseRole → ∃ statement ∈ repairStatements ownerRole leaseRole,
      readStatements text = some [statement]) :
    Intended ownerRole past (.execute text) := by
  rintro _ ⟨⟩ free
  exact ⟨leaseRole, listed, read (free leaseRole listed)⟩

/-- For a role that was listed the text is one of the statements that repair it. -/
theorem intended_reassign (owner : NulFree ownerRole) {past : List (Exchange Reply)}
    {leaseRole : String} (listed : leaseRole ∈ listedNames past) :
    Intended ownerRole past (.execute
      ("REASSIGN OWNED BY " ++ quoteIdentifier leaseRole ++ " TO " ++
        quoteIdentifier ownerRole)) := by
  refine intended_execute listed ?_
  intro free
  refine ⟨_, List.mem_cons_self, ?_⟩
  rw [readStatements, lex_reassign free owner]
  rfl

/-- Likewise for what the role still owns. -/
theorem intended_dropOwned {past : List (Exchange Reply)} {leaseRole : String}
    (listed : leaseRole ∈ listedNames past) :
    Intended ownerRole past (.execute ("DROP OWNED BY " ++ quoteIdentifier leaseRole)) := by
  refine intended_execute listed ?_
  intro free
  refine ⟨_, List.mem_cons_of_mem _ List.mem_cons_self, ?_⟩
  rw [readStatements, lex_dropOwned free]
  rfl

/-- Likewise for the role itself. -/
theorem intended_dropRole {past : List (Exchange Reply)} {leaseRole : String}
    (listed : leaseRole ∈ listedNames past) :
    Intended ownerRole past (.execute ("DROP ROLE IF EXISTS " ++ quoteIdentifier leaseRole)) := by
  refine intended_execute listed ?_
  intro free
  refine ⟨_, List.mem_cons_of_mem _ (List.mem_cons_of_mem _ List.mem_cons_self), ?_⟩
  rw [readStatements, lex_dropRole free]
  rfl

/-- Executing a text lists no names. -/
theorem execute_follows {past : List (Exchange Reply)} {text : String}
    (intended : Intended ownerRole past (.execute text)) :
    (sql (.execute text)).Follows (Intended ownerRole)
      (fun later _ => listedNames later = listedNames past) past := by
  refine ⟨intended, ?_⟩
  rintro (error | ⟨⟩) <;> rfl

/-- What the server selects is listed from then on. -/
theorem leaseRoles_follows (pattern : String) (past : List (Exchange Reply)) :
    (sql (.leaseRoles pattern ownerRole)).Follows (Intended ownerRole)
      (fun later result => ∀ found, result = .ok found → ∀ role ∈ found, role ∈ listedNames later)
      past := by
  refine ⟨by rintro text ⟨⟩, ?_⟩
  rintro (error | leaseRoles)
  · rintro _ ⟨⟩
  · rintro _ ⟨⟩ role member
    exact List.mem_flatMap.mpr ⟨_, List.mem_cons_self, member⟩

/-- The repair of a role that was listed executes only such texts, and lists no further
roles. -/
theorem repairRole_follows (owner : NulFree ownerRole) {past : List (Exchange Reply)}
    {leaseRole : String} (listed : leaseRole ∈ listedNames past) :
    (repairRole ownerRole leaseRole).Follows (Intended ownerRole)
      (fun later _ => listedNames later = listedNames past) past := by
  refine Follows.bind (fun later _ => listedNames later = listedNames past)
    ((execute_follows (intended_reassign owner listed)).weaken ?_) ?_
  · rintro later (error | ⟨⟩) same <;> exact same
  rintro between ⟨⟩ same
  refine Follows.bind (fun later _ => listedNames later = listedNames past)
    ((execute_follows (intended_dropOwned (same ▸ listed))).weaken ?_) ?_
  · rintro later (error | ⟨⟩) kept <;> exact kept.trans same
  rintro last ⟨⟩ same
  refine (execute_follows (intended_dropRole (same ▸ listed))).weaken ?_
  intro later result kept
  exact kept.trans same

/-- The inner loop repairs only the roles it is given. -/
theorem repairRoles_follows (owner : NulFree ownerRole) (leaseRoles : List String)
    (past : List (Exchange Reply)) (listed : ∀ role ∈ leaseRoles, role ∈ listedNames past) :
    (repairRoles ownerRole leaseRoles).Follows (Intended ownerRole) (fun _ _ => True) past := by
  induction leaseRoles generalizing past with
  | nil => trivial
  | cons leaseRole rest ih =>
    refine Follows.bind (fun later _ => listedNames later = listedNames past)
      ((repairRole_follows owner (listed leaseRole List.mem_cons_self)).weaken ?_) ?_
    · rintro later (error | ⟨⟩) same
      · trivial
      · exact same
    · intro later _ same
      refine ih later ?_
      intro role member
      rw [same]
      exact listed role (List.mem_cons_of_mem _ member)

/-- The outer loop repairs only roles that the server lists. -/
theorem repairAudiences_follows (owner : NulFree ownerRole) (audiences seen : List String)
    (past : List (Exchange Reply)) :
    (repairAudiences ownerRole audiences seen).Follows (Intended ownerRole)
      (fun _ _ => True) past := by
  induction audiences generalizing seen past with
  | nil => trivial
  | cons audience rest ih =>
    unfold repairAudiences
    split
    case h_1 _ => exact ih seen past
    case h_2 sanitized _ =>
      split
      case isTrue _ => exact ih seen past
      case isFalse _ =>
        refine Follows.bind (fun later found => ∀ role ∈ found, role ∈ listedNames later)
          ((leaseRoles_follows (roleLikePattern sanitized) past).weaken ?_) ?_
        · rintro later (error | found) listed
          · trivial
          · exact listed found rfl
        intro later leaseRoles listed
        refine Follows.bind (fun _ _ => True)
          ((repairRoles_follows owner leaseRoles later listed).weaken ?_)
          (fun last _ _ => ih _ last)
        rintro last (error | ⟨⟩) _ <;> trivial

end Runs

/-- A quoted name is read as that name and nothing else, no two names are quoted alike, and
whatever names the server lists, each text that a repair executes is one statement about one of
them.

Proof: the lexer takes a doubled quotation mark for one and stops at a single one, so it reads
back the name between the outer marks, and reading back makes quotation injective. A repair
issues its texts only from names that the server listed. -/
theorem quoted_names_exact :
    (∀ leaseRole ownerRole : String, NulFree leaseRole → NulFree ownerRole →
      lex ("REASSIGN OWNED BY " ++ quoteIdentifier leaseRole ++ " TO " ++
          quoteIdentifier ownerRole) =
        some [.word "REASSIGN", .word "OWNED", .word "BY", .identifier leaseRole, .word "TO",
          .identifier ownerRole]) ∧
    Function.Injective quoteIdentifier ∧
    ∀ (ownerRole : String) (audiences : List String), NulFree ownerRole →
      (repairPostgresLeaseOwnership ownerRole audiences).Follows (Intended ownerRole)
        (fun _ _ => True) [] := by
  refine ⟨fun leaseRole ownerRole leased owner => lex_reassign leased owner,
    quoteIdentifier_injective, ?_⟩
  intro ownerRole audiences owner
  unfold repairPostgresLeaseOwnership
  split
  case isTrue _ => trivial
  case isFalse _ =>
    refine ⟨by rintro text ⟨⟩, ?_⟩
    rintro (error | ⟨⟩)
    · trivial
    refine ⟨by rintro text ⟨⟩, ?_⟩
    rintro (error | found)
    · trivial
    cases found with
    | false => trivial
    | true => exact repairAudiences_follows owner audiences [] _

/-- A name with a statement of its own inside is read as a name. -/
theorem statement_in_name_is_name :
    lex ("REASSIGN OWNED BY " ++ quoteIdentifier "a\"; DROP ROLE b; --" ++ " TO " ++
        quoteIdentifier "owner") =
      some [.word "REASSIGN", .word "OWNED", .word "BY", .identifier "a\"; DROP ROLE b; --",
        .word "TO", .identifier "owner"] ∧
    (repairPostgresLeaseOwnership "owner" ["a"]).Follows (Intended "owner")
      (fun _ _ => True) [] := by
  have leased : NulFree "a\"; DROP ROLE b; --" := by decide
  have owner : NulFree "owner" := by decide
  exact ⟨quoted_names_exact.1 _ _ leased owner, quoted_names_exact.2.2 _ ["a"] owner⟩

end SecureDatabase.Repair
