import SecureDatabase.Foundation.Environment
import SecureDatabase.Foundation.Occurrences

/-!
# Generic syntax of addresses

An address has a scheme, an authority with a host and perhaps a user and a port, and a path and
perhaps a query. Seven characters delimit these parts. Which of them a part can hold is what
makes the parts of an address unique, and it is what decides where in an address a given text can
occur: within one part, or across a delimiter that the text holds itself.
-/

namespace SecureDatabase.Foundation

/-- The characters that delimit the parts of an address. -/
def genDelims : List Char := [':', '/', '?', '#', '[', ']', '@']

/-- A text without delimiters. -/
def Plain (text : List Char) : Prop := ∀ char ∈ text, char ∉ genDelims

/-- Whether a text has no delimiter can be computed. -/
instance (text : List Char) : Decidable (Plain text) := List.decidableBAll _ text

/-- A text without delimiters other than colons. -/
def PlainButColons (text : List Char) : Prop := ∀ char ∈ text, char ∈ genDelims → char = ':'

/-- A delimiter does not occur in a text that has none. -/
theorem Plain.fresh {text : List Char} (plain : Plain text) {delim : Char}
    (delimits : delim ∈ genDelims) : delim ∉ text := fun member => plain delim member delimits

/-- A delimiter other than the colon does not occur in a text whose only delimiters are
colons. -/
theorem PlainButColons.fresh {text : List Char} (plain : PlainButColons text) {delim : Char}
    (delimits : delim ∈ genDelims) (other : delim ≠ ':') : delim ∉ text := fun member =>
  other (plain delim member delimits)

/-- The delimiters that end or divide an authority are delimiters, and neither colons nor
brackets. -/
theorem genDelims_of_mem {delim : Char} (delimits : delim ∈ ['/', '?', '@']) :
    delim ∈ genDelims ∧ delim ≠ ':' ∧ delim ≠ '[' ∧ delim ≠ ']' := by
  simp only [List.mem_cons, List.not_mem_nil, or_false] at delimits
  rcases delimits with rfl | rfl | rfl
  · decide
  · decide
  · decide

/-- The parts of an address, cut at its delimiters. What follows the authority is kept whole. -/
structure Pieces where
  scheme : List Char
  userinfo : Option (List Char)
  host : List Char
  port : Option (List Char)
  tail : List Char
  plainScheme : Plain scheme
  plainUserinfo : ∀ text ∈ userinfo, PlainButColons text
  /-- A name, or an address literal in brackets. -/
  plainHost : Plain host ∨ ∃ literal, host = '[' :: literal ++ [']'] ∧ PlainButColons literal
  plainPort : ∀ digits ∈ port, Plain digits
  /-- A path, a query, or nothing. -/
  delimitedTail : tail = [] ∨ ∃ delim rest, delim ∈ ['/', '?'] ∧ tail = delim :: rest

namespace Pieces

variable (pieces : Pieces)

/-- The host and the port. -/
def hostPort : List Char := pieces.host ++ pieces.port.elim [] fun digits => ':' :: digits

/-- The authority: the user with its sign, if there is one, the host and the port. -/
def authority : List Char :=
  (pieces.userinfo.elim [] fun text => text ++ ['@']) ++ pieces.hostPort

/-- An address from its pieces, in their order. -/
def text : List Char := pieces.scheme ++ ':' :: '/' :: '/' :: (pieces.authority ++ pieces.tail)

section Delimiters

/-- A host has no delimiter that ends an authority or a user; the brackets of a literal
and the colons in it are all it may have. -/
theorem fresh_host {delim : Char} (delimits : delim ∈ ['/', '?', '@']) : delim ∉ pieces.host := by
  obtain ⟨general, other⟩ := genDelims_of_mem delimits
  rcases pieces.plainHost with plain | ⟨literal, bracketed, plain⟩
  · exact plain.fresh general
  · rw [bracketed]
    simp [other, plain.fresh general other.1]

/-- Neither has a host with its port. -/
theorem fresh_hostPort {delim : Char} (delimits : delim ∈ ['/', '?', '@']) :
    delim ∉ pieces.hostPort := by
  obtain ⟨general, other, -⟩ := genDelims_of_mem delimits
  rw [hostPort, List.mem_append, not_or]
  refine ⟨pieces.fresh_host delimits, ?_⟩
  cases numbered : pieces.port with
  | none => exact List.not_mem_nil
  | some digits => simp [other, (pieces.plainPort digits numbered).fresh general]

/-- An authority ends at the first slash or question mark, for it has none. -/
theorem fresh_authority {delim : Char} (delimits : delim ∈ ['/', '?']) :
    delim ∉ pieces.authority := by
  have included : delim ∈ ['/', '?', '@'] := List.mem_append_left ['@'] delimits
  obtain ⟨general, other, -⟩ := genDelims_of_mem included
  rw [authority, List.mem_append, not_or]
  refine ⟨?_, pieces.fresh_hostPort included⟩
  cases named : pieces.userinfo with
  | none => exact List.not_mem_nil
  | some text =>
    have at_ : delim ≠ '@' := by
      rintro rfl
      exact absurd delimits (by decide)
    simp [at_, (pieces.plainUserinfo text named).fresh general other]

end Delimiters

section Places

variable {name digits : List Char}

/-- A name with a colon is at the start of the host only as the whole host, before a port. -/
theorem prefix_hostPort_iff (plain : Plain name) :
    name ++ [':'] <+: pieces.hostPort ++ pieces.tail ↔
      pieces.host = name ∧ pieces.port ≠ none := by
  have colon : ':' ∉ name := plain.fresh (by decide)
  rcases pieces.plainHost with plainHost | ⟨literal, bracketed, -⟩
  · have fresh : ':' ∉ pieces.host := plainHost.fresh (by decide)
    cases numbered : pieces.port with
    | none =>
      simp only [hostPort, numbered, Option.elim_none, List.append_nil, ne_eq, not_true_eq_false,
        and_false, iff_false]
      intro starts
      have inside : name ++ [':'] <+: pieces.host := by
        rcases pieces.delimitedTail with none | ⟨delim, rest, delimits, cut⟩
        · rwa [none, List.append_nil] at starts
        · obtain ⟨general, other, -⟩ := genDelims_of_mem (List.mem_append_left ['@'] delimits)
          rw [cut] at starts
          exact (prefix_append_cons_iff (by simp [other, plain.fresh general])).mp starts
      exact fresh (inside.subset (by simp))
    | some port =>
      simp only [hostPort, numbered, Option.elim_some, ne_eq, reduceCtorEq, not_false_eq_true,
        and_true]
      constructor
      · rintro ⟨rest, same⟩
        simp only [List.append_assoc, List.cons_append, List.nil_append] at same
        exact (separated_unique colon fresh same).1.symm
      · rintro rfl
        exact ⟨port ++ pieces.tail, by simp⟩
  · have bracket : '[' ∉ name := plain.fresh (by decide)
    constructor
    · intro starts
      rw [hostPort, bracketed] at starts
      cases name with
      | nil => simp at starts
      | cons first rest =>
        obtain ⟨rfl, -⟩ := List.cons_prefix_cons.mp starts
        exact absurd List.mem_cons_self bracket
    · rintro ⟨rfl, -⟩
      exact absurd (by simp [bracketed]) bracket

/-- A number after a colon is at the end of the authority only as the port. -/
theorem suffix_authority_iff (plain : Plain digits) :
    ':' :: digits <:+ pieces.authority ↔ pieces.port = some digits := by
  have colon : ':' ∉ digits := plain.fresh (by decide)
  cases numbered : pieces.port with
  | some port =>
    have fresh : ':' ∉ port := (pieces.plainPort port numbered).fresh (by decide)
    simp only [authority, hostPort, numbered, Option.elim_some, Option.some.injEq]
    constructor
    · rintro ⟨start, same⟩
      have turned := congrArg List.reverse same
      simp only [List.reverse_append, List.reverse_cons, List.append_assoc, List.cons_append,
        List.nil_append] at turned
      have equal := (separated_unique (by simpa using colon) (by simpa using fresh) turned).1
      exact (List.reverse_injective equal).symm
    · rintro rfl
      exact ⟨(pieces.userinfo.elim [] fun text => text ++ ['@']) ++ pieces.host, by simp⟩
  | none =>
    simp only [authority, hostPort, numbered, Option.elim_none, List.append_nil, reduceCtorEq,
      iff_false]
    intro ends
    have inside : ':' :: digits <:+ pieces.host := by
      cases named : pieces.userinfo with
      | none => simpa [named] using ends
      | some text =>
        rw [named, Option.elim_some, List.append_assoc, List.singleton_append] at ends
        have fresh : '@' ∉ digits := plain.fresh (by decide)
        exact (suffix_append_cons_iff (by simp [fresh])).mp ends
    rcases pieces.plainHost with plainHost | ⟨literal, bracketed, -⟩
    · exact plainHost.fresh (by decide) (inside.subset List.mem_cons_self)
    · rw [bracketed, List.suffix_concat_iff] at inside
      obtain none | ⟨start, same, -⟩ := inside
      · cases none
      · have last : ']' ∈ ':' :: digits := by simp [same]
        rw [List.mem_cons] at last
        exact plain.fresh (by decide) (last.resolve_left (by decide))

/-- Where a name between an at sign and a colon occurs: as the host, or after the authority. -/
theorem at_name_infix_iff (plain : Plain name) :
    '@' :: (name ++ [':']) <:+: pieces.text ↔
      (pieces.userinfo ≠ none ∧ pieces.host = name ∧ pieces.port ≠ none) ∨
        '@' :: (name ++ [':']) <:+: pieces.tail := by
  have start : pieces.text =
      (pieces.scheme ++ [':', '/', '/']) ++ (pieces.authority ++ pieces.tail) := by
    simp [text]
  have fresh : '@' ∉ pieces.scheme ++ [':', '/', '/'] := by
    simp [pieces.plainScheme.fresh (show '@' ∈ genDelims by decide)]
  have later := pieces.fresh_hostPort (show '@' ∈ ['/', '?', '@'] by decide)
  rw [start, cons_infix_append_iff fresh, authority]
  cases named : pieces.userinfo with
  | none =>
    rw [Option.elim_none, List.nil_append, cons_infix_append_iff later]
    simp
  | some user =>
    have earlier := (pieces.plainUserinfo user named).fresh
      (show '@' ∈ genDelims by decide) (by decide)
    rw [Option.elim_some, List.append_assoc, List.append_assoc, cons_infix_append_iff earlier,
      List.singleton_append, List.infix_cons_iff, List.cons_prefix_cons,
      cons_infix_append_iff later, pieces.prefix_hostPort_iff plain]
    simp

/-- Where a name between two slashes and a colon occurs: at the start of the authority, as the
host or as the start of the user, or at the start of the path if there is no authority, or
after the authority. -/
theorem slashes_name_infix_iff (plain : Plain name) :
    '/' :: '/' :: (name ++ [':']) <:+: pieces.text ↔
      (pieces.userinfo = none ∧ pieces.host = name ∧ pieces.port ≠ none) ∨
        (∃ user, pieces.userinfo = some user ∧ name ++ [':'] <+: user) ∨
        (pieces.authority = [] ∧ '/' :: (name ++ [':']) <+: pieces.tail) ∨
        '/' :: '/' :: (name ++ [':']) <:+: pieces.tail := by
  have start : pieces.text =
      (pieces.scheme ++ [':']) ++ '/' :: '/' :: (pieces.authority ++ pieces.tail) := by
    simp [text]
  have fresh : '/' ∉ pieces.scheme ++ [':'] := by
    simp [pieces.plainScheme.fresh (show '/' ∈ genDelims by decide)]
  have slash := pieces.fresh_authority (show '/' ∈ ['/', '?'] by decide)
  have first : name ++ [':'] <+: pieces.authority ++ pieces.tail ↔
      (pieces.userinfo = none ∧ pieces.host = name ∧ pieces.port ≠ none) ∨
        ∃ user, pieces.userinfo = some user ∧ name ++ [':'] <+: user := by
    rw [authority]
    cases named : pieces.userinfo with
    | none => simpa using pieces.prefix_hostPort_iff plain
    | some user =>
      have fresh : '@' ∉ name ++ [':'] := by
        simp [plain.fresh (show '@' ∈ genDelims by decide)]
      rw [Option.elim_some, List.append_assoc, List.append_assoc, List.singleton_append,
        prefix_append_cons_iff fresh]
      simp
  have second : '/' :: (name ++ [':']) <+: pieces.authority ++ pieces.tail ↔
      pieces.authority = [] ∧ '/' :: (name ++ [':']) <+: pieces.tail := by
    cases whole : pieces.authority with
    | nil => simp
    | cons head rest =>
      rw [whole, List.mem_cons, not_or] at slash
      simp [slash.1]
  rw [start, cons_infix_append_iff fresh, List.infix_cons_iff, List.infix_cons_iff,
    List.cons_prefix_cons, List.cons_prefix_cons, List.cons_prefix_cons, first, second,
    cons_infix_append_iff slash]
  simp [or_assoc]

/-- Where a number between a colon and a slash or a question mark occurs: as the port, or after
the authority. -/
theorem number_infix_iff (plain : Plain digits) (number : digits ≠ []) {delim : Char}
    (delimits : delim ∈ ['/', '?']) :
    ':' :: (digits ++ [delim]) <:+: pieces.text ↔
      (pieces.port = some digits ∧ ∃ rest, pieces.tail = delim :: rest) ∨
        ':' :: (digits ++ [delim]) <:+: pieces.tail := by
  have general {other : Char} (delimits : other ∈ ['/', '?']) :
      other ∈ genDelims ∧ other ≠ ':' := by
    obtain ⟨delimiter, distinct, -⟩ := genDelims_of_mem (List.mem_append_left ['@'] delimits)
    exact ⟨delimiter, distinct⟩
  have whole : ':' :: (digits ++ [delim]) <:+: pieces.text ↔
      ':' :: (digits ++ [delim]) <:+: pieces.authority ++ pieces.tail := by
    have slashes : ¬ digits ++ [delim] <+: '/' :: '/' :: (pieces.authority ++ pieces.tail) := by
      cases digits with
      | nil => exact absurd rfl number
      | cons first rest =>
        intro starts
        obtain ⟨rfl, -⟩ := List.cons_prefix_cons.mp starts
        exact plain.fresh (by decide) List.mem_cons_self
    have fresh : ':' ∉ ['/', '/'] := by decide
    have skipped : ':' :: (digits ++ [delim]) <:+: '/' :: '/' :: (pieces.authority ++ pieces.tail) ↔
        ':' :: (digits ++ [delim]) <:+: pieces.authority ++ pieces.tail :=
      cons_infix_append_iff fresh
    rw [text, cons_infix_append_iff (pieces.plainScheme.fresh (by decide)), List.infix_cons_iff,
      List.cons_prefix_cons, skipped]
    simp [slashes]
  have outside : ¬ ':' :: (digits ++ [delim]) <:+: pieces.authority := fun occurs =>
    pieces.fresh_authority delimits (occurs.subset (by simp))
  rw [whole]
  rcases pieces.delimitedTail with none | ⟨cut, rest, cuts, tail⟩
  · simp [none, outside]
  · have fresh : ':' ∉ [cut] := by simp [Ne.symm (general cuts).2]
    have later : ':' :: (digits ++ [delim]) <:+: cut :: rest ↔
        ':' :: (digits ++ [delim]) <:+: rest := cons_infix_append_iff fresh
    rw [tail, later]
    by_cases same : cut = delim
    · subst cut
      have inner : delim ∉ ':' :: digits := by
        simp [(general delimits).2, plain.fresh (general delimits).1]
      have split : ':' :: digits ++ [delim] <:+: pieces.authority ++ delim :: rest ↔
          ':' :: digits <:+ pieces.authority ∨ ':' :: digits ++ [delim] <:+: rest :=
        concat_infix_append_cons_iff (pieces.fresh_authority delimits) inner
      rw [List.cons_append] at split
      rw [split, pieces.suffix_authority_iff plain]
      simp
    · have inner : cut ∉ ':' :: (digits ++ [delim]) := by
        simp [same, (general cuts).2, plain.fresh (general cuts).1]
      rw [infix_append_cons_iff inner]
      simp [outside, same]

/-- Where an address ends with a number after a colon: at the port, or after the authority. -/
theorem number_suffix_iff (plain : Plain digits) :
    ':' :: digits <:+ pieces.text ↔
      (pieces.port = some digits ∧ pieces.tail = []) ∨ ':' :: digits <:+ pieces.tail := by
  rcases pieces.delimitedTail with none | ⟨cut, rest, cuts, tail⟩
  · have fresh : '/' ∉ ':' :: digits := by
      simp [plain.fresh (show '/' ∈ genDelims by decide)]
    have start : pieces.text = (pieces.scheme ++ [':', '/']) ++ '/' :: pieces.authority := by
      simp [text, none]
    rw [start, suffix_append_cons_iff fresh, pieces.suffix_authority_iff plain]
    simp [none]
  · obtain ⟨general, other, -⟩ := genDelims_of_mem (List.mem_append_left ['@'] cuts)
    have fresh : cut ∉ ':' :: digits := by simp [other, plain.fresh general]
    have start : pieces.text =
        (pieces.scheme ++ ':' :: '/' :: '/' :: pieces.authority) ++ cut :: rest := by
      simp [text, tail]
    have later : ':' :: digits <:+ [] ++ cut :: rest ↔ ':' :: digits <:+ rest :=
      suffix_append_cons_iff fresh
    rw [List.nil_append] at later
    rw [start, suffix_append_cons_iff fresh, tail, later]
    simp

/-- Where a name before a colon occurs after an at sign or two slashes: as the host with a port,
at the start of the user, at the start of the path if there is no authority, or after the
authority. -/
theorem name_occurs_iff (plain : Plain name) :
    '@' :: (name ++ [':']) <:+: pieces.text ∨ '/' :: '/' :: (name ++ [':']) <:+: pieces.text ↔
      (pieces.host = name ∧ pieces.port ≠ none) ∨
        (∃ user, pieces.userinfo = some user ∧ name ++ [':'] <+: user) ∨
        (pieces.authority = [] ∧ '/' :: (name ++ [':']) <+: pieces.tail) ∨
        ('@' :: (name ++ [':']) <:+: pieces.tail ∨
          '/' :: '/' :: (name ++ [':']) <:+: pieces.tail) := by
  have arrange (n h u e s t : Prop) :
      (¬ n ∧ h ∨ s) ∨ n ∧ h ∨ u ∨ e ∨ t ↔ h ∨ u ∨ e ∨ s ∨ t := by
    tauto
  rw [pieces.at_name_infix_iff plain, pieces.slashes_name_infix_iff plain]
  exact arrange _ _ _ _ _ _

/-- Where a number after a colon occurs before a slash, a question mark or the end: as the port,
or after the authority. -/
theorem number_occurs_iff (plain : Plain digits) (number : digits ≠ []) :
    (':' :: (digits ++ ['/']) <:+: pieces.text ∨ ':' :: digits <:+ pieces.text) ∨
        ':' :: (digits ++ ['?']) <:+: pieces.text ↔
      pieces.port = some digits ∨
        (':' :: (digits ++ ['/']) <:+: pieces.tail ∨ ':' :: digits <:+ pieces.tail) ∨
          ':' :: (digits ++ ['?']) <:+: pieces.tail := by
  have cut : pieces.tail = [] ∨ (∃ rest, pieces.tail = '/' :: rest) ∨
      ∃ rest, pieces.tail = '?' :: rest := by
    obtain none | ⟨delim, rest, delimits, tail⟩ := pieces.delimitedTail
    · exact .inl none
    · simp only [List.mem_cons, List.not_mem_nil, or_false] at delimits
      obtain rfl | rfl := delimits
      · exact .inr (.inl ⟨rest, tail⟩)
      · exact .inr (.inr ⟨rest, tail⟩)
  rw [pieces.number_infix_iff plain number (by decide), pieces.number_suffix_iff plain,
    pieces.number_infix_iff plain number (by decide)]
  tauto

end Places

end Pieces

section Characters

/-- The characters that stand for themselves everywhere. -/
def isUnreserved (char : Char) : Bool := char.isAlphanum || char ∈ ['-', '.', '_', '~']

/-- The characters that may delimit within a component. -/
def isSubDelim (char : Char) : Bool :=
  char ∈ ['!', '$', '&', '\x27', '(', ')', '*', '+', ',', ';', '=']

/-- Unreserved characters, sub-delimiters, further ones that are allowed, and escapes. -/
def isEncoded (extra : List Char) : List Char → Bool
  | [] => true
  | '%' :: high :: low :: rest =>
      (hexValue high).isSome && (hexValue low).isSome && isEncoded extra rest
  | char :: rest => (isUnreserved char || isSubDelim char || char ∈ extra) && isEncoded extra rest

/-- The characters of such a text. -/
def isEncodedChar (extra : List Char) (char : Char) : Bool :=
  isUnreserved char || isSubDelim char || char = '%' || char ∈ extra

/-- A letter or digit of ASCII is in one of three ranges. -/
theorem isAlphanum_iff (char : Char) :
    char.isAlphanum = true ↔
      (('A' ≤ char ∧ char ≤ 'Z') ∨ ('a' ≤ char ∧ char ≤ 'z')) ∨ ('0' ≤ char ∧ char ≤ '9') := by
  change ((decide ('A' ≤ char ∧ char ≤ 'Z') || (decide ('a' ≤ char) && decide (char ≤ 'z'))) ||
    (decide ('0' ≤ char) && decide (char ≤ '9'))) = true ↔ _
  simp only [Bool.or_eq_true, Bool.and_eq_true, decide_eq_true_eq]

/-- A hexadecimal digit is a letter or a digit. -/
theorem isAlphanum_of_hexValue {char : Char} (hex : (hexValue char).isSome) : char.isAlphanum := by
  unfold hexValue at hex
  rw [isAlphanum_iff]
  split at hex
  case isTrue digit => exact .inr digit
  case isFalse _ =>
    split at hex
    case isTrue lower => exact .inl (.inr ⟨lower.1, Char.le_trans lower.2 (by decide)⟩)
    case isFalse _ =>
      split at hex
      case isTrue upper => exact .inl (.inl ⟨upper.1, Char.le_trans upper.2 (by decide)⟩)
      case isFalse _ => cases hex

/-- Each character of an encoded text is one that may stand in it, the percent signs and
their digits included. -/
theorem isEncodedChar_of_mem {extra text : List Char} (encoded : isEncoded extra text = true)
    {char : Char} (member : char ∈ text) : isEncodedChar extra char = true := by
  fun_induction isEncoded extra text with
  | case1 => cases member
  | case2 high low rest inductionHypothesis =>
    simp only [Bool.and_eq_true] at encoded
    obtain ⟨⟨highHex, lowHex⟩, encoded⟩ := encoded
    simp only [List.mem_cons] at member
    rcases member with rfl | rfl | rfl | member
    · simp [isEncodedChar]
    · simp [isEncodedChar, isUnreserved, isAlphanum_of_hexValue highHex]
    · simp [isEncodedChar, isUnreserved, isAlphanum_of_hexValue lowHex]
    · exact inductionHypothesis encoded member
  | case3 first rest _ inductionHypothesis =>
    rw [Bool.and_eq_true] at encoded
    rcases List.mem_cons.mp member with rfl | member
    · have allowed := encoded.1
      simp only [isEncodedChar, Bool.or_eq_true] at allowed ⊢
      rcases allowed with (unreserved | sub) | further
      · exact .inl (.inl (.inl unreserved))
      · exact .inl (.inl (.inr sub))
      · exact .inr further
    · exact inductionHypothesis encoded.2 member

/-- A delimiter in such a text is one of those that are allowed. -/
theorem mem_extra_of_genDelims {extra : List Char} {char : Char}
    (encoded : isEncodedChar extra char = true) (delimits : char ∈ genDelims) : char ∈ extra := by
  have plain : genDelims.all (fun char =>
      !isUnreserved char && !isSubDelim char && char != '%') = true := by
    decide
  have other := List.all_eq_true.mp plain char delimits
  simp only [Bool.and_eq_true, Bool.not_eq_true', bne_iff_ne] at other
  simpa [isEncodedChar, other] using encoded

/-- A text of ASCII characters. -/
def IsAscii (text : List Char) : Prop := ∀ char ∈ text, char.toNat < 128

/-- Whether a text is ASCII can be computed. -/
instance (text : List Char) : Decidable (IsAscii text) := List.decidableBAll _ text

/-- Texts are ASCII together exactly when each of them is. -/
theorem isAscii_append (left right : List Char) :
    IsAscii (left ++ right) ↔ IsAscii left ∧ IsAscii right :=
  List.forall_mem_append

/-- A text is ASCII exactly when its first character and the rest are. -/
theorem isAscii_cons (char : Char) (text : List Char) :
    IsAscii (char :: text) ↔ char.toNat < 128 ∧ IsAscii text :=
  List.forall_mem_cons

/-- Letters and digits are ASCII characters. -/
theorem isAscii_of_isAlphanum {char : Char} (letter : char.isAlphanum) : char.toNat < 128 := by
  have code : char.toNat = char.val.toNat := rfl
  simp only [isAlphanum_iff, Char.le_def, UInt32.le_iff_toNat_le, Char.reduceVal,
    UInt32.reduceToNat] at letter
  omega

/-- Whatever may stand in an encoded text is an ASCII character, when what is allowed
beside is. -/
theorem isAscii_of_isEncodedChar {extra : List Char} (ascii : IsAscii extra) {char : Char}
    (encoded : isEncodedChar extra char = true) : char.toNat < 128 := by
  have marks : IsAscii ['-', '.', '_', '~'] := by decide
  have subDelims : IsAscii ['!', '$', '&', '\x27', '(', ')', '*', '+', ',', ';', '='] := by decide
  simp only [isEncodedChar, isUnreserved, isSubDelim, Bool.or_eq_true, decide_eq_true_eq]
    at encoded
  rcases encoded with (((letter | mark) | sub) | rfl) | further
  · exact isAscii_of_isAlphanum letter
  · exact marks char mark
  · exact subDelims char sub
  · decide
  · exact ascii char further

/-- An encoded text is ASCII. -/
theorem isAscii_of_encoded {extra text : List Char} (ascii : IsAscii extra)
    (encoded : ∀ char ∈ text, isEncodedChar extra char = true) : IsAscii text := by
  intro char member
  exact isAscii_of_isEncodedChar ascii (encoded char member)

/-- No letter is a delimiter in lower case. -/
theorem toLower_eq_self_of_genDelims {char : Char} (delimits : char.toLower ∈ genDelims) :
    char.toLower = char := by
  have plain : genDelims.all (fun delim => !delim.isLower) = true := by decide
  have other := List.all_eq_true.mp plain _ delimits
  exact (eq_of_toLower_eq (by simpa using other) rfl).symm

/-- A digit has no case. -/
theorem toLower_eq_self_of_isDigit {char : Char} (digit : char.isDigit) : char.toLower = char := by
  rw [Char.isDigit, Bool.and_eq_true, decide_eq_true_eq, decide_eq_true_eq] at digit
  refine dif_neg fun upper => ?_
  exact absurd (UInt32.le_trans upper.1 digit.2) (by decide)

/-- Lowering the case makes no delimiter. -/
theorem Plain.map_toLower {text : List Char} (plain : Plain text) :
    Plain (text.map Char.toLower) := by
  intro char member delimits
  obtain ⟨original, present, rfl⟩ := List.mem_map.mp member
  rw [toLower_eq_self_of_genDelims delimits] at delimits
  exact plain original present delimits

/-- Lowering the case makes no delimiter but the colons that were there. -/
theorem PlainButColons.map_toLower {text : List Char} (plain : PlainButColons text) :
    PlainButColons (text.map Char.toLower) := by
  intro char member delimits
  obtain ⟨original, present, rfl⟩ := List.mem_map.mp member
  have same := toLower_eq_self_of_genDelims delimits
  rw [same] at delimits ⊢
  exact plain original present delimits

end Characters

section Syntax

/-- A scheme begins with a letter and goes on with letters, digits and three signs. -/
def isScheme : List Char → Bool
  | [] => false
  | first :: rest =>
      first.isAlpha && rest.all fun char => char.isAlphanum || char ∈ ['+', '-', '.']

/-- A user may have colons, which divide it from a password. -/
def isUserinfo (text : List Char) : Bool := isEncoded [':'] text

/-- An address literal in brackets. The address itself is not looked into. -/
def isIpLiteral : List Char → Bool
  | '[' :: rest =>
      rest.getLast? = some ']' && rest.dropLast ≠ [] &&
        rest.dropLast.all fun char => isUnreserved char || isSubDelim char || char = ':'
  | _ => false

/-- A host is a name, an IPv4 address among them, or a literal in brackets. -/
def isHost (text : List Char) : Bool := isEncoded [] text || isIpLiteral text

/-- A port has digits only, and may have none. -/
def isPort (text : List Char) : Bool := text.all Char.isDigit

/-- A path is empty or begins with a slash. -/
def isPath (text : List Char) : Bool :=
  (text = [] || text.head? = some '/') && isEncoded [':', '@', '/'] text

/-- A query may have slashes and question marks. -/
def isQuery (text : List Char) : Bool := isEncoded [':', '@', '/', '?'] text

/-- An encoded text to which nothing is added has no delimiter. -/
theorem plain_of_encoded {text : List Char}
    (encoded : ∀ char ∈ text, isEncodedChar [] char = true) : Plain text := by
  intro char member delimits
  exact absurd (mem_extra_of_genDelims (encoded char member) delimits) List.not_mem_nil

/-- An encoded text with colons has no other delimiter. -/
theorem plainButColons_of_encoded {text : List Char}
    (encoded : ∀ char ∈ text, isEncodedChar [':'] char = true) : PlainButColons text := by
  intro char member delimits
  exact List.mem_singleton.mp (mem_extra_of_genDelims (encoded char member) delimits)

/-- A scheme has no delimiter and nothing that would have to be encoded. -/
theorem encoded_of_isScheme {text : List Char} (valid : isScheme text = true) :
    ∀ char ∈ text, isEncodedChar [] char = true := by
  cases text with
  | nil => cases valid
  | cons first rest =>
    rw [isScheme, Bool.and_eq_true, List.all_eq_true] at valid
    rw [List.forall_mem_cons]
    constructor
    · simp [isEncodedChar, isUnreserved, Char.isAlphanum, valid.1]
    · intro char member
      have allowed := valid.2 char member
      rw [Bool.or_eq_true] at allowed
      rcases allowed with letter | mark
      · simp [isEncodedChar, isUnreserved, letter]
      · have marks : ['+', '-', '.'].all (isEncodedChar []) = true := by decide
        exact List.all_eq_true.mp marks char (of_decide_eq_true mark)

/-- A literal is in brackets, and between them is nothing but what may stand in an address
with colons. -/
theorem isIpLiteral_eq_true {text : List Char} (valid : isIpLiteral text = true) :
    ∃ literal, text = '[' :: literal ++ [']'] ∧
      ∀ char ∈ literal, isEncodedChar [':'] char = true := by
  unfold isIpLiteral at valid
  split at valid
  · rename_i rest
    simp only [Bool.and_eq_true, decide_eq_true_eq, List.all_eq_true] at valid
    obtain ⟨⟨last, -⟩, allowed⟩ := valid
    refine ⟨rest.dropLast, ?_, ?_⟩
    · rw [List.cons_append, List.dropLast_append_getLast? _ last]
    · intro char member
      have known := allowed char member
      simp only [Bool.or_eq_true, decide_eq_true_eq] at known
      simp only [isEncodedChar, Bool.or_eq_true, decide_eq_true_eq, List.mem_singleton]
      rcases known with (unreserved | sub) | colon
      · exact .inl (.inl (.inl unreserved))
      · exact .inl (.inl (.inr sub))
      · exact .inr colon
  · cases valid

/-- An address with an authority. -/
structure Uri where
  scheme : String
  userinfo : Option String
  host : String
  port : Option String
  path : String
  query : Option String
  validScheme : isScheme scheme.toList = true
  validUserinfo : userinfo.all (fun text => isUserinfo text.toList) = true
  validHost : isHost host.toList = true
  validPort : port.all (fun digits => isPort digits.toList) = true
  validPath : isPath path.toList = true
  validQuery : query.all (fun text => isQuery text.toList) = true

namespace Uri

variable (uri : Uri)

/-- The authority of an address, as it is written. -/
def authority : String :=
  (uri.userinfo.elim "" fun text => text ++ "@") ++ uri.host ++
    uri.port.elim "" fun digits => ":" ++ digits

/-- The path and the query. -/
def tail : String := uri.path ++ uri.query.elim "" fun text => "?" ++ text

/-- An address as it is written. What follows the authority begins with its own
delimiter. -/
def text : String := uri.scheme ++ "://" ++ uri.authority ++ uri.tail

/-- The number of the port. -/
def portNumber : Option Nat :=
  uri.port.map fun digits => decimalFrom 0 digits.toList

/-- The user of an address is encoded, but for colons. -/
theorem encoded_userinfo {text : String} (named : uri.userinfo = some text) :
    ∀ char ∈ text.toList, isEncodedChar [':'] char = true := by
  have valid := uri.validUserinfo
  rw [named, Option.all_some] at valid
  intro char member
  exact isEncodedChar_of_mem valid member

/-- The port of an address has no delimiter. -/
theorem encoded_port {digits : String} (numbered : uri.port = some digits) :
    ∀ char ∈ digits.toList, isEncodedChar [] char = true := by
  have valid := uri.validPort
  rw [numbered, Option.all_some, isPort, List.all_eq_true] at valid
  intro char member
  simp [isEncodedChar, isUnreserved, Char.isAlphanum, valid char member]

/-- The host of an address has no delimiter, or it is a literal. -/
theorem encoded_host : (∀ char ∈ uri.host.toList, isEncodedChar [] char = true) ∨
    ∃ literal, uri.host.toList = '[' :: literal ++ [']'] ∧
      ∀ char ∈ literal, isEncodedChar [':'] char = true := by
  have valid := uri.validHost
  rw [isHost, Bool.or_eq_true] at valid
  rcases valid with name | literal
  · exact .inl fun char member => isEncodedChar_of_mem name member
  · exact .inr (isIpLiteral_eq_true literal)

/-- What follows the authority is empty, or begins with the delimiter that ends it. -/
theorem tail_delimited : uri.tail.toList = [] ∨
    ∃ delim rest, delim ∈ ['/', '?'] ∧ uri.tail.toList = delim :: rest := by
  have valid := uri.validPath
  rw [isPath, Bool.and_eq_true, Bool.or_eq_true, decide_eq_true_eq, decide_eq_true_eq] at valid
  rw [tail, String.toList_append]
  obtain ⟨empty | slash, -⟩ := valid
  · rw [empty, List.nil_append]
    cases uri.query with
    | none => exact .inl rfl
    | some text => exact .inr ⟨'?', text.toList, by decide, by simp⟩
  · obtain ⟨rest, path⟩ := List.head?_eq_some_iff.mp slash
    exact .inr ⟨'/', _, by decide, by rw [path, List.cons_append]⟩

/-- The parts of an address in lower case. -/
def lowercasePieces : Pieces where
  scheme := uri.scheme.toList.map Char.toLower
  userinfo := uri.userinfo.map fun text => text.toList.map Char.toLower
  host := uri.host.toList.map Char.toLower
  port := uri.port.map fun digits => digits.toList.map Char.toLower
  tail := uri.tail.toList.map Char.toLower
  plainScheme := (plain_of_encoded (encoded_of_isScheme uri.validScheme)).map_toLower
  plainUserinfo := by
    intro lower member
    obtain ⟨text, named, rfl⟩ := Option.map_eq_some_iff.mp member
    exact (plainButColons_of_encoded (uri.encoded_userinfo named)).map_toLower
  plainHost := by
    rcases uri.encoded_host with plain | ⟨literal, bracketed, plain⟩
    · exact .inl (plain_of_encoded plain).map_toLower
    · refine .inr ⟨literal.map Char.toLower, ?_, (plainButColons_of_encoded plain).map_toLower⟩
      rw [bracketed]
      simp
  plainPort := by
    intro lower member
    obtain ⟨digits, numbered, rfl⟩ := Option.map_eq_some_iff.mp member
    exact (plain_of_encoded (uri.encoded_port numbered)).map_toLower
  delimitedTail := by
    rcases uri.tail_delimited with none | ⟨delim, rest, delimits, cut⟩
    · exact .inl (by rw [none]; rfl)
    · have lower : ['/', '?'].all (fun delim => delim.toLower == delim) = true := by decide
      have same := eq_of_beq (List.all_eq_true.mp lower delim delimits)
      exact .inr ⟨delim, rest.map Char.toLower, delimits, by rw [cut, List.map_cons, same]⟩

/-- The authority of the pieces in lower case is the authority in lower case, for every
delimiter is its own lower case. -/
theorem lowercasePieces_authority :
    uri.lowercasePieces.authority = uri.authority.toList.map Char.toLower := by
  have colon : Char.toLower ':' = ':' := by decide
  have sign : Char.toLower '@' = '@' := by decide
  cases named : uri.userinfo <;> cases numbered : uri.port <;>
    simp [Pieces.authority, Pieces.hostPort, lowercasePieces, authority, named, numbered, colon,
      sign]

/-- They make up the address in lower case. -/
theorem lowercasePieces_text : uri.lowercasePieces.text = uri.text.toList.map Char.toLower := by
  have colon : Char.toLower ':' = ':' := by decide
  have slash : Char.toLower '/' = '/' := by decide
  rw [Pieces.text, lowercasePieces_authority]
  simp [lowercasePieces, text, colon, slash]

/-- A port is in lower case. -/
theorem lowercasePieces_port : uri.lowercasePieces.port = uri.port.map String.toList := by
  refine Option.map_congr fun digits numbered => ?_
  have valid := uri.validPort
  rw [numbered, Option.all_some, isPort, List.all_eq_true] at valid
  have same : ∀ char ∈ digits.toList, char.toLower = id char := fun char member =>
    toLower_eq_self_of_isDigit (valid char member)
  rw [List.map_congr_left same, List.map_id]

/-- The host of an address is ASCII, so its lower case does not depend on Unicode
tables. -/
theorem isAscii_host : IsAscii uri.host.toList := by
  rcases uri.encoded_host with encoded | ⟨literal, bracketed, encoded⟩
  · exact isAscii_of_encoded (by decide) encoded
  · rw [bracketed, isAscii_append, isAscii_cons]
    exact ⟨⟨by decide, isAscii_of_encoded (by decide) encoded⟩, by decide⟩

/-- The authority of an address is ASCII. -/
theorem isAscii_authority : IsAscii uri.authority.toList := by
  rw [authority, String.toList_append, String.toList_append, isAscii_append, isAscii_append]
  refine ⟨⟨?_, uri.isAscii_host⟩, ?_⟩
  · cases named : uri.userinfo with
    | none => decide
    | some text =>
      rw [Option.elim_some, String.toList_append, isAscii_append]
      exact ⟨isAscii_of_encoded (by decide) (uri.encoded_userinfo named), by decide⟩
  · cases numbered : uri.port with
    | none => decide
    | some digits =>
      rw [Option.elim_some, String.toList_append, isAscii_append]
      exact ⟨by decide, isAscii_of_encoded (by decide) (uri.encoded_port numbered)⟩

/-- What follows the authority is ASCII. -/
theorem isAscii_tail : IsAscii uri.tail.toList := by
  have path := uri.validPath
  rw [isPath, Bool.and_eq_true] at path
  rw [tail, String.toList_append, isAscii_append]
  refine ⟨isAscii_of_encoded (by decide) fun char member => isEncodedChar_of_mem path.2 member, ?_⟩
  cases asked : uri.query with
  | none => decide
  | some text =>
    have query := uri.validQuery
    rw [asked, Option.all_some, isQuery] at query
    rw [Option.elim_some, String.toList_append, isAscii_append]
    exact ⟨by decide,
      isAscii_of_encoded (by decide) fun char member => isEncodedChar_of_mem query member⟩

/-- An address is written in ASCII. -/
theorem isAscii_text : IsAscii uri.text.toList := by
  rw [text, String.toList_append, String.toList_append, String.toList_append, isAscii_append,
    isAscii_append, isAscii_append]
  exact ⟨⟨⟨isAscii_of_encoded (by decide) (encoded_of_isScheme uri.validScheme),
    by decide⟩, uri.isAscii_authority⟩, uri.isAscii_tail⟩

end Uri

end Syntax

end SecureDatabase.Foundation
