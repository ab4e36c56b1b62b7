import Mathlib.Data.List.TakeWhile
import SecureDatabase.Foundation.SqlText

/-!
# Tokens of a statement

A text is read one character at a time. A double quote opens a delimited identifier, two of them
inside it stand for one, a single one closes it. Outside of identifiers there are words, blanks
and symbols of one character; no character is skipped, so the tokens account for the whole text.
A server takes a text up to its first null character.

What a front part of a text yields depends only on the state in which the scanner meets it, and
parts compose (`advance_append`). The limits on the length of an identifier are not part of the
rule.
-/

namespace SecureDatabase.Foundation

/-- What a statement is cut into: bare words, quoted identifiers, and single characters of
anything else. -/
inductive Token where
  | word (text : String)
  | identifier (name : String)
  | symbol (char : Char)
deriving DecidableEq

/-- What has been read of a token that may go on. -/
inductive Scanner where
  | between
  | word (text : List Char)
  | inside (name : List Char)
  | closing (name : List Char)

/-- A character that separates tokens. -/
def isBlank (char : Char) : Bool := char ∈ [' ', '\t', '\n', '\r', '\x0B', '\x0C']

/-- A character that a word begins with. -/
def isWordStart (char : Char) : Bool := char.isAlpha || char = '_' || 0x80 ≤ char.toNat

/-- A character that a word goes on with. -/
def isWordPart (char : Char) : Bool := isWordStart char || char.isDigit || char = '$'

namespace Scanner

/-- A character outside of every token. -/
def start (char : Char) : List Token × Scanner :=
  if char = '"' then ([], inside [])
  else if isBlank char then ([], between)
  else if isWordStart char then ([], word [char])
  else ([.symbol char], between)

/-- The tokens that a character completes, and how the scanner goes on. -/
def step : Scanner → Char → List Token × Scanner
  | between, char => start char
  | word text, char =>
      if isWordPart char then ([], word (text ++ [char]))
      else (.word (String.ofList text) :: (start char).1, (start char).2)
  | inside name, char =>
      if char = '"' then ([], closing name) else ([], inside (name ++ [char]))
  | closing name, char =>
      -- a second double quote belongs to the name
      if char = '"' then ([], inside (name ++ ['"']))
      else (.identifier (String.ofList name) :: (start char).1, (start char).2)

/-- The tokens that the end of a text completes; an identifier has to be closed. -/
def finish : Scanner → Option (List Token)
  | between => some []
  | word text => some [.word (String.ofList text)]
  | inside _ => none
  | closing name => some [.identifier (String.ofList name)]

/-- The tokens that characters complete, and how the scanner goes on after them. -/
def advance : Scanner → List Char → List Token × Scanner
  | scanner, [] => ([], scanner)
  | scanner, char :: rest =>
      ((scanner.step char).1 ++ (advance (scanner.step char).2 rest).1,
        (advance (scanner.step char).2 rest).2)

/-- The tokens of the characters up to the end. -/
def read (scanner : Scanner) (text : List Char) : Option (List Token) :=
  (scanner.advance text).2.finish.map ((scanner.advance text).1 ++ ·)

end Scanner

/-- The null character ends a text. -/
def NulFree (text : String) : Prop := '\x00' ∉ text.toList

/-- Whether a text is free of NUL can be computed. -/
instance (text : String) : Decidable (NulFree text) :=
  inferInstanceAs (Decidable ('\x00' ∉ text.toList))

/-- The tokens of a text. -/
def lex (text : String) : Option (List Token) :=
  Scanner.between.read (text.toList.takeWhile (· ≠ '\x00'))

/-- The statements of a text: semicolons separate them, and there may be nothing between two. -/
def readStatements (text : String) : Option (List (List Token)) :=
  (lex text).map fun tokens => (tokens.splitOn (.symbol ';')).filter (· ≠ [])

namespace Scanner

/-- Reading goes on from where the scanner was left, so a text may be read in two
parts. -/
theorem advance_append (scanner : Scanner) (front back : List Char) :
    scanner.advance (front ++ back) =
      ((scanner.advance front).1 ++ ((scanner.advance front).2.advance back).1,
        ((scanner.advance front).2.advance back).2) := by
  induction front generalizing scanner with
  | nil => rfl
  | cons char front ih => simp only [List.cons_append, advance, ih, List.append_assoc]

/-- The scanner resumes after a front part where that part left it. -/
theorem read_append {scanner next : Scanner} {front : List Char} {tokens : List Token}
    (advanced : scanner.advance front = (tokens, next)) (back : List Char) :
    scanner.read (front ++ back) = (next.read back).map (tokens ++ ·) := by
  simp only [read, advance_append, advanced, Option.map_map]
  congr 1
  funext later
  simp

/-- Inside an identifier the doubled quotes of a name are read as the name. -/
theorem advance_inside (read name : List Char) :
    (inside read).advance (name.flatMap (fun char => if char = '"' then ['"', '"'] else [char])) =
      ([], inside (read ++ name)) := by
  induction name generalizing read with
  | nil => simp [advance]
  | cons char name ih =>
    rw [List.flatMap_cons, advance_append]
    by_cases quote : char = '"'
    · subst char
      simp [advance, step, ih]
    · simp [advance, step, quote, ih]

/-- A quoted name is read up to the quote that closes it. -/
theorem advance_delimited (name : List Char) :
    between.advance (delimited name) = ([], closing name) := by
  have opened : between.advance ['"'] = ([], inside []) := rfl
  have text : delimited name = ['"'] ++
      (name.flatMap (fun char => if char = '"' then ['"', '"'] else [char]) ++ ['"']) := by
    simp [delimited]
  rw [text, advance_append, opened, advance_append, advance_inside]
  simp [advance, step]

end Scanner

/-- Up to a null character a text is read whole. -/
theorem lex_of_nulFree {text : String} (free : NulFree text) :
    lex text = Scanner.between.read text.toList := by
  have whole : text.toList.takeWhile (· ≠ '\x00') = text.toList := by
    rw [List.takeWhile_eq_self_iff]
    intro char member
    have other : char ≠ '\x00' := by
      rintro rfl
      exact free member
    simp [other]
  rw [lex, whole]

/-- Texts without NUL may be put together. -/
theorem NulFree.append {first second : String} (front : NulFree first) (back : NulFree second) :
    NulFree (first ++ second) := by
  unfold NulFree at front back ⊢
  simp [front, back]

/-- Quoting adds no character but quotes. -/
theorem NulFree.delimited {name : String} (free : NulFree name) :
    NulFree (String.ofList (delimited name.toList)) := by
  unfold NulFree at free ⊢
  rw [String.toList_ofList]
  intro member
  simp only [Foundation.delimited, List.cons_append, List.mem_cons, List.mem_append,
    List.mem_flatMap, List.not_mem_nil, or_false] at member
  have quote : ('\x00' : Char) ≠ '"' := by decide
  rcases member with first | ⟨char, present, written⟩ | last
  · exact quote first
  · split at written
    case isTrue _ =>
      simp [quote] at written
    case isFalse _ =>
      rw [List.mem_singleton] at written
      exact free (written ▸ present)
  · exact quote last

end SecureDatabase.Foundation
