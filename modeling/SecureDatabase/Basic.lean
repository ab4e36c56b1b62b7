import SecureDatabase.Foundation.Text

/-!
# Errors and identifiers

The crate's error type with its message texts, and the identifiers that key its
records. An identifier is sixteen octets; its displayed form is the hyphenated
lower-case one, which determines it.
-/

namespace SecureDatabase

open Foundation

/-- Error type returned by the crate; each kind carries its message. -/
inductive DatabaseError where
  | connection (message : String)
  | query (message : String)
  | migration (message : String)
  | encryption (message : String)
  | configuration (message : String)
  | io (message : String)
  | integrity (message : String)
  | attestation (message : String)
  | zeroKnowledge (message : String)
  | unsupported (message : String)
deriving DecidableEq

/-- The text of an error. -/
def DatabaseError.display : DatabaseError → String
  | connection message => "database connection error: " ++ message
  | query message => "database query error: " ++ message
  | migration message => "migration error: " ++ message
  | encryption message => "encryption error: " ++ message
  | configuration message => "configuration error: " ++ message
  | io message => "io error: " ++ message
  | integrity message => "integrity violation: " ++ message
  | attestation message => "tee attestation error: " ++ message
  | zeroKnowledge message => "zero-knowledge error: " ++ message
  | unsupported message => "unsupported feature: " ++ message

/-- Result type used throughout the crate. -/
abbrev DbResult (α : Type) := Except DatabaseError α

/-- `Option::ok_or_else`: an absent value is the given error. -/
def okOr {α : Type} (error : DatabaseError) : Option α → DbResult α
  | some value => .ok value
  | none => .error error

/-- A missing value is the only thing that `ok_or` turns into an error, so its result
tells what was found. -/
@[simp] theorem okOr_eq_ok_iff {α : Type} (error : DatabaseError) (found : Option α) (value : α) :
    okOr error found = .ok value ↔ found = some value := by
  cases found <;> simp [okOr]

/-- A sequence of fallible steps succeeds exactly when each of them does. -/
theorem bind_eq_ok_iff {ε α β : Type} (first : Except ε α) (next : α → Except ε β)
    (result : β) :
    (first >>= next) = .ok result ↔ ∃ value, first = .ok value ∧ next value = .ok result := by
  cases first <;> simp [bind, Except.bind]

/-- Relabelling the error of a result neither adds nor removes a success, nor changes what
it returns. -/
@[simp] theorem mapError_eq_ok_iff {ε δ α : Type} (relabel : ε → δ) (result : Except ε α)
    (value : α) : result.mapError relabel = .ok value ↔ result = .ok value := by
  cases result <;> simp [Except.mapError]

/-- An early return with an error, unless a condition holds. -/
def require {ε : Type} (condition : Bool) (error : ε) : Except ε Unit :=
  if condition then .ok () else .error error

/-- A requirement passes exactly when its condition holds, so a passed gate can be read as
that condition. -/
@[simp] theorem require_eq_ok_iff {ε : Type} (condition : Bool) (error : ε) :
    require condition error = .ok () ↔ condition = true := by
  cases condition <;> simp [require]

/-- A 128-bit identifier. -/
structure Uuid where
  octets : Bytes
  sixteen : octets.length = 16
deriving DecidableEq

namespace Uuid

/-- The identifier of all zero octets. -/
def nil : Uuid := ⟨List.replicate 16 0, rfl⟩

/-- The identifier whose last octet is given and whose others are zero. -/
def last (octet : UInt8) : Uuid := ⟨List.replicate 15 0 ++ [octet], rfl⟩

/-- Groups of 8, 4, 4, 4 and 12 hexadecimal digits joined by hyphens. -/
def hyphenated (digits : List Char) : List Char :=
  digits.take 8 ++ '-' :: ((digits.drop 8).take 4 ++ '-' :: ((digits.drop 12).take 4 ++
    '-' :: ((digits.drop 16).take 4 ++ '-' :: digits.drop 20)))

/-- The displayed form of an identifier. -/
def display (id : Uuid) : String := String.ofList (hyphenated (hexDigits id.octets))

/-- The hyphenated form of an identifier has no characters beside its digits and the
hyphens. -/
theorem mem_hyphenated {digits : List Char} {char : Char} (member : char ∈ hyphenated digits) :
    char = '-' ∨ char ∈ digits := by
  simp only [hyphenated, List.mem_append, List.mem_cons] at member
  rcases member with first | rfl | second | rfl | third | rfl | fourth | rfl | fifth
  · exact .inr (List.mem_of_mem_take first)
  · exact .inl rfl
  · exact .inr (List.mem_of_mem_drop (List.mem_of_mem_take second))
  · exact .inl rfl
  · exact .inr (List.mem_of_mem_drop (List.mem_of_mem_take third))
  · exact .inl rfl
  · exact .inr (List.mem_of_mem_drop (List.mem_of_mem_take fourth))
  · exact .inl rfl
  · exact .inr (List.mem_of_mem_drop fifth)

/-- The hyphens stand at fixed places, so the digits can be read back. -/
theorem hyphenated_injective {left right : List Char} (enough : 20 ≤ left.length)
    (enoughRight : 20 ≤ right.length) (same : hyphenated left = hyphenated right) :
    left = right := by
  have length (digits : List Char) (from_ count : Nat) (long : from_ + count ≤ digits.length) :
      ((digits.drop from_).take count).length = count := by
    rw [List.length_take, List.length_drop]
    omega
  have whole (digits : List Char) : digits = digits.take 8 ++ ((digits.drop 8).take 4 ++
      ((digits.drop 12).take 4 ++ ((digits.drop 16).take 4 ++ digits.drop 20))) := by
    have rejoin (from_ : Nat) : (digits.drop from_).take 4 ++ digits.drop (from_ + 4) =
        digits.drop from_ := by
      rw [← List.drop_drop, List.take_append_drop]
    rw [rejoin 16, rejoin 12, rejoin 8, List.take_append_drop]
  unfold hyphenated at same
  obtain ⟨first, same⟩ := List.append_inj same (by
    rw [List.length_take, List.length_take]
    omega)
  obtain ⟨second, same⟩ := List.append_inj (List.cons.inj same).2 (by
    rw [length left 8 4 (by omega), length right 8 4 (by omega)])
  obtain ⟨third, same⟩ := List.append_inj (List.cons.inj same).2 (by
    rw [length left 12 4 (by omega), length right 12 4 (by omega)])
  obtain ⟨fourth, same⟩ := List.append_inj (List.cons.inj same).2 (by
    rw [length left 16 4 (by omega), length right 16 4 (by omega)])
  rw [whole left, whole right, first, second, third, fourth, (List.cons.inj same).2]

/-- Different identifiers are displayed differently. -/
theorem display_injective {left right : Uuid} (same : left.display = right.display) :
    left = right := by
  have digits : hexDigits left.octets = hexDigits right.octets := by
    refine hyphenated_injective ?_ ?_ (String.ofList_injective same)
    · rw [length_hexDigits, left.sixteen]
      decide
    · rw [length_hexDigits, right.sixteen]
      decide
  cases left
  cases right
  simp only [mk.injEq]
  exact hexDigits_injective digits

/-- Hexadecimal digits are printable; none of them is the NUL that the server refuses in a
text. -/
theorem hexDigit_ne_nul (value : Nat) (small : value < 16) : hexDigit value ≠ '\x00' := by
  have all : ∀ value < 16, hexDigit value ≠ '\x00' := by decide
  exact all value small

/-- What is written in hexadecimal is always a text that the server receives. -/
theorem nul_not_mem_hexDigits (bytes : Bytes) : '\x00' ∉ hexDigits bytes := by
  induction bytes with
  | nil => simp [hexDigits]
  | cons octet rest inductionHypothesis =>
    have bound : octet.toNat < 256 := octet.toNat_lt
    have high := hexDigit_ne_nul (octet.toNat / 16) (by omega)
    have low := hexDigit_ne_nul (octet.toNat % 16) (by omega)
    simp [hexDigits, inductionHypothesis, Ne.symm high, Ne.symm low]

/-- An identifier is written in digits and hyphens, so its text has no NUL. -/
theorem nul_not_mem_display (id : Uuid) : '\x00' ∉ id.display.toList := by
  intro member
  simp only [display, String.toList_ofList] at member
  rcases mem_hyphenated member with hyphen | digit
  · exact absurd hyphen (by decide)
  · exact nul_not_mem_hexDigits _ digit

end Uuid

end SecureDatabase
