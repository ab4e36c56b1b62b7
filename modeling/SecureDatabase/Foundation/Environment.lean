import Mathlib.Algebra.Group.Nat.Defs
import SecureDatabase.Foundation.Text

/-!
# The environment of a process

A variable is absent, holds a text, or holds octets that are no text. Numbers are read from
texts the way the Rust standard library reads unsigned integers: an optional plus sign and at
least one decimal digit, in the range of a width.
-/

namespace SecureDatabase.Foundation

/-- A variable of the environment. -/
inductive EnvVar where
  | absent
  | notUnicode (octets : Bytes)
  | text (value : String)

/-- Every variable by its name. -/
abbrev Environment := String → EnvVar

/-- What `Debug` writes for a text and for octets. -/
structure DebugText where
  str : String → String
  osStr : Bytes → String

/-- Why a variable has no text. -/
inductive VarError where
  | notPresent
  | notUnicode (octets : Bytes)

/-- The text of the error of `env::var`. How octets that are no text are shown is left
open. -/
def VarError.display (debug : DebugText) : VarError → String
  | notPresent => "environment variable not found"
  | notUnicode octets => "environment variable was not valid unicode: " ++ debug.osStr octets

namespace Environment

/-- `env::var`. -/
def var (env : Environment) (key : String) : Except VarError String :=
  match env key with
  | .absent => .error .notPresent
  | .notUnicode octets => .error (.notUnicode octets)
  | .text value => .ok value

/-- `env::var` with its error dropped. -/
def text (env : Environment) (key : String) : Option String :=
  match env key with
  | .text value => some value
  | _ => none

/-- `env::var_os` finds something. -/
def isSet (env : Environment) (key : String) : Bool :=
  match env key with
  | .absent => false
  | _ => true

/-- A variable is read without an error exactly when it holds a text. -/
@[simp] theorem var_eq_ok_iff (env : Environment) (key value : String) :
    env.var key = .ok value ↔ env key = .text value := by
  unfold var
  cases env key <;> simp

/-- `env::var(..).ok()` gives the text of a variable, and nothing both where it is absent
and where it holds no text. -/
@[simp] theorem text_eq_some_iff (env : Environment) (key value : String) :
    env.text key = some value ↔ env key = .text value := by
  unfold text
  cases env key <;> simp

/-- A variable is not set exactly when it is absent; one that holds no text is set. -/
@[simp] theorem isSet_eq_false_iff (env : Environment) (key : String) :
    env.isSet key = false ↔ env key = .absent := by
  unfold isSet
  cases env key <;> simp

end Environment

/-- `str::to_ascii_lowercase`. -/
def asciiLowercase (text : String) : String := String.ofList (text.toList.map Char.toLower)

/-- Lower case is taken character by character. -/
theorem toList_asciiLowercase (text : String) :
    (asciiLowercase text).toList = text.toList.map Char.toLower :=
  String.toList_ofList

/-- Lower-casing adds no character but lower-case letters. -/
theorem not_mem_asciiLowercase {char : Char} (plain : char.isLower = false) {text : String}
    (free : char ∉ text.toList) : char ∉ (asciiLowercase text).toList := by
  rw [toList_asciiLowercase]
  intro member
  obtain ⟨original, present, lowered⟩ := List.mem_map.mp member
  have same := eq_of_toLower_eq plain lowered
  exact free (same ▸ present)

/-- Lowering the case of a text that is not empty leaves one that is not empty. -/
theorem asciiLowercase_ne_empty {text : String} (nonempty : text ≠ "") :
    asciiLowercase text ≠ "" := by
  intro empty
  have chars := congrArg String.toList empty
  rw [toList_asciiLowercase] at chars
  exact nonempty (String.toList_eq_nil_iff.mp (List.map_eq_nil_iff.mp chars))

/-- A text that is in lower case stays as it is, so lowering twice is lowering once. -/
theorem asciiLowercase_asciiLowercase (text : String) :
    asciiLowercase (asciiLowercase text) = asciiLowercase text := by
  have each (char : Char) : char.toLower.toLower = char.toLower := by
    by_cases small : char.toNat < 128
    · have all : ∀ char : Char, char.toNat < 128 → char.toLower.toLower = char.toLower :=
        forall_toNat_lt (by decide +kernel)
      exact all char small
    · -- only ASCII letters change
      have upper : ¬ ('A'.val ≤ char.val ∧ char.val ≤ 'Z'.val) := by
        rintro ⟨-, last⟩
        exact small (Nat.lt_of_le_of_lt (UInt32.le_iff_toNat_le.mp last) (by decide))
      have same : char.toLower = char := dif_neg upper
      rw [same, same]
  refine String.toList_injective ?_
  rw [toList_asciiLowercase, toList_asciiLowercase, List.map_map]
  exact List.map_congr_left fun char _ => each char

/-- `str::split` at a character. -/
def splitChar (separator : Char) (text : String) : List String :=
  (text.toList.splitOn separator).map String.ofList

/-- Why a text is no unsigned number. -/
inductive ParseIntError where
  | empty
  | invalidDigit
  | posOverflow

/-- The texts of the errors of `parse` for an unsigned integer. -/
def ParseIntError.display : ParseIntError → String
  | empty => "cannot parse integer from empty string"
  | invalidDigit => "invalid digit found in string"
  | posOverflow => "number too large to fit in target type"

/-- The value of a decimal digit. -/
def digitValue (char : Char) : Nat := char.toNat - 48

/-- `char::to_digit` in base ten. -/
def toDigit (char : Char) : Option Nat :=
  if '0' ≤ char ∧ char ≤ '9' then some (digitValue char) else none

/-- Read digits onto a number, below a limit. -/
def readDigits (limit : Nat) : Nat → List Char → Except ParseIntError Nat
  | number, [] => .ok number
  | number, char :: rest =>
      match toDigit char with
      | none => .error .invalidDigit
      | some digit =>
          if number * 10 + digit < limit then readDigits limit (number * 10 + digit) rest
          else .error .posOverflow

/-- The digits after an optional plus sign. -/
def unsignedDigits : List Char → List Char
  | '+' :: digits => digits
  | digits => digits

/-- `str::parse` to an unsigned integer of a width. -/
def parseUnsigned (width : Nat) (text : String) : Except ParseIntError Nat :=
  if text.toList = [] then .error .empty
  else if unsignedDigits text.toList = [] then .error .invalidDigit
  else readDigits (2 ^ width) 0 (unsignedDigits text.toList)

/-- The number that decimal digits denote, after those already read. -/
def decimalFrom (number : Nat) (digits : List Char) : Nat :=
  digits.foldl (fun number digit => number * 10 + digitValue digit) number

/-- A text is an unsigned number of a width: decimal digits, at least one, after an optional
plus sign. -/
def IsUnsigned (width : Nat) (text : String) : Prop :=
  unsignedDigits text.toList ≠ [] ∧
    (∀ digit ∈ unsignedDigits text.toList, '0' ≤ digit ∧ digit ≤ '9') ∧
    decimalFrom 0 (unsignedDigits text.toList) < 2 ^ width

/-- Reading a number goes on from ten times what was read so far and the next digit. -/
theorem decimalFrom_cons (number : Nat) (digit : Char) (rest : List Char) :
    decimalFrom number (digit :: rest) = decimalFrom (number * 10 + digitValue digit) rest := by
  rw [decimalFrom, List.foldl_cons, decimalFrom]

/-- Further digits never make a number smaller, so what is too large stays too large. -/
theorem le_decimalFrom (number : Nat) (digits : List Char) : number ≤ decimalFrom number digits := by
  induction digits generalizing number with
  | nil => exact Nat.le_refl _
  | cons digit rest ih =>
    have read := ih (number * 10 + digitValue digit)
    rw [decimalFrom_cons]
    omega

/-- Digits are read exactly when they are digits and their number stays below the limit. -/
theorem readDigits_ok_iff {limit number : Nat} (small : number < limit) (digits : List Char)
    (result : Nat) :
    readDigits limit number digits = .ok result ↔
      (∀ digit ∈ digits, '0' ≤ digit ∧ digit ≤ '9') ∧ decimalFrom number digits < limit ∧
        decimalFrom number digits = result := by
  induction digits generalizing number with
  | nil => simp [readDigits, decimalFrom, small]
  | cons digit rest ih =>
    rw [readDigits, decimalFrom_cons, List.forall_mem_cons]
    by_cases known : '0' ≤ digit ∧ digit ≤ '9'
    · by_cases fits : number * 10 + digitValue digit < limit
      · simp only [toDigit, known, and_self, ↓reduceIte, fits, ih fits, true_and]
      · -- what has been read already only grows
        have grown := le_decimalFrom (number * 10 + digitValue digit) rest
        have large : ¬ decimalFrom (number * 10 + digitValue digit) rest < limit := by
          omega
        simp [toDigit, known, fits, large]
    · simp [toDigit, known]

/-- Exactly the unsigned numbers of a width are read, each as the number it denotes. -/
theorem parseUnsigned_ok_iff (width : Nat) (text : String) (result : Nat) :
    parseUnsigned width text = .ok result ↔
      IsUnsigned width text ∧ decimalFrom 0 (unsignedDigits text.toList) = result := by
  have positive : 0 < 2 ^ width := Nat.two_pow_pos width
  rw [parseUnsigned, IsUnsigned]
  by_cases empty : text.toList = []
  · simp [empty, unsignedDigits]
  · by_cases bare : unsignedDigits text.toList = []
    · simp [empty, bare]
    · simp [empty, bare, readDigits_ok_iff positive, and_assoc]

end SecureDatabase.Foundation
