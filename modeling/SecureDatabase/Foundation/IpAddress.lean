import Mathlib.Data.List.TakeWhile
import SecureDatabase.Foundation.Text

/-!
# Addresses of the internet protocol

The textual forms that the Rust standard library reads: four decimal octets without leading
zeros, or groups of at most four hexadecimal digits with one run of zeros left out and the last
two groups possibly written as octets. A reader takes what it can from the front of the input
and leaves the rest.

The first form is read exactly from the decimal writings of four octets (`parse_eq_v4_iff`); the
second needs a colon, and neither begins with a bracket.
-/

namespace SecureDatabase.Foundation

/-- An address as its octets or its groups. -/
inductive IpAddr where
  | v4 (octets : List Nat)
  | v6 (groups : List Nat)
deriving DecidableEq

/-- `IpAddr::is_loopback`. -/
def IpAddr.isLoopback : IpAddr → Bool
  | v4 octets => octets.head? = some 127
  | v6 groups => groups = [0, 0, 0, 0, 0, 0, 0, 1]

namespace IpAddr

/-- What was read, and the input that is left. -/
abbrev Reader (α : Type) := List Char → Option (α × List Char)

/-- `read_given_char`: one character that has to be this one. -/
def readGivenChar (expected : Char) : Reader Unit
  | char :: rest => if char = expected then some ((), rest) else none
  | [] => none

/-- A number in a radix below a limit, of at most so many digits; a leading zero is read on its
own unless more may follow it. -/
def readNumber (radix maxDigits limit : Nat) (zeroPrefix : Bool) : Reader Nat := fun input =>
  let isDigit := fun char => (hexValue char).any (fun value => value < radix)
  let digits := input.takeWhile isDigit
  let number := digits.foldl (fun number digit => number * radix + (hexValue digit).getD 0) 0
  if digits = [] || maxDigits < digits.length ||
      (!zeroPrefix && digits.head? = some '0' && 1 < digits.length) || limit ≤ number then none
  else some (number, input.drop digits.length)

/-- A separator is read before every part but the first. -/
def readSeparator {α : Type} (separator : Char) (index : Nat) (inner : Reader α) : Reader α :=
  fun input =>
    if index = 0 then inner input
    else do
      let (_, rest) ← readGivenChar separator input
      inner rest

/-- `read_ipv4_addr`: four numbers of at most three digits below 256, with points between
them. -/
def readIpv4Addr : Reader (List Nat) := fun input => do
  let octet := readNumber 10 3 256 false
  let (first, rest) ← readSeparator '.' 0 octet input
  let (second, rest) ← readSeparator '.' 1 octet rest
  let (third, rest) ← readSeparator '.' 2 octet rest
  let (fourth, rest) ← readSeparator '.' 3 octet rest
  return ([first, second, third, fourth], rest)

/-- The two groups that four octets are. -/
def groupsOfOctets : List Nat → List Nat
  | [first, second, third, fourth] => [first * 256 + second, third * 256 + fourth]
  | _ => []

/-- Groups up to a number of them: those read, whether the last two were octets, and the input
that is left. -/
def readGroups : Nat → Nat → List Char → List Nat × Bool × List Char
  | 0, _, input => ([], false, input)
  | slots + 1, index, input =>
      match if 0 < slots then readSeparator ':' index readIpv4Addr input else none with
      | some (octets, rest) => (groupsOfOctets octets, true, rest)
      | none =>
          match readSeparator ':' index (readNumber 16 4 65536 true) input with
          | none => ([], false, input)
          | some (group, rest) =>
              let (groups, octets, rest) := readGroups slots (index + 1) rest
              (group :: groups, octets, rest)

/-- `read_ipv6_addr`: groups before a double colon and after it, which stands for the
groups of zeros that are missing; eight groups need none. -/
def readIpv6Addr : Reader (List Nat) := fun input =>
  let (head, octets, rest) := readGroups 8 0 input
  if head.length = 8 then some (head, rest)
  else if octets then none
  else do
    let (_, rest) ← readGivenChar ':' rest
    let (_, rest) ← readGivenChar ':' rest
    let (tail, _, rest) := readGroups (8 - (head.length + 1)) 0 rest
    return (head ++ List.replicate (8 - head.length - tail.length) 0 ++ tail, rest)

/-- `str::parse` to an address: all of the input is read. -/
def parse (text : String) : Option IpAddr :=
  match readIpv4Addr text.toList with
  | some (octets, rest) => if rest = [] then some (v4 octets) else none
  | none =>
      match readIpv6Addr text.toList with
      | some (groups, rest) => if rest = [] then some (v6 groups) else none
      | none => none

/-- The character is a decimal digit. -/
def isDecimal (char : Char) : Bool := (hexValue char).any (fun value => value < 10)

/-- The number that decimal digits denote, after one already read. -/
def decimalOnto (number : Nat) (digits : List Char) : Nat :=
  digits.foldl (fun number digit => number * 10 + (hexValue digit).getD 0) number

/-- Four numbers in decimal with dots between them. -/
def dotted (first second third fourth : Nat) : List Char :=
  Nat.toDigits 10 first ++ '.' :: (Nat.toDigits 10 second ++ '.' ::
    (Nat.toDigits 10 third ++ '.' :: Nat.toDigits 10 fourth))

section Octets

/-- A decimal digit is the digit of a number below ten. -/
theorem isDecimal_iff (char : Char) :
    isDecimal char = true ↔
      ∃ value < 10, hexValue char = some value ∧ char = Nat.digitChar value := by
  have reads : ∀ char : Char, char.toNat < 128 → ∀ value ∈ hexValue char, value < 10 →
      char = Nat.digitChar value := forall_toNat_lt (by decide +kernel)
  rw [isDecimal, Option.any_eq_true_iff_get]
  constructor
  · rintro ⟨valued, decimal⟩
    have small := of_decide_eq_true decimal
    have read := (Option.some_get valued).symm
    exact ⟨_, small, read, reads char (toNat_lt_of_hexValue valued) _ read small⟩
  · rintro ⟨value, small, read, -⟩
    simp [read, small]

/-- Digits that follow a number are written behind it. -/
theorem toDigits_decimalOnto {number : Nat} (positive : 0 < number) (digits : List Char)
    (decimal : ∀ digit ∈ digits, isDecimal digit = true) :
    Nat.toDigits 10 (decimalOnto number digits) = Nat.toDigits 10 number ++ digits := by
  induction digits generalizing number with
  | nil => simp [decimalOnto]
  | cons digit rest ih =>
    obtain ⟨value, small, read, rfl⟩ := (isDecimal_iff _).mp (decimal digit List.mem_cons_self)
    have onto : decimalOnto number (Nat.digitChar value :: rest) =
        decimalOnto (10 * number + value) rest := by
      simp [decimalOnto, read, Nat.mul_comm]
    have appended := Nat.toDigits_append_toDigits (b := 10) (by decide) positive small
    rw [Nat.toDigits_of_lt_base small] at appended
    rw [onto, ih (by omega) (fun other member => decimal other (List.mem_cons_of_mem _ member)),
      ← appended, List.append_assoc]
    rfl

/-- Digits that may be read as an octet: at most three, without a leading zero, below 256. -/
def OctetDigits (digits : List Char) : Prop :=
  digits ≠ [] ∧ digits.length ≤ 3 ∧ (digits.head? = some '0' → digits.length ≤ 1) ∧
    decimalOnto 0 digits < 256

/-- A number below 256 is read from the longest run of decimal digits, which is no longer
than three and has no leading zero. -/
theorem readNumber_octet_eq_some_iff (input : List Char) (octet : Nat) (rest : List Char) :
    readNumber 10 3 256 false input = some (octet, rest) ↔
      OctetDigits (input.takeWhile isDecimal) ∧ decimalOnto 0 (input.takeWhile isDecimal) = octet ∧
        input.dropWhile isDecimal = rest := by
  have refused : (input.takeWhile isDecimal = [] || 3 < (input.takeWhile isDecimal).length ||
      (!false && (input.takeWhile isDecimal).head? = some '0' &&
        1 < (input.takeWhile isDecimal).length) ||
      256 ≤ decimalOnto 0 (input.takeWhile isDecimal)) = true ↔
        ¬ OctetDigits (input.takeWhile isDecimal) := by
    rw [← not_iff_not, not_not, OctetDigits]
    simp only [Bool.or_eq_true, Bool.and_eq_true, decide_eq_true_eq, Bool.not_false, true_and,
      not_or, not_and, not_lt, not_le, ne_eq, and_assoc]
  have unfolded : readNumber 10 3 256 false input =
      if input.takeWhile isDecimal = [] || 3 < (input.takeWhile isDecimal).length ||
          (!false && (input.takeWhile isDecimal).head? = some '0' &&
            1 < (input.takeWhile isDecimal).length) ||
          256 ≤ decimalOnto 0 (input.takeWhile isDecimal) then none
      else some (decimalOnto 0 (input.takeWhile isDecimal),
        input.drop (input.takeWhile isDecimal).length) := rfl
  have dropped : input.drop (input.takeWhile isDecimal).length = input.dropWhile isDecimal := by
    have behind : (input.takeWhile isDecimal ++ input.dropWhile isDecimal).drop
        (input.takeWhile isDecimal).length = input.dropWhile isDecimal := List.drop_left
    rwa [List.takeWhile_append_dropWhile] at behind
  rw [unfolded, dropped]
  split
  case isTrue known => simp [refused.mp known]
  case isFalse known =>
    have taken := not_not.mp (mt refused.mpr known)
    simp [taken]

/-- The digits of a number denote it. -/
theorem decimalOnto_toDigits (number : Nat) : decimalOnto 0 (Nat.toDigits 10 number) = number := by
  have last : ∀ value < 10, (hexValue (Nat.digitChar value)).getD 0 = value := by decide
  induction number using Nat.strongRecOn with
  | ind number ih =>
    by_cases small : number < 10
    · rw [Nat.toDigits_of_lt_base small]
      simp [decimalOnto, last number small]
    · have front := ih (number / 10) (by omega)
      rw [decimalOnto] at front
      rw [Nat.toDigits_of_base_le (by decide) (Nat.not_lt.mp small), decimalOnto,
        List.foldl_append, front, List.foldl_cons, List.foldl_nil,
        last _ (Nat.mod_lt _ (by decide))]
      omega

/-- Only zero begins with a zero. -/
theorem eq_zero_of_head?_toDigits {number : Nat}
    (zero : (Nat.toDigits 10 number).head? = some '0') : number = 0 := by
  induction number using Nat.strongRecOn with
  | ind number ih =>
    by_cases small : number < 10
    · rw [Nat.toDigits_of_lt_base small] at zero
      simpa using zero
    · rw [Nat.toDigits_of_base_le (by decide) (Nat.not_lt.mp small),
        List.head?_append_of_ne_nil _ Nat.toDigits_ne_nil] at zero
      have vanishes := ih (number / 10) (by omega) zero
      omega

/-- A number is written in decimal digits only. -/
theorem isDecimal_of_mem_toDigits {number : Nat} {digit : Char}
    (member : digit ∈ Nat.toDigits 10 number) : isDecimal digit = true := by
  have digits : ∀ char : Char, char.toNat < 128 → char.isDigit = true → isDecimal char = true :=
    forall_toNat_lt (by decide +kernel)
  have digit := Nat.isDigit_of_mem_toDigits (by decide) (by decide) member
  exact digits _ (toNat_lt_of_isDigit digit) digit

/-- The decimal writing of an octet is read as the octet, up to what is no digit. -/
theorem readNumber_toDigits {octet : Nat} (small : octet < 256) {rest : List Char}
    (ends : ∀ char, rest.head? = some char → isDecimal char = false) :
    readNumber 10 3 256 false (Nat.toDigits 10 octet ++ rest) = some (octet, rest) := by
  have decimal : ∀ digit ∈ Nat.toDigits 10 octet, isDecimal digit = true :=
    fun digit member => isDecimal_of_mem_toDigits member
  have short : (Nat.toDigits 10 octet).length ≤ 3 :=
    (Nat.length_toDigits_le_iff (by decide) (by decide)).mpr (by omega)
  have leading (zero : (Nat.toDigits 10 octet).head? = some '0') :
      (Nat.toDigits 10 octet).length ≤ 1 := by
    rw [eq_zero_of_head?_toDigits zero]
    decide
  have value := decimalOnto_toDigits octet
  have stops : rest.takeWhile isDecimal = [] ∧ rest.dropWhile isDecimal = rest := by
    cases rest with
    | nil => exact ⟨rfl, rfl⟩
    | cons char rest => simp [ends char rfl]
  rw [readNumber_octet_eq_some_iff, List.takeWhile_append_of_pos decimal,
    List.dropWhile_append_of_pos decimal, stops.1, stops.2, List.append_nil]
  exact ⟨⟨Nat.toDigits_ne_nil, short, leading, value.symm ▸ small⟩, value, rfl⟩

/-- Digits without a leading zero are the decimal writing of the number they denote. -/
theorem toDigits_of_octetDigits {digits : List Char} (octet : OctetDigits digits)
    (decimal : ∀ digit ∈ digits, isDecimal digit = true) :
    Nat.toDigits 10 (decimalOnto 0 digits) = digits := by
  obtain ⟨nonempty, -, leading, -⟩ := octet
  cases digits with
  | nil => exact absurd rfl nonempty
  | cons digit rest =>
    obtain ⟨value, bound, read, rfl⟩ := (isDecimal_iff _).mp (decimal _ List.mem_cons_self)
    have onto : decimalOnto 0 (Nat.digitChar value :: rest) = decimalOnto value rest := by
      simp [decimalOnto, read]
    rw [onto]
    by_cases zero : value = 0
    · -- a leading zero is the only digit
      subst zero
      have alone : rest = [] := by
        have length := leading rfl
        simpa using length
      subst alone
      rfl
    · rw [toDigits_decimalOnto (Nat.pos_of_ne_zero zero) rest
        (fun other member => decimal other (List.mem_cons_of_mem _ member)),
        Nat.toDigits_of_lt_base bound]
      rfl

/-- What is read as an octet is its decimal writing. -/
theorem toDigits_of_readNumber {input rest : List Char} {octet : Nat}
    (read : readNumber 10 3 256 false input = some (octet, rest)) :
    octet < 256 ∧ input = Nat.toDigits 10 octet ++ rest := by
  obtain ⟨octetDigits, rfl, rfl⟩ := (readNumber_octet_eq_some_iff _ _ _).mp read
  refine ⟨octetDigits.2.2.2, ?_⟩
  have decimal : ∀ digit ∈ input.takeWhile isDecimal, isDecimal digit = true := by
    intro digit member
    exact List.mem_takeWhile_imp member
  rw [toDigits_of_octetDigits octetDigits decimal, List.takeWhile_append_dropWhile]

end Octets

section Addresses

/-- A character is read from the front, and from nowhere else. -/
theorem readGivenChar_eq_some_iff (expected : Char) (input rest : List Char) :
    readGivenChar expected input = some ((), rest) ↔ input = expected :: rest := by
  cases input with
  | nil => simp [readGivenChar]
  | cons char others =>
    by_cases same : char = expected <;> simp [readGivenChar, same]

/-- A later octet is read behind its dot. -/
theorem readSeparator_toDigits {index octet : Nat} (later : index ≠ 0) (small : octet < 256)
    {rest : List Char} (ends : ∀ char, rest.head? = some char → isDecimal char = false) :
    readSeparator '.' index (readNumber 10 3 256 false) ('.' :: (Nat.toDigits 10 octet ++ rest)) =
      some (octet, rest) := by
  simp [readSeparator, later, readGivenChar, readNumber_toDigits small ends]

/-- A later octet is read from a point and the shortest writing of a number below 256. -/
theorem toDigits_of_readSeparator {index octet : Nat} (later : index ≠ 0)
    {input rest : List Char}
    (read : readSeparator '.' index (readNumber 10 3 256 false) input = some (octet, rest)) :
    octet < 256 ∧ input = '.' :: (Nat.toDigits 10 octet ++ rest) := by
  simp only [readSeparator, if_neg later, Option.bind_eq_bind, Option.bind_eq_some_iff] at read
  obtain ⟨⟨_, behind⟩, separated, read⟩ := read
  obtain rfl := (readGivenChar_eq_some_iff _ _ _).mp separated
  obtain ⟨small, rfl⟩ := toDigits_of_readNumber read
  exact ⟨small, rfl⟩

/-- An address is read from its four octets with dots between them. -/
theorem readIpv4Addr_dotted {first second third fourth : Nat} (firstSmall : first < 256)
    (secondSmall : second < 256) (thirdSmall : third < 256) (fourthSmall : fourth < 256) :
    readIpv4Addr (dotted first second third fourth) =
      some ([first, second, third, fourth], []) := by
  have dot (after : List Char) :
      ∀ char, ('.' :: after).head? = some char → isDecimal char = false := by
    rintro _ ⟨⟩
    decide
  have readFirst : readSeparator '.' 0 (readNumber 10 3 256 false)
      (dotted first second third fourth) = some (first, _) :=
    readNumber_toDigits firstSmall (dot _)
  have readSecond := readSeparator_toDigits (Nat.succ_ne_zero 0) secondSmall
    (dot (Nat.toDigits 10 third ++ '.' :: Nat.toDigits 10 fourth))
  have readThird := readSeparator_toDigits (Nat.succ_ne_zero 1) thirdSmall
    (dot (Nat.toDigits 10 fourth))
  have ends : ∀ char, ([] : List Char).head? = some char → isDecimal char = false := by
    rintro _ ⟨⟩
  have readFourth := readSeparator_toDigits (Nat.succ_ne_zero 2) fourthSmall ends
  rw [List.append_nil] at readFourth
  simp only [readIpv4Addr, readFirst, readSecond, readThird, readFourth, Option.bind_eq_bind,
    Option.bind_some]
  rfl

/-- What is read as an IPv4 address begins with four octets in their shortest writing,
with points between them. -/
theorem dotted_of_readIpv4Addr {input rest : List Char} {octets : List Nat}
    (read : readIpv4Addr input = some (octets, rest)) :
    ∃ first second third fourth, (first < 256 ∧ second < 256 ∧ third < 256 ∧ fourth < 256) ∧
      octets = [first, second, third, fourth] ∧
        input = dotted first second third fourth ++ rest := by
  simp only [readIpv4Addr, Option.bind_eq_bind, Option.bind_eq_some_iff, Prod.exists,
    Option.pure_def, Option.some.injEq, Prod.mk.injEq] at read
  obtain ⟨first, afterFirst, readFirst, second, afterSecond, readSecond, third, afterThird,
    readThird, fourth, afterFourth, readFourth, rfl, rfl⟩ := read
  obtain ⟨firstSmall, rfl⟩ := toDigits_of_readNumber readFirst
  obtain ⟨secondSmall, rfl⟩ := toDigits_of_readSeparator (by decide) readSecond
  obtain ⟨thirdSmall, rfl⟩ := toDigits_of_readSeparator (by decide) readThird
  obtain ⟨fourthSmall, rfl⟩ := toDigits_of_readSeparator (by decide) readFourth
  refine ⟨first, second, third, fourth, ⟨firstSmall, secondSmall, thirdSmall, fourthSmall⟩, rfl, ?_⟩
  simp [dotted]

/-- Exactly the dotted writings of four octets are addresses of the older version. -/
theorem parse_eq_v4_iff (text : String) (octets : List Nat) :
    parse text = some (v4 octets) ↔
      ∃ first second third fourth, (first < 256 ∧ second < 256 ∧ third < 256 ∧ fourth < 256) ∧
        octets = [first, second, third, fourth] ∧
          text.toList = dotted first second third fourth := by
  constructor
  · intro parsed
    unfold parse at parsed
    split at parsed
    case h_1 found rest read =>
      split at parsed
      case isFalse _ => cases parsed
      case isTrue all =>
        cases parsed
        subst all
        obtain ⟨first, second, third, fourth, small, same, written⟩ := dotted_of_readIpv4Addr read
        exact ⟨first, second, third, fourth, small, same, by simpa using written⟩
    case h_2 _ =>
      split at parsed
      case h_1 _ _ _ => split at parsed <;> cases parsed
      case h_2 _ => cases parsed
  · rintro ⟨first, second, third, fourth, ⟨firstSmall, secondSmall, thirdSmall, fourthSmall⟩,
      rfl, written⟩
    simp [parse, written, readIpv4Addr_dotted firstSmall secondSmall thirdSmall fourthSmall]

/-- A character that does not occur is not read. -/
theorem readGivenChar_eq_none {expected : Char} {input : List Char} (free : expected ∉ input) :
    readGivenChar expected input = none := by
  cases input with
  | nil => rfl
  | cons char rest =>
    have other : char ≠ expected := fun same => free (same ▸ List.mem_cons_self)
    simp [readGivenChar, other]

/-- Reading a number leaves an end of what there was. -/
theorem readNumber_suffix {radix maxDigits limit : Nat} {zeroPrefix : Bool} {input rest : List Char}
    {number : Nat} (read : readNumber radix maxDigits limit zeroPrefix input = some (number, rest)) :
    rest <:+ input := by
  dsimp only [readNumber] at read
  split at read
  case isTrue _ => cases read
  case isFalse _ =>
    cases read
    exact List.drop_suffix _ _

/-- A group after the first needs its colon. -/
theorem readGroups_of_no_colon {input : List Char} (free : ':' ∉ input) (slots : Nat)
    {index : Nat} (later : index ≠ 0) : readGroups slots index input = ([], false, input) := by
  cases slots with
  | zero => rfl
  | succ slots => simp [readGroups, readSeparator, later, readGivenChar_eq_none free]

/-- Without a colon there is no IPv6 address: no separator can be read after the first
group, and eight groups need seven of them. -/
theorem readIpv6Addr_of_no_colon {input : List Char} (free : ':' ∉ input)
    (other : readIpv4Addr input = none) : readIpv6Addr input = none := by
  have start {α : Type} (inner : Reader α) : readSeparator ':' 0 inner input = inner input := rfl
  cases read : readNumber 16 4 65536 true input with
  | none =>
    simp [readIpv6Addr, readGroups, start, other, read, readGivenChar_eq_none free]
  | some found =>
    obtain ⟨group, rest⟩ := found
    have left : ':' ∉ rest := fun member => free ((readNumber_suffix read).subset member)
    have groups : readGroups 8 0 input = ([group], false, rest) := by
      rw [readGroups]
      simp only [start, other, read, Nat.zero_lt_succ, ↓reduceIte,
        readGroups_of_no_colon left 7 Nat.one_ne_zero]
    simp [readIpv6Addr, groups, readGivenChar_eq_none left]

/-- Without a colon no address of the newer version is read. -/
theorem parse_ne_v6 {text : String} (free : ':' ∉ text.toList) (groups : List Nat) :
    parse text ≠ some (v6 groups) := by
  intro parsed
  unfold parse at parsed
  split at parsed
  case h_1 _ _ _ => split at parsed <;> cases parsed
  case h_2 other =>
    rw [readIpv6Addr_of_no_colon free other] at parsed
    cases parsed

/-- No address begins with a bracket. -/
theorem parse_bracket {text : String} {rest : List Char} (bracket : text.toList = '[' :: rest) :
    parse text = none := by
  have number (radix maxDigits limit : Nat) (zeroPrefix : Bool) :
      readNumber radix maxDigits limit zeroPrefix ('[' :: rest) = none := by
    have digit : hexValue '[' = none := by decide
    simp [readNumber, digit]
  have start {α : Type} (separator : Char) (inner : Reader α) :
      readSeparator separator 0 inner ('[' :: rest) = inner ('[' :: rest) := rfl
  have other : readIpv4Addr ('[' :: rest) = none := by
    simp [readIpv4Addr, start, number]
  have newer : readIpv6Addr ('[' :: rest) = none := by
    simp [readIpv6Addr, readGroups, start, other, number, readGivenChar]
  rw [parse, bracket, other, newer]

end Addresses

/-- A group of octets is read whole, without leading zeros. -/
example : parse "127.0.0.1" = some (v4 [127, 0, 0, 1]) ∧ parse "127.0.0.01" = none := by
  decide +kernel

example : parse "::1" = some (v6 [0, 0, 0, 0, 0, 0, 0, 1]) ∧ parse "[::1]" = none ∧
    parse "::ffff:127.0.0.1" = some (v6 [0, 0, 0, 0, 0, 65535, 32512, 1]) := by
  decide +kernel

end IpAddr

end SecureDatabase.Foundation
