import Mathlib.Data.List.Basic

/-!
# Texts and octets

A text is a finite sequence of Unicode scalar values and has exactly one UTF-8
encoding; an octet string is a text precisely when it is such an encoding. The
operations below are the text operations of the Rust standard library that the
modelled code uses, given on the sequence of characters, together with the
lower-case hexadecimal writing of octets and the reading that accepts both cases.
-/

namespace SecureDatabase.Foundation

/-- Octets in order. -/
abbrev Bytes := List UInt8

/-- `str::as_bytes`. -/
def utf8 (text : String) : Bytes := text.toByteArray.data.toList

/-- `String::from_utf8`. -/
def fromUtf8 (bytes : Bytes) : Option String := String.fromUTF8? ⟨bytes.toArray⟩

/-- A text is read back from its octets. -/
theorem fromUtf8_utf8 (text : String) : fromUtf8 (utf8 text) = some text := by
  have same : (⟨(utf8 text).toArray⟩ : ByteArray) = text.toByteArray := rfl
  rw [fromUtf8, same, String.fromUTF8?, dif_pos text.isValidUTF8]
  rfl

/-- Octets are read as a text exactly when they are its encoding. -/
theorem fromUtf8_eq_some_iff (bytes : Bytes) (text : String) :
    fromUtf8 bytes = some text ↔ bytes = utf8 text := by
  constructor
  · intro known
    unfold fromUtf8 String.fromUTF8? at known
    split at known
    · have same : String.fromUTF8 ⟨bytes.toArray⟩ _ = text := Option.some.inj known
      subst text
      rfl
    · exact absurd known (by simp)
  · intro same
    rw [same]
    exact fromUtf8_utf8 text

/-- Different texts have different octets. -/
theorem utf8_injective {left right : String} (same : utf8 left = utf8 right) : left = right := by
  have known := fromUtf8_utf8 left
  rw [same, fromUtf8_utf8] at known
  exact (Option.some.inj known).symm

/-- The octets of two texts in a row are those of the first and then those of the
second. -/
@[simp] theorem utf8_append (left right : String) :
    utf8 (left ++ right) = utf8 left ++ utf8 right := by
  simp [utf8, String.toByteArray_append]

/-- The encoding of a text is that of its characters in order. -/
theorem utf8_ofList (chars : List Char) :
    utf8 (String.ofList chars) = chars.flatMap String.utf8EncodeChar := by
  simp [utf8, List.utf8Encode, List.data_toByteArray]

/-- A zero octet encodes the null character and is part of no other. -/
theorem zero_mem_utf8EncodeChar {char : Char} (member : 0 ∈ String.utf8EncodeChar char) :
    char = '\x00' := by
  have octet (number : Nat) (small : number < 256) (zero : (0 : UInt8) = UInt8.ofNat number) :
      number = 0 := by
    have same := congrArg UInt8.toNat zero
    simp only [UInt8.toNat_ofNat'] at same
    simp at same
    omega
  have nul : char.val.toNat = 0 := by
    dsimp only [String.utf8EncodeChar] at member
    split at member
    · rw [List.mem_singleton] at member
      exact octet _ (by omega) member
    · split at member
      · simp only [List.mem_cons, List.not_mem_nil, or_false] at member
        rcases member with first | second
        · exact absurd (octet _ (by omega) first) (by omega)
        · exact absurd (octet _ (by omega) second) (by omega)
      · split at member
        · simp only [List.mem_cons, List.not_mem_nil, or_false] at member
          rcases member with first | second | third
          · exact absurd (octet _ (by omega) first) (by omega)
          · exact absurd (octet _ (by omega) second) (by omega)
          · exact absurd (octet _ (by omega) third) (by omega)
        · simp only [List.mem_cons, List.not_mem_nil, or_false] at member
          rcases member with first | second | third | fourth
          · exact absurd (octet _ (by omega) first) (by omega)
          · exact absurd (octet _ (by omega) second) (by omega)
          · exact absurd (octet _ (by omega) third) (by omega)
          · exact absurd (octet _ (by omega) fourth) (by omega)
  exact Char.ext (UInt32.toNat_inj.mp nul)

/-- Only a NUL has the octet zero in its encoding. -/
theorem nul_of_zero_mem_utf8 {text : String} (member : 0 ∈ utf8 text) :
    '\x00' ∈ text.toList := by
  rw [← String.ofList_toList (s := text), utf8_ofList] at member
  obtain ⟨char, present, zero⟩ := List.mem_flatMap.mp member
  exact zero_mem_utf8EncodeChar zero ▸ present

/-- What precedes the first separator, and what follows it, is determined. -/
theorem separated_unique {α : Type} {separator : α} {x y r s : List α}
    (freshX : separator ∉ x) (freshY : separator ∉ y)
    (same : x ++ separator :: r = y ++ separator :: s) : x = y ∧ r = s := by
  induction x generalizing y with
  | nil =>
    cases y with
    | nil => exact ⟨rfl, by simpa using same⟩
    | cons head tail =>
      exact absurd (List.cons.inj same).1 (fun equal => freshY (equal ▸ List.mem_cons_self))
  | cons head tail inductionHypothesis =>
    cases y with
    | nil => exact absurd (List.cons.inj same).1 (fun equal => freshX (equal ▸ List.mem_cons_self))
    | cons other others =>
      obtain ⟨rfl, rest⟩ := List.cons.inj same
      obtain ⟨rfl, rfl⟩ := inductionHypothesis (fun member => freshX (List.mem_cons_of_mem _ member))
        (fun member => freshY (List.mem_cons_of_mem _ member)) rest
      exact ⟨rfl, rfl⟩

/-- `str::starts_with`. -/
def startsWith (text start : String) : Bool := start.toList.isPrefixOf text.toList

/-- `str::ends_with`. -/
def endsWith (text ending : String) : Bool := ending.toList.isSuffixOf text.toList

/-- `str::contains`. -/
def contains (text pattern : String) : Bool :=
  text.toList.tails.any fun rest => pattern.toList.isPrefixOf rest

/-- A text starts with another exactly when it is that text and a rest. -/
theorem startsWith_iff (text start : String) :
    startsWith text start = true ↔ ∃ rest, text = start ++ rest := by
  simp only [startsWith, List.isPrefixOf_iff_prefix]
  constructor
  · rintro ⟨rest, same⟩
    refine ⟨String.ofList rest, String.toList_injective ?_⟩
    simp [same]
  · rintro ⟨rest, rfl⟩
    exact ⟨rest.toList, by simp⟩

/-- A text starts with whatever was put in front of it. -/
theorem startsWith_append (start rest : String) : startsWith (start ++ rest) start = true :=
  (startsWith_iff _ _).mpr ⟨rest, rfl⟩

/-- `str::strip_prefix`. -/
def stripPrefix (start text : String) : Option String :=
  (start.toList.isPrefixOf? text.toList).map String.ofList

/-- What is left after a prefix is what follows it in the text. -/
theorem stripPrefix_eq_some_iff (start text rest : String) :
    stripPrefix start text = some rest ↔ text = start ++ rest := by
  simp only [stripPrefix, Option.map_eq_some_iff, List.isPrefixOf?_eq_some_iff_append_eq]
  constructor
  · rintro ⟨tail, same, rfl⟩
    exact String.toList_injective (by simp [same])
  · rintro rfl
    exact ⟨rest.toList, by simp, String.ofList_toList⟩

/-- `str::split_once` at a character: before its first occurrence and after it. -/
def splitOnce (separator : Char) : List Char → Option (List Char × List Char)
  | [] => none
  | char :: rest =>
      if char = separator then some ([], rest)
      else (splitOnce separator rest).map (fun parts => (char :: parts.1, parts.2))

/-- A text is split at the first separator: there is none in the part before it. -/
theorem splitOnce_eq_some_iff (separator : Char) (text head tail : List Char) :
    splitOnce separator text = some (head, tail) ↔
      text = head ++ separator :: tail ∧ separator ∉ head := by
  induction text generalizing head with
  | nil => simp [splitOnce]
  | cons char rest inductionHypothesis =>
    by_cases here : char = separator
    · subst char
      cases head with
      | nil => simp [splitOnce, eq_comm]
      | cons other others =>
        simp only [splitOnce, ↓reduceIte, Option.some.injEq, Prod.mk.injEq, List.cons_append,
          List.cons.injEq, List.mem_cons, not_or]
        constructor
        · exact fun impossible => absurd impossible.1 (by simp)
        · exact fun impossible => absurd impossible.1.1 impossible.2.1
    · simp only [splitOnce, here, ↓reduceIte, Option.map_eq_some_iff, Prod.exists,
        Prod.mk.injEq]
      constructor
      · rintro ⟨front, back, found, rfl, rfl⟩
        obtain ⟨rfl, fresh⟩ := (inductionHypothesis front).mp found
        refine ⟨rfl, ?_⟩
        simp [fresh, Ne.symm here]
      · rintro ⟨same, fresh⟩
        cases head with
        | nil => exact absurd (List.cons.inj same).1 here
        | cons other others =>
          obtain ⟨rfl, rfl⟩ := List.cons.inj same
          exact ⟨others, tail, (inductionHypothesis others).mpr
            ⟨rfl, fun member => fresh (List.mem_cons_of_mem _ member)⟩, rfl, rfl⟩

/-- `str::splitn`: at most the given number of parts, the last one unsplit. -/
def splitn (separator : Char) : Nat → List Char → List (List Char)
  | 0, _ => []
  | 1, text => [text]
  | count + 2, text =>
      match splitOnce separator text with
      | none => [text]
      | some (head, tail) => head :: splitn separator (count + 1) tail

/-- The `White_Space` property of Unicode, `char::is_whitespace`. -/
def isWhitespace (char : Char) : Bool :=
  (0x9 ≤ char.toNat && char.toNat ≤ 0xD) || char.toNat == 0x20 || char.toNat == 0x85 ||
    char.toNat == 0xA0 || char.toNat == 0x1680 ||
    (0x2000 ≤ char.toNat && char.toNat ≤ 0x200A) || char.toNat == 0x2028 ||
    char.toNat == 0x2029 || char.toNat == 0x202F || char.toNat == 0x205F || char.toNat == 0x3000

/-- `str::trim`. -/
def trim (text : String) : String :=
  String.ofList
    (((text.toList.dropWhile isWhitespace).reverse.dropWhile isWhitespace).reverse)

/-- A text without leading or trailing whitespace. -/
def Trimmed (text : String) : Prop :=
  (∀ char, text.toList.head? = some char → isWhitespace char = false) ∧
    ∀ char, text.toList.getLast? = some char → isWhitespace char = false

/-- What is dropped up to a first character ends where it did. -/
theorem getLast?_dropWhile {α : Type} (drops : α → Bool) (list : List α) {last : α}
    (ends : (list.dropWhile drops).getLast? = some last) : list.getLast? = some last := by
  obtain ⟨dropped, split⟩ := List.dropWhile_suffix (l := list) drops
  rw [← split, List.getLast?_append, ends]
  rfl

/-- What is left after dropping does not begin with something to drop. -/
theorem head?_dropWhile_false {α : Type} (drops : α → Bool) (list : List α) {first : α}
    (starts : (list.dropWhile drops).head? = some first) : drops first = false := by
  have known := List.head?_dropWhile_not drops list
  rw [starts] at known
  exact known

/-- A trimmed text has no whitespace at either end, whatever it was trimmed from. -/
theorem trimmed_trim (text : String) : Trimmed (trim text) := by
  constructor
  · intro char starts
    rw [trim, String.toList_ofList, List.head?_reverse] at starts
    have first := getLast?_dropWhile isWhitespace _ starts
    rw [List.getLast?_reverse] at first
    exact head?_dropWhile_false isWhitespace _ first
  · intro char ends
    rw [trim, String.toList_ofList, List.getLast?_reverse] at ends
    exact head?_dropWhile_false isWhitespace _ ends

/-- Nothing is dropped before a character that stays. -/
theorem dropWhile_eq_self {α : Type} {drops : α → Bool} {list : List α}
    (stays : ∀ first, list.head? = some first → drops first = false) :
    list.dropWhile drops = list := by
  cases list with
  | nil => rfl
  | cons first rest => exact List.dropWhile_cons_of_neg (by simp [stays first rfl])

/-- Trimming changes nothing about a text without whitespace at its ends. -/
theorem trim_eq_self {text : String} (trimmed : Trimmed text) : trim text = text := by
  have leading := dropWhile_eq_self trimmed.1
  have trailing : text.toList.reverse.dropWhile isWhitespace = text.toList.reverse := by
    apply dropWhile_eq_self
    rw [List.head?_reverse]
    exact trimmed.2
  rw [trim, leading, trailing, List.reverse_reverse, String.ofList_toList]

/-- A text without blanks is trimmed. -/
theorem trim_of_no_whitespace {text : String}
    (solid : ∀ char ∈ text.toList, isWhitespace char = false) : trim text = text := by
  refine trim_eq_self ⟨?_, ?_⟩
  · intro char starts
    exact solid char (List.mem_of_head? starts)
  · intro char ends
    exact solid char (List.mem_of_getLast? ends)

/-- Lower-case hexadecimal digit of a value below 16. -/
def hexDigit (value : Nat) : Char :=
  ['0', '1', '2', '3', '4', '5', '6', '7', '8', '9', 'a', 'b', 'c', 'd', 'e', 'f'].getD value '0'

/-- `hex::encode`: two lower-case digits for each octet, the high one first. -/
def hexDigits : Bytes → List Char
  | [] => []
  | octet :: rest => hexDigit (octet.toNat / 16) :: hexDigit (octet.toNat % 16) :: hexDigits rest

/-- `hex::encode` as a text. -/
def hexEncode (bytes : Bytes) : String := String.ofList (hexDigits bytes)

/-- The value of a hexadecimal digit of either case. -/
def hexValue (char : Char) : Option Nat :=
  if '0' ≤ char ∧ char ≤ '9' then some (char.toNat - '0'.toNat)
  else if 'a' ≤ char ∧ char ≤ 'f' then some (char.toNat - 'a'.toNat + 10)
  else if 'A' ≤ char ∧ char ≤ 'F' then some (char.toNat - 'A'.toNat + 10)
  else none

/-- `hex::decode`: pairs of digits of either case; an odd length is an error. -/
def hexOctets : List Char → Option Bytes
  | [] => some []
  | [_] => none
  | high :: low :: rest => do
      let high ← hexValue high
      let low ← hexValue low
      let rest ← hexOctets rest
      return UInt8.ofNat (high * 16 + low) :: rest

/-- `hex::decode` of a text. -/
def hexDecode (text : String) : Option Bytes := hexOctets text.toList

/-- Each value of four bits is read back from its digit. -/
theorem hexValue_hexDigit (value : Nat) (small : value < 16) :
    hexValue (hexDigit value) = some value := by
  have all : ∀ value < 16, hexValue (hexDigit value) = some value := by decide
  exact all value small

/-- Octets are read back from their digits. -/
theorem hexOctets_hexDigits (bytes : Bytes) : hexOctets (hexDigits bytes) = some bytes := by
  induction bytes with
  | nil => rfl
  | cons octet rest inductionHypothesis =>
    have bound : octet.toNat < 256 := octet.toNat_lt
    have whole : octet.toNat / 16 * 16 + octet.toNat % 16 = octet.toNat := by omega
    simp only [hexDigits, hexOctets, hexValue_hexDigit _ (show octet.toNat / 16 < 16 by omega),
      hexValue_hexDigit _ (show octet.toNat % 16 < 16 by omega), inductionHypothesis,
      Option.bind_eq_bind, Option.bind_some, whole, UInt8.ofNat_toNat]
    rfl

/-- Decoding undoes encoding in hexadecimal. -/
theorem hexDecode_hexEncode (bytes : Bytes) : hexDecode (hexEncode bytes) = some bytes := by
  rw [hexDecode, hexEncode, String.toList_ofList, hexOctets_hexDigits]

/-- Different octets have different digits. -/
theorem hexDigits_injective {left right : Bytes} (same : hexDigits left = hexDigits right) :
    left = right := by
  have known := hexOctets_hexDigits left
  rw [same, hexOctets_hexDigits] at known
  exact (Option.some.inj known).symm

/-- Each octet has two digits. -/
theorem length_hexDigits (bytes : Bytes) : (hexDigits bytes).length = 2 * bytes.length := by
  induction bytes with
  | nil => rfl
  | cons octet rest inductionHypothesis =>
    simp only [hexDigits, List.length_cons, inductionHypothesis]
    omega

/-- What holds of each small code holds of the characters that have one. -/
theorem forall_toNat_lt {bound : Nat} {P : Char → Prop}
    (each : ∀ code < bound, P (Char.ofNat code)) (char : Char) (small : char.toNat < bound) :
    P char := by
  have known := each char.toNat small
  rwa [Char.ofNat_toNat] at known

/-- Only a letter has a different lower case. -/
theorem eq_of_toLower_eq {char folded : Char} (plain : folded.isLower = false)
    (same : char.toLower = folded) : char = folded := by
  subst folded
  change (decide (char.toLower.val ≥ 'a'.val) && decide (char.toLower.val ≤ 'z'.val)) = false
    at plain
  unfold Char.toLower at plain ⊢
  split
  case isFalse _ => rfl
  case isTrue upper =>
    rw [dif_pos upper] at plain
    exfalso
    simp [UInt32.le_iff_toNat_le] at upper plain
    omega

/-- A text whose lower case has no lower-case letter is that text. -/
theorem eq_of_map_toLower {text folded : List Char}
    (plain : ∀ char ∈ folded, char.isLower = false) (same : text.map Char.toLower = folded) :
    text = folded := by
  subst same
  have each : ∀ char ∈ text, char.toLower = id char := by
    intro char member
    exact (eq_of_toLower_eq (plain _ (List.mem_map_of_mem member)) rfl).symm
  rw [List.map_congr_left each, List.map_id]

/-- Only a small character has a small lower case. -/
theorem toNat_lt_of_toLower {char : Char} (small : char.toLower.toNat < 128) :
    char.toNat < 128 := by
  unfold Char.toLower at small
  split at small
  case isFalse _ => exact small
  case isTrue upper =>
    simp only [ge_iff_le, UInt32.le_iff_toNat_le] at upper
    exact Nat.lt_of_le_of_lt upper.2 (by decide)

/-- Decimal digits are ASCII characters. -/
theorem toNat_lt_of_isDigit {char : Char} (digit : char.isDigit = true) : char.toNat < 128 := by
  rw [Char.isDigit, Bool.and_eq_true, decide_eq_true_eq, decide_eq_true_eq] at digit
  exact Nat.lt_of_le_of_lt (UInt32.le_iff_toNat_le.mp digit.2) (by decide)

/-- Hexadecimal digits are ASCII characters. -/
theorem toNat_lt_of_hexValue {char : Char} (digit : (hexValue char).isSome) :
    char.toNat < 128 := by
  have below {last : Char} (bound : char ≤ last) (small : last.toNat < 128) :
      char.toNat < 128 := Nat.lt_of_le_of_lt bound small
  unfold hexValue at digit
  split at digit
  case isTrue decimal => exact below decimal.2 (by decide)
  case isFalse _ =>
    split at digit
    case isTrue lower => exact below lower.2 (by decide)
    case isFalse _ =>
      split at digit
      case isTrue upper => exact below upper.2 (by decide)
      case isFalse _ => cases digit

/-- A character has a value exactly when its lower case is the digit of that value. -/
theorem hexValue_eq_some_iff (char : Char) (value : Nat) :
    hexValue char = some value ↔ value < 16 ∧ char.toLower = hexDigit value := by
  have reads : ∀ char : Char, char.toNat < 128 → ∀ value ∈ hexValue char,
      value < 16 ∧ char.toLower = hexDigit value := forall_toNat_lt (by decide +kernel)
  have writes : ∀ char : Char, char.toNat < 128 → ∀ value < 16,
      char.toLower = hexDigit value → hexValue char = some value :=
    forall_toNat_lt (by decide +kernel)
  have digits : ∀ value < 16, (hexDigit value).toNat < 128 := by decide
  constructor
  · intro read
    exact reads char (toNat_lt_of_hexValue (by simp [read])) value read
  · rintro ⟨bound, same⟩
    exact writes char (toNat_lt_of_toLower (same ▸ digits value bound)) value bound same

/-- Digits of either case are read exactly as the octets that they write in lower case. -/
theorem hexOctets_eq_some_iff (text : List Char) (octets : Bytes) :
    hexOctets text = some octets ↔ text.map Char.toLower = hexDigits octets := by
  induction text using hexOctets.induct generalizing octets with
  | case1 => cases octets <;> simp [hexOctets, hexDigits]
  | case2 char => cases octets <;> simp [hexOctets, hexDigits]
  | case3 high low rest ih =>
    cases octets with
    | nil =>
      simp only [hexOctets, hexDigits]
      cases hexValue high <;> cases hexValue low <;> cases hexOctets rest <;> simp
    | cons octet octets =>
      have bound : octet.toNat < 256 := octet.toNat_lt
      have halves {first second : Nat} (firstBound : first < 16) (secondBound : second < 16) :
          UInt8.ofNat (first * 16 + second) = octet ↔
            first = octet.toNat / 16 ∧ second = octet.toNat % 16 := by
        rw [← UInt8.toNat_inj, UInt8.toNat_ofNat']
        omega
      simp only [hexOctets, hexDigits, List.map_cons, List.cons.injEq, Option.bind_eq_bind,
        Option.bind_eq_some_iff, Option.pure_def, Option.some.injEq]
      constructor
      · rintro ⟨first, highRead, second, lowRead, found, restRead, same, rfl⟩
        obtain ⟨firstBound, highDigit⟩ := (hexValue_eq_some_iff _ _).mp highRead
        obtain ⟨secondBound, lowDigit⟩ := (hexValue_eq_some_iff _ _).mp lowRead
        obtain ⟨rfl, rfl⟩ := (halves firstBound secondBound).mp same
        exact ⟨highDigit, lowDigit, (ih _).mp restRead⟩
      · rintro ⟨highDigit, lowDigit, restRead⟩
        have firstBound : octet.toNat / 16 < 16 := by omega
        have secondBound : octet.toNat % 16 < 16 := by omega
        exact ⟨_, (hexValue_eq_some_iff _ _).mpr ⟨firstBound, highDigit⟩, _,
          (hexValue_eq_some_iff _ _).mpr ⟨secondBound, lowDigit⟩, _, (ih _).mpr restRead,
          (halves firstBound secondBound).mpr ⟨rfl, rfl⟩, rfl⟩

end SecureDatabase.Foundation
