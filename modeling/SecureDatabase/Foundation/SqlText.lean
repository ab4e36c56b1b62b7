import Mathlib.Data.List.Infix
import Mathlib.Data.List.Forall2

/-!
# Texts that the database reads

Patterns of LIKE with the backslash as escape character, and delimited identifiers. A pattern
whose wildcards each stand for one character matches a text as far as it reaches, character by
character; a name survives being quoted and read back.
-/

namespace SecureDatabase.Foundation

/-- What one place of a pattern stands for. -/
inductive LikeItem where
  | exactly (char : Char)
  | anyOne
  | anyText
deriving DecidableEq

/-- An unescaped character of a pattern. -/
def LikeItem.ofChar (char : Char) : LikeItem :=
  if char = '_' then .anyOne
  else if char = '%' then .anyText
  else .exactly char

/-- The places of a pattern. A pattern that ends in the escape character has none. -/
def likeItems : List Char → Option (List LikeItem)
  | [] => some []
  | char :: rest =>
      if char = '\\' then
        match rest with
        | [] => none
        | escaped :: rest => (likeItems rest).map (LikeItem.exactly escaped :: ·)
      else (likeItems rest).map (LikeItem.ofChar char :: ·)

/-- Whether a text has the form of a pattern. -/
def likeMatches : List LikeItem → List Char → Bool
  | [], text => text.isEmpty
  | .exactly _ :: _, [] => false
  | .exactly char :: items, first :: text => first = char && likeMatches items text
  | .anyOne :: _, [] => false
  | .anyOne :: items, _ :: text => likeMatches items text
  | .anyText :: items, text => text.tails.any (likeMatches items)

/-- A place that stands for one character accepts it. -/
def LikeItem.Accepts : LikeItem → Char → Prop
  | .exactly expected, char => char = expected
  | .anyOne, _ => True
  | .anyText, _ => False

section Patterns

/-- Only a percent sign is read as any text. -/
theorem LikeItem.ofChar_ne_anyText {char : Char} (plain : char ≠ '%') :
    LikeItem.ofChar char ≠ .anyText := by
  by_cases wild : char = '_' <;> simp [LikeItem.ofChar, wild, plain]

/-- An unescaped underscore accepts every character. -/
theorem LikeItem.accepts_ofChar_iff {char : Char} (plain : char ≠ '%') (other : Char) :
    (LikeItem.ofChar char).Accepts other ↔ char = '_' ∨ other = char := by
  by_cases wild : char = '_'
  · simp [LikeItem.ofChar, wild, LikeItem.Accepts]
  · simp [LikeItem.ofChar, wild, plain, LikeItem.Accepts]

/-- Up to an escape character a pattern is read character by character. -/
theorem likeItems_append (plain rest : List Char) (unescaped : '\\' ∉ plain) :
    likeItems (plain ++ rest) = (likeItems rest).map (plain.map LikeItem.ofChar ++ ·) := by
  induction plain with
  | nil => simp
  | cons char plain ih =>
    obtain ⟨first, others⟩ : '\\' ≠ char ∧ '\\' ∉ plain := by simpa using unescaped
    rw [List.cons_append, likeItems.eq_def]
    simp only [if_neg (Ne.symm first), ih others, Option.map_map, List.map_cons]
    rfl

/-- Places that stand for one character each match the characters in front, one by one. -/
theorem likeMatches_append_iff (items rest : List LikeItem) (text : List Char)
    (single : LikeItem.anyText ∉ items) :
    likeMatches (items ++ rest) text ↔
      ∃ front back, text = front ++ back ∧ List.Forall₂ LikeItem.Accepts items front ∧
        likeMatches rest back := by
  induction items generalizing text with
  | nil => simp
  | cons item items ih =>
    obtain ⟨first, others⟩ : LikeItem.anyText ≠ item ∧ LikeItem.anyText ∉ items := by
      simpa using single
    have unfolded : likeMatches (item :: (items ++ rest)) text ↔
        ∃ char tail, text = char :: tail ∧ item.Accepts char ∧
          likeMatches (items ++ rest) tail := by
      cases item with
      | exactly expected => cases text <;> simp [likeMatches, LikeItem.Accepts]
      | anyOne => cases text <;> simp [likeMatches, LikeItem.Accepts]
      | anyText => exact absurd rfl first
    rw [List.cons_append, unfolded]
    constructor
    · rintro ⟨char, tail, rfl, accepted, matched⟩
      obtain ⟨front, back, rfl, each, remaining⟩ := (ih tail others).mp matched
      exact ⟨char :: front, back, rfl, .cons accepted each, remaining⟩
    · rintro ⟨front, back, rfl, each, remaining⟩
      cases each with
      | cons accepted each =>
        exact ⟨_, _, rfl, accepted, (ih _ others).mpr ⟨_, back, rfl, each, remaining⟩⟩

/-- Unescaped characters other than `%` match the characters in front; an underscore matches
any. -/
theorem likeMatches_plain_iff (plain : List Char) (rest : List LikeItem) (text : List Char)
    (percent : '%' ∉ plain) :
    likeMatches (plain.map LikeItem.ofChar ++ rest) text ↔
      ∃ front back, text = front ++ back ∧
        List.Forall₂ (fun expected char => expected = '_' ∨ char = expected) plain front ∧
          likeMatches rest back := by
  have single : LikeItem.anyText ∉ plain.map LikeItem.ofChar := by
    intro member
    obtain ⟨char, chosen, wild⟩ := List.mem_map.mp member
    have other : char ≠ '%' := by
      rintro rfl
      exact percent chosen
    exact LikeItem.ofChar_ne_anyText other wild
  have each (front : List Char) :
      List.Forall₂ LikeItem.Accepts (plain.map LikeItem.ofChar) front ↔
        List.Forall₂ (fun expected char => expected = '_' ∨ char = expected) plain front := by
    clear single
    induction plain generalizing front with
    | nil => simp
    | cons expected plain ih =>
      obtain ⟨first, others⟩ : '%' ≠ expected ∧ '%' ∉ plain := by simpa using percent
      simp only [List.map_cons, List.forall₂_cons_left_iff, ih others,
        LikeItem.accepts_ofChar_iff first.symm]
  rw [likeMatches_append_iff _ _ _ single]
  simp only [each]

end Patterns

/-- A name between double quotes: its own quotes are doubled. -/
def delimited (name : List Char) : List Char :=
  '"' :: name.flatMap (fun char => if char = '"' then ['"', '"'] else [char]) ++ ['"']

/-- The characters up to the closing quote, and what follows it. -/
def readBody : List Char → Option (List Char × List Char)
  | [] => none
  | char :: rest =>
      if char = '"' then
        match rest with
        | [] => some ([], [])
        | next :: after =>
            if next = '"' then (readBody after).map (fun read => ('"' :: read.1, read.2))
            else some ([], next :: after)
      else (readBody rest).map (fun read => (char :: read.1, read.2))

/-- A delimited identifier at the front of a text, and what follows it. -/
def readIdentifier : List Char → Option (List Char × List Char)
  | '"' :: rest => readBody rest
  | _ => none

section Identifiers

/-- The body of a quoted identifier is read back from its writing with doubled quotes, as
long as no further quote follows it. -/
theorem readBody_delimited (name rest : List Char) (ends : rest.head? ≠ some '"') :
    readBody (name.flatMap (fun char => if char = '"' then ['"', '"'] else [char]) ++
      '"' :: rest) = some (name, rest) := by
  induction name with
  | nil =>
    cases rest with
    | nil => rfl
    | cons next after =>
      have other : next ≠ '"' := by simpa using ends
      simp [readBody, other]
  | cons char name ih =>
    rw [List.flatMap_cons, List.append_assoc]
    by_cases quote : char = '"'
    · subst char
      simp [readBody, ih]
    · rw [if_neg quote, List.singleton_append, readBody.eq_def]
      simp only [if_neg quote, ih, Option.map_some]

/-- A quoted name is read back whole, whatever characters it has. -/
theorem readIdentifier_delimited (name rest : List Char) (ends : rest.head? ≠ some '"') :
    readIdentifier (delimited name ++ rest) = some (name, rest) := by
  have quoted := readBody_delimited name rest ends
  simpa [readIdentifier, delimited] using quoted

end Identifiers

end SecureDatabase.Foundation
