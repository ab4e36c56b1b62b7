import Mathlib.Data.List.Infix
import SecureDatabase.Foundation.Text

/-!
# Where a pattern occurs in a delimited text

A text that is put together at a delimiter holds a pattern in one of its parts, or across the
delimiter. The second is only possible for a pattern that holds the delimiter itself.
-/

namespace SecureDatabase.Foundation

section Patterns

variable {text pattern : String} {chars : List Char} (spelled : pattern.toList = chars)

include spelled

/-- A text contains a pattern exactly when the pattern occurs in it. -/
theorem contains_iff : contains text pattern = true ↔ chars <:+: text.toList := by
  simp only [contains, List.any_eq_true, List.mem_tails, List.isPrefixOf_iff_prefix, spelled]
  rw [List.infix_iff_prefix_suffix]
  constructor
  · rintro ⟨rest, suffix, starts⟩
    exact ⟨rest, starts, suffix⟩
  · rintro ⟨rest, starts, suffix⟩
    exact ⟨rest, suffix, starts⟩

/-- `ends_with` is the suffix relation on characters. -/
theorem endsWith_iff_isSuffix : endsWith text pattern = true ↔ chars <:+ text.toList := by
  rw [endsWith, List.isSuffixOf_iff_suffix, spelled]

/-- `starts_with` is the prefix relation on characters. -/
theorem startsWith_iff_isPrefix : startsWith text pattern = true ↔ chars <+: text.toList := by
  rw [startsWith, List.isPrefixOf_iff_prefix, spelled]

end Patterns

variable {α : Type} {delim : α} {pattern before after : List α}

/-- What starts with a delimiter does not occur before the first one. -/
theorem cons_infix_append_iff (fresh : delim ∉ before) :
    delim :: pattern <:+: before ++ after ↔ delim :: pattern <:+: after := by
  induction before with
  | nil => rfl
  | cons head rest inductionHypothesis =>
    rw [List.mem_cons, not_or] at fresh
    rw [List.cons_append, List.infix_cons_iff, List.cons_prefix_cons, inductionHypothesis fresh.2]
    simp [fresh.1]

/-- What ends with a delimiter occurs up to the first one, or after it. -/
theorem concat_infix_append_cons_iff (fresh : delim ∉ before) (plain : delim ∉ pattern) :
    pattern ++ [delim] <:+: before ++ delim :: after ↔
      pattern <:+ before ∨ pattern ++ [delim] <:+: after := by
  have missing {text : List α} (inside : text ⊆ before) : delim ∉ text := fun member =>
    fresh (inside member)
  constructor
  · intro occurs
    obtain within | later | ⟨left, right, cut, suffix, start⟩ := List.infix_append_iff.mp occurs
    · exact absurd (by simp) (missing within.subset)
    · rcases List.infix_cons_iff.mp later with first | rest
      · cases pattern with
        | nil => exact .inl (List.nil_suffix)
        | cons head tail =>
          obtain ⟨rfl, -⟩ := List.cons_prefix_cons.mp first
          exact absurd List.mem_cons_self plain
      · exact .inr rest
    · cases right with
      | nil =>
        rw [List.append_nil] at cut
        exact absurd (by simp [← cut]) (missing suffix.subset)
      | cons head tail =>
        obtain ⟨rfl, -⟩ := List.cons_prefix_cons.mp start
        obtain ⟨rfl, -⟩ := separated_unique plain (missing suffix.subset) cut
        exact .inl suffix
  · rintro (⟨start, rfl⟩ | later)
    · exact ⟨start, after, by simp⟩
    · exact List.infix_append_of_infix_right (List.infix_cons later)

/-- What does not hold a delimiter occurs before it or after it. -/
theorem infix_append_cons_iff (plain : delim ∉ pattern) :
    pattern <:+: before ++ delim :: after ↔ pattern <:+: before ∨ pattern <:+: after := by
  constructor
  · intro occurs
    obtain within | later | ⟨left, right, rfl, suffix, start⟩ := List.infix_append_iff.mp occurs
    · exact .inl within
    · rcases List.infix_cons_iff.mp later with first | rest
      · cases pattern with
        | nil => exact .inl List.nil_infix
        | cons head tail =>
          obtain ⟨rfl, -⟩ := List.cons_prefix_cons.mp first
          exact absurd List.mem_cons_self plain
      · exact .inr rest
    · cases right with
      | nil =>
        rw [List.append_nil]
        exact .inl suffix.isInfix
      | cons head tail =>
        obtain ⟨rfl, -⟩ := List.cons_prefix_cons.mp start
        exact absurd (by simp) plain
  · rintro (within | later)
    · exact List.infix_append_of_infix_left within
    · exact List.infix_append_of_infix_right (List.infix_cons later)

/-- A pattern without the delimiter can begin a text only before the first one. -/
theorem prefix_append_cons_iff (plain : delim ∉ pattern) :
    pattern <+: before ++ delim :: after ↔ pattern <+: before := by
  induction before generalizing pattern with
  | nil =>
    cases pattern with
    | nil => simp
    | cons head tail =>
      rw [List.mem_cons, not_or] at plain
      simp [Ne.symm plain.1]
  | cons first rest inductionHypothesis =>
    cases pattern with
    | nil => simp
    | cons head tail =>
      rw [List.mem_cons, not_or] at plain
      rw [List.cons_append, List.cons_prefix_cons, List.cons_prefix_cons,
        inductionHypothesis plain.2]

/-- A pattern without the delimiter can end a text only after the last one. -/
theorem suffix_append_cons_iff (plain : delim ∉ pattern) :
    pattern <:+ before ++ delim :: after ↔ pattern <:+ after := by
  have turned : pattern.reverse <+: after.reverse ++ delim :: before.reverse ↔
      pattern.reverse <+: after.reverse :=
    prefix_append_cons_iff (by simpa using plain)
  rw [← List.reverse_prefix, List.reverse_append, List.reverse_cons, List.append_assoc,
    List.singleton_append, turned, List.reverse_prefix]

end SecureDatabase.Foundation
