import AccessControl.Proofs.Database.Like
import Mathlib.Data.List.Infix

/-!
# Matching by trying

A pattern and a text are compared from the front, character by character.  Only a percent sign leaves a
choice, and there what follows it is tried on every rest of the text, so it can be found out whether a
pattern matches.  A pattern that ends in a lone backslash has no meaning and is refused.  Escaping makes
no such pattern, and takes the meaning from every character of a text.
-/

namespace AccessControl.Database

variable {c : Char} {pattern text : List Char}

namespace Like

theorem anyChar_iff :
    Like ('_' :: pattern) text ↔ ∃ c rest, text = c :: rest ∧ Like pattern rest := by
  constructor
  · intro like
    cases like with
    | anyChar like => exact ⟨_, _, rfl, like⟩
    | literal ordinary _ => exact absurd ordinary (by decide)
  · intro takesOne
    obtain ⟨c, rest, rfl, like⟩ := takesOne
    exact .anyChar like

theorem anyText_iff : Like ('%' :: pattern) text ↔ ∃ rest, rest <:+ text ∧ Like pattern rest := by
  constructor
  · intro like
    cases like with
    | @anyText passed _ rest like => exact ⟨rest, ⟨passed, rfl⟩, like⟩
    | literal ordinary _ => exact absurd ordinary (by decide)
  · intro goesOn
    obtain ⟨rest, ⟨passed, rfl⟩, like⟩ := goesOn
    exact .anyText like

/-- Nothing matches a backslash that has nothing behind it. -/
theorem not_backslash : ¬ Like ['\\'] text := by
  intro like
  cases like with
  | literal ordinary _ => exact absurd ordinary (by decide)

/-- Only a percent sign can match no character. -/
theorem text_ne_nil (like : Like (c :: pattern) text) (notPercent : c ≠ '%') : text ≠ [] := by
  cases like with
  | anyText _ => exact absurd rfl notPercent
  | _ => exact List.cons_ne_nil _ _

end Like

/-! ## Trying -/

/-- Whether a pattern matches the whole of a text, found out by trying every rest of the text where the
pattern has a percent sign. -/
def isLike : (pattern text : List Char) → Bool
  | [], text => text.isEmpty
  | '%' :: pattern, text => text.tails.any fun rest => isLike pattern rest
  | '\\' :: c :: pattern, d :: text => d = c && isLike pattern text
  | '_' :: pattern, _ :: text => isLike pattern text
  | c :: pattern, d :: text => !isSpecial c && d = c && isLike pattern text
  | _ :: _, [] => false

/-- Trying finds out whether a pattern matches. -/
theorem isLike_iff : isLike pattern text = true ↔ Like pattern text := by
  fun_induction isLike pattern text with
  | case1 text => rw [List.isEmpty_iff, Like.nil_iff]
  | case2 pattern text ih => simp only [List.any_eq_true, List.mem_tails, Like.anyText_iff, ih]
  | case3 c pattern d text ih => simp [Like.escaped_iff, ih]
  | case4 pattern d text ih => simp [Like.anyChar_iff, ih]
  | case5 c pattern d text notPercent notEscaped notUnderscore ih =>
      cases special : isSpecial c with
      | false => simp [Like.literal_iff special, ih]
      | true =>
          -- What is left of the special characters is a backslash at the end.
          obtain rfl : c = '\\' := by
            simp only [isSpecial, Bool.or_eq_true, decide_eq_true_eq] at special
            rcases special with (isBackslash | isPercent) | isUnderscore
            · exact isBackslash
            · exact (notPercent isPercent).elim
            · exact (notUnderscore isUnderscore).elim
          cases pattern with
          | nil => simp [Like.not_backslash]
          | cons next rest => exact (notEscaped next rest rfl rfl).elim
  | case6 c pattern notPercent =>
      refine iff_of_false Bool.false_ne_true fun like => ?_
      exact like.text_ne_nil notPercent rfl

instance (pattern text : String) : Decidable (Matches pattern text) :=
  decidable_of_iff (isLike pattern.toList text.toList = true) isLike_iff

/-! ## Literal patterns -/

/-- Whether every backslash of a pattern has the character behind it that it makes literal. -/
def isComplete : (pattern : List Char) → Bool
  | [] => true
  | ['\\'] => false
  | '\\' :: _ :: pattern => isComplete pattern
  | _ :: pattern => isComplete pattern

theorem isComplete_cons_of_not_isSpecial (ordinary : isSpecial c = false) :
    isComplete (c :: pattern) = isComplete pattern := by
  have notBackslash : c ≠ '\\' := by
    intro isBackslash
    rw [isBackslash] at ordinary
    exact absurd ordinary (by decide)
  rw [isComplete]
  · exact fun isBackslash _ => notBackslash isBackslash
  · exact fun _ _ isBackslash _ => notBackslash isBackslash

/-- Escaping leaves no backslash without its character. -/
theorem isComplete_escapeChars_append (literal : List Char) :
    isComplete (escapeChars literal ++ pattern) = isComplete pattern := by
  induction literal with
  | nil => rfl
  | cons c literal ih =>
      rw [escapeChars]
      split
      · exact ih
      · next ordinary =>
        exact (isComplete_cons_of_not_isSpecial (Bool.not_eq_true _ ▸ ordinary)).trans ih

/-- An escaped text is a pattern that only the text itself matches, and with an open end behind a colon
one that exactly those texts match that start with the text and a colon.  No database refuses either. -/
theorem escape_is_literal (literal text : String) :
    (isComplete (escape literal).toList = true ∧
      (Matches (escape literal) text ↔ text = literal)) ∧
    isComplete (escape literal ++ ":%").toList = true ∧
      (Matches (escape literal ++ ":%") text ↔ ∃ rest, text = literal ++ ":" ++ rest) := by
  refine ⟨⟨?_, matches_escape_iff⟩, ?_, matches_escape_append_iff⟩
  · rw [toList_escape, ← List.append_nil (escapeChars _), isComplete_escapeChars_append]
    rfl
  · rw [toList_escape_append, isComplete_escapeChars_append]
    rfl

example : Matches "al_ice" "alXice" ∧ ¬ Matches (escape "al_ice") "alXice" := by decide

end AccessControl.Database
