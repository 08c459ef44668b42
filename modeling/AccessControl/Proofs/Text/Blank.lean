import AccessControl.Proofs.Text.Split
import AccessControl.Text.Blank
import Mathlib.Data.List.DropRight

/-!
# Trimming joined texts

The blanks at the ends of a joined text are those at the start of its first part and at the end of
its last one, as long as the separator is no blank.
-/

namespace AccessControl.Text

variable {separator : Char} {before after : List Char}

/-- The text without the blanks at its start. -/
def trimStart (text : String) : String :=
  String.ofList (trimStartChars text.toList)

/-- Blanks at the start do not reach beyond a character that is none. -/
theorem trimStartChars_append_cons (notBlank : isBlank separator = false) :
    trimStartChars (before ++ separator :: after) = trimStartChars before ++ separator :: after := by
  induction before with
  | nil => simp [trimStartChars, notBlank]
  | cons c before ih =>
      cases blank : isBlank c with
      | true => simpa [trimStartChars, blank] using ih
      | false => simp [trimStartChars, blank]

/-- Blanks at the end do not reach beyond a character that is none. -/
theorem trimEndChars_append_cons (notBlank : isBlank separator = false) :
    trimEndChars (before ++ separator :: after) = before ++ separator :: trimEndChars after := by
  have reversed : trimStartChars (after.reverse ++ separator :: before.reverse) =
      trimStartChars after.reverse ++ separator :: before.reverse :=
    trimStartChars_append_cons notBlank
  simp only [trimStartChars] at reversed
  simp [trimEndChars, reversed]

/-- Trimming a joined text trims its first part at the start and its last part at the end. -/
theorem trim_join (notBlank : isBlank separator = false) (first last : String)
    (middle : List String) :
    trim (join separator (first :: (middle ++ [last]))) =
      join separator (trimStart first :: (middle ++ [trimEnd last])) := by
  apply String.toList_inj.mp
  cases middle with
  | nil =>
      simp [trim, joined, trimStart, trimEnd, trimStartChars_append_cons notBlank,
        trimEndChars_append_cons notBlank]
  | cons next middle =>
      have behind (text : List Char) :
          joined separator (next.toList :: (middle.map String.toList ++ [text])) =
            joined separator (next.toList :: middle.map String.toList) ++ separator :: text := by
        rw [← List.cons_append, joined_append (by simp) (by simp)]
        rfl
      have regrouped (text : List Char) :
          trimStartChars first.toList ++ separator ::
            (joined separator (next.toList :: middle.map String.toList) ++ separator :: text) =
          (trimStartChars first.toList ++ separator ::
            joined separator (next.toList :: middle.map String.toList)) ++ separator :: text := by
        simp
      simp only [trim, toList_join, List.map_cons, List.map_append, List.map_nil, List.cons_append,
        joined, behind, String.toList_ofList, trimStart, trimEnd]
      rw [trimStartChars_append_cons notBlank, regrouped, trimEndChars_append_cons notBlank,
        ← regrouped]

/-- What is left when the end of a text is trimmed was there before. -/
theorem mem_of_mem_trimEnd {text : String} {c : Char} (member : c ∈ (trimEnd text).toList) :
    c ∈ text.toList := by
  rw [trimEnd, String.toList_ofList, trimEndChars, List.mem_reverse] at member
  exact List.mem_reverse.mp ((List.dropWhile_suffix _).subset member)

/-- What is left when the start of a text is trimmed was there before. -/
theorem mem_of_mem_trimStart {text : String} {c : Char} (member : c ∈ (trimStart text).toList) :
    c ∈ text.toList := by
  rw [trimStart, String.toList_ofList] at member
  exact (List.dropWhile_suffix _).subset member

/-- Trimming the end of a text once is enough. -/
theorem trimEnd_trimEnd (text : String) : trimEnd (trimEnd text) = trimEnd text := by
  simp [trimEnd, trimEndChars, List.dropWhile_idempotent]

end AccessControl.Text
