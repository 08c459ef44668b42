import AccessControl.Text.Split
import Mathlib.Data.List.Basic

/-!
# Cutting undoes joining

Joining undoes cutting for every text.  The converse needs parts without the separator, which is
what the delimiters of keys, tokens and paths rest on.  This module also locates a pattern that
holds no separator: it lies inside a single piece.
-/

namespace AccessControl.Text

variable {separator : Char}

/-! ## Pieces of characters -/

/-- Cutting a text at one known separator cuts both sides on their own. -/
theorem pieces_append (before after : List Char) :
    pieces separator (before ++ separator :: after) =
      pieces separator before ++ pieces separator after := by
  induction before with
  | nil => simp [pieces]
  | cons c rest ih =>
      by_cases isSeparator : c = separator
      · simp [pieces, isSeparator, ih]
      · obtain ⟨first, more, shape⟩ :=
          List.exists_cons_of_ne_nil (pieces_ne_nil separator rest)
        simp [pieces, isSeparator, ih, shape]

/-- A text without separators is its only piece. -/
theorem pieces_of_not_mem {text : List Char} (absent : separator ∉ text) :
    pieces separator text = [text] := by
  induction text with
  | nil => rfl
  | cons c rest ih =>
      simp only [List.mem_cons, not_or] at absent
      simp [pieces, Ne.symm absent.1, ih absent.2]

/-- Cutting a joined text cuts each part on its own. -/
theorem pieces_joined {parts : List (List Char)} (nonempty : parts ≠ []) :
    pieces separator (joined separator parts) = parts.flatMap (pieces separator) := by
  induction parts with
  | nil => exact absurd rfl nonempty
  | cons part parts ih =>
      cases parts with
      | nil => simp [joined]
      | cons next more => rw [joined, pieces_append, ih (by simp), ← List.flatMap_cons]

/-- Cutting finds the parts that were joined, if none holds a separator. -/
theorem pieces_joined_of_not_mem {parts : List (List Char)} (nonempty : parts ≠ [])
    (absent : ∀ part ∈ parts, separator ∉ part) :
    pieces separator (joined separator parts) = parts := by
  rw [pieces_joined nonempty]
  calc parts.flatMap (pieces separator)
      = parts.flatMap fun part => [part] :=
        List.flatMap_congr fun part member => pieces_of_not_mem (absent part member)
    _ = parts := List.flatMap_singleton' parts

/-- A character of a joined text is the separator or comes from a part. -/
theorem mem_joined {parts : List (List Char)} {c : Char}
    (member : c ∈ joined separator parts) : c = separator ∨ ∃ part ∈ parts, c ∈ part := by
  induction parts with
  | nil => simp [joined] at member
  | cons part parts ih =>
      cases parts with
      | nil => exact .inr ⟨part, by simp, member⟩
      | cons next more =>
          rw [joined, List.mem_append, List.mem_cons] at member
          rcases member with inPart | isSeparator | inRest
          · exact .inr ⟨part, by simp, inPart⟩
          · exact .inl isSeparator
          · rcases ih inRest with isSeparator | ⟨other, isPart, inOther⟩
            · exact .inl isSeparator
            · exact .inr ⟨other, by simp [isPart], inOther⟩

/-- The characters of a part are characters of the joined text. -/
theorem mem_joined_of_mem {parts : List (List Char)} {part : List Char} {c : Char}
    (isPart : part ∈ parts) (member : c ∈ part) : c ∈ joined separator parts := by
  induction parts with
  | nil => simp at isPart
  | cons first parts ih =>
      cases parts with
      | nil => simp_all [joined]
      | cons next more =>
          rw [joined, List.mem_append, List.mem_cons]
          rcases List.mem_cons.mp isPart with rfl | later
          · exact .inl member
          · exact .inr (.inr (ih later))

/-- Two joined texts written one after the other are joined from all parts. -/
theorem joined_append {left right : List (List Char)} (leftNonempty : left ≠ [])
    (rightNonempty : right ≠ []) :
    joined separator (left ++ right) =
      joined separator left ++ separator :: joined separator right := by
  induction left with
  | nil => exact absurd rfl leftNonempty
  | cons part parts ih =>
      cases parts with
      | nil =>
          obtain ⟨next, more, rfl⟩ := List.exists_cons_of_ne_nil rightNonempty
          rfl
      | cons next more =>
          rw [List.cons_append, List.cons_append, joined, ← List.cons_append, ih (by simp),
            joined, List.append_assoc]
          rfl

/-- What stands before a text without separating anything goes to the first piece. -/
theorem pieces_append_left {before text first : List Char} {more : List (List Char)}
    (absent : separator ∉ before) (shape : pieces separator text = first :: more) :
    pieces separator (before ++ text) = (before ++ first) :: more := by
  induction before with
  | nil => exact shape
  | cons c rest ih =>
      simp only [List.mem_cons, not_or] at absent
      simp [pieces, Ne.symm absent.1, ih absent.2]

/-- What stands behind a text without separating anything goes to the last piece. -/
theorem pieces_append_right {text after last : List Char} {init : List (List Char)}
    (absent : separator ∉ after) (shape : pieces separator text = init ++ [last]) :
    pieces separator (text ++ after) = init ++ [last ++ after] := by
  have noPiece : ∀ piece ∈ init ++ [last], separator ∉ piece := fun piece member =>
    not_mem_of_mem_pieces (shape ▸ member)
  have lastAbsent : separator ∉ last ++ after := by
    simp [noPiece last (by simp), absent]
  rw [← joined_pieces separator text, shape]
  by_cases onlyOne : init = []
  · simpa [onlyOne, joined] using pieces_of_not_mem lastAbsent
  · rw [joined_append onlyOne (by simp), joined, List.append_assoc, List.cons_append,
      pieces_append, pieces_of_not_mem lastAbsent, pieces_joined_of_not_mem onlyOne
        fun piece member => noPiece piece (by simp [member])]

/-! ## Pieces of texts -/

theorem split_ne_nil (text : String) : split separator text ≠ [] := by
  simp [split, pieces_ne_nil]

@[simp] theorem toList_join (parts : List String) :
    (join separator parts).toList = joined separator (parts.map String.toList) := by
  simp [join]

/-- A joined text holds no character that neither separates nor occurs in a part. -/
theorem not_mem_join {parts : List String} {c : Char} (notSeparator : c ≠ separator)
    (absent : ∀ part ∈ parts, c ∉ part.toList) : c ∉ (join separator parts).toList := by
  intro member
  rw [toList_join] at member
  rcases mem_joined member with isSeparator | ⟨chars, isPart, inPart⟩
  · exact notSeparator isSeparator
  · obtain ⟨part, isText, rfl⟩ := List.mem_map.mp isPart
    exact absent part isText inPart

/-- Joining the pieces of a text gives the text back. -/
theorem join_split (separator : Char) (text : String) :
    join separator (split separator text) = text := by
  simp [join, split, List.map_map, Function.comp_def, joined_pieces]

/-- A text that is left in one piece is that piece. -/
theorem eq_of_split_eq_singleton {text piece : String} (cut : split separator text = [piece]) :
    piece = text := by
  rw [← join_split separator text, cut]
  simp [join, joined]

theorem split_of_not_mem {text : String} (absent : separator ∉ text.toList) :
    split separator text = [text] := by
  simp [split, pieces_of_not_mem absent]

/-- Cutting a joined text cuts each part on its own. -/
theorem split_join {parts : List String} (nonempty : parts ≠ []) :
    split separator (join separator parts) = parts.flatMap (split separator) := by
  have cut : pieces separator (joined separator (parts.map String.toList)) =
      (parts.map String.toList).flatMap (pieces separator) :=
    pieces_joined (by simpa using nonempty)
  rw [split, toList_join, cut, List.flatMap_map, List.map_flatMap]
  rfl

/-- Cutting finds the texts that were joined, if none holds a separator. -/
theorem split_join_of_not_mem {parts : List String} (nonempty : parts ≠ [])
    (absent : ∀ part ∈ parts, separator ∉ part.toList) :
    split separator (join separator parts) = parts := by
  have cut : pieces separator (joined separator (parts.map String.toList)) =
      parts.map String.toList :=
    pieces_joined_of_not_mem (by simpa using nonempty) (by simpa using absent)
  simp [split, cut, List.map_map, Function.comp_def]

/-- Cutting a text at one known separator cuts both sides on their own. -/
theorem split_append (before after : String) :
    split separator (before ++ String.singleton separator ++ after) =
      split separator before ++ split separator after := by
  simp [split, pieces_append]

/-- What stands around a text without separating anything goes to its first and last piece. -/
theorem split_surrounded {before text after first last : String} {middle : List String}
    (absentBefore : separator ∉ before.toList) (absentAfter : separator ∉ after.toList)
    (shape : split separator text = first :: (middle ++ [last])) :
    split separator (before ++ (text ++ after)) =
      (before ++ first) :: (middle ++ [last ++ after]) := by
  have toChars : pieces separator text.toList =
      (first.toList :: middle.map String.toList) ++ [last.toList] := by
    have cut := congrArg (List.map String.toList) shape
    simpa [split, List.map_map, Function.comp_def] using cut
  have behind := pieces_append_right absentAfter toChars
  have around := pieces_append_left absentBefore behind
  simp [split, around, List.map_map, Function.comp_def]

theorem not_mem_of_mem_split {text piece : String} (member : piece ∈ split separator text) :
    separator ∉ piece.toList := by
  obtain ⟨chars, isPiece, rfl⟩ := List.mem_map.mp member
  simpa using not_mem_of_mem_pieces isPiece

/-- Two joined texts with the separator between them are joined from all parts. -/
theorem join_append {left right : List String} (leftNonempty : left ≠ [])
    (rightNonempty : right ≠ []) :
    join separator (left ++ right) =
      join separator left ++ String.singleton separator ++ join separator right := by
  apply String.toList_inj.mp
  simp [joined_append, leftNonempty, rightNonempty]

/-! ## Endings -/

theorem stripEnding?_eq_some_iff {ending text stem : String} :
    stripEnding? ending text = some stem ↔ text = stem ++ ending := by
  simp only [stripEnding?, Option.map_eq_some_iff, afterChars?_eq_some_iff]
  constructor
  · rintro ⟨rest, reversed, rfl⟩
    apply String.toList_inj.mp
    rw [← List.reverse_inj]
    simpa using reversed
  · rintro rfl
    exact ⟨stem.toList.reverse, by simp, by simp⟩

/-! ## Patterns inside pieces -/

theorem occursIn_iff {pattern text : List Char} :
    occursIn pattern text = true ↔ pattern <:+: text := by
  induction text with
  | nil => simp [occursIn]
  | cons c rest ih => simp [occursIn, ih, List.infix_cons_iff]

theorem contains_iff {text pattern : String} :
    contains text pattern = true ↔ pattern.toList <:+: text.toList :=
  occursIn_iff

/-- A pattern without separators at the start of a text ends before the first separator. -/
theorem prefix_of_not_mem {pattern after : List Char} (before : List Char)
    (absent : separator ∉ pattern) (found : pattern <+: before ++ separator :: after) : pattern <+: before := by
  rcases List.prefix_or_prefix_of_prefix found (List.prefix_append before _) with
    inside | ⟨rest, rfl⟩
  · exact inside
  · cases rest with
    | nil => simp
    | cons c rest =>
        have tail := (List.prefix_append_right_inj before).mp found
        have meets : c = separator := (List.cons_prefix_cons.mp tail).1
        exact absurd (by simp [meets]) absent

/-- A pattern without separators does not reach across one. -/
theorem infix_append_separator {pattern before after : List Char} (absent : separator ∉ pattern) :
    pattern <:+: before ++ separator :: after ↔ pattern <:+: before ∨ pattern <:+: after := by
  constructor
  · intro found
    induction before with
    | nil =>
        rcases List.infix_cons_iff.mp found with atStart | later
        · have empty : pattern = [] := by
            simpa using prefix_of_not_mem [] absent atStart
          exact .inl (by simp [empty])
        · exact .inr later
    | cons c rest ih =>
        rcases List.infix_cons_iff.mp found with atStart | later
        · exact .inl (prefix_of_not_mem (c :: rest) absent atStart).isInfix
        · exact (ih later).imp List.infix_cons id
  · rintro (inBefore | inAfter)
    · exact List.infix_append_of_infix_left inBefore
    · exact List.infix_append_of_infix_right (List.infix_cons inAfter)

/-- A pattern without separators occurs in a joined text exactly if it occurs in a part. -/
theorem infix_joined {pattern : List Char} (nonempty : pattern ≠ [])
    (absent : separator ∉ pattern) (parts : List (List Char)) :
    pattern <:+: joined separator parts ↔ ∃ part ∈ parts, pattern <:+: part := by
  induction parts with
  | nil => simp [joined, nonempty]
  | cons part parts ih =>
      cases parts with
      | nil => simp [joined]
      | cons next more =>
          rw [joined, infix_append_separator absent, ih]
          simp

/-- What stands before the first occurrence of a pattern without separators, if it follows a
separator and does not occur earlier. -/
theorem beforeChars_append_separator {pattern before : List Char} (nonempty : pattern ≠ [])
    (absent : separator ∉ pattern) (fresh : ¬ pattern <:+: before) (after : List Char) :
    beforeChars pattern (before ++ separator :: (pattern ++ after)) = before ++ [separator] := by
  induction before with
  | nil =>
      obtain ⟨c, rest, rfl⟩ := List.exists_cons_of_ne_nil nonempty
      have differs : c ≠ separator := fun same => absent (by simp [same])
      simp [beforeChars, List.isPrefixOf, differs]
  | cons c rest ih =>
      have notHere : ¬ pattern <+: c :: (rest ++ separator :: (pattern ++ after)) := fun found =>
        fresh (prefix_of_not_mem (c :: rest) absent found).isInfix
      have notLater : ¬ pattern <:+: rest := fun found => fresh (List.infix_cons found)
      simp [beforeChars, notHere, ih notLater]

/-! ## Replacement -/

/-- A pattern that does not occur is not replaced. -/
theorem replace_of_not_infix {pattern text : String} (replacement : String)
    (absent : ¬ pattern.toList <:+: text.toList) : replace pattern replacement text = text := by
  have kept (chars : List Char) (absent : ¬ pattern.toList <:+: chars) :
      replaceChars pattern.toList replacement.toList 0 chars = chars := by
    induction chars with
    | nil => rfl
    | cons first rest ih =>
        have notHere : ¬ pattern.toList <+: first :: rest := fun found => absent found.isInfix
        have notLater : ¬ pattern.toList <:+: rest := fun found => absent (List.infix_cons found)
        rw [replaceChars, if_neg (by simpa using notHere), ih notLater]
  rw [replace, kept text.toList absent, String.ofList_toList]

/-- Replacing a pattern brings in nothing but the replacement. -/
theorem mem_replaceChars {pattern replacement text : List Char} {skip : Nat} {c : Char}
    (member : c ∈ replaceChars pattern replacement skip text) : c ∈ replacement ∨ c ∈ text := by
  induction text generalizing skip with
  | nil => simp [replaceChars] at member
  | cons first rest ih =>
      cases skip with
      | succ skip => exact (ih member).imp_right (List.mem_cons_of_mem first)
      | zero =>
          rw [replaceChars] at member
          split at member
          · rcases List.mem_append.mp member with inReplacement | later
            · exact .inl inReplacement
            · exact (ih later).imp_right (List.mem_cons_of_mem first)
          · rcases List.mem_cons.mp member with rfl | later
            · exact .inr (List.mem_cons_self ..)
            · exact (ih later).imp_right (List.mem_cons_of_mem first)

end AccessControl.Text
