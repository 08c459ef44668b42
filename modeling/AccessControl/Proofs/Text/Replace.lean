import AccessControl.Proofs.Text.Split

/-!
# Replacing inside pieces

A pattern without separators lies inside a single piece of a text.  So if the replacement holds no
separator either, replacing in a text replaces in its pieces one by one.
-/

namespace AccessControl.Text

variable {separator : Char} {pattern replacement : List Char}

/-- What is replaced before a separator and what is replaced behind it do not meet.  The characters
of a match that are still to be passed over stand before the separator. -/
theorem replaceChars_append_separator (nonempty : pattern ≠ []) (absent : separator ∉ pattern)
    {skip : Nat} {before : List Char} (after : List Char) (passedBefore : skip ≤ before.length) :
    replaceChars pattern replacement skip (before ++ separator :: after) =
      replaceChars pattern replacement skip before ++
        separator :: replaceChars pattern replacement 0 after := by
  induction before generalizing skip with
  | nil =>
      obtain rfl : skip = 0 := Nat.le_zero.mp passedBefore
      have notHere : ¬ pattern <+: separator :: after := by
        intro found
        exact nonempty (List.prefix_nil.mp (prefix_of_not_mem [] absent found))
      simp [replaceChars, notHere]
  | cons c rest ih =>
      cases skip with
      | succ skip => exact ih (Nat.le_of_succ_le_succ passedBefore)
      | zero =>
          by_cases found : pattern <+: c :: rest
          · have longer : pattern <+: c :: (rest ++ separator :: after) :=
              found.trans (List.prefix_append (c :: rest) _)
            have passed : pattern.length - 1 ≤ rest.length := by
              have := found.length_le
              simp only [List.length_cons] at this
              omega
            simp [replaceChars, found, longer, ih passed]
          · have notLonger : ¬ pattern <+: c :: (rest ++ separator :: after) := fun longer =>
              found (prefix_of_not_mem (c :: rest) absent longer)
            simp [replaceChars, found, notLonger, ih (Nat.zero_le _)]

theorem replaceChars_joined (nonempty : pattern ≠ []) (absent : separator ∉ pattern)
    (parts : List (List Char)) :
    replaceChars pattern replacement 0 (joined separator parts) =
      joined separator (parts.map (replaceChars pattern replacement 0)) := by
  induction parts with
  | nil => rfl
  | cons part parts ih =>
      cases parts with
      | nil => rfl
      | cons next more =>
          rw [joined, replaceChars_append_separator nonempty absent _ (Nat.zero_le _), ih]
          rfl

/-- A text is replaced in piece by piece. -/
theorem pieces_replaceChars (nonempty : pattern ≠ []) (absent : separator ∉ pattern)
    (absentReplacement : separator ∉ replacement) (text : List Char) :
    pieces separator (replaceChars pattern replacement 0 text) =
      (pieces separator text).map (replaceChars pattern replacement 0) := by
  have cut : replaceChars pattern replacement 0 text =
      joined separator ((pieces separator text).map (replaceChars pattern replacement 0)) := by
    rw [← replaceChars_joined nonempty absent, joined_pieces]
  rw [cut, pieces_joined_of_not_mem (by simp [pieces_ne_nil])]
  intro part isPart inPart
  obtain ⟨piece, isPiece, rfl⟩ := List.mem_map.mp isPart
  exact (mem_replaceChars inPart).elim absentReplacement (not_mem_of_mem_pieces isPiece)

/-- A text is replaced in piece by piece. -/
theorem split_replace {pattern replacement : String} (nonempty : pattern ≠ "")
    (absent : separator ∉ pattern.toList) (absentReplacement : separator ∉ replacement.toList)
    (text : String) :
    split separator (replace pattern replacement text) =
      (split separator text).map (replace pattern replacement) := by
  have cut := pieces_replaceChars (by simpa using nonempty) absent absentReplacement text.toList
  simp [split, replace, cut, List.map_map, Function.comp_def]

/-- Where a pattern occurs its replacement does afterwards. -/
theorem infix_replaceChars (nonempty : pattern ≠ []) {text : List Char} (occurs : pattern <:+: text) :
    replacement <:+: replaceChars pattern replacement 0 text := by
  induction text with
  | nil => exact absurd (List.infix_nil.mp occurs) nonempty
  | cons c rest ih =>
      by_cases found : pattern <+: c :: rest
      · simp only [replaceChars, List.isPrefixOf_iff_prefix, found, if_true]
        exact List.infix_append_of_infix_left List.infix_rfl
      · simp only [replaceChars, List.isPrefixOf_iff_prefix, found, if_false]
        exact List.infix_cons (ih ((List.infix_cons_iff.mp occurs).resolve_left found))

/-- Only the empty text becomes empty. -/
theorem replace_eq_empty_iff {pattern replacement text : String} (nonempty : replacement ≠ "") :
    replace pattern replacement text = "" ↔ text = "" := by
  simp only [← String.toList_eq_nil_iff, replace, String.toList_ofList]
  cases text.toList with
  | nil => rfl
  | cons c rest =>
      rw [replaceChars]
      split <;> simp [nonempty]

end AccessControl.Text
