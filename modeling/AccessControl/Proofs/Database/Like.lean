import AccessControl.Database.Pattern
import AccessControl.Proofs.Text.Split

/-!
# What patterns match

A pattern is matched by a whole text: a backslash makes the next character literal, `%` stands for
any text and `_` for any character.  An escaped text matches nothing but itself, and a pattern that
goes on behind an escaped text matches what starts with this text and goes on in the same way.  So
the pattern of a filter compares parts: a filter that ends in a star matches the texts that go on
behind its other parts, and every other filter matches itself.
-/

namespace AccessControl.Database

/-- Whether a pattern matches the whole of a text.  A backslash that ends a pattern matches nothing. -/
inductive Like : (pattern text : List Char) → Prop where
  | nil : Like [] []
  | escaped {c : Char} {pattern text : List Char} :
      Like pattern text → Like ('\\' :: c :: pattern) (c :: text)
  | anyChar {c : Char} {pattern text : List Char} :
      Like pattern text → Like ('_' :: pattern) (c :: text)
  | anyText {passed pattern text : List Char} :
      Like pattern text → Like ('%' :: pattern) (passed ++ text)
  | literal {c : Char} {pattern text : List Char} :
      isSpecial c = false → Like pattern text → Like (c :: pattern) (c :: text)

/-- Whether a written pattern matches a text. -/
def Matches (pattern text : String) : Prop := Like pattern.toList text.toList

namespace Like

variable {c : Char} {pattern text : List Char}

theorem nil_iff : Like [] text ↔ text = [] := by
  constructor
  · intro like
    cases like
    rfl
  · intro empty
    subst empty
    exact .nil

theorem escaped_iff :
    Like ('\\' :: c :: pattern) text ↔ ∃ rest, text = c :: rest ∧ Like pattern rest := by
  constructor
  · intro like
    cases like with
    | escaped like => exact ⟨_, rfl, like⟩
    | literal ordinary _ => exact absurd ordinary (by decide)
  · rintro ⟨rest, rfl, like⟩
    exact .escaped like

theorem literal_iff (ordinary : isSpecial c = false) :
    Like (c :: pattern) text ↔ ∃ rest, text = c :: rest ∧ Like pattern rest := by
  constructor
  · intro like
    cases like with
    | escaped => exact absurd ordinary (by decide)
    | anyChar => exact absurd ordinary (by decide)
    | anyText => exact absurd ordinary (by decide)
    | literal _ like => exact ⟨_, rfl, like⟩
  · rintro ⟨rest, rfl, like⟩
    exact .literal ordinary like

/-- A percent sign at the end matches whatever is left. -/
theorem percent (text : List Char) : Like ['%'] text := by
  have like : Like ['%'] (text ++ []) := .anyText .nil
  rwa [List.append_nil] at like

/-- A pattern that starts with an escaped text matches what starts with the text. -/
theorem escapeChars_append_iff (literal : List Char) :
    Like (escapeChars literal ++ pattern) text ↔
      ∃ rest, text = literal ++ rest ∧ Like pattern rest := by
  induction literal generalizing text with
  | nil => simp [escapeChars]
  | cons c literal ih =>
      have first : Like (escapeChars (c :: literal) ++ pattern) text ↔
          ∃ rest, text = c :: rest ∧ Like (escapeChars literal ++ pattern) rest := by
        cases special : isSpecial c with
        | true => simpa only [escapeChars, special, if_true, List.cons_append] using escaped_iff
        | false =>
            simpa [escapeChars, special] using literal_iff special
      rw [first]
      constructor
      · rintro ⟨rest, rfl, like⟩
        obtain ⟨last, rfl, matched⟩ := ih.mp like
        exact ⟨last, rfl, matched⟩
      · rintro ⟨rest, rfl, matched⟩
        exact ⟨literal ++ rest, rfl, ih.mpr ⟨rest, rfl, matched⟩⟩

end Like

/-! ## Escaped texts -/

/-- An escaped text matches itself only. -/
theorem matches_escape_iff {literal text : String} :
    Matches (escape literal) text ↔ text = literal := by
  have like : Like (escapeChars literal.toList ++ []) text.toList ↔
      ∃ rest, text.toList = literal.toList ++ rest ∧ Like [] rest :=
    Like.escapeChars_append_iff literal.toList
  simp only [List.append_nil, Like.nil_iff, exists_eq_right] at like
  rw [Matches, escape, String.toList_ofList, like, String.toList_inj]

theorem toList_escape (literal : String) :
    (escape literal).toList = escapeChars literal.toList := by
  rw [escape, String.toList_ofList]

theorem toList_escape_append (literal : String) :
    (escape literal ++ ":%").toList = escapeChars literal.toList ++ [':', '%'] := by
  rw [String.toList_append, toList_escape]
  rfl

/-- An escaped text with an open end behind a colon matches what the text and a colon start. -/
theorem matches_escape_append_iff {literal text : String} :
    Matches (escape literal ++ ":%") text ↔ ∃ rest, text = literal ++ ":" ++ rest := by
  rw [Matches, toList_escape_append, Like.escapeChars_append_iff]
  constructor
  · rintro ⟨rest, start, like⟩
    obtain ⟨last, rfl, -⟩ := (Like.literal_iff (by decide)).mp like
    refine ⟨String.ofList last, String.toList_inj.mp ?_⟩
    simpa using start
  · rintro ⟨rest, rfl⟩
    refine ⟨':' :: rest.toList, by simp, ?_⟩
    exact .literal (by decide) (.percent rest.toList)

/-! ## Patterns of filters -/

variable {front parts : List String} {last text : String}

/-- The pattern of a filter whose last part is a star matches what goes on behind its other parts. -/
theorem matches_pattern_star_iff (frontNonempty : front ≠ []) (partsNonempty : parts ≠ [])
    (frontPlain : ∀ part ∈ front, ':' ∉ part.toList)
    (partsPlain : ∀ part ∈ parts, ':' ∉ part.toList) :
    Matches (pattern (Text.join ':' (front ++ ["*"]))) (Text.join ':' parts) ↔
      ∃ more, more ≠ [] ∧ parts = front ++ more := by
  have ends : Text.stripEnding? ":*" (Text.join ':' (front ++ ["*"])) =
      some (Text.join ':' front) := by
    rw [Text.stripEnding?_eq_some_iff, Text.join_append frontNonempty (by simp), String.append_assoc]
    rfl
  rw [pattern, ends, matches_escape_append_iff]
  constructor
  · rintro ⟨rest, goesOn⟩
    have pieces := congrArg (Text.split ':') goesOn
    rw [show Text.join ':' front ++ ":" ++ rest =
        Text.join ':' front ++ String.singleton ':' ++ rest from rfl,
      Text.split_append, Text.split_join_of_not_mem frontNonempty frontPlain,
      Text.split_join_of_not_mem partsNonempty partsPlain] at pieces
    exact ⟨Text.split ':' rest, Text.split_ne_nil rest, pieces⟩
  · rintro ⟨more, moreNonempty, rfl⟩
    exact ⟨Text.join ':' more, Text.join_append frontNonempty moreNonempty⟩

/-- The pattern of a filter whose last part is no star matches the filter only. -/
theorem matches_pattern_iff (lastPlain : ':' ∉ last.toList) (notStar : last ≠ "*") :
    Matches (pattern (Text.join ':' (front ++ [last]))) text ↔
      text = Text.join ':' (front ++ [last]) := by
  have literal : Text.stripEnding? ":*" (Text.join ':' (front ++ [last])) = none := by
    apply Option.eq_none_iff_forall_ne_some.mpr
    intro stem stripped
    have ends := congrArg (Text.split ':') (Text.stripEnding?_eq_some_iff.mp stripped)
    rw [show stem ++ ":*" = stem ++ String.singleton ':' ++ "*" from by
        rw [String.append_assoc]; rfl,
      Text.split_append, Text.split_join (by simp), List.flatMap_append] at ends
    have lastPieces : [last].flatMap (Text.split ':') = [last] := by
      simp [Text.split_of_not_mem lastPlain]
    rw [lastPieces] at ends
    exact notStar (List.singleton_inj.mp (List.append_inj' ends rfl).2)
  rw [pattern, literal, matches_escape_iff]

end AccessControl.Database
