import AccessControl.Proofs.PolicyToken.Matching

/-!
# Written tokens cut at bars

A subpath that holds bars makes a filter of several alternatives out of one token.  The first of
them starts with the space of the token, the last one ends with its type, state and owner, and those
between are made of nothing but the subpath.
-/

namespace AccessControl

namespace PolicyToken

variable {token read : PolicyToken}

/-- The parts that the written form ends with, after the subpath. -/
def endingParts (token : PolicyToken) : List String :=
  token.key.type.name :: token.active.text :: token.owner.segment?.toList

/-- What the written form ends with, after the subpath. -/
def ending (token : PolicyToken) : String := Text.join ':' token.endingParts

theorem text_eq_append (token : PolicyToken) :
    token.text = (token.key.space ++ ":") ++ (token.key.subpath ++ (":" ++ token.ending)) := by
  apply String.toList_inj.mp
  simp [text, ending, endingParts, Text.joined]

/-- All that a written token ends with is plain. -/
theorem isPlain_of_mem_endingParts (plainOwner : token.owner.IsPlain) {part : String}
    (isPart : part ∈ token.endingParts) : Text.IsPlain part := by
  rcases List.mem_cons.mp isPart with rfl | isPart
  · exact token.key.type.isPlain_name
  · rcases List.mem_cons.mp isPart with rfl | isOwner
    · exact token.active.isPlain_text
    · exact plainOwner.segment part (Option.mem_toList.mp isOwner)

theorem split_ending (plainOwner : token.owner.IsPlain) :
    Text.split ':' token.ending = token.endingParts := by
  apply Text.split_join_of_not_mem (List.cons_ne_nil _ _)
  intro part isPart
  exact (isPlain_of_mem_endingParts plainOwner isPart).1

theorem not_mem_bar_ending (plainOwner : token.owner.IsPlain) : '|' ∉ token.ending.toList := by
  apply Text.not_mem_join (by decide)
  intro part isSegment
  exact (isPlain_of_mem_endingParts plainOwner isSegment).2

/-- A text that starts with a plain space is read as if it started with none. -/
theorem parse_opening_iff {space first : String} (plainSpace : Text.IsPlain space) :
    parse ((space ++ ":") ++ first) = .ok read ↔
      read.key.space = space ∧
        parse (":" ++ first) = .ok ⟨{ read.key with space := "" }, read.active, read.owner⟩ := by
  have cut (start : String) (absent : ':' ∉ start.toList) :
      Text.split ':' ((start ++ ":") ++ first) = start :: Text.split ':' first := by
    rw [show (start ++ ":") ++ first = start ++ String.singleton ':' ++ first from rfl,
      Text.split_append, Text.split_of_not_mem absent, List.singleton_append]
  have bare : Text.split ':' (":" ++ first) = "" :: Text.split ':' first := by
    simpa using cut "" (by simp)
  rw [parse_eq_ok_iff, parse_eq_ok_iff, cut space plainSpace.1, bare]
  simp only [segments, List.cons_append, List.cons.injEq, true_and]
  constructor
  · rintro ⟨⟨rfl, rest⟩, notStar⟩
    exact ⟨rfl, rest, notStar⟩
  · rintro ⟨rfl, rest, notStar⟩
    exact ⟨⟨rfl, rest⟩, notStar⟩

/-- A text that ends like a written token is read as a token exactly if one colon is left before the
ending, and then as one with the type, state and owner of that token. -/
theorem parse_closing_iff (token : PolicyToken) {last : String} (plainOwner : token.owner.IsPlain) :
    parse (last ++ (":" ++ token.ending)) = .ok read ↔
      ∃ space subpath, Text.split ':' last = [space, subpath] ∧
        read = ⟨⟨space, subpath, token.key.type⟩, token.active, token.owner⟩ := by
  have cut : Text.split ':' (last ++ (":" ++ token.ending)) = Text.split ':' last ++
      token.key.type.name :: token.active.text :: token.owner.segment?.toList := by
    rw [show last ++ (":" ++ token.ending) = last ++ String.singleton ':' ++ token.ending from by
      apply String.toList_inj.mp; simp, Text.split_append, split_ending plainOwner, endingParts]
  rw [parse_eq_ok_iff, cut]
  constructor
  · rintro ⟨shape, notStar⟩
    match pieces : Text.split ':' last with
    | [] => exact absurd pieces (Text.split_ne_nil _)
    | [_] =>
        simp only [pieces, segments, List.cons_append, List.nil_append, List.cons.injEq] at shape
        exact absurd shape.2.2.1 (ActiveState.text_ne_name _ _)
    | [space, subpath] =>
        rw [pieces] at shape
        let made : PolicyToken := ⟨⟨space, subpath, token.key.type⟩, token.active, token.owner⟩
        exact ⟨space, subpath, rfl,
          (segments_injective (show made.owner ≠ _ from plainOwner.ne_star) notStar shape).symm⟩
    | [_, _, _] =>
        simp only [pieces, segments, List.cons_append, List.nil_append, List.cons.injEq] at shape
        exact absurd shape.2.2.2.1.symm (ActiveState.text_ne_name _ _)
    | _ :: _ :: _ :: _ :: rest =>
        rw [pieces] at shape
        have tooMany := congrArg List.length shape
        cases owner : read.owner <;>
          simp [segments, owner, OwnerScope.segment?] at tooMany <;> omega
  · rintro ⟨space, subpath, pieces, rfl⟩
    rw [pieces]
    exact ⟨rfl, plainOwner.ne_star⟩

end PolicyToken

end AccessControl
